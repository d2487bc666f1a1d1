import AccessList.Command.Host

/-! The command that looks queries up in the flattened records of a configuration. -/
namespace AccessList.Command.Lookup

inductive Tag where
  | output
  | effective
  | effectiveOutput
  | settings
  | verbose
  deriving DecidableEq, Repr

def form : Form Tag where
  program := "aclf-lookup"
  options := [⟨["-h", "--help"], .help⟩, ⟨["-o", "--output"], .value .output⟩,
    ⟨["-e", "--effective"], .switch .effective⟩,
    ⟨["--effective-output"], .value .effectiveOutput⟩, ⟨["--options"], .value .settings⟩,
    ⟨["-v", "--verbose"], .switch .verbose⟩, ⟨["-V", "--version"], .version⟩]
  operands := ["config", "queries"]

structure Request where
  config : String := ""
  queries : Option String := none
  output : String := ""
  effectiveOutput : String := ""
  settings : String := ""
  effective : Bool := false
  verbose : Nat := 0
  deriving DecidableEq, Repr

def Request.add (r : Request) (option : Tag × Option String) : Request :=
  let value := option.2.getD ""
  match option.1 with
  | .output => { r with output := value }
  | .effective => { r with effective := true }
  | .effectiveOutput => { r with effectiveOutput := value }
  | .settings => { r with settings := value }
  | .verbose => { r with verbose := r.verbose + 1 }

def Request.ofGiven (g : Given Tag) : Request :=
  let operand (i : Nat) := g.operands[i]?.getD none
  g.options.foldl Request.add { config := (operand 0).getD "", queries := operand 1 }

variable {m : Type → Type} [Monad m] [Host m]

/-- The effective matches go to a file of their own if one is named. -/
def perform (r : Request) : Attempt m Unit := do
  let settings ← loadSettings r.settings
  let config ← readText .input r.config
  let some path := r.queries | throw (.broken .noPath)
  let queries ← readText .input path
  tell (.line s!"Looking up {path} in {r.config} ...")
  let opened : Session := { settings, verbose := r.verbose ≠ 0 }
  let threshold := threshold settings.level r.verbose
  let s ← sayAll threshold (opened.run config)
  match s.lookUp queries with
  | .error cause => throw (.broken (.prefixLength cause))
  | .ok answered =>
    let s ← sayAll threshold answered
    let found := if r.effective || settings.effectiveOnly then s.found.effective else s.found.full
    writeText .results r.output (Report.ofMatches found)
    if !r.effectiveOutput.isEmpty then
      writeText .results r.effectiveOutput (Report.ofMatches s.found.effective)
    tellDiagnostics s.diagnostics
    tell (.elapsed "Lookup")

def command (arguments : List String) : m Exit :=
  run form arguments fun given => perform (.ofGiven given)

end AccessList.Command.Lookup
