import AccessList.Command.Host

/-! The command that flattens a configuration and writes its records or its symbols. -/
namespace AccessList.Command.Flatten

inductive Tag where
  | output
  | settings
  | trace
  | verbose
  | without (stage : Stage)
  | listedOnly
  | networkOnly
  | symbols
  deriving DecidableEq, Repr

/-- The option that switches a stage off. -/
def withoutName (stage : Stage) : String :=
  "--no-" ++ String.map (fun c => if c = '_' then '-' else c) stage.key

def form : Form Tag where
  program := "aclf-flatten"
  options := [⟨["-h", "--help"], .help⟩, ⟨["-o", "--output"], .value .output⟩,
    ⟨["--options"], .value .settings⟩, ⟨["--debug-rule"], .value .trace⟩,
    ⟨["-v", "--verbose"], .switch .verbose⟩, ⟨["-V", "--version"], .version⟩] ++
    Stage.all.map (fun stage => ⟨[withoutName stage], .switch (.without stage)⟩) ++
    [⟨["--normalized-only"], .switch .listedOnly⟩, ⟨["--network-only"], .switch .networkOnly⟩,
      ⟨["--dump-tables"], .switch .symbols⟩]
  operands := ["config"]
  exclusive := [.listedOnly, .networkOnly, .symbols]

inductive Product where
  | flattened
  | network
  | listed
  | symbols
  deriving DecidableEq, Repr

def Product.render (s : Session) : Product → String
  | flattened => Report.ofRecords s.flattened
  | network => Report.ofRecords s.network
  | listed => Report.ofRecords s.listed
  | symbols => Report.ofSymbols s.symbols

structure Request where
  config : String := ""
  output : String := ""
  settings : String := ""
  trace : String := ""
  verbose : Nat := 0
  off : List Stage := []
  product : Product := .flattened
  deriving DecidableEq, Repr

/-- Of an option that is given twice the later value holds, and each call for more counts. -/
def Request.add (r : Request) (option : Tag × Option String) : Request :=
  let value := option.2.getD ""
  match option.1 with
  | .output => { r with output := value }
  | .settings => { r with settings := value }
  | .trace => { r with trace := value }
  | .verbose => { r with verbose := r.verbose + 1 }
  | .without stage => { r with off := r.off ++ [stage] }
  | .listedOnly => { r with product := .listed }
  | .networkOnly => { r with product := .network }
  | .symbols => { r with product := .symbols }

def Request.ofGiven (g : Given Tag) : Request :=
  g.options.foldl Request.add { config := (g.operands.head?.getD none).getD "" }

/-- The records of the network stage need that stage, even where it is switched off. -/
def Request.switches (r : Request) (w : Switches) : Switches :=
  let w := r.off.foldl (fun w stage => w.set stage false) w
  if r.product = .network then w.set .network true else w

variable {m : Type → Type} [Monad m] [Host m]

def perform (r : Request) : Attempt m Unit := do
  let settings ← loadSettings r.settings
  let settings := { settings with switches := r.switches settings.switches }
  let config ← readText .configuration r.config
  tell (.line s!"Flattening {r.config} ...")
  let opened : Session := { settings, verbose := r.verbose ≠ 0, tracedLabel := r.trace }
  let s ← sayAll (threshold settings.level r.verbose) (opened.run config)
  writeText .output r.output (r.product.render s)
  tellDiagnostics s.diagnostics
  tell (.elapsed "Flatten")

def command (arguments : List String) : m Exit :=
  run form arguments fun given => perform (.ofGiven given)

end AccessList.Command.Flatten
