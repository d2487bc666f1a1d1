import AccessList.Command.Arguments
import AccessList.Report
import AccessList.Session
import AccessList.Settings.File

/-! Commands and where they run. A command is written over a host, which has the files and the output;
how a command goes on is decided here and not by the host. -/
namespace AccessList.Command

/-- What a command says beside its output. The host knows the time. -/
inductive Remark where
  | line (text : String)
  | logged (notice : Notice)
  | elapsed (activity : String)
  deriving DecidableEq, Repr

/-- A remark as text, given the time of day and the time since the start. -/
def Remark.text (now elapsed : String) : Remark → String
  | line text => s!"{text}\n"
  | logged n => s!"{now} - {n.channel} - {n.level.name} - {n.message}\n"
  | .elapsed activity => s!"{activity} time: {elapsed}\n"

class Host (m : Type → Type) where
  read : String → m (Except Files.Fault ByteArray)
  write : String → String → m (Except Files.Fault Unit)
  print : String → m Unit
  tell : Remark → m Unit

/-- What a command has no answer for. -/
inductive Breakdown where
  | prefixLength (cause : Numeral.Unreadable)
  | document (cause : Document.Defect)
  | nullInPath
  | noPath
  deriving DecidableEq, Repr

def Breakdown.message : Breakdown → String
  | prefixLength cause => cause.message
  | document cause => cause.message
  | nullInPath => "embedded null byte"
  | noPath => "no path is given"

/-- Why a command fails. -/
inductive Failure where
  | broken (cause : Breakdown)
  | settings (cause : LoadError)
  | configuration (path : String) (fault : Files.Fault)
  | input (path : String) (fault : Files.Fault)
  | output (path : String) (fault : Files.Fault)
  | results (path : String) (fault : Files.Fault)
  deriving DecidableEq, Repr

def Failure.message : Failure → String
  | broken cause => cause.message
  | settings cause => cause.message
  | configuration path fault => s!"failed to read configuration from {path}: {fault.message path}"
  | input path fault => s!"failed to read input: {fault.message path}"
  | output path fault => s!"failed to write {path}: {fault.message path}"
  | results path fault => s!"failed to write output: {fault.message path}"

/-- How a command ends. One that breaks down has no code of its own. -/
inductive Exit where
  | code (n : Nat)
  | broken (cause : Breakdown)
  deriving DecidableEq, Repr

def release : String := "v0.1.0 by Linuxfabrik GmbH, Zurich/Switzerland"

variable {m : Type → Type} [Monad m] [Host m]

/-- A command fails with the same message wherever it stops. -/
abbrev Attempt (m : Type → Type) (α : Type) : Type := ExceptT Failure m α

def tell (r : Remark) : Attempt m Unit := ExceptT.lift (Host.tell r)

def guarded {α : Type} (failure : Files.Fault → Failure) (path : String)
    (action : String → m (Except Files.Fault α)) : Attempt m α := do
  if !Files.isPath path then throw (.broken .nullInPath)
  match ← ExceptT.lift (action path) with
  | .ok a => return a
  | .error fault => throw (failure fault)

def readText (failure : String → Files.Fault → Failure) (path : String) : Attempt m String :=
  return Files.text (← guarded (failure path) path Host.read)

/-- Without a path a text is printed. -/
def writeText (failure : String → Files.Fault → Failure) (path text : String) : Attempt m Unit :=
  if path.isEmpty then ExceptT.lift (Host.print text)
  else guarded (failure path) path (Host.write · text)

/-- Without a path the defaults hold. Notices about settings come before there is a log. -/
def loadSettings (path : String) : Attempt m Settings := do
  if path.isEmpty then return {}
  else
    let content ← guarded (.settings <| .unreadable path ·) path Host.read
    match (Settings.load path (.ok content)).value with
    | .ok settings => return settings
    | .error (.defective cause) => throw (.broken (.document cause))
    | .error cause => throw (.settings cause)

/-- The rank from which on notices are logged, one level lower for every call for more. -/
def threshold (level : Level) (verbose : Nat) : Nat := max Level.debug.rank (level.rank - 10 * verbose)

def say (threshold : Nat) : Message → Attempt m Unit
  | .line text => tell (.line text)
  | .notice n => if threshold ≤ n.level.rank then tell (.logged n) else return ()

/-- The value of what was noted, once the notes are said. -/
def sayAll {α : Type} (threshold : Nat) (x : Noted Message α) : Attempt m α := do
  x.notes.forM (say threshold)
  return x.value

def tellDiagnostics (ds : Diagnostics) : Attempt m Unit := do
  ds.errors.forM fun e => tell (.line s!"Error: {e}")
  ds.warnings.forM fun w => tell (.line s!"Warning: {w}")

def usage {α : Type} (form : Form α) : String :=
  "usage: " ++ String.intercalate " " (form.program :: "[options]" :: form.operands) ++ "\n"

def run {α : Type} [DecidableEq α] (form : Form α) (arguments : List String)
    (command : Given α → Attempt m Unit) : m Exit := do
  match form.read arguments with
  | .error .help =>
    Host.print (usage form)
    return .code 0
  | .error .version =>
    Host.print s!"{form.program}: {release}\n"
    return .code 0
  | .error (.refused refusal) =>
    Host.tell (.line s!"{form.program}: error: {refusal.message}")
    return .code 2
  | .ok given =>
    match ← (command given).run with
    | .ok () => return .code 0
    | .error (.broken cause) => return .broken cause
    | .error failure =>
      Host.tell (.line s!"Error: {failure.message}")
      return .code 1

end AccessList.Command
