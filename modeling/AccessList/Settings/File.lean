import AccessList.Document.Reader
import AccessList.Files
import AccessList.Settings

/-! Settings from a file. -/
namespace AccessList

inductive LoadError where
  | unreadable (path : String) (fault : Files.Fault)
  | malformed (path : String)
  | defective (cause : Document.Defect)
  | invalid (cause : SettingsError)
  deriving DecidableEq, Repr

namespace LoadError

def malformedDetail : String := Document.Defect.message .malformed

def message : LoadError → String
  | unreadable path fault =>
    s!"Cannot read options file {Files.normal path}: {fault.message path}"
  | malformed path => s!"Invalid YAML in options file {Files.normal path}: {malformedDetail}"
  | defective cause => cause.message
  | invalid cause => cause.message

def ofDefect (path : String) : Document.Defect → LoadError
  | .malformed => malformed path
  | cause => defective cause

end LoadError

/-- Options are two levels below the whole document. -/
def Settings.depth : Nat := 2

def Settings.load (path : String) (content : Except Files.Fault ByteArray) :
    Noted Notice (Except LoadError Settings) :=
  match content with
  | .error fault => pure (.error (.unreadable path fault))
  | .ok bytes =>
    match Document.read Settings.depth bytes.toList with
    | .error cause => pure (.error (.ofDefect path cause))
    | .ok document => do
      let result ← (Settings.ofDocument document).run
      return result.mapError LoadError.invalid

end AccessList
