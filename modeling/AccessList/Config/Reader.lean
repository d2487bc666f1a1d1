import AccessList.Config.Groups
import AccessList.Config.Names
import AccessList.Config.Objects
import AccessList.Text.Lines

/-! Reading the symbols of a configuration: its names first, then its objects, which need no names,
and its groups, which use both. -/
namespace AccessList

open Text

def Symbols.summary (s : Symbols) : Notice :=
  .tablesRead s.names.size (s.networkObjects.size + s.serviceObjects.size)
    (GroupKind.all.foldl (fun count kind => count + (s.groups kind).size) 0)

namespace Config

def readLines (lines : List String) : Noted Notice Symbols := do
  let s ← objects { names := names lines } lines
  let s ← groups s lines
  Noted.note s.summary
  return s

def read (text : String) : Noted Notice Symbols := readLines (Text.lines text)

end Config
end AccessList
