import AccessList.Text.Cut
import AccessList.Text.Lines
import AccessList.Text.Quoted
import AccessList.Text.Utf8

/-! Files: their paths, their texts and what can go wrong with them. -/
namespace AccessList.Files

open Text

/-- The names along a path, which may be the empty path of the working directory. -/
def parts (path : String) : List String := (fields '/' path).filter fun p => p ≠ "" && p ≠ "."

def isAbsolute (path : String) : Bool := startsWith "/" path

/-- The slashes a path begins with: none, one or just two. More of them count as one. -/
def root (path : String) : String :=
  if startsWith "//" path && !startsWith "///" path then "//"
  else if isAbsolute path then "/"
  else ""

def normal (path : String) : String :=
  let written := root path ++ String.intercalate "/" (parts path)
  if written.isEmpty then "." else written

def maxName : Nat := 255
def maxPath : Nat := 4095

def isLongName (name : String) : Bool := maxName < name.utf8ByteSize

def isLongPath (path : String) : Bool := maxPath < (normal path).utf8ByteSize

/-- A null character ends a path before its end, so that no file has such a path. -/
def isPath (s : String) : Bool := !has '\x00' s

inductive Fault where
  | missing
  | notDirectory
  | isDirectory
  | nameTooLong
  | noSpace
  | other (code : Nat) (reason : String)
  deriving DecidableEq, Repr

namespace Fault

def code : Fault → Nat
  | missing => 2
  | notDirectory => 20
  | isDirectory => 21
  | nameTooLong => 36
  | noSpace => 28
  | other code _ => code

def reason : Fault → String
  | missing => "No such file or directory"
  | notDirectory => "Not a directory"
  | isDirectory => "Is a directory"
  | nameTooLong => "File name too long"
  | noSpace => "No space left on device"
  | other _ reason => reason

/-- A file that has no more space is open by then, and is not named. -/
def message (f : Fault) (path : String) : String :=
  s!"[Errno {f.code}] {f.reason}" ++ if f = noSpace then "" else s!": {quote (normal path)}"

end Fault

/-- The text of a file, whatever its bytes, with one line feed for every line end. -/
def text (bytes : ByteArray) : String :=
  String.ofList (unifyLineEnds (decodeUtf8 bytes.toList).toList)

end AccessList.Files
