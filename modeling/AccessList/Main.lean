import AccessList.Command.Flatten
import AccessList.Command.Lookup

/-! The command line: the first argument names the command, `flatten` or `lookup`. -/
namespace AccessList.Command

abbrev Machine := ReaderT Nat IO

namespace Machine

/-- Some system calls report the number of an error with a minus sign. -/
def errorNumber (code : UInt32) : Nat :=
  if code.toNat < 0x80000000 then code.toNat else 0x100000000 - code.toNat

def faultOf : IO.Error → Files.Fault
  | .noFileOrDirectory .. => .missing
  | .inappropriateType _ code reason => match errorNumber code with
    | 20 => .notDirectory
    | 21 => .isDirectory
    | code => .other code reason
  | .invalidArgument _ code reason => match errorNumber code with
    | 36 => .nameTooLong
    | code => .other code reason
  | .resourceExhausted _ 28 _ => .noSpace
  | .permissionDenied _ code reason => .other (errorNumber code) reason
  | e => .other 5 (toString e)

def attempt {α : Type} (action : IO α) : Machine (Except Files.Fault α) := do
  match ← action.toBaseIO with
  | .ok a => return .ok a
  | .error e => return .error (faultOf e)

def seconds (milliseconds : Nat) : String :=
  let hundredths := milliseconds / 10
  let places := String.ofList ((toString (100 + hundredths % 100)).toList.drop 1)
  s!"{hundredths / 100}.{places}"

instance : Host Machine where
  read path := attempt (IO.FS.readBinFile (Files.normal path))
  write path text := attempt (IO.FS.writeFile (Files.normal path) text)
  print text := do (← IO.getStdout).putStr text
  tell remark := do
    let elapsed := seconds ((← IO.monoMsNow) - (← read))
    (← IO.getStderr).putStr (remark.text elapsed s!"{elapsed}s")

def start (command : Machine Exit) : IO UInt32 := do
  match ← command.run (← IO.monoMsNow) with
  | .code n => return n.toUInt32
  | .broken cause => do
    IO.eprintln cause.message
    return 1

end Machine
end AccessList.Command

open AccessList.Command in
def main (arguments : List String) : IO UInt32 := do
  match arguments with
  | "flatten" :: rest => Machine.start (Flatten.command rest)
  | "lookup" :: rest => Machine.start (Lookup.command rest)
  | _ =>
    IO.eprintln "usage: flatten [options] config, or lookup [options] config queries"
    return 2
