/-! Days and moments. A moment has a time of day, and may say how far its clock is from universal time. -/
namespace AccessList.Document

structure Day where
  year : Nat
  month : Nat
  day : Nat
  deriving DecidableEq, Repr

/-- The offset is in minutes, positive where the clock is ahead. -/
structure Moment where
  day : Day
  hour : Nat
  minute : Nat
  second : Nat
  micro : Nat := 0
  offset : Option Int := none
  deriving DecidableEq, Repr

inductive Unreal where
  | year (n : Nat)
  | month
  | day
  | hour
  | minute
  | second
  | offset (minutes : Int)
  deriving DecidableEq, Repr

def minutesPerDay : Nat := 1440

/-- An offset as whole days and the seconds left over, which are never negative. -/
def offsetText (minutes : Int) : String :=
  let days := minutes / minutesPerDay
  let seconds := 60 * (minutes % minutesPerDay)
  s!"datetime.timedelta(days={days}" ++ (if seconds = 0 then "" else s!", seconds={seconds}") ++ ")"

def Unreal.message : Unreal → String
  | year n => s!"year {n} is out of range"
  | month => "month must be in 1..12"
  | day => "day is out of range for month"
  | hour => "hour must be in 0..23"
  | minute => "minute must be in 0..59"
  | second => "second must be in 0..59"
  | offset minutes =>
    "offset must be a timedelta strictly between -timedelta(hours=24) and timedelta(hours=24), not " ++
      offsetText minutes ++ "."

def isLeap (year : Nat) : Bool := year % 4 = 0 && (year % 100 ≠ 0 || year % 400 = 0)

def monthLengths (year : Nat) : List Nat :=
  [31, if isLeap year then 29 else 28, 31, 30, 31, 30, 31, 31, 30, 31, 30, 31]

namespace Day

def check (d : Day) : Except Unreal Unit :=
  if d.year = 0 then .error (.year d.year)
  else if d.month = 0 then .error .month
  else match (monthLengths d.year)[d.month - 1]? with
    | none => .error .month
    | some length => if d.day = 0 || length < d.day then .error .day else .ok ()

def number (d : Day) : Nat :=
  let past := d.year - 1
  365 * past + past / 4 - past / 100 + past / 400 +
    ((monthLengths d.year).take (d.month - 1)).foldl (· + ·) 0 + (d.day - 1)

end Day

def padded (width n : Nat) : String :=
  let digits := (toString n).toList
  String.ofList (List.replicate (width - digits.length) '0' ++ digits)

def Day.text (d : Day) : String := s!"{padded 4 d.year}-{padded 2 d.month}-{padded 2 d.day}"

namespace Moment

/-- The offset is looked at first. -/
def check (m : Moment) : Except Unreal Unit := do
  match m.offset with
  | some minutes => if minutesPerDay ≤ minutes.natAbs then throw (.offset minutes)
  | none => pure ()
  m.day.check
  if 24 ≤ m.hour then throw .hour
  if 60 ≤ m.minute then throw .minute
  if 60 ≤ m.second then throw .second

/-- Microseconds of universal time, for a clock that has an offset. -/
def instant? (m : Moment) : Option Int :=
  m.offset.map fun offset =>
    let minutes : Int := (m.day.number * 24 + m.hour) * 60 + m.minute - offset
    (minutes * 60 + m.second) * 1000000 + m.micro

def text (m : Moment) : String :=
  let micro := if m.micro = 0 then "" else "." ++ padded 6 m.micro
  let offset := match m.offset with
    | none => ""
    | some minutes =>
      let size := minutes.natAbs
      (if minutes < 0 then "-" else "+") ++ s!"{padded 2 (size / 60)}:{padded 2 (size % 60)}"
  s!"{m.day.text} {padded 2 m.hour}:{padded 2 m.minute}:{padded 2 m.second}" ++ micro ++ offset

end Moment

/-- What a text may say of time. -/
inductive Stamp where
  | wholeDay (d : Day)
  | moment (m : Moment)
  deriving DecidableEq, Repr

namespace Stamp

def number? (least most : Nat) (s : List Char) : Option (Nat × List Char) :=
  let digits := (s.take most).takeWhile Char.isDigit
  if least ≤ digits.length then
    some (digits.foldl (fun n c => 10 * n + (c.toNat - 0x30)) 0, s.drop digits.length)
  else none

def mark? (c : Char) (s : List Char) : Option (List Char) :=
  if s.head? = some c then some (s.drop 1) else none

def isSpace (c : Char) : Bool := c = ' ' || c = '\t'

/-- The fraction of a second to six places, and what follows it. -/
def micro (s : List Char) : Nat × List Char :=
  match mark? '.' s with
  | none => (0, s)
  | some s =>
    let digits := (s.takeWhile Char.isDigit ++ List.replicate 6 '0').take 6
    (digits.foldl (fun n c => 10 * n + (c.toNat - 0x30)) 0, s.dropWhile Char.isDigit)

def offset? (s : List Char) : Option (Option Int) :=
  match s, s.dropWhile isSpace with
  | [], _ => some none
  | _, ['Z'] => some (some 0)
  | _, sign :: s => do
    if sign ≠ '+' && sign ≠ '-' then none
    let (hours, s) ← number? 1 2 s
    let (minutes, s) ← if s.isEmpty then some (0, s) else number? 2 2 (← mark? ':' s)
    let size : Int := 60 * hours + minutes
    if s.isEmpty then some (some (if sign = '-' then -size else size)) else none
  | _, [] => none

def afterDay? (s : List Char) : Option (List Char) :=
  match s with
  | c :: s =>
    if c = 'T' || c = 't' then some s else if isSpace c then some (s.dropWhile isSpace) else none
  | [] => none

/-- A year of four digits, a month and a day, and then nothing or a time of day. -/
def read? (s : List Char) : Option Stamp := do
  let (year, s) ← number? 4 4 s
  let (month, s) ← number? 1 2 (← mark? '-' s)
  let (day, s) ← number? 1 2 (← mark? '-' s)
  let day : Day := ⟨year, month, day⟩
  if s.isEmpty then return .wholeDay day
  let (hour, s) ← number? 1 2 (← afterDay? s)
  let (minute, s) ← number? 2 2 (← mark? ':' s)
  let (second, s) ← number? 2 2 (← mark? ':' s)
  let (micro, s) := micro s
  return .moment { day, hour, minute, second, micro, offset := ← offset? s }

/-- Whether a text that is not marked as such says something of time. A day alone is then written in
full. -/
def isStamp (s : List Char) : Bool :=
  match read? s with
  | some (.wholeDay _) => s.length = 10
  | some (.moment _) => true
  | none => false

example : read? "2001-12-14t21:59:43.1-05:00".toList =
    some (.moment ⟨⟨2001, 12, 14⟩, 21, 59, 43, 100000, some (-300)⟩) := by decide +kernel

end Stamp
end AccessList.Document
