/-! Lines of a text. A line ends at a line feed, a carriage return or the two in a row, and a text
has one line more than it has such ends. -/
namespace AccessList.Text

/-- Reading from the end, a carriage return before a line feed adds nothing to that line feed. -/
def unifyStep (c : Char) (after : List Char × Bool) : List Char × Bool :=
  if c = '\r' then (if after.2 then after.1 else '\n' :: after.1, false)
  else (c :: after.1, c = '\n')

def unifyLineEnds (s : List Char) : List Char := (s.foldr unifyStep ([], false)).1

def lines (s : String) : List String :=
  ((unifyLineEnds s.toList).splitOn '\n').map String.ofList

example : lines "a\r\nb\rc\n" = ["a", "b", "c", ""] := by decide +kernel

end AccessList.Text
