import AccessList.Symbols

/-! Lines that name an address, `name ADDRESS ALIAS [description TEXT]`. -/
namespace AccessList.Config

open Text

/-- Addresses of version 6 are kept in full. -/
def nameAddress (a : String) : String := if has ':' a then (Address.full? a).getD "" else a

/-- The text after the keyword of a description and one more character. A line that has the room for
a description and not the keyword is cut at a fixed place instead. -/
def descriptionOf (line : List Char) : String :=
  String.ofList (match afterFirst "description".toList line with
    | some text => text.drop 1
    | none => line.drop 11)

def nameLine? (line : String) : Option (String × Name) :=
  if startsWith "!" line then none
  else match words line with
    | "name" :: address :: symbol :: more =>
      let description := if more.length < 2 then "" else descriptionOf (trimChars line.toList)
      some (symbol, ⟨nameAddress address, description⟩)
    | _ => none

def names (lines : List String) : Table Name := Table.ofList (lines.filterMap nameLine?)

end AccessList.Config
