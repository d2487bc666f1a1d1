import AccessList.Field
import AccessList.Lookup.Query

/-! Whether an address of a query lies in an address field of a record. Addresses are compared with
blocks and ranges of their family, and domain names with themselves and with blocks of everything. -/
namespace AccessList.Lookup

open Text

/-- Fields of other families and kinds hold no address of the family. -/
def isInField (f : Family) (field address : String) : Except Numeral.Unreadable Bool :=
  if (f = .v6) != has ':' field then return false
  else if has '-' field then Address.isInRange f address field
  else if has '/' field then Address.isInSegment f address field
  else return false

def isWithin (field address : String) (kind : AddressKind) : Except Numeral.Unreadable Bool :=
  if field = Field.anyAddress then return true
  else match kind with
    | .domain => return address = field || (cut '/' field).any (·.2 = "0")
    | .v4 => isInField .v4 field address
    | .v6 => isInField .v6 field address
    | .unknown => return false

end AccessList.Lookup
