/-! Field values that stand for no single address, port or type: everything, nothing, and an operand
that is missing from the line. -/
namespace AccessList.Field

def anyAddress : String := "0/0"
def anyAddress4 : String := "0.0.0.0/0"
def anyAddress6 : String := "0000:0000:0000:0000:0000:0000:0000:0000/0"
def notApplicable : String := "-/-"
def undefined : String := "undefined"
def anyPort : String := "eq/any"
def anyIcmp : String := "any/any"

def orUndefined (s : String) : String := if s.isEmpty then undefined else s

end AccessList.Field
