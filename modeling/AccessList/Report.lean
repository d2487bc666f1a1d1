import AccessList.Lookup.Search
import AccessList.Symbols

/-! Reports: records and matches as CSV with a header, and symbols as titled sections with an empty
line between them. Every line of a report ends in a line feed. -/
namespace AccessList.Report

def ofLines (lines : List String) : String := String.join (lines.map (· ++ "\n"))

def ofRecords (records : List Record) : String := ofLines (Record.header :: records.map Record.toCsv)

def matchHeader : String := s!"LOOKUP,{Record.header}"

def ofMatches (found : List Lookup.Match) : String :=
  ofLines (matchHeader :: found.map Lookup.Match.toCsv)

def groupTitle : GroupKind → String
  | .network => "object-group network"
  | .service => "object-group service"
  | .port => "object-group port"
  | .protocol => "object-group protocol"
  | .icmpType => "object-group icmp-type"

def symbolSections (s : Symbols) : List (String × List String) :=
  [("names", s.nameLines), ("object network", Symbols.objectLines s.networkObjects),
    ("object service", Symbols.objectLines s.serviceObjects)] ++
  GroupKind.all.map fun kind => (groupTitle kind, Symbols.groupLines (s.groups kind))

def ofSymbols (s : Symbols) : String :=
  ofLines (List.intercalate [""] ((symbolSections s).map fun (title, lines) => s!"! {title}" :: lines))

end AccessList.Report
