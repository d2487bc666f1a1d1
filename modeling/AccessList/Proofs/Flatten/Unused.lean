import AccessList.Proofs.Entry.Origin
import AccessList.Proofs.Entry.Unread
import AccessList.Proofs.Flatten.Distribution

/-! Definitions that nothing looks up. Aliases and values are texts alike, so that a definition may be hit by the
number of a protocol, by an address or by a port that is no word of the configuration. Where its alias is none of
the texts that are looked up, the definition makes no difference. -/
namespace AccessList

open Config Text

variable {s s' : Symbols} {stage : Stage} {stages : List Stage} {r : Record} {records : List Record}

namespace Stage

def kind : Stage → GroupKind
  | network => .network
  | protocol => .protocol
  | service => .service
  | port => .port
  | icmpType => .icmpType

def fields : Stage → Record → List String
  | network, r => [r.source, r.destination]
  | protocol, r => [r.protocol]
  | service, r => [r.protocol]
  | port, r => [r.sourcePort, r.destinationPort]
  | icmpType, r => [r.icmp]

/-- A stage hangs on what the fields that it resolves stand for, and on nothing else of the symbols. -/
theorem expand_congr (same : ∀ field ∈ stage.fields r, s'.members stage.kind field = s.members stage.kind field) :
    stage.expand s' r = stage.expand s r := by
  cases stage with
  | network | port =>
    obtain ⟨first, second⟩ := by simpa [fields, kind] using same
    simp only [expand, first, second]
  | protocol | service | icmpType =>
    have single := by simpa [fields, kind] using same
    simp only [expand, single]

end Stage

/-- What stages look up, and among the aliases of which kind, when each takes all that the one before it makes. -/
def lookups (s : Symbols) : List Stage → List Record → List (GroupKind × String)
  | [], _ => []
  | stage :: stages, records =>
    (records.flatMap fun r => (stage.fields r).map (stage.kind, ·)) ++ lookups s stages (stage.expandAll s records)

/-- Flattening hangs on what is looked up on the way. -/
theorem flatten_congr (same : ∀ kind field, (kind, field) ∈ lookups s stages records →
      s'.members kind field = s.members kind field) :
    flatten s' stages records = flatten s stages records := by
  induction stages generalizing records with
  | nil => rfl
  | cons stage stages ih =>
    have first : Stage.expandAll s' records stage = Stage.expandAll s records stage := by
      refine List.flatMap_congr fun r member => Stage.expand_congr fun field among => ?_
      refine same stage.kind field (List.mem_append_left _ ?_)
      exact List.mem_flatMap.mpr ⟨r, member, List.mem_map.mpr ⟨field, among, rfl⟩⟩
    calc flatten s' (stage :: stages) records
      _ = flatten s' stages (Stage.expandAll s records stage) := by rw [← first]; rfl
      _ = flatten s stages (Stage.expandAll s records stage) :=
          ih fun kind field later => same kind field (List.mem_append_right _ later)

/-- What extended entries are classified by: their protocols, among services and among protocol groups. -/
def classifications (entries : List Record) : List (GroupKind × String) :=
  (entries.filter (·.type = "extended")).flatMap fun r => [(.service, r.protocol), (.protocol, r.protocol)]

/-- A definition at the end of a configuration makes no difference to the entries and to their flattened records
when its alias is no word of the configuration, no group refers to it without a word, and it is not looked up in
place of a value. The lines of its body must not open names or definitions of the other family. -/
theorem unused_definition (lines : List String) (d : Definition) (closed : d.IsClosed)
    (absent : ∀ line ∈ lines, d.symbol ∉ words line)
    (unreferred : ∀ kind, d.kind? = some kind → d.header.keyword = "object" → (kind, d.symbol) ∉ references lines)
    (unread : ∀ kind, d.kind? = some kind →
      (kind, d.symbol) ∉ classifications (Listing.ofLines (symbols lines) lines).records ++
        lookups (symbols lines) Stage.all (Listing.ofLines (symbols lines) lines).records) :
    let entries (lines : List String) := (Listing.ofLines (symbols lines) lines).records
    entries (d.addTo lines) = entries lines ∧
      flatten (symbols (d.addTo lines)) ({} : Switches).enabled (entries (d.addTo lines)) =
        flatten (symbols lines) ({} : Switches).enabled (entries lines) := by
  intro entries
  have looked (kind : GroupKind) (key : String)
      (among : (kind, key) ∈ classifications (entries lines) ++ lookups (symbols lines) Stage.all (entries lines)) :
      (symbols lines).SameAt (symbols (d.addTo lines)) kind key := by
    refine Definition.sameAt_addTo closed unreferred fun defined => ?_
    rintro rfl
    exact unread kind defined among
  have agree : (symbols lines).AgreeOff (symbols (d.addTo lines)) d.symbol := {
    names := by rw [names_symbols, names_symbols, Definition.names_addTo closed]
    given := d.symbol_ne_empty
    same := fun kind key other => Definition.sameAt_addTo closed unreferred fun _ => other }
  have alike : entries (d.addTo lines) = entries lines := by
    calc entries (d.addTo lines)
      _ = (Listing.ofLines (symbols (d.addTo lines)) lines).records := Listing.ofLines_append_quiet _ _ d.unlisted
      _ = entries lines := by
          refine Listing.ofLines_congr (fun line _ number => ?_) fun line among type number member => ?_
          · rw [Entry.standard_unread agree]
          · refine Entry.extended_unread agree (absent line among) fun kind classified => ?_
            have listed : (Entry.extended (symbols lines) (words line) number).value ∈
                (entries lines).filter (·.type = "extended") :=
              List.mem_filter.mpr ⟨member, decide_eq_true type⟩
            refine looked kind _ (List.mem_append_left _ (List.mem_flatMap.mpr ⟨_, listed, ?_⟩))
            simpa using classified
  refine ⟨alike, ?_⟩
  have all : ({} : Switches).enabled = Stage.all := by decide
  rw [alike, all]
  exact flatten_congr fun kind field among => (looked kind field (List.mem_append_right _ among)).members

/-- A group that takes an object of the configuration, and that nothing takes. -/
theorem unused_definition_spare :
    let lines := ["object network web", " host 10.0.0.1", "object-group network servers",
      " network-object object web", "access-list inside extended permit tcp any object-group servers eq https"]
    let spare : Definition := {
      header := ⟨"object-group", "network", "spare", []⟩
      head := "object-group network spare"
      body := [" network-object object web", " group-object servers"]
      tokens := by decide +kernel
      keyword := by decide
      flush := by decide +kernel
      indented := by decide +kernel }
    let s := symbols lines
    let s' := symbols (spare.addTo lines)
    let entries := (Listing.ofLines s lines).records
    let entries' := (Listing.ofLines s' (spare.addTo lines)).records
    spare.IsClosed ∧ (∀ line ∈ lines, spare.symbol ∉ words line) ∧
      (∀ kind, spare.kind? = some kind → spare.header.keyword = "object" → (kind, spare.symbol) ∉ references lines) ∧
      (∀ kind, spare.kind? = some kind →
        (kind, spare.symbol) ∉ classifications entries ++ lookups s Stage.all entries) ∧
      s'.networkGroups.get? "spare" = some ["10.0.0.1/32", "10.0.0.1/32"] ∧
      entries' = entries ∧
      flatten s' ({} : Switches).enabled entries' = flatten s ({} : Switches).enabled entries := by
  intro lines spare s s' entries entries'
  have closed : spare.IsClosed := by decide +kernel
  have absent : ∀ line ∈ lines, spare.symbol ∉ words line := by decide +kernel
  have unreferred : ∀ kind, spare.kind? = some kind → spare.header.keyword = "object" →
      (kind, spare.symbol) ∉ references lines := fun _ _ object => absurd object (by decide)
  have unread : ∀ kind, spare.kind? = some kind →
      (kind, spare.symbol) ∉ classifications entries ++ lookups s Stage.all entries := by
    rintro kind defined
    obtain rfl : GroupKind.network = kind := Option.some.inj defined
    decide +kernel
  obtain ⟨same, flattened⟩ := unused_definition lines spare closed absent unreferred unread
  exact ⟨closed, absent, unreferred, unread, by decide +kernel, same, flattened⟩

/-- The number of a protocol is looked up among services, and `undefined` in place of a missing object. A name is
read wherever it stands, in the body of a definition as well. -/
theorem definition_looked_up :
    let compiled (lines : List String) : List Record :=
      flatten (symbols lines) ({} : Switches).enabled (Listing.ofLines (symbols lines) lines).records
    let six : Definition := {
      header := ⟨"object-group", "service", "6", []⟩
      head := "object-group service 6"
      body := [" service-object icmp"]
      tokens := by decide +kernel
      keyword := by decide
      flush := by decide +kernel
      indented := by decide +kernel }
    let missing : Definition := {
      header := ⟨"object", "network", "undefined", []⟩
      head := "object network undefined"
      body := [" host 10.0.0.9"]
      tokens := by decide +kernel
      keyword := by decide
      flush := by decide +kernel
      indented := by decide +kernel }
    let named : Definition := {
      header := ⟨"object", "network", "spare", []⟩
      head := "object network spare"
      body := [" name 10.0.0.1 web"]
      tokens := by decide +kernel
      keyword := by decide
      flush := by decide +kernel
      indented := by decide +kernel }
    let tcp := ["access-list inside extended permit tcp any any"]
    let incomplete := ["object-group network servers", " network-object object",
      "access-list inside extended permit ip object-group servers any"]
    let host := ["access-list inside extended permit ip host web any"]
    ((∀ line ∈ tcp, six.symbol ∉ words line) ∧ six.IsClosed ∧ compiled (six.addTo tcp) ≠ compiled tcp) ∧
      ((∀ line ∈ incomplete, missing.symbol ∉ words line) ∧ missing.IsClosed ∧
        compiled (missing.addTo incomplete) ≠ compiled incomplete) ∧
      ((∀ line ∈ host, named.symbol ∉ words line) ∧ compiled (named.addTo host) ≠ compiled host) := by
  intro compiled six missing named tcp incomplete host
  exact ⟨⟨by decide +kernel, by decide +kernel, by decide +kernel⟩,
    ⟨by decide +kernel, by decide +kernel, by decide +kernel⟩, by decide +kernel, by decide +kernel⟩

end AccessList
