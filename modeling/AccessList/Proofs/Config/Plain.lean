import AccessList.Proofs.Address.FullForm
import AccessList.Proofs.Config.Sections
import AccessList.Proofs.Config.Values
import AccessList.Proofs.Numeral

/-! Texts without commas. What is read of a configuration is put together from its words, from numbers and from
words of its language, so that a comma comes from a word with a comma and from nowhere else. -/
namespace AccessList

open Text

variable {a b t text : String} {tokens line : List String}

/-- A text without the separator of CSV lines. -/
def IsPlain (text : String) : Prop := ',' ∉ text.toList

instance (text : String) : Decidable (IsPlain text) := inferInstanceAs (Decidable (',' ∉ text.toList))

def ArePlain (tokens : List String) : Prop := ∀ t ∈ tokens, IsPlain t

instance (tokens : List String) : Decidable (ArePlain tokens) := inferInstanceAs (Decidable (∀ t ∈ tokens, IsPlain t))

namespace IsPlain

theorem append (first : IsPlain a) (second : IsPlain b) : IsPlain (a ++ b) := by
  simp only [IsPlain, String.toList_append, List.mem_append, not_or]
  exact ⟨first, second⟩

theorem ofNat (n : Nat) : IsPlain (toString n) :=
  Numeral.not_mem_toString (n := n) (by decide) (by decide)

theorem slash (first : IsPlain a) (second : IsPlain b) : IsPlain s!"{a}/{b}" :=
  (first.append (by decide)).append second

theorem slashes {c : String} (first : IsPlain a) (second : IsPlain b) (third : IsPlain c) :
    IsPlain s!"{a}/{b}/{c}" :=
  ((first.slash second).append (by decide)).append third

theorem dash (first : IsPlain a) (second : IsPlain b) : IsPlain s!"{a}-{b}" :=
  (first.append (by decide)).append second

theorem getD {found : Option String} (given : ∀ text ∈ found, IsPlain text) (otherwise : IsPlain b) :
    IsPlain (found.getD b) := by
  cases found with
  | none => exact otherwise
  | some text => exact given text rfl

theorem cut {sep : Char} (plain : IsPlain t) (split : Text.cut sep t = some (a, b)) : IsPlain a ∧ IsPlain b := by
  obtain ⟨whole, _⟩ := eq_of_cut split
  simp only [IsPlain, whole, List.mem_append, List.mem_cons, not_or] at plain ⊢
  exact ⟨plain.1, plain.2.2⟩

theorem fields {sep : Char} (plain : IsPlain t) : ArePlain (Text.fields sep t) :=
  fun _ among comma => plain (mem_of_mem_fields among comma)

end IsPlain

namespace ArePlain

theorem token (plain : ArePlain tokens) : IsPlain (Clause.token tokens) := by
  cases tokens with
  | nil => decide
  | cons t tokens => exact plain t List.mem_cons_self

theorem drop (plain : ArePlain tokens) (n : Nat) : ArePlain (tokens.drop n) :=
  fun t member => plain t (List.mem_of_mem_drop member)

end ArePlain

def ArePlainNames (names : Table Name) : Prop := ∀ key name, names.get? key = some name → IsPlain name.address

namespace Address

theorem isPlain_full? : ∀ written ∈ full? a, IsPlain written := by
  intro written read
  obtain ⟨address, _, rfl⟩ := Option.map_eq_some_iff.mp read
  exact Hextets.not_mem_full (by decide) (by decide)

theorem isPlain_beforeSlash {change : String → Option String} (changed : ∀ a, ∀ written ∈ change a, IsPlain written)
    (plain : IsPlain t) : ∀ written ∈ beforeSlash change t, IsPlain written := by
  intro written found
  obtain ⟨written', read, rfl⟩ := Option.map_eq_some_iff.mp found
  refine (changed _ written' read).slash ?_
  cases split : cut '/' t with
  | none => exact (by decide : IsPlain "")
  | some parts => exact (plain.cut split).2

theorem isPlain_host? (plain : IsPlain a) : ∀ written ∈ host? a, IsPlain written := by
  intro written found
  unfold host? at found
  split at found
  · exact isPlain_beforeSlash (fun _ => isPlain_full?) (plain.append (by decide)) written found
  split at found
  · obtain rfl := Option.some.inj found
    exact plain.append (by decide)
  · obtain rfl := Option.some.inj found
    exact plain

theorem isPlain_withNetmask? (plain : IsPlain a) : ∀ written ∈ withNetmask? a b, IsPlain written := by
  intro written found
  obtain ⟨length, _, rfl⟩ := Option.map_eq_some_iff.mp found
  exact plain.slash (.ofNat length)

end Address

theorem Field.isPlain_orUndefined (plain : IsPlain t) : IsPlain (orUndefined t) := by
  unfold orUndefined
  split
  · decide
  · exact plain

theorem Protocol.isPlain_canonical (plain : IsPlain t) : IsPlain (canonical t) := by
  unfold canonical
  cases names.lookup t with
  | none => exact plain
  | some n => exact .ofNat n

namespace Clause

variable {aliases : Table Name} {c : Clause} {family : PortFamily}

theorem isPlain_valueOr (value : IsPlain c.value) (otherwise : IsPlain t) : IsPlain (c.valueOr t) := by
  unfold valueOr
  split
  · exact otherwise
  · exact value

theorem isPlain_either {known : Prop} [Decidable known] {d : Clause} (given : IsPlain c.value)
    (otherwise : IsPlain d.value) : IsPlain (if known then c else d).value := by
  split
  · exact given
  · exact otherwise

theorem isPlain_protocol (plain : ArePlain tokens) : IsPlain (protocol tokens).value.value := by
  simp only [protocol]
  split
  · decide
  split
  · exact plain.token
  · exact Protocol.isPlain_canonical plain.token

theorem isPlain_icmpType (version : IcmpVersion) (plain : ArePlain tokens) :
    IsPlain (icmpType version tokens).value := by
  simp only [icmpType]
  split
  · decide
  split
  · exact plain.token
  split
  · exact .ofNat _
  · decide

theorem isPlain_icmp (version : IcmpVersion) (plain : ArePlain tokens) : IsPlain (icmp version tokens).value := by
  have type := isPlain_icmpType version plain
  simp only [icmp]
  split
  · decide
  split
  · exact type.slash (plain.drop _).token
  · exact type.append (by decide)

theorem isPlain_port (family : PortFamily) (plain : ArePlain tokens) : IsPlain (port family tokens).value.value := by
  simp only [port]
  split
  · decide
  split
  · exact plain.token
  · cases Port.number? (token tokens) family with
    | none => exact plain.token
    | some n => exact .ofNat n

theorem isPlain_portCondition (plain : ArePlain tokens) : IsPlain (portCondition family tokens).value.value := by
  unfold portCondition
  dsimp only
  split
  · exact plain.token.slash (Field.isPlain_orUndefined (isPlain_port family (plain.drop 1)))
  split
  · rw [Noted.value_bind]
    split
    · decide
    · have range : IsPlain "range/" := by decide
      have low : IsPlain (port family (tokens.drop 1)).value.value := isPlain_port family (plain.drop 1)
      have high := Field.isPlain_orUndefined (isPlain_port family (plain.drop
        (1 + (port family (tokens.drop 1)).value.taken)))
      exact ((range.append low).append (by decide)).append high
  · decide

theorem isPlain_maskedAddress (named : ArePlainNames aliases) (plain : ArePlain tokens) :
    IsPlain (maskedAddress aliases tokens) := by
  have address : IsPlain (((aliases.get? (token tokens)).map Name.address).getD (token tokens)) := by
    cases known : aliases.get? (token tokens) with
    | none => exact plain.token
    | some name => exact named _ name known
  simp only [maskedAddress]
  split
  · decide
  · exact .getD (Address.isPlain_withNetmask? address) (by decide)

theorem isPlain_slashedAddress (named : ArePlainNames aliases) (plain : IsPlain t) :
    IsPlain (slashedAddress aliases t) := by
  simp only [slashedAddress]
  split
  · next name known =>
    refine (named _ name known).slash ?_
    cases split : cut '/' t with
    | none => exact (by decide : IsPlain "")
    | some parts => exact (plain.cut split).2
  · exact .getD (Address.isPlain_beforeSlash (fun _ => Address.isPlain_full?) plain) (by decide)

theorem isPlain_host (named : ArePlainNames aliases) (plain : IsPlain t) : IsPlain (host aliases t) := by
  unfold host
  split
  · next name known =>
    have address := named _ name known
    split
    · exact address.append (by decide)
    · exact address.append (by decide)
  · exact .getD (Address.isPlain_host? plain) (by decide)

theorem isPlain_address (named : ArePlainNames aliases) (plain : ArePlain tokens) :
    IsPlain (address aliases tokens).value := by
  simp only [address]
  split
  · decide
  split
  · exact isPlain_host named (plain.drop 1).token
  split
  · decide
  split
  · decide
  split
  · decide
  split
  · exact isPlain_slashedAddress named plain.token
  · exact isPlain_maskedAddress named plain

theorem isPlain_memberAddress (named : ArePlainNames aliases) (plain : ArePlain tokens) :
    IsPlain (memberAddress aliases tokens).value := by
  simp only [memberAddress]
  split
  · decide
  split
  · exact isPlain_host named (plain.drop 1).token
  split
  · exact isPlain_slashedAddress named plain.token
  split
  · exact plain.token
  · exact isPlain_maskedAddress named plain

end Clause

namespace Service

variable {family : PortFamily} {keyword : String}

theorem isPlain_side (plain : ArePlain tokens) : ∀ text ∈ (side keyword family tokens).value, IsPlain text := by
  intro text found
  unfold side at found
  split at found
  · obtain rfl := Option.some.inj found
    exact Clause.isPlain_portCondition (plain.drop 1)
  · cases found

theorem isPlain_orComplain {complaint : Complaint} {found : Option String} (plain : ∀ text ∈ found, IsPlain text) :
    IsPlain (orComplain complaint found).value := by
  cases found with
  | none => exact (by decide : IsPlain Field.anyPort)
  | some text => exact plain text rfl

theorem isPlain_sides (family : PortFamily) (plain : ArePlain tokens) :
    IsPlain (sides family tokens).value.1 ∧ IsPlain (sides family tokens).value.2 := by
  have any : IsPlain Field.anyPort := by decide
  unfold sides
  split
  · exact ⟨any, any⟩
  split
  · exact ⟨isPlain_orComplain (isPlain_side plain), isPlain_orComplain (isPlain_side (plain.drop _))⟩
  · rw [Noted.value_bind]
    split
    · next source found => exact ⟨isPlain_side plain source found, any⟩
    · exact ⟨any, isPlain_orComplain (isPlain_side plain)⟩

theorem isPlain_describe (plain : ArePlain tokens) : IsPlain (describe tokens).value := by
  have protocol := Clause.isPlain_protocol plain
  unfold describe
  split
  · decide
  rw [Noted.value_bind]
  dsimp only
  have rest : ArePlain (tokens.drop (Clause.protocol tokens).value.taken) := plain.drop _
  have ports (family : PortFamily) := isPlain_sides family rest
  split
  · exact (by decide : IsPlain "1/").append (Clause.isPlain_icmp .v4 rest)
  · exact (by decide : IsPlain "58/").append (Clause.isPlain_icmp .v6 rest)
  · exact protocol.slashes (ports .tcp).1 (ports .tcp).2
  · exact protocol.slashes (ports .udp).1 (ports .udp).2
  · exact protocol

end Service

structure Symbols.IsPlain (s : Symbols) : Prop where
  names : ArePlainNames s.names
  objects : ∀ kind key value, s.object? kind key = some value → AccessList.IsPlain value
  groups : ∀ kind key members, (s.groups kind).get? key = some members → ArePlain members

variable {s : Symbols} {kind : GroupKind} {field symbol : String} {lines : List String}

theorem Symbols.IsPlain.members (plain : s.IsPlain) (text : AccessList.IsPlain field) :
    ArePlain (s.members kind field) := by
  unfold Symbols.members
  split
  · simp [ArePlain]
  split
  · next value object => simpa [ArePlain] using plain.objects kind field value object
  · cases group : (s.groups kind).get? field with
    | none => simpa [ArePlain] using text
    | some members => exact plain.groups kind field members group

namespace Config

open Clause

theorem isPlain_networkValue (plain : ArePlain tokens) : IsPlain (networkValue tokens) := by
  have operand : IsPlain (token (tokens.drop 1)) := (plain.drop 1).token
  have second : IsPlain (token (tokens.drop 2)) := (plain.drop 2).token
  have empty : IsPlain "" := by decide
  have undefined : IsPlain Field.undefined := by decide
  have full (t : String) : IsPlain ((Address.full? t).getD "") := .getD Address.isPlain_full? empty
  simp only [networkValue]
  split
  · exact empty
  · split
    · exact undefined
    · exact .getD (Address.isPlain_host? operand) empty
  · split
    · exact undefined
    split
    · exact .getD (Address.isPlain_beforeSlash (fun _ => Address.isPlain_full?) operand) empty
    split
    · exact undefined
    · exact .getD (Address.isPlain_withNetmask? operand) empty
  · split
    · exact undefined
    split
    · exact ((full _).append (by decide)).append (full _)
    · exact operand.dash second
  · split
    · exact Field.isPlain_orUndefined second
    · exact Field.isPlain_orUndefined operand
  · exact undefined
  · exact plain _ List.mem_cons_self

theorem isPlain_objectMember (objects : ∀ key value, s.object? kind key = some value → IsPlain value)
    (plain : ArePlain tokens) : IsPlain (objectMember s kind tokens) :=
  .getD (fun value found => objects _ value found) (Field.isPlain_orUndefined (plain.drop 1).token)

theorem arePlain_memberValues (named : ArePlainNames s.names)
    (objects : ∀ kind key value, s.object? kind key = some value → IsPlain value) (plain : ArePlain line)
    (sort : GroupSort) : ArePlain (memberValues s sort line).value := by
  have operand : ArePlain (line.drop 1) := plain.drop 1
  have literal : IsPlain (Field.orUndefined (token (line.drop 1))) := Field.isPlain_orUndefined operand.token
  have undefined : IsPlain Field.undefined := by decide
  have single {text : String} (text_plain : IsPlain text) : ArePlain [text] := by simpa [ArePlain] using text_plain
  cases sort with
  | network =>
    simp only [memberValues]
    split
    · exact single (isPlain_objectMember (objects .network) operand)
    · exact single (isPlain_valueOr (isPlain_memberAddress named operand) undefined)
  | service =>
    simp only [memberValues]
    split
    · have described (p : String) (word : IsPlain p) :
          IsPlain (Service.describe (p :: (line.drop 1).drop 1)).value :=
        Service.isPlain_describe (List.forall_mem_cons.mpr ⟨word, operand.drop 1⟩)
      have tcp := described "tcp" (by decide)
      have udp := described "udp" (by decide)
      simpa [ArePlain, within] using And.intro tcp udp
    split
    · exact single (isPlain_objectMember (objects .service) operand)
    · exact single (Field.isPlain_orUndefined (Service.isPlain_describe operand))
  | port family => exact single (isPlain_valueOr (isPlain_portCondition operand) literal)
  | protocol => exact single (isPlain_valueOr (isPlain_protocol operand) undefined)
  | icmpType => exact single (isPlain_valueOr (isPlain_icmpType .v4 operand) literal)
  | other => simp [memberValues, ArePlain]

theorem isPlain_nameAddress (plain : IsPlain a) : IsPlain (nameAddress a) := by
  unfold nameAddress
  split
  · exact .getD Address.isPlain_full? (by decide)
  · exact plain

theorem mem_ofList {α : Type} {entries : List (String × α)} {key : String} {value : α}
    (found : (Table.ofList entries).get? key = some value) : (key, value) ∈ entries := by
  induction entries using List.reverseRecOn with
  | nil => simp [Table.ofList, Table.get?] at found
  | append_singleton entries last ih =>
    obtain ⟨own, given⟩ := last
    have grown : Table.ofList (entries ++ [(own, given)]) = (Table.ofList entries).insert own given := by
      simp [Table.ofList]
    rw [grown, Table.get?_insert] at found
    split at found
    · next same =>
      obtain rfl := Option.some.inj found
      simp [same]
    · exact List.mem_append_left _ (ih found)

theorem arePlain_names (plain : ∀ line ∈ lines, ArePlain (words line)) : ArePlainNames (names lines) := by
  intro key name found
  obtain ⟨line, among, read⟩ := List.mem_filterMap.mp (mem_ofList found)
  simp only [nameLine?] at read
  split at read
  · cases read
  split at read
  · next address symbol more all =>
    obtain ⟨rfl, rfl⟩ := Prod.mk.inj (Option.some.inj read)
    exact isPlain_nameAddress (plain line among address (by simp [all]))
  · cases read

theorem arePlain_body {keyword : String} {h : Header} (plain : ∀ line ∈ lines, ArePlain (words line))
    (found : .body h tokens ∈ sections keyword lines) : ArePlain tokens := by
  obtain ⟨line, among, rfl⟩ := exists_line_of_body found
  exact plain line among

theorem isPlain_objects (plain : ∀ line ∈ lines, ArePlain (words line)) {value : String}
    (found : (symbols lines).object? kind symbol = some value) : IsPlain value := by
  obtain ⟨objects, table, found⟩ := Option.bind_eq_some_iff.mp found
  obtain ⟨found, _⟩ := Option.filter_eq_some_iff.mp found
  cases kind with
  | network =>
    obtain rfl := Option.some.inj table
    rw [networkObjects_symbols] at found
    obtain ⟨tokens, last, rfl⟩ := Option.map_eq_some_iff.mp found
    obtain ⟨e, line, body⟩ := List.mem_filterMap.mp (List.mem_of_getLast? last)
    obtain ⟨h, rfl, _⟩ := body?_eq_some.mp body
    exact isPlain_networkValue (arePlain_body plain line)
  | service =>
    obtain rfl := Option.some.inj table
    rw [serviceObjects_symbols] at found
    obtain ⟨tokens, last, rfl⟩ := Option.map_eq_some_iff.mp found
    obtain ⟨e, line, body⟩ := List.mem_filterMap.mp (List.mem_of_getLast? last)
    obtain ⟨h, rfl, _⟩ := body?_eq_some.mp (Option.filter_eq_some_iff.mp body).1
    exact Service.isPlain_describe ((arePlain_body plain line).drop 1)
  | port | protocol | icmpType => cases table

/-- The symbols of a configuration have no comma where its lines have none. -/
theorem isPlain_symbols (plain : ∀ line ∈ lines, ArePlain (words line)) : (symbols lines).IsPlain := by
  have named : ArePlainNames (symbols lines).names := by
    rw [names_symbols]
    exact arePlain_names plain
  have objects (kind : GroupKind) (key value : String)
      (found : (symbols lines).object? kind key = some value) : IsPlain value := isPlain_objects plain found
  refine ⟨named, objects, fun kind key members found value among => ?_⟩
  rw [groups_symbols] at found
  -- A member comes from a line of its group, or from one of a group that is taken, and so on.
  have supplies := supplies_of_stored found value among
  clear found among
  induction supplies with
  | value line among =>
    obtain ⟨e, body, read⟩ := List.mem_filterMap.mp line
    obtain ⟨_, _, sort, rfl, _, _, _, said⟩ := memberLine?_eq_some.mp read
    rcases said with ⟨_, ⟨⟩⟩ | ⟨_, ⟨⟩⟩
    exact arePlain_memberValues named objects (arePlain_body plain body) sort _ among
  | literal line =>
    obtain ⟨e, body, read⟩ := List.mem_filterMap.mp line
    obtain ⟨_, _, sort, rfl, _, _, _, said⟩ := memberLine?_eq_some.mp read
    rcases said with ⟨_, ⟨⟩⟩ | ⟨_, ⟨⟩⟩
    exact Field.isPlain_orUndefined ((arePlain_body plain body).drop 1).token
  | group _ _ ih => exact ih

end Config
end AccessList
