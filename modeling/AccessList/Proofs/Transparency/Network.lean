import AccessList.Proofs.Config.Tables
import AccessList.Proofs.Entry.Reading
import AccessList.Proofs.Flatten.Distribution

/-! Objects and groups of networks are shorthands. An entry that refers to one gives the records of the
entries that have the addresses of its definition in its place. -/
namespace AccessList

open Text Clause Entry

variable {s : Symbols} {names : Table Name} {lines definition operand rest front : List String}
  {operands : List (List String)}

namespace Config

inductive MemberOperand (names : Table Name) : List String → Prop where
  | named {x : String} (known : (names.get? x).isSome = true) : MemberOperand names ["host", x]
  | host {f : Family} {x : String} {address : Address f} (read : f.read? x = some address) :
      MemberOperand names ["host", x]
  | domain {x : String} (given : x ≠ "") (noColon : ':' ∉ x.toList) : MemberOperand names ["host", x]
  | masked {a m : String} {address mask : Address .v4} (read : Family.v4.read? a = some address)
      (netmask : Family.v4.read? m = some mask) : MemberOperand names [a, m]
  | sized {a p : String} {address : Address .v6} (read : Family.v6.read? a = some address) :
      MemberOperand names [s!"{a}/{p}"]

/-- The line that defines a network object, and the operand of an entry that says the same. -/
inductive AddressDefinition (names : Table Name) : List String → List String → Prop where
  | host {f : Family} {a : String} {address : Address f} (read : f.read? a = some address)
      (literal : names.get? a = none) : AddressDefinition names ["host", a] ["host", a]
  | masked {a m : String} {address mask : Address .v4} (read : Family.v4.read? a = some address)
      (netmask : Family.v4.read? m = some mask) (literal : names.get? a = none) :
      AddressDefinition names ["subnet", a, m] [a, m]
  | sized {a p : String} {address : Address .v6} (read : Family.v6.read? a = some address)
      (literal : names.get? a = none) :
      AddressDefinition names ["subnet", s!"{a}/{p}"] [s!"{a}/{p}"]

end Config

/-- An operand that is read alike in an entry and in a group, with a value. -/
structure Addressed (s : Symbols) (operand : List String) : Prop where
  plain : Plain s operand
  given : addressValue s operand ≠ ""
  notObject : token operand ≠ "object"
  member : Config.memberValue s.names operand = addressValue s operand

theorem addressed_host {x : String} (given : host s.names x ≠ "") : Addressed s ["host", x] := by
  have value : addressValue s ["host", x] = host s.names x := congrArg Clause.value (addressClause_host x)
  refine ⟨⟨.host x, rfl, by simp⟩, by rwa [value], by simp, ?_⟩
  rw [value]
  simp [Config.memberValue, memberAddress, valueOr]

theorem plain_of_not_keyword {a : String} {more : List String} (word : a ∉ keywords)
    (operand : Operand s (a :: more)) : Plain s (a :: more) ∧ a ≠ "object" := by
  obtain ⟨operator, group⟩ := start_of_not_keyword word
  refine ⟨⟨operand, operator, fun same => absurd same group⟩, ?_⟩
  rintro rfl
  exact absurd (by decide) word

theorem ne_empty_of_read {f : Family} {a : String} {address : Address f} (read : f.read? a = some address) :
    a ≠ "" := by
  rintro rfl
  cases f <;> cases read

theorem operand_masked {a : String} {address : Address .v4} (read : Family.v4.read? a = some address)
    (m : String) : Operand s [a, m] ∧ addressValue s [a, m] = maskedAddress s.names [a, m] := by
  have word : a ∉ addressWords := fun member => not_keyword_of_read read (addressWord_keyword a member)
  have noSlash : '/' ∉ a.toList := Address.not_mem_of_spelling read (by decide)
  have given := ne_empty_of_read read
  exact ⟨.masked m word given noSlash, congrArg Clause.value (addressClause_masked m word given noSlash)⟩

theorem addressed_masked {a m : String} {address mask : Address .v4} (read : Family.v4.read? a = some address)
    (netmask : Family.v4.read? m = some mask) : Addressed s [a, m] := by
  have word := not_keyword_of_read read
  have given := ne_empty_of_read read
  have givenMask := ne_empty_of_read netmask
  have notHost : a ≠ "host" := by
    rintro rfl
    exact absurd (by decide) word
  have slash : has '/' a = false := by
    simpa [has] using Address.not_mem_of_spelling read (c := '/') (by decide)
  obtain ⟨operand, value⟩ := operand_masked (s := s) read m
  obtain ⟨plain, notObject⟩ := plain_of_not_keyword word operand
  refine ⟨plain, ?_, notObject, ?_⟩
  · rw [value]
    simp [maskedAddress, givenMask, Address.withNetmask?, Address.netmaskLength?, netmask]
  · rw [value]
    simp [Config.memberValue, memberAddress, valueOr, given, givenMask, notHost, slash]

theorem slashed_ne_empty (a p : String) : s!"{a}/{p}" ≠ "" := by
  have slash : '/' ∈ s!"{a}/{p}".toList := mem_join_self rfl
  exact ne_empty_of_slash slash

theorem append_ne_empty (a : String) {b : String} (given : b ≠ "") : a ++ b ≠ "" := by
  simp [String.append_eq_empty_iff, given]

theorem addressed_sized {a p : String} {address : Address .v6} (read : Family.v6.read? a = some address) :
    Addressed s [s!"{a}/{p}"] := by
  have slash : '/' ∈ s!"{a}/{p}".toList := mem_join_self rfl
  have word := not_keyword_of_slash slash
  have given := ne_empty_of_slash slash
  have notHost : s!"{a}/{p}" ≠ "host" := by
    intro same
    exact absurd (by rw [same]; decide) word
  obtain ⟨plain, notObject⟩ := plain_of_not_keyword word (.sized (s := s) slash)
  have value : addressValue s [s!"{a}/{p}"] = slashedAddress s.names s!"{a}/{p}" :=
    congrArg Clause.value (addressClause_sized slash)
  refine ⟨plain, ?_, notObject, ?_⟩
  · rw [value]
    cases known : s.names.get? a with
    | none =>
      rw [slashedAddress_literal read known]
      exact slashed_ne_empty _ p
    | some name =>
      have split : cut '/' s!"{a}/{p}" = some (a, p) :=
        cut_join rfl (Address.not_mem_of_spelling read (by decide))
      simp only [slashedAddress, split, Option.getD_some, known]
      exact slashed_ne_empty _ p
  · rw [value]
    simp [Config.memberValue, memberAddress, valueOr, given, notHost, has_iff.mpr slash]

theorem hosted_of_read {f : Family} {x : String} {address : Address f} (read : f.read? x = some address) :
    ∃ block, Address.host? x = some block ∧ block ≠ "" := by
  cases f with
  | v4 => exact ⟨_, host?_v4 read, append_ne_empty _ (by decide)⟩
  | v6 => exact ⟨_, host?_v6 read, append_ne_empty _ (by decide)⟩

theorem host_ne_empty {x block : String} (hosted : Address.host? x = some block) (given : block ≠ "") :
    Clause.host names x ≠ "" := by
  rw [Clause.host]
  split
  · split <;> exact append_ne_empty _ (by decide)
  · simpa [hosted] using given

theorem Config.MemberOperand.addressed (member : Config.MemberOperand s.names operand) :
    Addressed s operand := by
  cases member with
  | @named x known =>
    refine addressed_host ?_
    obtain ⟨name, found⟩ := Option.isSome_iff_exists.mp known
    simp only [Clause.host, found]
    split <;> exact append_ne_empty _ (by decide)
  | host read =>
    obtain ⟨block, hosted, given⟩ := hosted_of_read read
    exact addressed_host (host_ne_empty hosted given)
  | @domain x given noColon =>
    refine addressed_host ?_
    have colon : has ':' x = false := by simpa [has] using noColon
    by_cases dotted : Address.looksDotted x = true
    · have hosted : Address.host? x = some s!"{x}/32" := by simp [Address.host?, colon, dotted]
      exact host_ne_empty hosted (append_ne_empty _ (by decide))
    · exact host_ne_empty (by simp [Address.host?, colon, dotted]) given
  | masked read netmask => exact addressed_masked read netmask
  | sized read => exact addressed_sized read

theorem Config.AddressDefinition.addressed (defined : Config.AddressDefinition s.names definition operand) :
    Addressed s operand := by
  cases defined with
  | host read literal =>
    obtain ⟨block, hosted, given⟩ := hosted_of_read read
    exact addressed_host (host_ne_empty hosted given)
  | masked read netmask literal => exact addressed_masked read netmask
  | sized read literal => exact addressed_sized read

/-- An object has the value that its address has in an entry. -/
theorem Config.AddressDefinition.value (defined : Config.AddressDefinition s.names definition operand) :
    Config.networkValue definition = addressValue s operand := by
  cases defined with
  | @host f a address read literal =>
    have given := ne_empty_of_read read
    simp [Config.networkValue, addressValue, addressClause_host, Clause.host, given, literal]
  | @masked a m address mask read netmask literal =>
    have given := ne_empty_of_read read
    have givenMask := ne_empty_of_read netmask
    have colon : has ':' a = false := by
      rw [← Bool.not_eq_true, has_iff, Address.colon_mem_iff read]
      decide
    rw [(operand_masked read m).2]
    simp [Config.networkValue, maskedAddress, given, givenMask, colon, literal]
  | @sized a p address read literal =>
    have slash : '/' ∈ s!"{a}/{p}".toList := mem_join_self rfl
    have given : s!"{a}/{p}" ≠ "" := slashed_ne_empty a p
    have colon : has ':' s!"{a}/{p}" = true :=
      has_iff.mpr ((mem_join rfl).mpr (.inl ((Address.colon_mem_iff read).mpr rfl)))
    have value : addressValue s [s!"{a}/{p}"] = slashedAddress s.names s!"{a}/{p}" :=
      congrArg Clause.value (addressClause_sized slash)
    rw [value, slashedAddress_literal read literal]
    simp [Config.networkValue, given, colon, Address.beforeSlash_full? read]

def Symbols.Literal (s : Symbols) (text : String) : Prop :=
  s.object? .network text = none ∧ s.hasGroup .network text = false

instance (s : Symbols) (text : String) : Decidable (s.Literal text) :=
  inferInstanceAs (Decidable (_ ∧ _))

/-- The operands that a reference stands for. An object or a group may not have the text of an address
for its alias, and the alias of the group is that of no object and of no group of ports. -/
inductive Reference (lines : List String) : List String → List (List String) → Prop where
  | group {g : String} {operands : List (List String)} (nonempty : operands ≠ [])
      (body : Config.networkGroupBody g lines = operands.map ("network-object" :: ·))
      (members : ∀ o ∈ operands, Config.MemberOperand (Config.names lines) o)
      (literal : ∀ o ∈ operands, (Config.symbols lines).Literal (addressValue (Config.symbols lines) o))
      (object : (Config.symbols lines).object? .network g = none)
      (port : (Config.symbols lines).hasGroup .port g = false) :
      Reference lines ["object-group", g] operands
  | object {o : String} {definition operand : List String}
      (last : (Config.networkObjectBody o lines).getLast? = some definition)
      (address : Config.AddressDefinition (Config.names lines) definition operand)
      (literal : (Config.symbols lines).Literal (addressValue (Config.symbols lines) operand)) :
      Reference lines ["object", o] [operand]

/-- A reference that is read and expanded into addresses, which stand for themselves. -/
structure Expands (s : Symbols) (reference : List String) (operands : List (List String)) : Prop where
  plain : Plain s reference
  members : s.members .network (addressValue s reference) = operands.map (addressValue s)
  addressed : ∀ o ∈ operands, Plain s o
  itself : ∀ o ∈ operands, s.members .network (addressValue s o) = [addressValue s o]

theorem Addressed.itself (addressed : Addressed s operand) (literal : s.Literal (addressValue s operand)) :
    s.members .network (addressValue s operand) = [addressValue s operand] :=
  members_self addressed.given literal.1 literal.2

theorem Reference.expands {reference : List String} (stands : Reference lines reference operands) :
    Expands (Config.symbols lines) reference operands := by
  have named : (Config.symbols lines).names = Config.names lines := Config.names_symbols lines
  cases stands with
  | @group g operands nonempty body members literal object port =>
    rw [← named] at members
    have addressed (o : List String) (among : o ∈ operands) := (members o among).addressed
    obtain ⟨o, among⟩ := List.exists_mem_of_ne_nil operands nonempty
    have line : "network-object" :: o ∈ Config.networkGroupBody g lines := by
      rw [body]
      exact List.mem_map_of_mem among
    have given : g ≠ "" := Config.ne_empty_of_mem_body line
    have table : (Config.symbols lines).networkGroups.get? g =
        some (operands.map (addressValue (Config.symbols lines))) := by
      rw [Config.networkGroups_symbols nonempty body fun o among =>
        (addressed o among).notObject]
      refine congrArg some (List.map_congr_left fun o among => ?_)
      rw [← named]
      exact (addressed o among).member
    have defined : (Config.symbols lines).hasGroup .network g = true :=
      Option.isSome_iff_exists.mpr ⟨_, table⟩
    have value : addressValue (Config.symbols lines) ["object-group", g] = g := by
      simp [addressValue, addressClause, definedAddress, defined]
    refine ⟨⟨.group defined, rfl, fun _ => port⟩, ?_, fun o among => (addressed o among).plain,
      fun o among => (addressed o among).itself (literal o among)⟩
    rw [value]
    exact members_group given object table
  | @object o definition operand last address literal =>
    rw [← named] at address
    have addressed := address.addressed
    have given : o ≠ "" := Config.ne_empty_of_mem_body (List.mem_of_getLast? last)
    have table : (Config.symbols lines).object? .network o =
        some (addressValue (Config.symbols lines) operand) := by
      have entry : (Config.symbols lines).networkObjects.get? o =
          some (addressValue (Config.symbols lines) operand) := by
        rw [Config.networkObjects_symbols, last, Option.map_some]
        exact congrArg some address.value
      simp [Symbols.object?, Symbols.objects?, entry, addressed.given]
    have value : addressValue (Config.symbols lines) ["object", o] = o := by
      simp [addressValue, addressClause, definedAddress, table]
    refine ⟨⟨.object (by simp [table]), rfl, by simp⟩, ?_, ?_, ?_⟩
    · rw [value]
      exact members_object given table
    · simpa using addressed.plain
    · simpa using addressed.itself literal

theorem Expands.transparent {reference : List String} (expands : Expands s reference operands)
    (before : Front s (reference :: operands) rest front) (number : Nat) :
    (compile s [front ++ (reference ++ rest)] number).Perm
      (compile s (operands.map fun o => front ++ (o ++ rest)) number) := by
  obtain ⟨plain, members, addressed, itself⟩ := expands
  let record (o : List String) : Record := (extended s (front ++ (o ++ rest)) number).value
  have whole : compile s [front ++ (reference ++ rest)] number = flatten s Stage.all [record reference] := rfl
  have each : compile s (operands.map fun o => front ++ (o ++ rest)) number =
      flatten s Stage.all (operands.map record) := by
    rw [compile, List.map_map]
    rfl
  have values : ∀ v ∈ operands.map (addressValue s), s.members .network v = [v] := by simpa using itself
  rw [whole, each]
  rcases before.reads number (List.forall_mem_cons.mpr ⟨plain, addressed⟩) with
    ⟨r, source | destination⟩ | unaddressed
  · obtain ⟨first, others⟩ := List.forall_mem_cons.mp source
    have own : operands.map record =
        (operands.map (addressValue s)).map fun v => { r with source := v } := by simpa using others
    rw [show record reference = _ from first, own, flatten_source members values]
  · obtain ⟨first, others⟩ := List.forall_mem_cons.mp destination
    have own : operands.map record =
        (operands.map (addressValue s)).map fun v => { r with destination := v } := by simpa using others
    rw [show record reference = _ from first, own]
    exact flatten_destination members values
  · obtain ⟨first, others⟩ := List.forall_mem_cons.mp unaddressed
    rw [flatten_no_source first, flatten_map]
    have none : (operands.flatMap fun o => flatten s Stage.all [record o]) = [] :=
      List.flatMap_eq_nil_iff.mpr fun o among => flatten_no_source (others o among)
    rw [none]

/-- A reference to addresses is a shorthand: the entry that has it gives the same records, however often
each, as the entries that have the addresses in its place. -/
theorem references_transparent {reference : List String} (stands : Reference lines reference operands)
    (before : Front (Config.symbols lines) (reference :: operands) rest front) (number : Nat) :
    (compile (Config.symbols lines) [front ++ (reference ++ rest)] number).Perm
      (compile (Config.symbols lines) (operands.map fun o => front ++ (o ++ rest)) number) :=
  stands.expands.transparent before number

/-- A group in the destination, after a port of the source, and an object in the source. -/
theorem references_transparent_servers :
    let lines := ["name 10.1.1.1 web", "object network gate", " subnet 192.168.0.0 255.255.0.0", "!",
      "object-group network servers", " network-object host web", " network-object 10.2.0.0 255.255.0.0",
      " network-object 2001:db8::/32"]
    let s := Config.symbols lines
    let operands := [["host", "web"], ["10.2.0.0", "255.255.0.0"], ["2001:db8::/32"]]
    let front := ["access-list", "inside", "extended", "permit", "tcp", "object", "gate", "eq", "80"]
    Reference lines ["object-group", "servers"] operands ∧
      Front s (["object-group", "servers"] :: operands) ["eq", "443"] front ∧
      (compile s [front ++ (["object-group", "servers"] ++ ["eq", "443"])] 1).Perm
        (compile s (operands.map fun o => front ++ (o ++ ["eq", "443"])) 1) ∧
    Reference lines ["object", "gate"] [["192.168.0.0", "255.255.0.0"]] ∧
      Front s [["object", "gate"], ["192.168.0.0", "255.255.0.0"]] ["any"]
        ["access-list", "inside", "extended", "permit", "ip"] ∧
      (compile s [["access-list", "inside", "extended", "permit", "ip"] ++
          (["object", "gate"] ++ ["any"])] 1).Perm
        (compile s [["access-list", "inside", "extended", "permit", "ip"] ++
          (["192.168.0.0", "255.255.0.0"] ++ ["any"])] 1) := by
  intro lines s operands front
  have tables : Config.symbols lines = {
      names := ⟨[("web", ⟨"10.1.1.1", ""⟩)]⟩
      networkObjects := ⟨[("gate", "192.168.0.0/16")]⟩
      networkGroups := ⟨[("servers", ["10.1.1.1/32", "10.2.0.0/16",
        "2001:0db8:0000:0000:0000:0000:0000:0000/32"])]⟩ } := by decide +kernel
  have names : Config.names lines = ⟨[("web", ⟨"10.1.1.1", ""⟩)]⟩ := by
    rw [← Config.names_symbols, tables]
  have group : Reference lines ["object-group", "servers"] operands := by
    have named : Config.MemberOperand (Config.names lines) ["host", "web"] := .named (by rw [names]; decide)
    have masked : Config.MemberOperand (Config.names lines) ["10.2.0.0", "255.255.0.0"] := .masked
      (by decide +kernel : Family.v4.read? "10.2.0.0" = some 0x0a020000#32)
      (by decide +kernel : Family.v4.read? "255.255.0.0" = some 0xffff0000#32)
    have sized : Config.MemberOperand (Config.names lines) ["2001:db8::" ++ "/" ++ "32"] := .sized
      (by decide +kernel : Family.v6.read? "2001:db8::" = some 0x20010db8000000000000000000000000#128)
    refine .group (by decide) (by decide +kernel) ?_ ?_ ?_ ?_
    · simpa [operands] using ⟨named, masked, sized⟩
    all_goals
      rw [tables]
      decide +kernel
  have groupFront : Front s (["object-group", "servers"] :: operands) ["eq", "443"] front := by
    simp only [s]
    rw [tables]
    exact .port (.word (by decide)) (.object (by decide)) (.port (by decide) (by decide)
      (.compare (by decide) (.number (by decide))))
  have object : Reference lines ["object", "gate"] [["192.168.0.0", "255.255.0.0"]] := by
    have address : Config.AddressDefinition (Config.names lines) ["subnet", "192.168.0.0", "255.255.0.0"]
        ["192.168.0.0", "255.255.0.0"] := .masked
      (by decide +kernel : Family.v4.read? "192.168.0.0" = some 0xc0a80000#32)
      (by decide +kernel : Family.v4.read? "255.255.0.0" = some 0xffff0000#32) (by rw [names]; decide)
    refine .object (by decide +kernel) address ?_
    rw [tables]
    decide +kernel
  have objectFront : Front s [["object", "gate"], ["192.168.0.0", "255.255.0.0"]] ["any"]
      ["access-list", "inside", "extended", "permit", "ip"] := .source (.word (t := "ip") (by decide))
  exact ⟨group, groupFront, references_transparent group groupFront 1, object, objectFront,
    references_transparent object objectFront 1⟩

/-- Where the number of the protocol is the alias of a service, a host is passed over that has the alias of
a group of ports. -/
theorem port_group_displaces_host :
    let lines := ["name 10.1.1.1 web", "object service 6", " service tcp destination eq https",
      "object-group service web tcp", " port-object eq www", "object-group network servers",
      " network-object host web"]
    let s := Config.symbols lines
    let front := ["access-list", "inside", "extended", "permit", "tcp", "any"]
    Reference lines ["object-group", "servers"] [["host", "web"]] ∧
      ¬ (compile s [front ++ ["object-group", "servers"]] 1).Perm
          (compile s [front ++ ["host", "web"]] 1) := by
  intro lines s front
  have tables : Config.symbols lines = {
      names := ⟨[("web", ⟨"10.1.1.1", ""⟩)]⟩
      serviceObjects := ⟨[("6", "6/eq/any/eq/443")]⟩
      networkGroups := ⟨[("servers", ["10.1.1.1/32"])]⟩
      portGroups := ⟨[("web", ["eq/80"])]⟩ } := by decide +kernel
  have names : Config.names lines = ⟨[("web", ⟨"10.1.1.1", ""⟩)]⟩ := by
    rw [← Config.names_symbols, tables]
  constructor
  · have named : Config.MemberOperand (Config.names lines) ["host", "web"] := .named (by rw [names]; decide)
    refine .group (by decide) (by decide +kernel) (by simpa using named) ?_ ?_ ?_
    all_goals
      rw [tables]
      decide +kernel
  · simp only [s]
    rw [tables]
    decide +kernel

end AccessList
