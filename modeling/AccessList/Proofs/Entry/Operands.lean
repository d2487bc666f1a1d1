import AccessList.Proofs.Address.FullForm
import AccessList.Proofs.Entry.Grammar
import AccessList.Proofs.Numeral

/-! Addresses and protocols of an entry. Their readers take exactly the tokens of the operand, whatever
follows, and the traits of every protocol tell the clauses that an entry of it can have. -/
namespace AccessList.Entry

open Text Clause

variable {s : Symbols} {line tokens rest : List String} {value : String} {t : Traits}

/-- The words that a literal address cannot begin with. -/
def addressWords : List String :=
  ["host", "any", "any4", "any6", "object", "object-group"] ++ unsupportedOperands

def keywords : List String :=
  ["host", "any", "any4", "any6", "object", "object-group", "range"] ++ unsupportedOperands ++
    Port.comparisons

theorem addressWord_keyword : ∀ k ∈ addressWords, k ∈ keywords := by decide

theorem not_keyword_of_read {f : Family} {a : String} {address : Address f}
    (read : f.read? a = some address) : a ∉ keywords := by
  have foreign : ∀ k ∈ keywords, k.toList.any (!Address.Hextets.isSpellingChar ·) = true := by decide
  intro member
  obtain ⟨c, inside, other⟩ := List.any_eq_true.mp (foreign a member)
  exact Address.not_mem_of_spelling read (by simpa using other) inside

theorem not_keyword_of_slash {a : String} (slash : '/' ∈ a.toList) : a ∉ keywords := by
  have none : ∀ k ∈ keywords, '/' ∉ k.toList := by decide
  exact fun member => none a member slash

theorem start_of_not_keyword {a : String} (word : a ∉ keywords) :
    Port.isOperator a = false ∧ a ≠ "object-group" := by
  have operators : ∀ k ∈ "range" :: Port.comparisons, k ∈ keywords := by decide
  constructor
  · rw [← Bool.not_eq_true]
    intro operator
    refine word (operators a ?_)
    simpa [Port.isOperator, or_comm] using operator
  · rintro rfl
    exact word (by decide)

/-- Any other token is a literal address, with a slash or with a netmask after it. -/
theorem definedAddress_literal {a : String} (line rest : List String) (word : a ∉ addressWords)
    (given : a ≠ "") :
    definedAddress s line (a :: rest) = pure
      (if has '/' a then ⟨slashedAddress s.names a, 1⟩ else ⟨maskedAddress s.names (a :: rest), 2⟩) := by
  simp only [addressWords, unsupportedOperands, List.cons_append, List.nil_append, List.mem_cons,
    not_or] at word
  simp [definedAddress, address, unsupportedOperands, Clause.address, given, word]
  rfl

theorem definedAddress_host {a h : String} (literal : s.names.get? a = none)
    (written : Address.host? a = some h) :
    definedAddress s line ("host" :: a :: rest) = pure ⟨h, 2⟩ := by
  simp [definedAddress, address, unsupportedOperands, Clause.address, Clause.host, literal, written]

theorem host?_v4 {a : String} {address : Address .v4} (read : Family.v4.read? a = some address) :
    Address.host? a = some s!"{a}/32" := by
  have colon : has ':' a = false := by
    rw [← Bool.not_eq_true, has_iff, Address.colon_mem_iff read]
    decide
  simp [Address.host?, colon, Address.Dotted.looksDotted_of_read? read]

theorem host?_v6 {a : String} {address : Address .v6} (read : Family.v6.read? a = some address) :
    Address.host? a = some s!"{Address.Hextets.full address}/128" := by
  have colon : has ':' a = true := has_iff.mpr ((Address.colon_mem_iff read).mpr rfl)
  rw [Address.host?, if_pos colon, Address.slash_host _ rfl, Address.slash_host _ rfl,
    Address.beforeSlash_full? read]

theorem maskedAddress_literal {a m : String} {mask : Address .v4} (literal : s.names.get? a = none)
    (netmask : Family.v4.read? m = some mask) :
    maskedAddress s.names (a :: m :: rest) = s!"{a}/{Address.maskLength mask}" := by
  have given : m ≠ "" := by
    rintro rfl
    cases netmask
  simp [maskedAddress, literal, given, Address.withNetmask?, Address.netmaskLength?, netmask]

theorem slashedAddress_literal {a p : String} {address : Address .v6}
    (read : Family.v6.read? a = some address) (literal : s.names.get? a = none) :
    slashedAddress s.names s!"{a}/{p}" = s!"{Address.Hextets.full address}/{p}" := by
  have split : cut '/' s!"{a}/{p}" = some (a, p) :=
    cut_join rfl (Address.not_mem_of_spelling read (by decide))
  simp only [slashedAddress, split, Option.getD_some, literal, Address.beforeSlash_full? read]

theorem definedAddress_operand (operand : AddressOperand s tokens value) :
    definedAddress s line (tokens ++ rest) = pure ⟨value, tokens.length⟩ := by
  cases operand with
  | any | any4 | any6 => simp [definedAddress, address, unsupportedOperands, Clause.address]
  | host4 read literal => exact definedAddress_host literal (host?_v4 read)
  | host6 read literal => exact definedAddress_host literal (host?_v6 read)
  | @masked a m address mask read literal netmask =>
    have given : a ≠ "" := by
      rintro rfl
      cases read
    have slash : has '/' a = false := by
      simpa [has] using Address.not_mem_of_spelling read (c := '/') (by decide)
    have word : a ∉ addressWords := fun member => not_keyword_of_read read (addressWord_keyword a member)
    have literalAddress := @definedAddress_literal s a line (m :: rest) word given
    simpa [slash, maskedAddress_literal literal netmask] using literalAddress
  | @sized a p address read literal =>
    have slash : '/' ∈ s!"{a}/{p}".toList := mem_join_self rfl
    have given : s!"{a}/{p}" ≠ "" := by
      intro empty
      rw [empty] at slash
      cases slash
    have word : s!"{a}/{p}" ∉ addressWords :=
      fun member => not_keyword_of_slash slash (addressWord_keyword _ member)
    have literalAddress := @definedAddress_literal s _ line rest word given
    rw [if_pos (has_iff.mpr slash), slashedAddress_literal read literal] at literalAddress
    exact literalAddress
  | object defined => simp [definedAddress, defined]
  | group defined => simp [definedAddress, defined]

theorem protocol_names : ∀ e ∈ Protocol.names, (e.1 ≠ "" ∧ e.1 ≠ "object" ∧ e.1 ≠ "object-group") ∧
    Numeral.isInteger e.1 = false ∧ Protocol.canonical e.1 = toString e.2 ∧ e.2 < 256 := by
  decide

theorem number_word (n : Nat) :
    toString n ≠ "" ∧ toString n ≠ "object" ∧ toString n ≠ "object-group" := by
  have apart (word : String) (letters : Numeral.isInteger word = false) : toString n ≠ word := by
    rintro rfl
    rw [Numeral.isInteger_toString] at letters
    cases letters
  exact ⟨apart _ (by decide), apart _ (by decide), apart _ (by decide)⟩

theorem protocol_word {p : String} (word : p ≠ "" ∧ p ≠ "object" ∧ p ≠ "object-group") :
    protocol s line (p :: rest) =
      pure ⟨if Numeral.isInteger p then p else Protocol.canonical p, 1⟩ := by
  obtain ⟨given, object, group⟩ := word
  by_cases integer : Numeral.isInteger p = true <;>
    simp [protocol, Clause.protocol, within, given, object, group, integer]

theorem protocol_operand (operand : ProtocolOperand s tokens value) :
    protocol s line (tokens ++ rest) = pure ⟨value, tokens.length⟩ := by
  cases operand with
  | ip free => exact protocol_word (by decide)
  | name known free =>
    obtain ⟨word, letters, canonical, _⟩ := protocol_names _ known
    rw [List.singleton_append, protocol_word word, letters, canonical]
    rfl
  | number bound free =>
    rw [List.singleton_append, protocol_word (number_word _), if_pos (Numeral.isInteger_toString _)]
    rfl
  | group defined classified => simp [protocol, defined]

/-- Traits of which an entry's clauses can be told. -/
def Settled (t : Traits) : Prop := t ≠ Traits.none ∧ t.service = false

theorem Settled.clauses (settled : Settled t) :
    t.allowsPorts = false ∨ t.hasPorts = true ∨ t.isIcmp = true := by
  obtain ⟨some, service⟩ := settled
  rcases t with ⟨_ | _, _ | _, _ | _, _ | _, _ | _, _ | _, _ | _⟩ <;>
    simp_all [Traits.allowsPorts, Traits.hasPorts, Traits.isIcmp, Traits.none]

theorem isIcmp_of_hasPorts (opened : t.allowsPorts = true) (ports : t.hasPorts = true) :
    t.isIcmp = false := by
  simp_all [Traits.allowsPorts]

theorem settled_supported : ∀ e ∈ Traits.supported, e.2 ≠ Traits.none ∧ e.2.service = false := by decide

theorem mem_of_lookup {α : Type} {entries : List (String × α)} {key : String} {value : α}
    (found : entries.lookup key = some value) : (key, value) ∈ entries := by
  obtain ⟨before, after, rfl, _⟩ := List.lookup_eq_some_iff.mp found
  simp

theorem traits_unaliased {p : String} (free : s.Unaliased p) :
    s.traits p = (Traits.supported.lookup p).getD
      (if Protocol.isNumber p then { unsupported := true } else Traits.none) := by
  obtain ⟨objects, groups, protocols⟩ := free
  have single : s.protocolGroups.get? p = none := by simpa [Table.contains] using protocols
  simp [Symbols.traits, objects, groups, single]

theorem settled_unaliased {p : String} (free : s.Unaliased p)
    (known : p = "ip" ∨ Protocol.isNumber p = true) : Settled (s.traits p) := by
  rw [traits_unaliased free]
  cases found : Traits.supported.lookup p with
  | some t => exact settled_supported _ (mem_of_lookup found)
  | none =>
    rcases known with rfl | number
    · exact absurd found (by decide)
    · rw [Option.getD_none, if_pos number]
      exact ⟨by decide, rfl⟩

/-- An object of services hides what else has its alias. -/
theorem traits_object {service : String} (defined : (s.object? .service service).isSome = true) :
    s.traits service = { service := true } := by
  have known : s.serviceObjects.contains service = true := by
    rw [Table.contains]
    cases found : s.serviceObjects.get? service with
    | none => simp [Symbols.object?, Symbols.objects?, found] at defined
    | some => rfl
  simp [Symbols.traits, known]

theorem service_ofProtocol (p : String) : (Traits.ofProtocol p).service = false := by
  unfold Traits.ofProtocol
  cases found : Traits.supported.lookup p with
  | some t => exact (settled_supported _ (mem_of_lookup found)).2
  | none =>
    rw [Option.getD_none]
    split <;> rfl

theorem service_union (members : List String) (t : Traits) :
    (members.foldl (fun t m => t.union (Traits.ofProtocol m)) t).service = t.service := by
  induction members generalizing t with
  | nil => rfl
  | cons m members ih =>
    rw [List.foldl_cons, ih]
    simp [Traits.union, service_ofProtocol]

theorem isNumber_of_lt {n : Nat} (bound : n < 256) : Protocol.isNumber (toString n) = true :=
  List.any_eq_true.mpr ⟨n, List.mem_range.mpr bound, by simp⟩

theorem settled_operand (distinct : s.Distinct) (operand : ProtocolOperand s tokens value) :
    Settled (s.traits value) := by
  cases operand with
  | ip free => exact settled_unaliased free (.inl rfl)
  | name known free =>
    obtain ⟨_, _, _, bound⟩ := protocol_names _ known
    exact settled_unaliased free (.inr (isNumber_of_lt bound))
  | number bound free => exact settled_unaliased free (.inr (isNumber_of_lt bound))
  | group defined classified =>
    refine ⟨classified, ?_⟩
    obtain ⟨objects, groups⟩ := distinct.protocols value defined
    obtain ⟨members, found⟩ := Option.isSome_iff_exists.mp defined
    have group : s.protocolGroups.get? value = some members := found
    simp [Symbols.traits, objects, groups, group, service_union, Traits.none]

end AccessList.Entry
