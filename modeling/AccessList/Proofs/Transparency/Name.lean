import AccessList.Proofs.Config.Plain
import AccessList.Proofs.Entry.Operands

/-! Names are shorthands. The table keeps an address of version 6 in full, and an address that is written out is
brought into that form where it is read, so that an alias and any spelling of its address are read alike, in an
entry and in a group. -/
namespace AccessList

open Text Clause Entry

variable {f : Family} {names : Table Name} {symbol a : String} {address : Address f} {one other rest : List String}

namespace Config

/-- A line names the address, and the alias stands for it in the table. -/
structure IsNamed (names : Table Name) (symbol a : String) : Prop where
  line : ∃ line more, words line = "name" :: a :: symbol :: more
  entry : (names.get? symbol).map Name.address = some (nameAddress a)

theorem IsNamed.given (named : IsNamed names symbol a) : symbol ≠ "" := by
  obtain ⟨line, more, tokens⟩ := named.line
  have member : symbol ∈ words line := by simp [tokens]
  exact ne_empty_of_mem_words member

theorem nameLine?_eq_some {line : String} {name : Name} (read : nameLine? line = some (symbol, name)) :
    ∃ a more, words line = "name" :: a :: symbol :: more ∧ name.address = nameAddress a := by
  unfold nameLine? at read
  split at read
  · cases read
  split at read
  · next a own more tokens =>
    obtain ⟨rfl, rfl⟩ := Prod.mk.inj (Option.some.inj read)
    exact ⟨a, more, tokens, rfl⟩
  · cases read

/-- In a table that is read from a configuration every alias is named by a line. -/
theorem exists_isNamed {lines : List String} {name : Name} (found : (Config.names lines).get? symbol = some name) :
    ∃ a, IsNamed (Config.names lines) symbol a := by
  obtain ⟨line, _, read⟩ := List.mem_filterMap.mp (mem_ofList found)
  obtain ⟨a, more, tokens, entry⟩ := nameLine?_eq_some read
  exact ⟨a, ⟨line, more, tokens⟩, by rw [found, ← entry]; rfl⟩

theorem nameAddress_v4 {address : Address .v4} (read : Family.v4.read? a = some address) :
    nameAddress a = a ∧ has ':' a = false := by
  have colon : has ':' a = false := by
    rw [← Bool.not_eq_true, has_iff, Address.colon_mem_iff read]
    decide
  exact ⟨by simp [nameAddress, colon], colon⟩

theorem nameAddress_v6 {address : Address .v6} (read : Family.v6.read? a = some address) :
    nameAddress a = Address.Hextets.full address ∧ has ':' (nameAddress a) = true := by
  have full : nameAddress a = Address.Hextets.full address := by
    have colon : has ':' a = true := has_iff.mpr ((Address.colon_mem_iff read).mpr rfl)
    have spelled : Address.full? a = some (Address.Hextets.full address) := by
      rw [Address.full?, show Address.Hextets.read? a = some address from read]
      rfl
    simp [nameAddress, colon, spelled]
  refine ⟨full, ?_⟩
  rw [full, has_iff, Address.colon_mem_iff (f := .v6) (Address.Hextets.read?_full address)]

end Config

open Config

/-- An operand with an alias, and the same operand with the address in its place. -/
inductive AliasOperand (symbol a : String) : Family → List String → List String → Prop where
  | host {family : Family} : AliasOperand symbol a family ["host", symbol] ["host", a]
  | masked (mask : String) (given : mask ≠ "") : AliasOperand symbol a .v4 [symbol, mask] [a, mask]
  | sized (length : String) : AliasOperand symbol a .v6 [s!"{symbol}/{length}"] [s!"{a}/{length}"]

theorem host_named (named : IsNamed names symbol a) (read : f.read? a = some address)
    (literal : names.get? a = none) : Clause.host names symbol = Clause.host names a := by
  obtain ⟨name, found, entry⟩ := Option.map_eq_some_iff.mp named.entry
  simp only [Clause.host, found, literal, entry]
  cases f with
  | v4 =>
    obtain ⟨kept, colon⟩ := nameAddress_v4 read
    rw [kept, colon, host?_v4 read]
    rfl
  | v6 =>
    obtain ⟨full, colon⟩ := nameAddress_v6 read
    rw [if_pos colon, full, host?_v6 read]
    rfl

theorem masked_named {address : Address .v4} (named : IsNamed names symbol a)
    (read : Family.v4.read? a = some address) (literal : names.get? a = none) (rest : List String) :
    maskedAddress names (symbol :: rest) = maskedAddress names (a :: rest) := by
  simp only [maskedAddress, token_cons, named.entry, (nameAddress_v4 read).1, literal, Option.map_none,
    Option.getD_some, Option.getD_none, List.drop_succ_cons, List.drop_zero]

theorem sized_named {address : Address .v6} (named : IsNamed names symbol a)
    (read : Family.v6.read? a = some address) (literal : names.get? a = none) (noSlash : '/' ∉ symbol.toList)
    (length : String) : slashedAddress names s!"{symbol}/{length}" = slashedAddress names s!"{a}/{length}" := by
  have written : slashedAddress names s!"{a}/{length}" = s!"{Address.Hextets.full address}/{length}" :=
    slashedAddress_literal (s := { names }) read literal
  obtain ⟨name, found, entry⟩ := Option.map_eq_some_iff.mp named.entry
  have split : cut '/' s!"{symbol}/{length}" = some (symbol, length) := cut_join rfl noSlash
  rw [written, slashedAddress, split]
  simp only [Option.getD_some, found, entry, (nameAddress_v6 read).1]

theorem readers_masked (names : Table Name) {t mask : String} (given : t ≠ "")
    (word : t ∉ ["host", "any", "any4", "any6"]) (noSlash : '/' ∉ t.toList) (givenMask : mask ≠ "")
    (rest : List String) :
    Clause.address names (t :: mask :: rest) = ⟨maskedAddress names (t :: mask :: rest), 2⟩ ∧
      memberAddress names (t :: mask :: rest) = ⟨maskedAddress names (t :: mask :: rest), 2⟩ := by
  have slash : has '/' t = false := by rwa [← Bool.not_eq_true, has_iff]
  simp only [List.mem_cons, List.not_mem_nil, or_false, not_or] at word
  obtain ⟨host, any, any4, any6⟩ := word
  constructor
  · simp [Clause.address, given, host, any, any4, any6, slash]
  · simp [memberAddress, given, host, slash, givenMask]

theorem readers_slashed (names : Table Name) {t : String} (slash : '/' ∈ t.toList) (rest : List String) :
    Clause.address names (t :: rest) = ⟨slashedAddress names t, 1⟩ ∧
      memberAddress names (t :: rest) = ⟨slashedAddress names t, 1⟩ := by
  have differ {word : String} (plain : '/' ∉ word.toList) : t ≠ word := fun same => plain (same ▸ slash)
  have given : t ≠ "" := differ (by decide)
  have host : t ≠ "host" := differ (by decide)
  have any : t ≠ "any" := differ (by decide)
  have any4 : t ≠ "any4" := differ (by decide)
  have any6 : t ≠ "any6" := differ (by decide)
  have inside : has '/' t = true := has_iff.mpr slash
  constructor
  · simp [Clause.address, given, host, any, any4, any6, inside]
  · simp [memberAddress, given, host, inside]

/-- An alias can stand wherever its address can. Where the table has the address of a line for an alias, an operand
with the alias is read as the one with the address, at any place of a line: before a host, before any netmask, and
before any prefix length for an address of version 6 in whichever spelling. Both have the same value and take as
many tokens, in an entry and in a group. -/
theorem aliases_transparent (named : IsNamed names symbol a) (valid : f.read? a = some address)
    (literal : names.get? a = none) (noSlash : '/' ∉ symbol.toList)
    (word : symbol ∉ ["host", "any", "any4", "any6"]) (operand : AliasOperand symbol a f one other)
    (before after : List String) :
    Clause.address names ((before ++ (one ++ after)).drop before.length) =
        Clause.address names ((before ++ (other ++ after)).drop before.length) ∧
      memberAddress names ((before ++ (one ++ after)).drop before.length) =
        memberAddress names ((before ++ (other ++ after)).drop before.length) := by
  rw [List.drop_left, List.drop_left]
  cases operand with
  | host =>
    have same := host_named named valid literal
    constructor
    · simp [Clause.address, same]
    · simp [memberAddress, same]
  | masked mask givenMask =>
    have reserved : a ∉ ["host", "any", "any4", "any6"] := by
      intro member
      have among : ∀ k ∈ ["host", "any", "any4", "any6"], k ∈ keywords := by decide
      exact not_keyword_of_read valid (among a member)
    have given : a ≠ "" := by
      rintro rfl
      cases valid
    obtain ⟨entry, member⟩ := readers_masked names named.given word noSlash givenMask after
    obtain ⟨entry', member'⟩ := readers_masked names given reserved
      (Address.not_mem_of_spelling valid (by decide)) givenMask after
    have same := masked_named named valid literal (mask :: after)
    simp only [List.cons_append, List.nil_append]
    rw [entry, member, entry', member', same]
    exact ⟨rfl, rfl⟩
  | sized length =>
    have slash (t : String) : '/' ∈ s!"{t}/{length}".toList := mem_join_self rfl
    obtain ⟨entry, member⟩ := readers_slashed names (slash symbol) after
    obtain ⟨entry', member'⟩ := readers_slashed names (slash a) after
    have same := sized_named named valid literal noSlash length
    simp only [List.cons_append, List.nil_append]
    rw [entry, member, entry', member', same]
    exact ⟨rfl, rfl⟩

/-- An address of version 6 with a dotted tail and capital letters before a prefix length, and one of version 4
before a netmask. -/
theorem aliases_transparent_mapped :
    let names := Config.names ["name ::FFFF:10.1.2.3 mapped", "name 10.5.0.0 lan description offices"]
    let v6 := Clause.address names (["permit", "ip"] ++ (["mapped" ++ "/" ++ "96"] ++ ["any"]) |>.drop 2)
    let v4 := memberAddress names (["network-object"] ++ (["lan", "255.255.0.0"] ++ []) |>.drop 1)
    IsNamed names "mapped" "::FFFF:10.1.2.3" ∧ IsNamed names "lan" "10.5.0.0" ∧
      v6 = Clause.address names ["::FFFF:10.1.2.3" ++ "/" ++ "96", "any"] ∧
      v6 = ⟨"0000:0000:0000:0000:0000:ffff:0a01:0203/96", 1⟩ ∧
      v4 = memberAddress names ["10.5.0.0", "255.255.0.0"] ∧ v4 = ⟨"10.5.0.0/16", 2⟩ := by
  intro names v6 v4
  have mapped : IsNamed names "mapped" "::FFFF:10.1.2.3" :=
    ⟨⟨"name ::FFFF:10.1.2.3 mapped", [], by decide +kernel⟩, by decide +kernel⟩
  have lan : IsNamed names "lan" "10.5.0.0" :=
    ⟨⟨"name 10.5.0.0 lan description offices", ["description", "offices"], by decide +kernel⟩, by decide +kernel⟩
  have sized := aliases_transparent mapped
    (by decide +kernel : Family.v6.read? "::FFFF:10.1.2.3" = some 0xffff0a010203#128) (by decide +kernel)
    (by decide) (by decide) (.sized "96") ["permit", "ip"] ["any"]
  have masked := aliases_transparent lan (by decide +kernel : Family.v4.read? "10.5.0.0" = some 0x0a050000#32)
    (by decide +kernel) (by decide) (by decide) (.masked "255.255.0.0" (by decide))
    ["network-object"] []
  exact ⟨mapped, lan, sized.1, by decide +kernel, masked.2, by decide +kernel⟩

end AccessList
