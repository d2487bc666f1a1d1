import AccessList.Proofs.Config.Values
import AccessList.Proofs.Text.Fields

/-! Addresses of groups of networks that cannot be read. The value of such an operand is lost, and an empty
member stands in its place: in the group of its line, and in the groups that take this one. -/
namespace AccessList

open Text

variable {aliases : Table Name} {x t a p netmask symbol : String} {rest operand lines : List String}

namespace Clause

theorem host_eq_empty : host aliases x = "" ↔ aliases.get? x = none ∧ (Address.host? x = none ∨ x = "") := by
  unfold host
  cases known : aliases.get? x with
  | some name =>
    have given : (if has ':' name.address then s!"{name.address}/128" else s!"{name.address}/32") ≠ "" := by
      split <;> simp [toString]
    simp [given]
  | none =>
    have read : Address.host? x = some "" ↔ x = "" := by
      unfold Address.host?
      split
      · next colon =>
        have given : x ≠ "" := by
          rintro rfl
          cases colon
        simp [Address.beforeSlash, given, toString]
      split
      · next dotted =>
        have given : x ≠ "" := by
          rintro rfl
          revert dotted
          decide
        simp [given, toString]
      · simp
    cases found : Address.host? x with
    | none => simp
    | some block =>
      rw [found, Option.some.injEq] at read
      simp [read]

theorem slashedAddress_eq_empty (split : cut '/' t = some (a, p)) :
    slashedAddress aliases t = "" ↔ aliases.get? a = none ∧ Address.full? a = none := by
  simp only [slashedAddress, Address.beforeSlash, split, Option.getD_some]
  cases aliases.get? a with
  | some name => simp [toString]
  | none => cases Address.full? a <;> simp [toString]

theorem maskedAddress_eq_empty (given : netmask ≠ "") :
    maskedAddress aliases (t :: netmask :: rest) = "" ↔ Family.v4.read? netmask = none := by
  have mask : token ((t :: netmask :: rest).drop 1) = netmask := rfl
  simp only [maskedAddress, mask, String.isEmpty_iff, given, if_false, Address.withNetmask?,
    Address.netmaskLength?]
  cases Family.v4.read? netmask <;> simp [toString]

end Clause

namespace Config

open Clause

/-- Operands that are there and cannot be read: a host without an address or with a malformed one, a malformed
address before a prefix length, and a malformed netmask. -/
inductive IsUnreadable (aliases : Table Name) : List String → Prop where
  | host {rest : List String} (unnamed : aliases.get? (token rest) = none)
      (malformed : Address.host? (token rest) = none ∨ token rest = "") : IsUnreadable aliases ("host" :: rest)
  | sized {t a p : String} {rest : List String} (split : cut '/' t = some (a, p))
      (unnamed : aliases.get? a = none) (malformed : Address.full? a = none) : IsUnreadable aliases (t :: rest)
  | masked {t netmask : String} {rest : List String} (plain : t ∉ ["", "host", "object"])
      (unsized : cut '/' t = none) (given : netmask ≠ "") (malformed : Family.v4.read? netmask = none) :
      IsUnreadable aliases (t :: netmask :: rest)

theorem memberValue_host (aliases : Table Name) (rest : List String) :
    memberValue aliases ("host" :: rest) = host aliases (token rest) := by
  simp [memberValue, memberAddress, valueOr]

theorem memberValue_sized (aliases : Table Name) (rest : List String) (split : cut '/' t = some (a, p)) :
    memberValue aliases (t :: rest) = slashedAddress aliases t := by
  have slash : has '/' t = true := by
    rw [← Bool.not_eq_false, ← cut_eq_none, split]
    simp
  have other : t ≠ "" ∧ t ≠ "host" := by
    constructor <;> rintro rfl <;> cases slash
  simp [memberValue, memberAddress, valueOr, slash, other]

theorem memberValue_masked (aliases : Table Name) (rest : List String) (missing : t ≠ "") (notHost : t ≠ "host")
    (unsized : cut '/' t = none) (given : netmask ≠ "") :
    memberValue aliases (t :: netmask :: rest) = maskedAddress aliases (t :: netmask :: rest) := by
  simp [memberValue, memberAddress, valueOr, missing, notHost, cut_eq_none.mp unsized, given]

/-- The value of an operand that names no object is lost just where the operand cannot be read. -/
theorem memberValue_eq_empty :
    token operand ≠ "object" ∧ memberValue aliases operand = "" ↔ IsUnreadable aliases operand := by
  constructor
  · rintro ⟨literal, empty⟩
    cases operand with
    | nil => simp [memberValue, memberAddress, valueOr, absent, token, Field.undefined] at empty
    | cons t rest =>
      by_cases missing : t = ""
      · simp [memberValue, memberAddress, valueOr, absent, missing, Field.undefined] at empty
      by_cases isHost : t = "host"
      · subst isHost
        rw [memberValue_host, host_eq_empty] at empty
        exact .host empty.1 empty.2
      cases split : cut '/' t with
      | some parts =>
        rw [memberValue_sized aliases rest split, slashedAddress_eq_empty split] at empty
        exact .sized split empty.1 empty.2
      | none =>
        have unsized := cut_eq_none.mp split
        cases rest with
        | nil => simp [memberValue, memberAddress, valueOr, token, missing, isHost, unsized] at empty
        | cons netmask more =>
          by_cases alone : netmask = ""
          · simp [memberValue, memberAddress, valueOr, missing, isHost, unsized, alone] at empty
          · rw [memberValue_masked aliases more missing isHost split alone, maskedAddress_eq_empty alone] at empty
            exact .masked (by simpa using ⟨missing, isHost, literal⟩) split alone empty
  · intro unreadable
    cases unreadable with
    | host unnamed malformed =>
      rw [memberValue_host, host_eq_empty]
      exact ⟨by simp, unnamed, malformed⟩
    | @sized t a p rest split unnamed malformed =>
      have other : t ≠ "object" := by
        rintro rfl
        exact absurd (split.symm.trans (by decide : cut '/' "object" = none)) (by simp)
      rw [memberValue_sized _ _ split, slashedAddress_eq_empty split]
      exact ⟨other, unnamed, malformed⟩
    | masked plain unsized given malformed =>
      obtain ⟨missing, notHost, literal⟩ : _ ≠ "" ∧ _ ≠ "host" ∧ _ ≠ "object" := by simpa using plain
      rw [memberValue_masked _ _ missing notHost unsized given, maskedAddress_eq_empty given]
      exact ⟨literal, malformed⟩

def HasUnreadable (lines : List String) (symbol : String) : Prop :=
  ∃ operand, "network-object" :: operand ∈ networkGroupBody symbol lines ∧ IsUnreadable (names lines) operand

/-- The groups of networks that have such an address, or take a group that has one. -/
inductive TakesUnreadable (lines : List String) : String → Prop where
  | line {symbol : String} (unreadable : HasUnreadable lines symbol) : TakesUnreadable lines symbol
  | group {symbol ref : String} (line : ⟨symbol, .reference ref⟩ ∈ memberLines .network lines)
      (takes : TakesUnreadable lines ref) : TakesUnreadable lines symbol

theorem empty_value_iff : (∃ values, ⟨symbol, .values values⟩ ∈ memberLines .network lines ∧ "" ∈ values) ↔
    HasUnreadable lines symbol := by
  have values_network (tokens : List String) : (memberValues (symbols lines) .network tokens).value =
      [if token (tokens.drop 1) = "object" then objectMember (symbols lines) .network (tokens.drop 1)
        else memberValue (names lines) (tokens.drop 1)] := by
    simp only [memberValues, names_symbols, memberValue]
    split <;> rfl
  constructor
  · rintro ⟨values, line, empty⟩
    obtain ⟨e, among, read⟩ := List.mem_filterMap.mp line
    obtain ⟨h, tokens, sort, rfl, declared, own, mine, said⟩ := memberLine?_eq_some.mp read
    obtain ⟨keyword, given⟩ | ⟨_, reference⟩ := said
    · obtain rfl : values = _ := Member.values.inj given
      obtain rfl : sort = .network := by cases sort <;> simp_all [GroupSort.kind?]
      rw [values_network, List.mem_singleton] at empty
      split at empty
      · exact absurd empty.symm (objectMember_ne_empty _ _ _)
      next literal =>
      cases tokens with
      | nil => exact absurd keyword (by decide)
      | cons first operand =>
        obtain rfl : first = "network-object" := keyword
        have body : body? isNetworkGroup symbol (.body h ("network-object" :: operand)) =
            some ("network-object" :: operand) :=
          body?_eq_some.mpr ⟨h, rfl, by simp [isNetworkGroup, declared], mine, by simp⟩
        exact ⟨operand, List.mem_filterMap.mpr ⟨_, among, body⟩, memberValue_eq_empty.mp ⟨literal, empty.symm⟩⟩
    · cases reference
  · rintro ⟨operand, line, unreadable⟩
    obtain ⟨literal, empty⟩ := memberValue_eq_empty.mpr unreadable
    obtain ⟨e, among, body⟩ := List.mem_filterMap.mp line
    obtain ⟨h, rfl, network, mine, _⟩ := body?_eq_some.mp body
    have declared : groupSort? h = some .network := by simpa [isNetworkGroup] using network
    refine ⟨[""], List.mem_filterMap.mpr ⟨_, among, memberLine?_eq_some.mpr ?_⟩, by simp⟩
    refine ⟨h, _, .network, rfl, declared, rfl, mine, .inl ⟨rfl, ?_⟩⟩
    rw [values_network, List.drop_one, List.tail_cons, if_neg literal, empty]

/-- A group of networks has an empty member only if it takes an address that cannot be read, and has one if
such an address stands in it. -/
theorem empty_member (lines : List String) (symbol : String) :
    (∀ members, (symbols lines).networkGroups.get? symbol = some members → "" ∈ members →
      TakesUnreadable lines symbol) ∧
    (HasUnreadable lines symbol →
      ∃ members, (symbols lines).networkGroups.get? symbol = some members ∧ "" ∈ members) := by
  have whole : (symbols lines).networkGroups = tableOf (memberLines .network lines) := groups_symbols .network lines
  rw [whole]
  constructor
  · intro members found among
    have supplies := supplies_of_stored found "" among
    clear found among
    generalize empty : "" = value at supplies
    induction supplies with
    | value line among => exact .line (empty_value_iff.mp ⟨_, line, empty ▸ among⟩)
    | literal line => exact absurd empty.symm ((memberLine_given line).1 _ rfl)
    | group line _ ih => exact .group line (ih empty)
  · intro unreadable
    obtain ⟨values, line, empty⟩ := empty_value_iff.mpr unreadable
    obtain ⟨members, found, kept⟩ := values_stored line
    exact ⟨members, found, kept empty⟩

end Config
end AccessList
