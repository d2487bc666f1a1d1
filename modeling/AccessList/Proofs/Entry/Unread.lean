import AccessList.Entry.Listing
import AccessList.Proofs.Config.Definition

/-! Entries that do not mention an alias. The symbols are probed with the words of an entry, and for its traits
with the protocol that is read, which need not be one of its words. -/
namespace AccessList

open Clause

variable {s s' : Symbols} {kind : GroupKind} {symbol p : String} {line rest tokens : List String} {number : Nat}

/-- Symbols that differ in what an alias stands for at most. -/
structure Symbols.AgreeOff (s s' : Symbols) (symbol : String) : Prop where
  names : s'.names = s.names
  given : symbol ≠ ""
  same : ∀ kind key, key ≠ symbol → s.SameAt s' kind key

namespace Symbols.AgreeOff

theorem token_ne (agree : s.AgreeOff s' symbol) (free : symbol ∉ tokens) : token tokens ≠ symbol := by
  cases tokens with
  | nil => exact Ne.symm agree.given
  | cons t tokens =>
    rintro rfl
    exact free List.mem_cons_self

theorem hasGroup (agree : s.AgreeOff s' symbol) (kind : GroupKind) (free : symbol ∉ tokens) :
    s'.hasGroup kind (token tokens) = s.hasGroup kind (token tokens) :=
  (agree.same kind _ (agree.token_ne free)).hasGroup

theorem object? (agree : s.AgreeOff s' symbol) (kind : GroupKind) (free : symbol ∉ tokens) :
    s'.object? kind (token tokens) = s.object? kind (token tokens) :=
  (agree.same kind _ (agree.token_ne free)).object?

end Symbols.AgreeOff

theorem not_mem_drop (n : Nat) (free : symbol ∉ tokens) : symbol ∉ tokens.drop n :=
  fun member => free (List.mem_of_mem_drop member)

theorem traits_unread (service : s.SameAt s' .service p) (protocol : s.SameAt s' .protocol p) :
    s'.traits p = s.traits p := by
  have objects : s'.serviceObjects.contains p = s.serviceObjects.contains p :=
    congrArg Option.isSome (Option.some.inj service.objects)
  have groups : s'.serviceGroups.contains p = s.serviceGroups.contains p := service.hasGroup
  have protocols : s'.protocolGroups.get? p = s.protocolGroups.get? p := protocol.group
  simp only [Symbols.traits, objects, groups, protocols]

namespace Entry

theorem address_unread (agree : s.AgreeOff s' symbol) : address s' line rest = address s line rest := by
  simp only [address, agree.names]

theorem definedAddress_unread (agree : s.AgreeOff s' symbol) (free : symbol ∉ rest) :
    definedAddress s' line rest = definedAddress s line rest := by
  have second := not_mem_drop 1 free
  simp only [definedAddress, agree.hasGroup _ second, agree.object? _ second, address_unread agree]

theorem protocol_unread (agree : s.AgreeOff s' symbol) (free : symbol ∉ rest) :
    protocol s' line rest = protocol s line rest := by
  have second := not_mem_drop 1 free
  simp only [protocol, agree.hasGroup _ second, agree.object? _ second]

theorem sourcePort_unread (agree : s.AgreeOff s' symbol) (traits : s'.traits p = s.traits p)
    (free : symbol ∉ rest) : sourcePort s' p line rest = sourcePort s p line rest := by
  have second := not_mem_drop 1 free
  simp only [sourcePort, traits, port, portOrGroup, serviceGroup, agree.hasGroup _ second]

theorem trailer_unread (agree : s.AgreeOff s' symbol) (traits : s'.traits p = s.traits p) (free : symbol ∉ rest) :
    trailer s' p line rest = trailer s p line rest := by
  have second := not_mem_drop 1 free
  simp only [trailer, traits, port, portOrGroup, definedIcmp, serviceGroup, agree.hasGroup _ second]

theorem standard_unread (agree : s.AgreeOff s' symbol) (tokens : List String) (number : Nat) :
    standard s' tokens number = standard s tokens number := by
  simp only [standard, address_unread agree]

theorem extended_unread (agree : s.AgreeOff s' symbol) (free : symbol ∉ tokens)
    (classified : ∀ kind ∈ [GroupKind.service, .protocol],
      s.SameAt s' kind (extended s tokens number).value.protocol) :
    (extended s' tokens number).value = (extended s tokens number).value := by
  have after (n : Nat) : symbol ∉ tokens.drop n := not_mem_drop n free
  have traits : s'.traits (protocol s tokens (tokens.drop 4)).value.value =
      s.traits (protocol s tokens (tokens.drop 4)).value.value :=
    traits_unread (classified .service (by simp)) (classified .protocol (by simp))
  simp only [extended, Noted.value_bind, Noted.value_pure, protocol_unread agree (after 4), List.drop_drop,
    definedAddress_unread agree (after _), sourcePort_unread agree traits (after _),
    trailer_unread agree traits (after _)]

end Entry

end AccessList
