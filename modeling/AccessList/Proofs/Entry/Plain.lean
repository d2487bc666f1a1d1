import AccessList.Proofs.Config.Plain
import AccessList.Proofs.Entry.Origin
import AccessList.Proofs.Record

/-! Records without commas. The texts of an entry are read from its words and from the symbols. -/
namespace AccessList

open Text Clause

variable {s : Symbols} {line tokens rest : List String} {p : String} {number : Nat} {r : Record}

def Record.IsPlain (r : Record) : Prop := ∀ text ∈ r.texts, AccessList.IsPlain text

theorem Record.isPlain_iff : r.IsPlain ↔
    AccessList.IsPlain r.list ∧ AccessList.IsPlain r.type ∧ AccessList.IsPlain r.action ∧
      AccessList.IsPlain r.protocol ∧ AccessList.IsPlain r.source ∧ AccessList.IsPlain r.sourcePort ∧
      AccessList.IsPlain r.destination ∧ AccessList.IsPlain r.destinationPort ∧ AccessList.IsPlain r.icmp ∧
      AccessList.IsPlain r.state := by
  simp [Record.IsPlain, Record.texts]

namespace Entry

theorem isPlain_address (named : ArePlainNames s.names) (plain : ArePlain rest) :
    IsPlain (address s line rest).value.value := by
  simp only [address]
  split
  · decide
  split
  · exact (plain.drop 1).token
  split
  · exact (by decide : IsPlain Field.undefined)
  · exact Clause.isPlain_address named plain

theorem isPlain_definedAddress (named : ArePlainNames s.names) (plain : ArePlain rest) :
    IsPlain (definedAddress s line rest).value.value := by
  have symbol : IsPlain (token (rest.drop 1)) := (plain.drop 1).token
  have absent : IsPlain Clause.absent.value := by decide
  simp only [definedAddress]
  split
  · exact isPlain_either symbol absent
  split
  · exact isPlain_either symbol absent
  · exact isPlain_address named plain

theorem isPlain_protocol (plain : ArePlain rest) : IsPlain (protocol s line rest).value.value := by
  have symbol : IsPlain (token (rest.drop 1)) := (plain.drop 1).token
  have absent : IsPlain Clause.absent.value := by decide
  simp only [protocol]
  split
  · exact isPlain_either symbol absent
  split
  · exact isPlain_either symbol absent
  · exact Clause.isPlain_protocol plain

theorem isPlain_port (family : PortFamily) (plain : ArePlain rest) :
    IsPlain (port s family line rest).value.value := by
  have group : IsPlain (token (rest.drop 1)) := (plain.drop 1).token
  have any : IsPlain Field.anyPort := by decide
  simp only [port, portOrGroup]
  split
  · exact group
  split
  · exact any
  split
  · exact isPlain_either any group
  · exact isPlain_either any (isPlain_portCondition plain)

theorem isPlain_definedIcmp (version : IcmpVersion) (plain : ArePlain rest) :
    IsPlain (definedIcmp s version rest).value := by
  simp only [definedIcmp, icmpOrGroup]
  split
  · exact isPlain_either (plain.drop 1).token (by decide)
  · exact isPlain_icmp version plain

theorem isPlain_serviceGroup (isGroup : String → Bool) (service : IsPlain p) (plain : ArePlain rest) :
    IsPlain (serviceGroup isGroup p rest).value := by
  simp only [serviceGroup]
  split
  · exact (plain.drop 1).token
  · exact (by decide : IsPlain "?").append service

theorem isPlain_sourcePort (protocol : IsPlain p) (plain : ArePlain rest) :
    IsPlain (sourcePort s p line rest).value.value := by
  simp only [sourcePort]
  split
  · exact (by decide : IsPlain Field.notApplicable)
  split
  · exact isPlain_port _ plain
  split
  · exact isPlain_serviceGroup _ protocol plain
  · exact protocol

theorem isPlain_trailer (protocol : IsPlain p) (plain : ArePlain rest) :
    IsPlain (trailer s p line rest).value.port ∧ IsPlain (trailer s p line rest).value.icmp := by
  have none : IsPlain Field.notApplicable := by decide
  simp only [trailer]
  split
  · exact ⟨none, none⟩
  split
  · exact ⟨none, isPlain_definedIcmp _ plain⟩
  split
  · exact ⟨isPlain_port _ plain, none⟩
  split
  · exact ⟨isPlain_serviceGroup _ protocol plain, isPlain_serviceGroup _ protocol plain⟩
  · exact ⟨protocol, protocol⟩

theorem isPlain_state (rest : List String) : IsPlain (state rest) := by
  unfold state
  split <;> decide

theorem isPlain_standard (named : ArePlainNames s.names) (plain : ArePlain tokens) :
    (standard s tokens number).value.IsPlain := by
  have none : IsPlain Field.notApplicable := by decide
  simp only [standard, Noted.value_bind, Noted.value_pure, Record.isPlain_iff]
  exact ⟨(plain.drop 1).token, (plain.drop 2).token, (plain.drop 3).token, by decide, by decide, none,
    isPlain_address named (plain.drop 4), none, none, isPlain_state _⟩

theorem isPlain_extended (named : ArePlainNames s.names) (plain : ArePlain tokens) :
    (extended s tokens number).value.IsPlain := by
  simp only [extended, Noted.value_bind, Noted.value_pure, Record.isPlain_iff]
  have rest := plain.drop 4
  have own : IsPlain (protocol s tokens (tokens.drop 4)).value.value := isPlain_protocol rest
  have afterProtocol := rest.drop (Entry.protocol s tokens (tokens.drop 4)).value.taken
  refine ⟨(plain.drop 1).token, (plain.drop 2).token, (plain.drop 3).token, own,
    isPlain_definedAddress named afterProtocol, isPlain_sourcePort own (afterProtocol.drop _),
    isPlain_definedAddress named ((afterProtocol.drop _).drop _), ?_, ?_, isPlain_state _⟩
  · exact (isPlain_trailer own (((afterProtocol.drop _).drop _).drop _)).1
  · exact (isPlain_trailer own (((afterProtocol.drop _).drop _).drop _)).2

end Entry

end AccessList
