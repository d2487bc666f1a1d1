import AccessList.Proofs.Config.Tables
import AccessList.Flatten.Stage
import Mathlib.Data.List.Forall2

/-! Where the clauses of a service come from. A protocol that is no service stands for itself alone and keeps the
clauses of its record. Any other is an indirection, and each record that the stage of services makes of it has
the clauses of its own descriptor and no others, unless the first value is the protocol itself: the stage looks at
this value only, and then all values keep what they do not carry. -/
namespace AccessList

open Config Text

variable {s : Symbols} {r d other : Record} {descriptor : String}

namespace Record

/-- The ports of a record are those of a descriptor of five parts, and the ICMP type and code those of one of three.
What the descriptor does not carry is as in another record. -/
structure TakesClauses (d : Record) (descriptor : String) (other : Record) : Prop where
  ports : ∀ protocol sourceOp source destinationOp destination,
    fields '/' descriptor = [protocol, sourceOp, source, destinationOp, destination] →
      d.sourcePort = s!"{sourceOp}/{source}" ∧ d.destinationPort = s!"{destinationOp}/{destination}"
  otherPorts : (fields '/' descriptor).length ≠ 5 →
    d.sourcePort = other.sourcePort ∧ d.destinationPort = other.destinationPort
  icmp : ∀ protocol type code, fields '/' descriptor = [protocol, type, code] → d.icmp = s!"{type}/{code}"
  otherIcmp : (fields '/' descriptor).length ≠ 3 → d.icmp = other.icmp

/-- A record that has no clauses where a descriptor carries none. -/
structure IsClearFor (r : Record) (descriptor : String) : Prop where
  ports : (fields '/' descriptor).length ≠ 5 →
    r.sourcePort = Field.notApplicable ∧ r.destinationPort = Field.notApplicable
  icmp : (fields '/' descriptor).length ≠ 3 → r.icmp = Field.notApplicable

theorem withService_takesClauses (r : Record) (descriptor : String) :
    (r.withService descriptor).TakesClauses descriptor r := by
  unfold withService
  split
  case h_1 parts | h_2 parts | h_3 parts => constructor <;> simp_all
  case h_4 one three five => constructor <;> simp_all

theorem TakesClauses.iff_clear (takes : d.TakesClauses descriptor r) :
    d.TakesClauses descriptor r.withoutClauses ↔ r.IsClearFor descriptor := by
  constructor
  · intro own
    refine ⟨fun length => ?_, fun length => ?_⟩
    · exact ⟨(takes.otherPorts length).1.symm.trans (own.otherPorts length).1,
        (takes.otherPorts length).2.symm.trans (own.otherPorts length).2⟩
    · exact (takes.otherIcmp length).symm.trans (own.otherIcmp length)
  · intro clear
    refine ⟨takes.ports, fun length => ?_, takes.icmp, fun length => ?_⟩
    · exact ⟨(takes.otherPorts length).1.trans (clear.ports length).1,
        (takes.otherPorts length).2.trans (clear.ports length).2⟩
    · exact (takes.otherIcmp length).trans (clear.icmp length)

end Record

/-- The stage makes one record for each value, in order, and looks at the first value to see what the record is
made from. -/
theorem forall₂_expand_service {p : String → Record → Prop} :
    List.Forall₂ p (s.members .service r.protocol) (Stage.service.expand s r) ↔
      ∀ descriptor ∈ s.members .service r.protocol, p descriptor
        ((if (s.members .service r.protocol).head? = some r.protocol then r else r.withoutClauses).withService
          descriptor) := by
  simp only [Stage.expand]
  rw [List.forall₂_map_right_iff, List.forall₂_same]

/-- Each record that the stage of services makes has the ports and the ICMP type and code of its own descriptor, and
none where this carries none, if and only if the first of the values is not the protocol itself or the record has
no clauses that a value would leave. Where the first value is the protocol itself, all values leave them. -/
theorem service_clauses_own_iff (s : Symbols) (r : Record) :
    let values := s.members .service r.protocol
    let records := Stage.service.expand s r
    (List.Forall₂ (fun descriptor d => d.TakesClauses descriptor r.withoutClauses) values records ↔
      values.head? ≠ some r.protocol ∨ ∀ descriptor ∈ values, r.IsClearFor descriptor) ∧
    (values.head? = some r.protocol →
      List.Forall₂ (fun descriptor d => d.TakesClauses descriptor r) values records) := by
  intro values records
  rw [forall₂_expand_service, forall₂_expand_service]
  by_cases first : values.head? = some r.protocol
  · have clear : (∀ descriptor ∈ values, (r.withService descriptor).TakesClauses descriptor r.withoutClauses) ↔
        ∀ descriptor ∈ values, r.IsClearFor descriptor :=
      forall₂_congr fun descriptor _ => (r.withService_takesClauses descriptor).iff_clear
    rw [if_pos first, clear]
    exact ⟨by simp [first], fun _ descriptor _ => r.withService_takesClauses descriptor⟩
  · have own : ∀ descriptor ∈ values,
        (r.withoutClauses.withService descriptor).TakesClauses descriptor r.withoutClauses :=
      fun descriptor _ => r.withoutClauses.withService_takesClauses descriptor
    rw [if_neg first]
    exact ⟨⟨fun _ => .inl first, fun _ => own⟩, fun same => absurd same first⟩

/-- A group of services that has its own alias for its first member: the ports and the ICMP type of the record stay in
the place of its alias, and the type also beside the ports of the second member. -/
theorem first_member_leaves_clauses :
    let s := symbols ["object-group service mail", " service-object object mail",
      " service-object tcp destination eq smtp"]
    let r : Record := {
      list := "inside", line := 1, type := "extended", action := "permit", protocol := "mail", source := "0/0"
      sourcePort := "eq/53", destination := "0/0", destinationPort := "eq/80", icmp := "8/0" }
    let mail : Record := r
    let smtp : Record := { r with protocol := "6", sourcePort := "eq/any", destinationPort := "eq/25" }
    s.members .service r.protocol = ["mail", "6/eq/any/eq/25"] ∧ s.members .service r.protocol ≠ [r.protocol] ∧
      Stage.service.expand s r = [mail, smtp] ∧
      ¬ mail.TakesClauses "mail" r.withoutClauses ∧ ¬ smtp.TakesClauses "6/eq/any/eq/25" r.withoutClauses := by
  intro s r mail smtp
  have values : s.members .service r.protocol = ["mail", "6/eq/any/eq/25"] := by decide +kernel
  refine ⟨values, by rw [values]; decide, by decide +kernel, fun own => ?_, fun own => ?_⟩
  · exact absurd (own.otherIcmp (by decide)) (by decide)
  · exact absurd (own.otherIcmp (by decide)) (by decide)

end AccessList
