import AccessList.Proofs.Config.Tables
import AccessList.Proofs.Entry.Reading
import AccessList.Proofs.Flatten.Order
import AccessList.Proofs.Service.Descriptor

/-! Groups of protocols are shorthands. What an entry says after its protocol is read by the traits of the
protocol alone, and a group of members with the same traits has these too. So an entry with the group gives the
records of the entries that have its members. -/
namespace AccessList

open Clause Entry

variable {s : Symbols} {r : Record} {p q group token : String} {members tokens rest : List String} {t : Traits}

/-- Where a protocol has clauses of its own, they hang on its traits and not on its name. -/
theorem sourceClause_of_traits (settled : Settled (s.traits p)) (same : s.traits q = s.traits p) :
    sourceClause s q rest = sourceClause s p rest := by
  simp only [sourceClause, sourcePort, same]
  rcases settled.clauses with closed | ports | messages
  · simp [closed]
  · simp [ports]
  · simp [messages]

theorem trailerClause_of_traits (settled : Settled (s.traits p)) (same : s.traits q = s.traits p) :
    trailerClause s q rest = trailerClause s p rest := by
  simp only [trailerClause, trailer, same]
  rcases settled.clauses with closed | ports | messages
  · simp [closed]
  · simp [ports]
  · simp [messages]

theorem withDestination_of_traits {head : Record} (settled : Settled (s.traits head.protocol))
    (same : s.traits q = s.traits head.protocol) :
    withDestination s { head with protocol := q } rest =
      { withDestination s head rest with protocol := q } := by
  simp only [withDestination, withTrailer, sourceClause_of_traits settled same,
    trailerClause_of_traits settled same]

theorem Traits.union_self (t : Traits) : t.union t = t := by simp [union]

theorem Traits.none_union (t : Traits) : Traits.none.union t = t := by simp [union, none]

theorem foldl_union (alike : ∀ p ∈ members, Traits.ofProtocol p = t) :
    members.foldl (fun t m => t.union (Traits.ofProtocol m)) t = t := by
  induction members with
  | nil => rfl
  | cons p members ih =>
    obtain ⟨first, others⟩ := List.forall_mem_cons.mp alike
    rw [List.foldl_cons, first, Traits.union_self]
    exact ih others

theorem traits_group (defined : s.protocolGroups.get? group = some members)
    (noObject : s.serviceObjects.contains group = false) (noService : s.serviceGroups.contains group = false)
    (nonempty : members ≠ []) (alike : ∀ p ∈ members, Traits.ofProtocol p = t) : s.traits group = t := by
  obtain ⟨p, others, rfl⟩ := List.exists_cons_of_ne_nil nonempty
  obtain ⟨first, others'⟩ := List.forall_mem_cons.mp alike
  have union : s.traits group =
      (p :: others).foldl (fun t m => t.union (Traits.ofProtocol m)) Traits.none := by
    simp [Symbols.traits, noObject, noService, defined]
  rw [union, List.foldl_cons, first, Traits.none_union, foldl_union others']

theorem ip_or_number (operand : ProtocolOperand s [token] p) : p = "ip" ∨ ∃ n < 256, p = toString n := by
  cases operand with
  | ip free => exact .inl rfl
  | name known free => exact .inr ⟨_, (protocol_names _ known).2.2.2, rfl⟩
  | number bound free => exact .inr ⟨_, bound, rfl⟩

theorem traits_ofProtocol (operand : ProtocolOperand s [token] p) :
    s.traits p = Traits.ofProtocol p ∧ Settled (s.traits p) := by
  have free := Service.unaliased operand
  rcases ip_or_number operand with rfl | ⟨n, bound, rfl⟩
  · have known : Traits.supported.lookup "ip" = some { ip := true } := rfl
    refine ⟨?_, settled_unaliased free (.inl rfl)⟩
    rw [traits_unaliased free, Traits.ofProtocol, known, Option.getD_some, Option.getD_some]
  · have number : Protocol.isNumber (toString n) = true := isNumber_of_lt bound
    refine ⟨?_, settled_unaliased free (.inr number)⟩
    rw [traits_unaliased free, Traits.ofProtocol, number, Numeral.isInteger_toString]
    rfl

theorem extended_of_traits {proto : List String} (clause : ProtocolClause s proto p)
    (operand : ProtocolOperand s [token] q) (same : s.traits p = Traits.ofProtocol q) (name action : String)
    (number : Nat) :
    (extended s (["access-list", name, "extended", action] ++ ([token] ++ rest)) number).value =
      { (extended s (["access-list", name, "extended", action] ++ (proto ++ rest)) number).value with
        protocol := q } := by
  obtain ⟨plain, written, _⟩ := Service.protocol_written operand
  obtain ⟨own, settled⟩ := traits_ofProtocol operand
  have word : ProtocolClause s [token] q := written ▸ .word plain
  have alike : s.traits q = s.traits p := own.trans same.symm
  rw [extended_value word, extended_value clause]
  exact @withDestination_of_traits s q _ (start name action p number (addressClause s rest).value)
    (alike ▸ settled) alike

open scoped List

/-- An alias in place of the protocol gives what its members give, for each pair of addresses anew. -/
theorem flatten_protocol {field : String} {values : List String} (members : s.members .protocol field = values)
    (itself : ∀ v ∈ values, s.members .protocol v = [v]) :
    (flatten s Stage.all [{ r with protocol := field }]).Perm
      (flatten s Stage.all (values.map fun v => { r with protocol := v })) := by
  let later : List Stage := [.network, .service, .port, .icmpType]
  have first (records : List Record) :
      (flatten s Stage.all records).Perm (flatten s later (Stage.expandAll s records .protocol)) :=
    flatten_swap (Stage.network_commute .protocol)
  have whole : Stage.expandAll s [{ r with protocol := field }] .protocol =
      values.map fun v => { r with protocol := v } := by
    simp [Stage.expandAll, Stage.expand, members]
  have each : Stage.expandAll s (values.map fun v => { r with protocol := v }) .protocol =
      values.map fun v => { r with protocol := v } := by
    rw [Stage.expandAll, List.flatMap_map, ← List.flatMap_pure_eq_map]
    exact List.flatMap_congr fun v among => by simp [Stage.expand, itself v among]
  calc flatten s Stage.all [{ r with protocol := field }]
    _ ~ flatten s later (values.map fun v => { r with protocol := v }) := whole ▸ first _
    _ ~ flatten s Stage.all (values.map fun v => { r with protocol := v }) := by
        have back := first (values.map fun v => { r with protocol := v })
        rw [each] at back
        exact back.symm

/-- A group of protocols is a shorthand where its members are all of one class. Each of them stands in an entry
as a token of its own, by its name or by its number, and whatever follows the protocol, the entries of the
members give the same records as the entry of the group, each as often. -/
theorem protocols_transparent {name action : String} (number : Nat) (given : group ≠ "")
    (defined : s.protocolGroups.get? group = some members)
    (noObject : s.serviceObjects.contains group = false) (noService : s.serviceGroups.contains group = false)
    (operands : members.Forall₂ (fun p token => ProtocolOperand s [token] p) tokens)
    (alike : ∀ p ∈ members, Traits.ofProtocol p = t) :
    (compile s [["access-list", name, "extended", action] ++ (["object-group", group] ++ rest)] number).Perm
      (compile s (tokens.map fun token =>
        ["access-list", name, "extended", action] ++ ([token] ++ rest)) number) := by
  let record (proto : List String) : Record :=
    (extended s (["access-list", name, "extended", action] ++ (proto ++ rest)) number).value
  have clause : ProtocolClause s ["object-group", group] group :=
    .group (.inl (Option.isSome_iff_exists.mpr ⟨members, defined⟩))
  obtain ⟨r, read⟩ : ∃ r, record ["object-group", group] = r := ⟨_, rfl⟩
  have own : { r with protocol := group } = r := by
    have protocol : r.protocol = group := by
      rw [← read, show record ["object-group", group] = _ from extended_value clause name action number rest]
      rfl
    rw [← protocol]
  have each : members.map (fun v => { r with protocol := v }) = tokens.map fun token => record [token] := by
    rw [← List.forall₂_eq_eq_eq, List.forall₂_map_left_iff, List.forall₂_map_right_iff]
    refine List.Forall₂.imp ?_ ((List.forall₂_and_left members tokens).mpr ⟨fun _ => id, operands⟩)
    rintro p token ⟨among, operand⟩
    have same : s.traits group = Traits.ofProtocol p := by
      rw [alike p among]
      exact traits_group defined noObject noService (List.ne_nil_of_mem among) alike
    rw [← read]
    exact (extended_of_traits clause operand same name action number).symm
  have itself : ∀ p ∈ members, s.members .protocol p = [p] := by
    refine ((List.forall₂_and_left members tokens).mp (operands.imp fun p token operand => ⟨?_, operand⟩)).1
    obtain ⟨_, _, written, _⟩ := Service.protocol_written operand
    exact members_self written rfl (Service.unaliased operand).protocolGroups
  have whole : compile s [["access-list", name, "extended", action] ++ (["object-group", group] ++ rest)]
      number = flatten s Stage.all [record ["object-group", group]] := rfl
  have others : compile s (tokens.map fun token =>
      ["access-list", name, "extended", action] ++ ([token] ++ rest)) number =
        flatten s Stage.all (tokens.map fun token => record [token]) := by
    rw [compile, List.map_map]
    rfl
  rw [whole, others, read, ← each, ← own]
  exact flatten_protocol (members_group given rfl defined) itself

/-- The protocols of a tunnel, one by its name and one by its number. -/
theorem protocols_transparent_tunnel :
    let lines := ["object-group protocol tunnel", " protocol-object esp", " protocol-object ah"]
    let s := Config.symbols lines
    let rest := ["host", "10.0.0.1", "any", "inactive"]
    s.protocolGroups.get? "tunnel" = some ["50", "51"] ∧
      s.serviceObjects.contains "tunnel" = false ∧ s.serviceGroups.contains "tunnel" = false ∧
      ["50", "51"].Forall₂ (fun p token => ProtocolOperand s [token] p) ["esp", "51"] ∧
      (∀ p ∈ ["50", "51"], Traits.ofProtocol p = { unsupported := true }) ∧
      (compile s [["access-list", "inside", "extended", "permit"] ++
          (["object-group", "tunnel"] ++ rest)] 1).Perm
        (compile s (["esp", "51"].map fun token =>
          ["access-list", "inside", "extended", "permit"] ++ ([token] ++ rest)) 1) := by
  intro lines s rest
  have tables : s = { protocolGroups := ⟨[("tunnel", ["50", "51"])]⟩ } := by decide +kernel
  have defined : s.protocolGroups.get? "tunnel" = some ["50", "51"] := by rw [tables]; rfl
  have noObject : s.serviceObjects.contains "tunnel" = false := by rw [tables]; rfl
  have noService : s.serviceGroups.contains "tunnel" = false := by rw [tables]; rfl
  have free : s.Unaliased "50" ∧ s.Unaliased "51" := by
    rw [tables]
    exact ⟨⟨rfl, rfl, rfl⟩, ⟨rfl, rfl, rfl⟩⟩
  have esp : ProtocolOperand s ["esp"] "50" := .name (n := 50) (by decide) free.1
  have ah : ProtocolOperand s ["51"] "51" := .number (n := 51) (by decide) free.2
  have operands : ["50", "51"].Forall₂ (fun p token => ProtocolOperand s [token] p) ["esp", "51"] :=
    .cons esp (.cons ah .nil)
  have alike : ∀ p ∈ ["50", "51"], Traits.ofProtocol p = { unsupported := true } := by decide
  exact ⟨defined, noObject, noService, operands, alike,
    protocols_transparent 1 (by decide) defined noObject noService operands alike⟩

/-- A number above those of protocols is classified in a group, but an entry of its own takes it for an unknown
protocol. A service hides a group of its alias, and a group of unknown protocols leaves its alias in a record. -/
theorem group_classified_otherwise :
    let s := Config.symbols ["object-group protocol large", " protocol-object 300",
      "object-group protocol web", " protocol-object tcp", "object service web",
      " service tcp destination eq https", "object-group protocol other", " protocol-object foo"]
    let front := ["access-list", "inside", "extended", "permit"]
    ∀ g ∈ [("large", "300"), ("web", "6"), ("other", "foo")],
      s.protocolGroups.get? g.1 = some [g.2] ∧ s.Unaliased g.2 ∧
        ¬ (compile s [front ++ (["object-group", g.1] ++ ["any", "any"])] 1).Perm
          (compile s [front ++ ([g.2] ++ ["any", "any"])] 1) := by
  intro s front
  have tables : s = {
      serviceObjects := ⟨[("web", "6/eq/any/eq/443")]⟩
      protocolGroups := ⟨[("large", ["300"]), ("web", ["6"]), ("other", ["foo"])]⟩ } := by decide +kernel
  rw [tables]
  refine List.forall_mem_cons.mpr ⟨⟨rfl, ⟨rfl, rfl, rfl⟩, ?_⟩, List.forall_mem_cons.mpr
    ⟨⟨rfl, ⟨rfl, rfl, rfl⟩, ?_⟩, List.forall_mem_singleton.mpr ⟨rfl, ⟨rfl, rfl, rfl⟩, ?_⟩⟩⟩
  all_goals decide +kernel

end AccessList
