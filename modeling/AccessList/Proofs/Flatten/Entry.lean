import AccessList.Flatten.Pipeline

/-! What flattening leaves of a record. Stages write the fields that may hold aliases; the list, the line and the state
of a record come through all of them, and so does its label. -/
namespace AccessList

variable {s : Symbols} {stage : Stage} {stages : List Stage} {r d e : Record} {records : List Record}

structure Record.KeepsEntry (r d : Record) : Prop where
  list : d.list = r.list
  line : d.line = r.line
  state : d.state = r.state

theorem Record.KeepsEntry.trans (first : r.KeepsEntry d) (second : d.KeepsEntry e) : r.KeepsEntry e :=
  ⟨second.list.trans first.list, second.line.trans first.line, second.state.trans first.state⟩

theorem Record.KeepsEntry.label (kept : r.KeepsEntry d) : d.label = r.label := by
  rw [Record.label, Record.label, kept.list, kept.line]

theorem keepsEntry_withService (r : Record) (descriptor : String) : r.KeepsEntry (r.withService descriptor) := by
  unfold Record.withService
  split <;> exact ⟨rfl, rfl, rfl⟩

theorem Stage.keepsEntry (made : d ∈ stage.expand s r) : r.KeepsEntry d := by
  cases stage with
  | network | port =>
    obtain ⟨_, _, inner⟩ := List.mem_flatMap.mp made
    obtain ⟨_, _, rfl⟩ := List.mem_map.mp inner
    exact ⟨rfl, rfl, rfl⟩
  | protocol | icmpType =>
    obtain ⟨_, _, rfl⟩ := List.mem_map.mp made
    exact ⟨rfl, rfl, rfl⟩
  | service =>
    obtain ⟨descriptor, _, rfl⟩ := List.mem_map.mp made
    have base : r.KeepsEntry
        (if (s.members .service r.protocol).head? = some r.protocol then r else r.withoutClauses) := by
      split <;> exact ⟨rfl, rfl, rfl⟩
    exact base.trans (keepsEntry_withService _ descriptor)

/-- A flattened record is one of those given, but for its aliases. -/
theorem exists_keepsEntry (made : d ∈ flatten s stages records) : ∃ r ∈ records, r.KeepsEntry d := by
  induction stages generalizing records with
  | nil => exact ⟨d, made, rfl, rfl, rfl⟩
  | cons stage stages ih =>
    obtain ⟨between, member, later⟩ := ih made
    obtain ⟨r, given, first⟩ := List.mem_flatMap.mp member
    exact ⟨r, given, (Stage.keepsEntry first).trans later⟩

theorem keepsEntry_of_mem_flatten (made : d ∈ flatten s stages [r]) : r.KeepsEntry d := by
  obtain ⟨given, member, kept⟩ := exists_keepsEntry made
  obtain rfl := List.mem_singleton.mp member
  exact kept

/-- Flattening writes no line number that is not given. -/
theorem writable_flatten (writable : ∀ r ∈ records, Numeral.isWritable r.line) :
    ∀ d ∈ flatten s stages records, Numeral.isWritable d.line := by
  intro d made
  obtain ⟨r, given, kept⟩ := exists_keepsEntry made
  rw [kept.line]
  exact writable r given

end AccessList
