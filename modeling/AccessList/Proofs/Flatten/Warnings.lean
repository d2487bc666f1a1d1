import AccessList.Proofs.Flatten.Agreement
import AccessList.Proofs.Flatten.Distribution
import Mathlib.Data.Multiset.MapFold

/-! What the flattener warns of. A chain warns of a record when a stage takes it and makes nothing of it, and
each move leaves what has been warned of and what is still to be warned of the same in sum. So a run warns
of what the stages lose one after another, in whatever order its links pull. -/
namespace AccessList

/-- A stage and a record of which it makes nothing. -/
structure Loss where
  stage : Stage
  record : Record

/-- The warning of a loss names the entry of the record and the stage. -/
def Loss.warning (loss : Loss) : Diagnostic where
  severity := .warning
  label := some s!"{loss.record.list}:{loss.record.line}"
  text := s!"ACL line {loss.record.list}:{loss.record.line}: " ++
    s!"{loss.stage.title}: nothing to expand, rule dropped"

/-- The records that a stage loses among those that come to it. -/
def Stage.losses (s : Symbols) (stage : Stage) (records : List Record) : List Loss :=
  (records.filter fun r => (stage.expand s r).isEmpty).map fun r => ⟨stage, r⟩

/-- What stages lose when each takes all that the one before it makes. -/
def losses (s : Symbols) : List Stage → List Record → List Loss
  | [], _ => []
  | stage :: stages, records => stage.losses s records ++ losses s stages (stage.expandAll s records)

variable {s : Symbols} {stage : Stage} {stages : List Stage} {r d : Record} {records : List Record}

theorem Stage.losses_cons : stage.losses s (r :: records) = stage.losses s [r] ++ stage.losses s records := by
  simp only [Stage.losses, List.filter_cons, List.filter_nil]
  split <;> rfl

theorem Stage.mem_losses : ⟨stage, r⟩ ∈ stage.losses s records ↔ r ∈ records ∧ stage.expand s r = [] := by
  simp [Stage.losses]

theorem exists_keepsEntry_of_loss {loss : Loss} (lost : loss ∈ losses s stages records) :
    ∃ r ∈ records, r.KeepsEntry loss.record := by
  induction stages generalizing records with
  | nil => cases lost
  | cons stage stages ih =>
    rcases List.mem_append.mp lost with now | later
    · obtain ⟨r, dropped, rfl⟩ := List.mem_map.mp now
      exact ⟨r, (List.mem_filter.mp dropped).1, rfl, rfl, rfl⟩
    · obtain ⟨between, member, kept⟩ := ih later
      obtain ⟨r, given, first⟩ := List.mem_flatMap.mp member
      exact ⟨r, given, (Stage.keepsEntry first).trans kept⟩

/-- A record that flattening makes nothing of is lost at some stage, or all that a stage makes of it is. -/
theorem exists_loss (member : r ∈ records) (none : flatten s stages [r] = []) :
    ∃ loss ∈ losses s stages records, loss.record.label = r.label := by
  induction stages generalizing r records with
  | nil => cases none
  | cons stage stages ih =>
    cases made : stage.expand s r with
    | nil => exact ⟨⟨stage, r⟩, List.mem_append_left _ (Stage.mem_losses.mpr ⟨member, made⟩), rfl⟩
    | cons d others =>
      have among : d ∈ stage.expand s r := by simp [made]
      have later : flatten s stages [d] = [] := by
        rw [flatten_cons, flatten_eq_flatMap, List.flatMap_eq_nil_iff] at none
        exact none d among
      obtain ⟨loss, lost, label⟩ := ih (List.mem_flatMap.mpr ⟨r, member, among⟩) later
      exact ⟨loss, List.mem_append_right _ lost, label.trans (Stage.keepsEntry among).label⟩

namespace Chain

variable {c : Setting} {link : Link} {up up' before after : List Link} {events events' : List Event}

def loss? : Event → Option Loss
  | .dropped stage r => some ⟨stage, r⟩
  | .traced .. => none

def lossesOf (events : List Event) : Multiset Loss := events.filterMap loss?

/-- The losses that are still to come when the last link takes all that is before it. -/
def outstanding (c : Setting) : List Link → Multiset Loss
  | [] => 0
  | link :: up => match link.role with
    | .expand stage => stage.losses c.symbols (pending c up) + outstanding c up
    | _ => outstanding c up

theorem lossesOf_append : lossesOf (events ++ events') = lossesOf events + lossesOf events' := by
  simp [lossesOf]

theorem lossesOf_drops : lossesOf (drops c stage r) = stage.losses c.symbols [r] := by
  unfold drops Stage.losses
  split
  · next none => simp [lossesOf, loss?, none]
  · next some => simp [lossesOf, some]

theorem lossesOf_shows {queue : Queue Record} : lossesOf (shows c up queue) = 0 := by
  unfold shows
  split <;> rfl

theorem Takes.outstanding (taken : Takes up r up') : outstanding c up' = outstanding c up := by
  cases taken with
  | pop => rfl

/-- What a move warns of is no longer outstanding after it. -/
theorem Move.losses (move : Move c before events after) :
    lossesOf events + outstanding c after = outstanding c before := by
  induction move with
  | feed => exact zero_add _
  | @expand stage queue drained up r up' taken =>
    calc lossesOf (drops c stage r) + (stage.losses c.symbols (Chain.pending c up') + outstanding c up')
      _ = stage.losses c.symbols (r :: Chain.pending c up') + outstanding c up' := by
          rw [lossesOf_drops, ← add_assoc, Multiset.coe_add, ← Stage.losses_cons]
      _ = stage.losses c.symbols (Chain.pending c up) + outstanding c up := by
          rw [taken.pending, taken.outstanding]
  | store taken => exact (zero_add _).trans taken.outstanding
  | gather taken => exact (zero_add _).trans taken.outstanding
  | close => rw [lossesOf_shows, zero_add]; rfl
  | @deeper link up events up' move ih =>
    obtain ⟨role, queue, drained⟩ := link
    cases role with
    | expand stage =>
      calc lossesOf events + (stage.losses c.symbols (Chain.pending c up') + outstanding c up')
        _ = stage.losses c.symbols (Chain.pending c up) + (lossesOf events + outstanding c up') := by
            rw [move.pending, add_left_comm]
        _ = stage.losses c.symbols (Chain.pending c up) + outstanding c up := by rw [ih]
    | _ => exact ih

theorem Moves.losses (moves : Moves c before events after) :
    lossesOf events + outstanding c after = outstanding c before := by
  induction moves with
  | none => exact zero_add _
  | next move _ ih => rw [lossesOf_append, add_assoc, ih, move.losses]

theorem outstanding_eq_zero (exhausted : Exhausted c up) : outstanding c (link :: up) = 0 := by
  obtain ⟨role, queue, drained⟩ := link
  induction up generalizing role queue drained with
  | nil => cases role <;> rfl
  | cons before up ih =>
    have earlier : outstanding c (before :: up) = 0 := ih exhausted.2 before.role before.queue before.drained
    cases role with
    | expand stage =>
      have nothing : stage.losses c.symbols (pending c (before :: up)) = [] := by rw [exhausted.1]; rfl
      simp only [outstanding, nothing, Multiset.coe_nil, zero_add]
      exact earlier
    | _ => exact earlier

end Chain

namespace Flattener

open Chain

variable {c : Setting} {links : List Link} {traced : Bool}

theorem outstanding_roles : outstanding c ((stageRoles stage).foldl (addLink traced) links) =
    stage.losses c.symbols (pending c links) + outstanding c links := by
  cases stage <;> cases traced <;> rfl

theorem outstanding_staged (ready : Ready c links) : outstanding c (staged traced stages links) =
    losses c.symbols stages (total c links) + outstanding c links := by
  induction stages generalizing links with
  | nil => exact (zero_add _).symm
  | cons stage stages ih =>
    rw [staged_cons, ih ready.roles, total_roles, outstanding_roles, ready.all, ← add_assoc, losses,
      ← Multiset.coe_add]
    congr 1
    exact add_comm _ _

theorem outstanding_chain : outstanding c (chain traced stages) = losses c.symbols stages c.records := by
  have source : outstanding c (addLink traced [] (.source false)) = 0 := by cases traced <;> rfl
  have last : outstanding c (chain traced stages) =
      outstanding c (staged traced stages (addLink traced [] (.source false))) := by
    rw [chain_eq]
    rfl
  rw [last, outstanding_staged ready_source, total_source, source, add_zero]

/-- A run warns of all that its stages lose, and of nothing else. -/
theorem losses_run : lossesOf (run c (chain traced stages)).2.2 = losses c.symbols stages c.records := by
  obtain ⟨link, up, _, _, exhausted, moves⟩ := @run_chain c traced stages
  have balance := moves.losses
  rw [outstanding_eq_zero exhausted, add_zero, outstanding_chain] at balance
  exact balance

theorem diagnosticOf_eq (event : Event) : diagnosticOf event = (loss? event).map Loss.warning := by
  cases event with
  | dropped stage r =>
    simp [diagnosticOf, loss?, Loss.warning, Diagnostic.about, Record.label, Stage.dropMessage,
      String.append_assoc, toString]
  | traced => rfl

def warned (f : Flattener) (records : List Record) : List Diagnostic :=
  (run ⟨f.symbols, records, f.tracing.label⟩
    (chain f.tracing.on f.switches.enabled)).2.2.filterMap diagnosticOf

theorem warned_perm (f : Flattener) (records : List Record) :
    (f.warned records).Perm ((losses f.symbols f.switches.enabled records).map Loss.warning) := by
  have lost := Multiset.coe_eq_coe.mp
    (@losses_run f.switches.enabled ⟨f.symbols, records, f.tracing.label⟩ f.tracing.on)
  have all : f.warned records = ((run ⟨f.symbols, records, f.tracing.label⟩
      (chain f.tracing.on f.switches.enabled)).2.2.filterMap loss?).map Loss.warning := by
    rw [List.map_filterMap]
    exact List.filterMap_congr fun event _ => diagnosticOf_eq event
  rw [all]
  exact lost.map _

/-- No record disappears without a warning. The flattener warns once for each record that comes to an enabled
stage and that this stage expands to nothing, and it warns of nothing else. So a record that adds nothing to
the flattened ones is named by a warning at least, and whether the stages are traced can only change the order
of the warnings. A warning writes no line number that is not one of those given. -/
theorem compile_warns (f : Flattener) (records : List Record) :
    let stages := f.switches.enabled
    let lost := losses f.symbols stages records
    ∃ added, (f.compile records).1.diagnostics = f.diagnostics ++ added ∧
      added.Perm (lost.map Loss.warning) ∧
      (f.compile records).1.flattened = records.flatMap (fun r => flatten f.symbols stages [r]) ∧
      (∀ r ∈ records, flatten f.symbols stages [r] = [] →
        ∃ d ∈ added, d.severity = .warning ∧ d.label = some r.label) ∧
      (lost = [] → added = []) ∧
      ((∀ r ∈ records, Numeral.isWritable r.line) → ∀ loss ∈ lost, Numeral.isWritable loss.record.line) ∧
      ∀ tracing, ∃ others, ({ f with tracing }.compile records).1.diagnostics = f.diagnostics ++ others ∧
        others.Perm added := by
  intro stages lost
  have perm : (f.warned records).Perm (lost.map Loss.warning) := f.warned_perm records
  refine ⟨f.warned records, rfl, perm, ?_, ?_, ?_, ?_, ?_⟩
  · rw [← flatten_eq_flatMap]
    exact stored_run.trans due_flattened
  · intro r member none
    obtain ⟨loss, among, label⟩ := exists_loss member none
    exact ⟨loss.warning, perm.mem_iff.mpr (List.mem_map_of_mem among), rfl, congrArg some label⟩
  · intro none
    rw [none, List.map_nil] at perm
    exact perm.eq_nil
  · intro writable loss among
    obtain ⟨r, given, kept⟩ := exists_keepsEntry_of_loss among
    rw [kept.line]
    exact writable r given
  · intro tracing
    exact ⟨{ f with tracing }.warned records, rfl, ({ f with tracing }.warned_perm records).trans perm.symm⟩

/-- A record with a group of two networks and an empty group of ports is lost twice at the port stage. -/
theorem compile_warns_closed :
    let f : Flattener := { symbols := { networkGroups := ⟨[("servers", ["10.1.0.0/16", "10.2.0.0/16"])]⟩
                                        portGroups := ⟨[("closed", [])]⟩ } }
    let r : Record := { list := "inside", line := 3, protocol := "6", source := "servers", sourcePort := "-/-",
                        destination := "0/0", destinationPort := "closed", icmp := "-/-" }
    let warning : Diagnostic := ⟨.warning, some "inside:3",
      "ACL line inside:3: Flatten port object-groups: nothing to expand, rule dropped"⟩
    (f.compile [r]).1.diagnostics = [warning, warning] := by
  intro f r warning
  obtain ⟨added, diagnostics, perm, _⟩ := compile_warns f [r]
  have lost : (losses f.symbols f.switches.enabled [r]).map Loss.warning = List.replicate 2 warning := by
    decide +kernel
  rw [lost] at perm
  rw [diagnostics, List.perm_replicate.mp perm]
  rfl

end Flattener
end AccessList
