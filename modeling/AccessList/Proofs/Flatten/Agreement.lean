import AccessList.Flatten.Flattener
import AccessList.Proofs.Flatten.Entry
import AccessList.Proofs.Flatten.Pulling

/-! The flattener agrees with flattening one stage after another. All records go through its chain, and
its stores keep what the stages before them make of the whole input. -/
namespace AccessList.Flattener

open Chain

variable {c : Setting} {link : Link} {links up : List Link} {traced : Bool} {title : String}
  {stage : Stage} {stages : List Stage}

/-- A chain before its first move: it can still deliver all that its links make of the input. -/
structure Ready (c : Setting) (links : List Link) : Prop where
  sound : Sound c links
  all : pending c links = total c links

theorem ready_fresh : Ready c [{ role := .source false }] :=
  ⟨rfl, by simp [pending, total, Queue.toList]⟩

theorem Ready.plain_expand (ready : Ready c links) : Ready c ({ role := .expand stage } :: links) := by
  obtain ⟨sound, all⟩ := ready
  exact ⟨sound, by simp [pending, total, all, Queue.toList]⟩

theorem Ready.store (ready : Ready c links) : Ready c ({ role := .store title {} } :: links) := by
  obtain ⟨sound, all⟩ := ready
  exact ⟨⟨sound, all⟩, by simp [pending, total, all, Queue.toList]⟩

theorem Ready.trace (ready : Ready c links) : Ready c ({ role := .trace } :: links) := by
  obtain ⟨sound, all⟩ := ready
  exact ⟨⟨sound, nofun⟩, by simp [pending, total, all, Queue.toList]⟩

theorem ready_source : Ready c (addLink traced [] (.source false)) := by
  cases traced with
  | true => exact ready_fresh.trace
  | false => exact ready_fresh

theorem Ready.expand (ready : Ready c links) : Ready c (addLink traced links (.expand stage)) := by
  cases traced with
  | true => exact ready.plain_expand.trace
  | false => exact ready.plain_expand

def staged (traced : Bool) (stages : List Stage) (links : List Link) : List Link :=
  (stages.flatMap stageRoles).foldl (addLink traced) links

theorem staged_cons : staged traced (stage :: stages) links =
    staged traced stages ((stageRoles stage).foldl (addLink traced) links) := by
  simp [staged, List.foldl_append]

theorem chain_eq : chain traced stages =
    addLink traced (staged traced stages (addLink traced [] (.source false))) (.store flattenedTitle {}) := by
  simp [chain, roles, staged, List.foldl_append]

theorem Ready.roles (ready : Ready c links) :
    Ready c ((stageRoles stage).foldl (addLink traced) links) := by
  cases stage with
  | network => exact ready.expand.store
  | protocol | service | port | icmpType => exact ready.expand

theorem Ready.staged (ready : Ready c links) : Ready c (staged traced stages links) := by
  induction stages generalizing links with
  | nil => exact ready
  | cons stage stages ih =>
    rw [staged_cons]
    exact ih ready.roles

theorem ready_chain : Ready c (chain traced stages) := by
  rw [chain_eq]
  exact ready_source.staged.store

theorem total_roles : total c ((stageRoles stage).foldl (addLink traced) links) =
    stage.expandAll c.symbols (total c links) := by
  cases stage <;> cases traced <;> rfl

theorem total_staged : total c (staged traced stages links) =
    flatten c.symbols stages (total c links) := by
  induction stages generalizing links with
  | nil => rfl
  | cons stage stages ih =>
    rw [staged_cons, ih, total_roles]
    rfl

theorem total_source : total c (addLink traced [] (.source false)) = c.records := by
  cases traced <;> rfl

theorem due_roles (other : stage ≠ .network) :
    due c title ((stageRoles stage).foldl (addLink traced) links) = due c title links := by
  cases stage with
  | network => exact absurd rfl other
  | protocol | service | port | icmpType => cases traced <;> rfl

theorem due_staged (others : .network ∉ stages) :
    due c title (staged traced stages links) = due c title links := by
  induction stages generalizing links with
  | nil => rfl
  | cons stage stages ih =>
    rw [List.mem_cons, not_or] at others
    rw [staged_cons, ih others.2, due_roles (Ne.symm others.1)]

theorem due_flattened : due c flattenedTitle (chain traced stages) =
    flatten c.symbols stages c.records := by
  have last : due c flattenedTitle (chain traced stages) =
      total c (staged traced stages (addLink traced [] (.source false))) := by
    rw [chain_eq]
    simp [addLink, due]
  rw [last, total_staged, total_source]

theorem enabled_eq (w : Switches) : ∃ others, .network ∉ others ∧
    w.enabled = if w.network then .network :: others else others := by
  refine ⟨[Stage.protocol, .service, .port, .icmpType].filter w.isOn, by simp, ?_⟩
  rw [Switches.enabled, Stage.all, List.filter_cons]
  rfl

theorem due_network (w : Switches) : due c networkTitle (chain traced w.enabled) =
    if w.network then Stage.expandAll c.symbols c.records .network else [] := by
  obtain ⟨others, noNetwork, enabled⟩ := enabled_eq w
  have differ : flattenedTitle ≠ networkTitle := by decide
  have last : due c networkTitle (chain traced w.enabled) =
      due c networkTitle (staged traced w.enabled (addLink traced [] (.source false))) := by
    rw [chain_eq]
    simp [addLink, due, differ]
  rw [last, enabled]
  split
  · rw [staged_cons, due_staged noNetwork]
    cases traced <;> simp [stageRoles, addLink, due, total, Stage.expandAll]
  · rw [due_staged noNetwork]
    cases traced <;> rfl

theorem stored_lookup (title : String) (links : List Link) :
    stored title links = ((storeLists links).lookup title).getD [] := by
  induction links with
  | nil => rfl
  | cons link up ih =>
    obtain ⟨role, queue, drained⟩ := link
    cases role with
    | store t kept =>
      simp only [stored, storeLists, List.findSome?_cons] at ih ⊢
      grind
    | _ => exact ih

/-- What a store keeps when nothing is left before it. -/
theorem stored_eq (sound : Sound c (link :: up)) (exhausted : Exhausted c up) :
    stored title (link :: up) = due c title (link :: up) := by
  rw [stored_lookup, storeLists_eq sound exhausted, due_eq]

theorem compile_keeps (f : Flattener) (earlier : List (List Record)) :
    let g := earlier.foldl (fun g records => (g.compile records).1) f
    g.symbols = f.symbols ∧ g.switches = f.switches ∧ g.tracing = f.tracing := by
  induction earlier generalizing f with
  | nil => exact ⟨rfl, rfl, rfl⟩
  | cons records earlier ih => exact ih (f.compile records).1

theorem run_chain : ∃ link up, (run c (chain traced stages)).1 = .ok () ∧
    (run c (chain traced stages)).2.1 = link :: up ∧ Exhausted c up ∧
    Moves c (chain traced stages) (run c (chain traced stages)).2.2 (link :: up) := by
  have sound : Sound c (chain traced stages) := ready_chain.sound
  cases links : chain traced stages with
  | nil =>
    rw [links] at sound
    exact sound.elim
  | cons link up =>
    rw [links] at sound
    obtain ⟨ok, link', up', events, after, exhausted, all, moves⟩ := runLink_moves #[] sound
    simp only [run]
    refine ⟨link', up', ok, after, exhausted, ?_⟩
    rw [all]
    exact moves

theorem stored_run :
    stored title (run c (chain traced stages)).2.1 = due c title (chain traced stages) := by
  obtain ⟨link, up, _, after, exhausted, moves⟩ := @run_chain c traced stages
  rw [after, stored_eq (moves.sound ready_chain.sound) exhausted, moves.due]

/-- What a run of the flattener leaves, by its symbols and its switches. -/
theorem flattened_compile (f : Flattener) (records : List Record) :
    (f.compile records).1.flattened = flatten f.symbols f.switches.enabled records :=
  stored_run.trans due_flattened

theorem network_compile (f : Flattener) (records : List Record) : (f.compile records).1.network =
    if f.switches.network then Stage.expandAll f.symbols records .network else [] :=
  stored_run.trans (due_network f.switches)

/-- The flattener always comes to an end without a fault, whatever it has compiled before and whether or
not it shows its stages. It gives the records that flattening stage after stage does, in the same
order, and keeps those of the network stage when this is enabled. The records given are values and stay
as they are: given once more, they come to the same. No line number is written on the way that is not one
of theirs, so that a record has a label and a line of its own wherever those given have. -/
theorem compile_agrees (f : Flattener) (earlier : List (List Record)) (records : List Record) :
    let g := earlier.foldl (fun g records => (g.compile records).1) f
    (run ⟨g.symbols, records, g.tracing.label⟩ (chain g.tracing.on g.switches.enabled)).1 = .ok () ∧
      (g.compile records).1.flattened = flatten f.symbols f.switches.enabled records ∧
      (g.compile records).1.network =
        (if f.switches.network then Stage.expandAll f.symbols records .network else []) ∧
      ((g.compile records).1.compile records).1.flattened = (g.compile records).1.flattened ∧
      ((g.compile records).1.compile records).1.network = (g.compile records).1.network ∧
      ((∀ r ∈ records, Numeral.isWritable r.line) →
        ∀ stages, ∀ r ∈ flatten f.symbols stages records, Numeral.isWritable r.line) := by
  intro g
  obtain ⟨symbols, switches, _⟩ := compile_keeps f earlier
  obtain ⟨_, _, ok, _⟩ := @run_chain ⟨g.symbols, records, g.tracing.label⟩ g.tracing.on g.switches.enabled
  refine ⟨ok, ?_, ?_, ?_, ?_, fun writable _ => writable_flatten writable⟩
  · rw [← symbols, ← switches, flattened_compile]
  · rw [← symbols, ← switches, network_compile]
  · rw [flattened_compile, flattened_compile]
    rfl
  · rw [network_compile, network_compile]
    rfl

end AccessList.Flattener
