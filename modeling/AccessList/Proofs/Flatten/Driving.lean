import AccessList.Proofs.Flatten.Agreement

/-! Chains that are driven by hand. Whichever links take a step, in whatever order, and whenever records are
taken from the last link, the records come out whole and in order, and the stores keep what went by. A pull
nests as deeply as the chain has links, and no bound is set to that depth. -/
namespace AccessList.Chain

/-- What stands in a chain after its source. -/
inductive Part where
  | expand (stage : Stage)
  | store (title : String)
  | trace

namespace Part

def role : Part → Role
  | expand stage => .expand stage
  | store title => .store title {}
  | trace => .trace

def stage? : Part → Option Stage
  | expand stage => some stage
  | _ => none

def stages (parts : List Part) : List Stage := parts.filterMap stage?

/-- What goes by each store, each with its title and the first of them first. -/
def snapshots (s : Symbols) : List Part → List Record → List (String × List Record)
  | [], _ => []
  | expand stage :: parts, records => snapshots s parts (stage.expandAll s records)
  | store title :: parts, records => (title, records) :: snapshots s parts records
  | trace :: parts, records => snapshots s parts records

def linked (parts : List Part) (up : List Link) : List Link :=
  parts.foldl (fun up part => { role := part.role } :: up) up

end Part

def assembled (parts : List Part) : List Link := Part.linked parts [{ role := .source false }]

/-- What is done to a chain from outside: a link takes a step, told by how many links come after it, or a
record is taken from the last link. -/
inductive Action where
  | step (later : Nat)
  | take

/-- The record that an action hands out, if any, and the chain after it. A step leaves the links after its
own as they are, and where there is no such link nothing happens. -/
def act (c : Setting) : Action → List Link → Except Fault (Option Record × List Link)
  | .take, links => (pull c links).outcome.map (·, (pull c links).after)
  | .step _, [] => .ok (none, [])
  | .step 0, link :: up =>
    let a := advance c link up
    a.outcome.map fun _ => (none, a.link :: a.up)
  | .step (later + 1), link :: up => (act c (.step later) up).map fun now => (now.1, link :: now.2)

/-- The records that a series of actions hands out, and the chain after it. -/
def drive (c : Setting) : List Action → List Link → Except Fault (List Record × List Link)
  | [], links => .ok ([], links)
  | action :: actions, links => do
    let now ← act c action links
    let rest ← drive c actions now.2
    return (now.1.toList ++ rest.1, rest.2)

open Flattener

variable {c : Setting} {link : Link} {links up before after : List Link} {parts : List Part}
  {handed handed' : List Record}

/-- What comes to a chain between two states: records are handed out, and none is lost. -/
structure Continues (c : Setting) (before : List Link) (handed : List Record) (after : List Link) : Prop where
  sound : Sound c after
  records : handed ++ pending c after = pending c before
  dues : dues c after = dues c before

theorem Continues.refl (sound : Sound c links) : Continues c links [] links := ⟨sound, rfl, rfl⟩

theorem Continues.trans {between : List Link} (first : Continues c before handed between)
    (rest : Continues c between handed' after) : Continues c before (handed ++ handed') after :=
  ⟨rest.sound, by rw [List.append_assoc, rest.records, first.records], rest.dues.trans first.dues⟩

theorem Moves.continues {events : List Event} (moves : Moves c before events after) (sound : Sound c before) :
    Continues c before [] after :=
  ⟨moves.sound sound, moves.pending, moves.dues⟩

theorem Takes.continues {r : Record} (taken : Takes before r after) (sound : Sound c before) :
    Continues c before [r] after :=
  ⟨taken.sound sound, taken.pending.symm, taken.dues⟩

theorem sound_before (sound : Sound c (link :: up)) : up = [] ∨ Sound c up := by
  obtain ⟨role, queue, drained⟩ := link
  cases role with
  | source fed => exact .inl sound
  | expand stage => exact .inr sound
  | store title kept => exact .inr sound.1
  | trace => exact .inr sound.1
  | idle title => exact sound.elim

/-- A step of any link ends without a fault and only moves records. -/
theorem step_moves (later : Nat) (sound : Sound c links) : ∃ after events,
    act c (.step later) links = .ok (none, after) ∧ Moves c links events after := by
  induction later generalizing links with
  | zero =>
    cases links with
    | nil => exact sound.elim
    | cons link up =>
      obtain ⟨moves, more, outcome, _⟩ := advance_fine sound
      exact ⟨_, _, by rw [act, outcome]; rfl, moves⟩
  | succ later ih =>
    cases links with
    | nil => exact sound.elim
    | cons link up =>
      rcases sound_before sound with rfl | soundUp
      · exact ⟨[link], [], rfl, .none⟩
      · obtain ⟨after, events, done, moves⟩ := ih soundUp
        exact ⟨link :: after, events, by rw [act, done]; rfl, moves.deeper⟩

/-- A pull ends without a fault as well, and hands out what it takes. -/
theorem pull_continues (sound : Sound c links) : ∃ given,
    (pull c links).outcome = .ok given ∧ Continues c links given.toList (pull c links).after := by
  have fine : (pull c links).Fine := pull_fine sound
  rw [Pull.Fine] at fine
  generalize (pull c links).outcome = outcome at fine ⊢
  cases fine with
  | @record _ between r _ moves taken =>
    have moved := moves.continues sound
    exact ⟨some r, rfl, moved.trans (taken.continues moved.sound)⟩
  | nothing moves exhausted => exact ⟨none, rfl, moves.continues sound⟩

theorem act_continues (action : Action) (sound : Sound c links) : ∃ given after,
    act c action links = .ok (given, after) ∧ Continues c links given.toList after := by
  cases action with
  | step later =>
    obtain ⟨after, events, done, moves⟩ := step_moves later sound
    exact ⟨none, after, done, moves.continues sound⟩
  | take =>
    obtain ⟨given, outcome, continues⟩ := pull_continues sound
    exact ⟨given, (pull c links).after, by rw [act, outcome]; rfl, continues⟩

theorem drive_continues (actions : List Action) (sound : Sound c links) : ∃ handed after,
    drive c actions links = .ok (handed, after) ∧ Continues c links handed after := by
  induction actions generalizing links with
  | nil => exact ⟨[], links, rfl, .refl sound⟩
  | cons action actions ih =>
    obtain ⟨given, between, done, first⟩ := act_continues action sound
    obtain ⟨handed, after, driven, rest⟩ := ih first.sound
    refine ⟨given.toList ++ handed, after, ?_, first.trans rest⟩
    simp [drive, done, driven, bind, Except.bind, pure, Except.pure]

/-- Draining takes what is pending, record by record, and leaves nothing at any link. -/
theorem drain_continues (sound : Sound c links) :
    let d := drain c (pull c) links #[] #[]
    d.fault = none ∧ Continues c links d.records.toList d.after ∧ Exhausted c d.after := by
  have works : Works c links.length (pull c) := fun _ sound _ => pull_fine sound
  obtain ⟨fault, exhausted, events, _, moves⟩ := drain_moves works {} #[] #[] sound rfl
  obtain ⟨records, rest⟩ := drain_records c (pull c) links #[] #[] fault
  have traced : Sound c (⟨.trace, {}, false⟩ :: links) := ⟨sound, nofun⟩
  have after := (moves.sound traced).1
  have dues := moves.dues
  refine ⟨fault, ⟨after, ?_, dues⟩, exhausted⟩
  rw [records, rest]
  simp

namespace Part

theorem ready_linked (parts : List Part) (ready : Ready c up) : Ready c (linked parts up) := by
  induction parts generalizing up with
  | nil => exact ready
  | cons part parts ih =>
    cases part with
    | expand stage => exact ih ready.plain_expand
    | store title => exact ih ready.store
    | trace => exact ih ready.trace

theorem total_linked (parts : List Part) :
    total c (linked parts up) = flatten c.symbols (stages parts) (total c up) := by
  induction parts generalizing up with
  | nil => rfl
  | cons part parts ih => cases part <;> exact ih

theorem dues_linked (parts : List Part) :
    dues c (linked parts up) = (snapshots c.symbols parts (total c up)).reverse ++ dues c up := by
  induction parts generalizing up with
  | nil => rfl
  | cons part parts ih =>
    cases part with
    | expand stage => exact ih
    | store title =>
      rw [snapshots, List.reverse_cons, List.append_assoc]
      exact ih
    | trace => exact ih

end Part

theorem pull_exhausted (sound : Sound c links) (exhausted : Exhausted c links) :
    (pull c links).outcome = .ok none := by
  obtain ⟨given, outcome, continues⟩ := pull_continues sound
  have empty := continues.records.trans exhausted.pending
  cases given with
  | none => exact outcome
  | some r => cases empty

theorem storeLists_exhausted (sound : Sound c links) (exhausted : Exhausted c links) :
    storeLists links = dues c links := by
  cases links with
  | nil => exact sound.elim
  | cons link up => exact storeLists_eq sound exhausted.2

/-- Whatever is done to a chain of stages, stores and traces before it is drained, nothing fails, and the
records handed out by then together with those that draining still gives are those that its stages make of
the input one after another, in order. Draining ends, nothing comes after it, and every store then keeps just
the records that the stages before it make. -/
theorem driven_delivers (c : Setting) (parts : List Part) (actions : List Action) :
    ∃ handed links, drive c actions (assembled parts) = .ok (handed, links) ∧
      let d := drain c (pull c) links #[] #[]
      d.fault = none ∧
        handed ++ d.records.toList = flatten c.symbols (Part.stages parts) c.records ∧
        (pull c d.after).outcome = .ok none ∧
        (storeLists d.after).reverse = Part.snapshots c.symbols parts c.records := by
  have ready : Ready c (assembled parts) := Part.ready_linked parts ready_fresh
  obtain ⟨handed, links, driven, before⟩ := drive_continues actions ready.sound
  obtain ⟨fault, after, exhausted⟩ := drain_continues before.sound
  have whole := before.trans after
  refine ⟨handed, links, driven, fault, ?_, pull_exhausted after.sound exhausted, ?_⟩
  · have records := whole.records
    rwa [exhausted.pending, List.append_nil, ready.all, assembled, Part.total_linked] at records
  · rw [storeLists_exhausted after.sound exhausted, whole.dues, assembled, Part.dues_linked,
      List.reverse_append, List.reverse_reverse]
    rfl

end AccessList.Chain
