import AccessList.Flatten.Chain

/-! What links do, one record at a time. A chain moves on when its source is fed, when a link takes one
record from the link before it, or when a trace finds the chain before it exhausted. -/
namespace AccessList.Chain

/-- Nothing is left in the chain, at any of its links. -/
def Exhausted (c : Setting) : List Link → Prop
  | [] => True
  | link :: up => pending c (link :: up) = [] ∧ Exhausted c up

/-- The oldest record is taken from the queue of the last link. -/
inductive Takes : List Link → Record → List Link → Prop where
  | pop {link up r queue} (oldest : link.queue.pop? = some (r, queue)) :
      Takes (link :: up) r ({ link with queue } :: up)

def drops (c : Setting) (stage : Stage) (r : Record) : List Event :=
  if (stage.expand c.symbols r).isEmpty then [.dropped stage r] else []

/-- What a trace shows when it has all records; it is silent when there are none. -/
def shows (c : Setting) (up : List Link) (queue : Queue Record) : List Event :=
  if queue.isEmpty then [] else [.traced (titleOf up) (queue.toList.filter (·.label = c.label))]

inductive Move (c : Setting) : List Link → List Event → List Link → Prop where
  | feed {queue drained up} :
      Move c (⟨.source false, queue, drained⟩ :: up) []
        (⟨.source true, queue.append c.records, drained⟩ :: up)
  | expand {stage queue drained up r up'} (taken : Takes up r up') :
      Move c (⟨.expand stage, queue, drained⟩ :: up) (drops c stage r)
        (⟨.expand stage, queue.append (stage.expand c.symbols r), drained⟩ :: up')
  | store {title kept queue drained up r up'} (taken : Takes up r up') :
      Move c (⟨.store title kept, queue, drained⟩ :: up) []
        (⟨.store title (kept.push r), queue.push r, drained⟩ :: up')
  | gather {queue up r up'} (taken : Takes up r up') :
      Move c (⟨.trace, queue, false⟩ :: up) [] (⟨.trace, queue.push r, false⟩ :: up')
  | close {queue up} (exhausted : Exhausted c up) :
      Move c (⟨.trace, queue, false⟩ :: up) (shows c up queue) (⟨.trace, queue, true⟩ :: up)
  | deeper {link up events up'} (move : Move c up events up') :
      Move c (link :: up) events (link :: up')

inductive Moves (c : Setting) : List Link → List Event → List Link → Prop where
  | none {links} : Moves c links [] links
  | next {before between after events events'} (move : Move c before events between)
      (rest : Moves c between events' after) : Moves c before (events ++ events') after

variable {c : Setting} {link : Link} {up up' before between after : List Link}
  {events events' : List Event} {r : Record}

namespace Moves

theorem single (move : Move c before events after) : Moves c before events after := by
  simpa using next move none

theorem trans (first : Moves c before events between) (rest : Moves c between events' after) :
    Moves c before (events ++ events') after := by
  induction first with
  | none => exact rest
  | next move _ ih =>
    rw [List.append_assoc]
    exact next move (ih rest)

theorem deeper (moves : Moves c up events up') : Moves c (link :: up) events (link :: up') := by
  induction moves with
  | none => exact none
  | next move _ ih => exact next (.deeper move) ih

end Moves

/-- The records that all links up to the last one make of the whole input. -/
def total (c : Setting) : List Link → List Record
  | [] => []
  | link :: up => match link.role with
    | .source _ => c.records
    | .expand stage => (total c up).flatMap (stage.expand c.symbols)
    | .store _ _ | .trace => total c up
    | .idle _ => []

/-- What the store of a title has to keep in the end. -/
def due (c : Setting) (title : String) : List Link → List Record
  | [] => []
  | link :: up => match link.role with
    | .store t _ => if t = title then total c up else due c title up
    | _ => due c title up

/-- What the stores have to keep in the end, each with its title, the last store first. -/
def dues (c : Setting) : List Link → List (String × List Record)
  | [] => []
  | link :: up => match link.role with
    | .store title _ => (title, total c up) :: dues c up
    | _ => dues c up

def storeLists : List Link → List (String × List Record)
  | [] => []
  | link :: up => match link.role with
    | .store title kept => (title, kept.toList) :: storeLists up
    | _ => storeLists up

theorem due_eq (c : Setting) (title : String) (links : List Link) :
    due c title links = ((dues c links).lookup title).getD [] := by
  induction links with
  | nil => rfl
  | cons link up ih =>
    obtain ⟨role, queue, drained⟩ := link
    cases role with
    | store t kept => simp only [due, dues, ih]; grind
    | _ => exact ih

/-- What holds of a chain between its moves. Its first link is the source, a store has what is no longer
pending before it, and a trace is drained only after all records before it. -/
def Sound (c : Setting) : List Link → Prop
  | [] => False
  | link :: up => match link.role with
    | .source _ => up = []
    | .expand _ => Sound c up
    | .store _ kept => Sound c up ∧ kept.toList ++ pending c up = total c up
    | .trace => Sound c up ∧ (link.drained = true → Exhausted c up)
    | .idle _ => False

/-- When nothing is left before the last link, the stores keep all that they have to. -/
theorem storeLists_eq (sound : Sound c (link :: up)) (exhausted : Exhausted c up) :
    storeLists (link :: up) = dues c (link :: up) := by
  -- The last link may still hold records; a store looks only at what is before it.
  induction up generalizing link with
  | nil =>
    obtain ⟨role, queue, drained⟩ := link
    cases role with
    | source fed => rfl
    | store => exact sound.1.elim
    | expand => exact sound.elim
    | trace => exact sound.1.elim
    | idle => exact sound.elim
  | cons link' up ih =>
    obtain ⟨role, queue, drained⟩ := link
    cases role with
    | source fed => cases sound
    | expand stage => exact ih sound exhausted.2
    | store title kept =>
      have all : kept.toList = total c (link' :: up) := by simpa [exhausted.1] using sound.2
      have earlier := ih sound.1 exhausted.2
      change (title, kept.toList) :: storeLists (link' :: up) =
        (title, total c (link' :: up)) :: dues c (link' :: up)
      rw [all, earlier]
    | trace => exact ih sound.1 exhausted.2
    | idle => exact sound.elim

theorem Takes.pending (taken : Takes up r up') : pending c up = r :: pending c up' := by
  cases taken with
  | pop oldest => exact pending_pop oldest

theorem Takes.total (taken : Takes up r up') : total c up' = total c up := by
  cases taken with
  | pop => rfl

theorem Takes.dues (taken : Takes up r up') : dues c up' = dues c up := by
  cases taken with
  | pop => rfl

theorem Takes.length (taken : Takes up r up') : up'.length = up.length := by
  cases taken with
  | pop => rfl

theorem Takes.sound (taken : Takes up r up') (sound : Sound c up) : Sound c up' := by
  cases taken with
  | pop => exact sound

theorem Takes.not_exhausted (taken : Takes up r up') : ¬ Exhausted c up := by
  cases taken with
  | pop oldest =>
    intro exhausted
    rw [Exhausted, pending_pop oldest] at exhausted
    cases exhausted.1

theorem Exhausted.pending (exhausted : Exhausted c up) : pending c up = [] := by
  cases up with
  | nil => rfl
  | cons link up => exact exhausted.1

/-- A move loses no record that can still be delivered, and brings none back. -/
theorem Move.pending (move : Move c before events after) : pending c after = pending c before := by
  induction move with
  | feed => simp [Chain.pending]
  | expand taken => simp [Chain.pending, taken.pending]
  | store taken => simp [Chain.pending, taken.pending]
  | gather taken => simp [Chain.pending, taken.pending]
  | close exhausted => simp [Chain.pending, exhausted.pending]
  | deeper _ ih => simp only [Chain.pending, ih]

theorem Move.total (move : Move c before events after) : total c after = total c before := by
  induction move with
  | feed | close => rfl
  | expand taken => simp only [Chain.total, taken.total]
  | store taken => simp only [Chain.total, taken.total]
  | gather taken => simp only [Chain.total, taken.total]
  | deeper _ ih => simp only [Chain.total, ih]

theorem Move.dues (move : Move c before events after) : dues c after = dues c before := by
  induction move with
  | feed | close => rfl
  | expand taken => simp only [Chain.dues, taken.dues]
  | store taken => simp only [Chain.dues, taken.dues, taken.total]
  | gather taken => simp only [Chain.dues, taken.dues]
  | deeper move ih => simp only [Chain.dues, ih, move.total]

theorem Move.length (move : Move c before events after) : after.length = before.length := by
  induction move with
  | feed | close => rfl
  | expand taken => simp [taken.length]
  | store taken => simp [taken.length]
  | gather taken => simp [taken.length]
  | deeper _ ih => simp [ih]

theorem Move.exhausted (move : Move c before events after) (exhausted : Exhausted c before) :
    Exhausted c after := by
  induction move with
  | feed => exact ⟨(Move.feed.pending).trans exhausted.1, exhausted.2⟩
  | expand taken => exact absurd exhausted.2 taken.not_exhausted
  | store taken => exact absurd exhausted.2 taken.not_exhausted
  | gather taken => exact absurd exhausted.2 taken.not_exhausted
  | close closed => exact ⟨((Move.close closed).pending).trans exhausted.1, exhausted.2⟩
  | deeper move ih => exact ⟨((Move.deeper move).pending).trans exhausted.1, ih exhausted.2⟩

/-- Each move keeps a chain sound. -/
theorem Move.sound (move : Move c before events after) (sound : Sound c before) : Sound c after := by
  induction move with
  | feed => exact sound
  | expand taken => exact taken.sound sound
  | store taken =>
    obtain ⟨soundBefore, kept⟩ := sound
    refine ⟨taken.sound soundBefore, ?_⟩
    rw [taken.pending] at kept
    rw [Queue.toList_push, taken.total, ← kept, List.append_assoc, List.singleton_append]
  | gather taken => exact ⟨taken.sound sound.1, nofun⟩
  | close exhausted => exact ⟨sound.1, fun _ => exhausted⟩
  | @deeper link up events up' move ih =>
    obtain ⟨role, queue, drained⟩ := link
    cases role with
    | source fed =>
      obtain rfl : up = [] := sound
      cases move
    | expand stage => exact ih sound
    | store title kept =>
      refine ⟨ih sound.1, ?_⟩
      rw [move.pending, move.total]
      exact sound.2
    | trace => exact ⟨ih sound.1, fun drained => move.exhausted (sound.2 drained)⟩
    | idle title => exact sound

theorem Moves.sound (moves : Moves c before events after) (sound : Sound c before) : Sound c after := by
  induction moves with
  | none => exact sound
  | next move _ ih => exact ih (move.sound sound)

theorem Moves.pending (moves : Moves c before events after) : pending c after = pending c before := by
  induction moves with
  | none => rfl
  | next move _ ih => exact ih.trans move.pending

theorem Moves.dues (moves : Moves c before events after) : dues c after = dues c before := by
  induction moves with
  | none => rfl
  | next move _ ih => exact ih.trans move.dues

theorem Moves.due {title : String} (moves : Moves c before events after) :
    due c title after = due c title before := by
  rw [due_eq, due_eq, moves.dues]

theorem Moves.length (moves : Moves c before events after) : after.length = before.length := by
  induction moves with
  | none => rfl
  | next move _ ih => exact ih.trans move.length

end AccessList.Chain
