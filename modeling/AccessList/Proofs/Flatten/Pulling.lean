import AccessList.Proofs.Flatten.Moves

/-! Pulling as moves. In a sound chain every pull and every step of a link is a series of moves without a
fault, and one that says that no more will come leaves nothing in the chain. -/
namespace AccessList.Chain

/-- The ways in which a pull can end: moves until there is a record to take, or until there is nothing
left in the chain. -/
inductive Delivers (c : Setting) (before : List Link) :
    Except Fault (Option Record) → List Link → List Event → Prop where
  | record {events between r after} (moves : Moves c before events between)
      (taken : Takes between r after) : Delivers c before (.ok (some r)) after events
  | nothing {events after} (moves : Moves c before events after) (exhausted : Exhausted c after) :
      Delivers c before (.ok none) after events

def Pull.Fine {c : Setting} {before : List Link} (p : Pull c before) : Prop :=
  Delivers c before p.outcome p.after p.events

/-- What the pulls of a link rely on: those from the chain before it, of this length, are fine. -/
def Works (c : Setting) (depth : Nat) (next : Puller c) : Prop :=
  ∀ up, Sound c up → up.length = depth → (next up).Fine

/-- How a step of a link ends. If it says that no more will come, the chain before it is exhausted. -/
structure Advance.Fine (c : Setting) (before : List Link) (a : Advance) : Prop where
  moves : Moves c before a.events (a.link :: a.up)
  outcome : ∃ more, a.outcome = .ok more ∧ (more = false → Exhausted c a.up)

variable {c : Setting} {link : Link} {up before between after : List Link}
  {events events' : List Event} {depth : Nat} {next : Puller c}

theorem Delivers.after_moves {outcome : Except Fault (Option Record)}
    (moves : Moves c before events between) (delivers : Delivers c between outcome after events') :
    Delivers c before outcome after (events ++ events') := by
  cases delivers with
  | record rest taken => exact .record (moves.trans rest) taken
  | nothing rest exhausted => exact .nothing (moves.trans rest) exhausted

theorem Works.pull (works : Works c depth next) (sound : Sound c up) (length : up.length = depth) :
    (∃ r between, (next up).outcome = .ok (some r) ∧ Moves c up (next up).events between ∧
      Takes between r (next up).after) ∨
    ((next up).outcome = .ok none ∧ Moves c up (next up).events (next up).after ∧
      Exhausted c (next up).after) := by
  have fine : (next up).Fine := works up sound length
  rw [Pull.Fine] at fine
  generalize (next up).outcome = outcome at fine ⊢
  cases fine with
  | record moves taken => exact .inl ⟨_, _, rfl, moves, taken⟩
  | nothing moves exhausted => exact .inr ⟨rfl, moves, exhausted⟩

/-- A trace gathers record by record until the chain before it is exhausted. -/
theorem drain_moves (works : Works c depth next) (queue : Queue Record) (records : Array Record)
    (before : Array Event) (sound : Sound c up) (length : up.length = depth) :
    (drain c next up records before).fault = none ∧
      Exhausted c (drain c next up records before).after ∧
      ∃ events, (drain c next up records before).events.toList = before.toList ++ events ∧
        Moves c (⟨.trace, queue.append records.toList, false⟩ :: up) events
          (⟨.trace, queue.append (drain c next up records before).records.toList, false⟩ ::
            (drain c next up records before).after) := by
  fun_induction drain c next up records before with
  | case1 up records before p r outcome ih =>
    have fine : p.Fine := works up sound length
    rw [Pull.Fine, outcome] at fine
    cases fine with
    | record moves taken =>
      obtain ⟨fault, exhausted, events, all, rest⟩ :=
        ih (taken.sound (moves.sound sound)) (taken.length.trans (moves.length.trans length))
      have gathered : Move c (⟨.trace, queue.append records.toList, false⟩ :: _) []
          (⟨.trace, (queue.append records.toList).push r, false⟩ :: p.after) := .gather taken
      have pushed : (queue.append records.toList).push r = queue.append (records.push r).toList := by
        simp [Queue.append, List.foldl_append]
      rw [pushed] at gathered
      refine ⟨fault, exhausted, p.events ++ events, by rw [all]; simp, ?_⟩
      exact moves.deeper.trans (.next gathered rest)
  | case2 up records before p outcome =>
    have fine : p.Fine := works up sound length
    rw [Pull.Fine, outcome] at fine
    cases fine with
    | nothing moves exhausted => exact ⟨rfl, exhausted, p.events, by simp, moves.deeper⟩
  | case3 up records before p fault outcome =>
    have fine : p.Fine := works up sound length
    rw [Pull.Fine, outcome] at fine
    cases fine

theorem slurp_moves (works : Works c depth next) (queue : Queue Record) (sound : Sound c up)
    (length : up.length = depth) : ∃ d : Drain,
      slurp c next ⟨.trace, queue, false⟩ up =
        ⟨.ok (!(queue.append d.records.toList).isEmpty), ⟨.trace, queue.append d.records.toList, true⟩,
          d.after, d.events.toList⟩ ∧
      Exhausted c d.after ∧
      Moves c (⟨.trace, queue, false⟩ :: up) d.events.toList
        (⟨.trace, queue.append d.records.toList, false⟩ :: d.after) := by
  obtain ⟨fault, exhausted, events, all, moves⟩ :=
    drain_moves works queue #[] #[] sound length
  refine ⟨drain c next up #[] #[], by simp [slurp, fault], exhausted, ?_⟩
  rw [all]
  simpa [Queue.append] using moves

theorem advanceWith_moves (works : Works c depth next) (sound : Sound c (link :: up))
    (length : up.length = depth) : (advanceWith c next link up).Fine c (link :: up) := by
  obtain ⟨role, queue, drained⟩ := link
  cases role with
  | source fed =>
    obtain rfl : up = [] := sound
    cases fed with
    | true => exact ⟨.none, false, rfl, fun _ => trivial⟩
    | false => exact ⟨.single .feed, _, rfl, fun _ => trivial⟩
  | expand stage =>
    have soundUp : Sound c up := sound
    rcases works.pull soundUp length with
      ⟨r, between, outcome, moves, taken⟩ | ⟨outcome, moves, exhausted⟩ <;> simp only [advanceWith, outcome]
    · exact ⟨moves.deeper.trans (.single (.expand taken)), true, rfl, by simp⟩
    · exact ⟨moves.deeper, false, rfl, fun _ => exhausted⟩
  | store title kept =>
    rcases works.pull sound.1 length with
      ⟨r, between, outcome, moves, taken⟩ | ⟨outcome, moves, exhausted⟩ <;> simp only [advanceWith, outcome]
    · have stored : Move c (⟨.store title kept, queue, drained⟩ :: between) []
          (⟨.store title (kept.push r), queue.push r, drained⟩ :: (next up).after) := .store taken
      have all := moves.deeper.trans (.single stored)
      rw [List.append_nil] at all
      exact ⟨all, true, rfl, by simp⟩
    · exact ⟨moves.deeper, false, rfl, fun _ => exhausted⟩
  | trace =>
    cases drained with
    | true => exact ⟨.none, false, rfl, fun _ => sound.2 rfl⟩
    | false =>
      obtain ⟨d, slurped, exhausted, moves⟩ := slurp_moves works queue sound.1 length
      have closed := moves.trans (.single (.close exhausted))
      simp only [advanceWith, slurped]
      cases empty : (queue.append d.records.toList).isEmpty with
      | true =>
        simp only [shows, empty, ↓reduceIte, List.append_nil] at closed
        exact ⟨closed, false, rfl, fun _ => exhausted⟩
      | false =>
        simp only [shows, empty, Bool.false_eq_true, ↓reduceIte] at closed
        exact ⟨closed, true, rfl, by simp⟩
  | idle title => exact sound.elim

theorem Advance.Fine.keeps {a : Advance} (fine : a.Fine c (link :: up)) (sound : Sound c (link :: up)) :
    Sound c (a.link :: a.up) ∧ a.up.length = up.length :=
  ⟨fine.moves.sound sound, Nat.succ.inj fine.moves.length⟩

/-- Steps until there is a record to take, or nothing more comes. -/
theorem pump_fine (works : Works c depth next) (sound : Sound c (link :: up))
    (length : up.length = depth) : (pump c next link up).Fine := by
  fun_induction pump c next link up with
  | case1 link up r queue oldest => exact .record .none (.pop oldest)
  | case2 link up empty a fault outcome =>
    obtain ⟨more, answer, _⟩ := (advanceWith_moves works sound length).outcome
    cases outcome.symm.trans answer
  | case3 link up empty a outcome p ih =>
    have fine : a.Fine c (link :: up) := advanceWith_moves works sound length
    obtain ⟨soundAfter, same⟩ := fine.keeps sound
    exact (ih soundAfter (same.trans length)).after_moves fine.moves
  | case4 link up empty a outcome r queue oldest =>
    exact .record (advanceWith_moves works sound length).moves (.pop oldest)
  | case5 link up empty a outcome emptyAfter =>
    obtain ⟨moves, more, answer, exhausted⟩ := advanceWith_moves works sound length
    obtain rfl : more = false := by simpa using answer.symm.trans outcome
    -- All that is pending would be in the queue, which is empty.
    obtain ⟨same, all⟩ := pending_advanceWith outcome
    have noneLeft := same.trans ((all rfl).trans (Queue.pop?_eq_none emptyAfter))
    exact .nothing moves ⟨noneLeft, exhausted rfl⟩

theorem pullFrom_works (c : Setting) (depth : Nat) : Works c depth (pullFrom c depth) := by
  intro links sound length
  induction depth generalizing links with
  | zero =>
    obtain rfl := List.length_eq_zero_iff.mp length
    exact sound.elim
  | succ depth ih =>
    cases links with
    | nil => exact sound.elim
    | cons link up => exact pump_fine ih sound (Nat.succ.inj length)

theorem pull_fine (sound : Sound c up) : (pull c up).Fine :=
  pullFrom_works c up.length up sound rfl

theorem advance_fine (sound : Sound c (link :: up)) : (advance c link up).Fine c (link :: up) :=
  advanceWith_moves (fun _ sound _ => pull_fine sound) sound rfl

/-- A run of a sound chain ends without a fault, with the chain before the last link exhausted. -/
theorem runLink_moves (before : Array Event) (sound : Sound c (link :: up)) :
    (runLink c link up before).1 = .ok () ∧ ∃ link' up' events,
      (runLink c link up before).2.1 = link' :: up' ∧ Exhausted c up' ∧
      (runLink c link up before).2.2.toList = before.toList ++ events ∧
      Moves c (link :: up) events (link' :: up') := by
  fun_induction runLink c link up before with
  | case1 link up before a fault outcome =>
    obtain ⟨more, answer, _⟩ := (advance_fine sound).outcome
    cases outcome.symm.trans answer
  | case2 link up before a outcome =>
    obtain ⟨moves, more, answer, exhausted⟩ := advance_fine sound
    obtain rfl : more = false := by simpa using answer.symm.trans outcome
    exact ⟨rfl, a.link, a.up, a.events, rfl, exhausted rfl, by simp, moves⟩
  | case3 link up before a outcome ih =>
    have fine : a.Fine c (link :: up) := advance_fine sound
    obtain ⟨ok, link', up', events, chain, exhausted, all, moves⟩ := ih (fine.keeps sound).1
    refine ⟨ok, link', up', a.events ++ events, chain, exhausted, ?_, fine.moves.trans moves⟩
    rw [all]
    simp

end AccessList.Chain
