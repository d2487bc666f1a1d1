import AccessList.Flatten.Pipeline
import AccessList.Queue

/-! Chains of links that hand records on, one at a time. A link pulls records from the link before it
only when its own queue has run dry. What a chain can still deliver is `pending`; every pull takes
the first of these records, and this is why pulling comes to an end. -/
namespace AccessList.Chain

/-- What a link does with the records that it pulls. -/
inductive Role where
  | source (fed : Bool)
  | expand (stage : Stage)
  | store (title : String) (kept : Queue Record)
  | trace
  | idle (title : String)

def Role.title : Role → String
  | source _ => "Begin"
  | expand stage => stage.title
  | store title _ => title
  | trace => ""
  | idle title => title

/-- A link that has drained the chain before it never does so again. -/
structure Link where
  role : Role
  queue : Queue Record := {}
  drained : Bool := false

structure Setting where
  symbols : Symbols
  records : List Record
  label : String

inductive Event where
  | dropped (stage : Stage) (record : Record)
  | traced (title : String) (shown : List Record)
  deriving DecidableEq

/-- Why a link cannot go on: it has no link before it, or it has nothing to do. -/
inductive Fault where
  | noSource
  | idle
  deriving DecidableEq, Repr

/-- The records that a chain can still deliver. The last link comes first. -/
def pending (c : Setting) : List Link → List Record
  | [] => []
  | link :: up => link.queue.toList ++ match link.role with
    | .source fed => if fed then [] else c.records
    | .expand stage => (pending c up).flatMap (stage.expand c.symbols)
    | .store _ _ => pending c up
    | .trace => if link.drained then [] else pending c up
    | .idle _ => []

/-- How the records that are pending before and after a pull account for its outcome. -/
def Accounts (c : Setting) (before after : List Link) : Except Fault (Option Record) → Prop
  | .ok (some r) => pending c before = r :: pending c after
  | .ok none => pending c before = [] ∧ pending c after = []
  | .error _ => True

structure Pull (c : Setting) (before : List Link) where
  outcome : Except Fault (Option Record)
  after : List Link
  events : List Event
  accounts : Accounts c before after outcome

abbrev Puller (c : Setting) := (links : List Link) → Pull c links

structure Drain where
  records : Array Record := #[]
  fault : Option Fault := none
  after : List Link
  events : Array Event := #[]

def drain (c : Setting) (next : Puller c) (up : List Link) (records : Array Record)
    (events : Array Event) : Drain :=
  let p := next up
  match _h : p.outcome with
  | .ok (some r) => drain c next p.after (records.push r) (events ++ p.events)
  | .ok none => { records, after := p.after, events := events ++ p.events }
  | .error fault => { records, fault := some fault, after := p.after, events := events ++ p.events }
termination_by (pending c up).length
decreasing_by
  have acc : Accounts c up p.after p.outcome := p.accounts
  simp only [_h, Accounts] at acc
  simp [acc, p]

theorem drain_records (c : Setting) (next : Puller c) (up : List Link) (records : Array Record)
    (events : Array Event) (ok : (drain c next up records events).fault = none) :
    (drain c next up records events).records.toList = records.toList ++ pending c up ∧
      pending c (drain c next up records events).after = [] := by
  fun_induction drain c next up records events with
  | case1 up records events p r h ih =>
    have acc : Accounts c up p.after p.outcome := p.accounts
    simp only [h, Accounts] at acc
    have := ih ok
    simp [this, acc]
  | case2 up records events p h =>
    have acc : Accounts c up p.after p.outcome := p.accounts
    simp only [h, Accounts] at acc
    simp [acc]
  | case3 => simp at ok

/-- One step of a link: whether there may be more, and the chain after it. -/
structure Advance where
  outcome : Except Fault Bool
  link : Link
  up : List Link
  events : List Event := []

def slurp (c : Setting) (next : Puller c) (link : Link) (up : List Link) : Advance :=
  if link.drained then ⟨.ok false, link, up, []⟩
  else
    let d := drain c next up #[] #[]
    let queue := link.queue.append d.records.toList
    match d.fault with
    | some fault => ⟨.error fault, { link with queue }, d.after, d.events.toList⟩
    | none => ⟨.ok (!queue.isEmpty), { link with queue, drained := true }, d.after, d.events.toList⟩

def titleOf (up : List Link) : String := (up.head?.map (·.role.title)).getD ""

/-- Takes what the link needs from the chain before it and puts what it makes of it into its queue. -/
def advanceWith (c : Setting) (next : Puller c) (link : Link) (up : List Link) : Advance :=
  match link.role with
  | .source fed =>
    if fed then ⟨.ok false, link, up, []⟩
    else
      let queue := link.queue.append c.records
      ⟨.ok (!queue.isEmpty), { link with role := .source true, queue }, up, []⟩
  | .expand stage =>
    let p := next up
    match p.outcome with
    | .error fault => ⟨.error fault, link, p.after, p.events⟩
    | .ok none => ⟨.ok false, link, p.after, p.events⟩
    | .ok (some r) =>
      let made := stage.expand c.symbols r
      let dropped := if made.isEmpty then [Event.dropped stage r] else []
      ⟨.ok true, { link with queue := link.queue.append made }, p.after, p.events ++ dropped⟩
  | .store title kept =>
    let p := next up
    match p.outcome with
    | .error fault => ⟨.error fault, link, p.after, p.events⟩
    | .ok none => ⟨.ok false, link, p.after, p.events⟩
    | .ok (some r) =>
      ⟨.ok true, { link with role := .store title (kept.push r), queue := link.queue.push r },
        p.after, p.events⟩
  | .trace =>
    let a := slurp c next link up
    match a.outcome with
    | .ok true =>
      let shown := a.link.queue.toList.filter (·.label = c.label)
      { a with events := a.events ++ [.traced (titleOf a.up) shown] }
    | _ => a
  | .idle _ => ⟨.error .idle, link, up, []⟩

theorem slurp_role {c : Setting} {next : Puller c} {link : Link} {up : List Link} :
    (slurp c next link up).link.role = link.role := by
  unfold slurp
  split
  · rfl
  · dsimp only
    split <;> rfl

theorem pending_slurp {c : Setting} {next : Puller c} {link : Link} {up : List Link} {more : Bool}
    (role : link.role = .trace) (ok : (slurp c next link up).outcome = .ok more) :
    pending c (link :: up) = (slurp c next link up).link.queue.toList ∧
      (slurp c next link up).link.drained = true ∧
      (more = true → link.drained = false ∧ pending c (slurp c next link up).up = []) := by
  unfold slurp at ok ⊢
  by_cases drained : link.drained = true
  · simp_all [pending]
  · simp only [drained, Bool.false_eq_true, ↓reduceIte] at ok ⊢
    cases fault : (drain c next up #[] #[]).fault with
    | some e => simp [fault] at ok
    | none =>
      have := drain_records c next up #[] #[] fault
      simp [pending, role, drained, this]

theorem advanceWith_trace {c : Setting} {next : Puller c} {link : Link} {up : List Link}
    (role : link.role = .trace) :
    (advanceWith c next link up).outcome = (slurp c next link up).outcome ∧
      (advanceWith c next link up).link = (slurp c next link up).link ∧
      (advanceWith c next link up).up = (slurp c next link up).up := by
  simp only [advanceWith, role]
  split <;> simp

/-- A step moves records and loses none, and where it says that no more will come, all that is still
pending is in the queue. -/
theorem pending_advanceWith {c : Setting} {next : Puller c} {link : Link} {up : List Link} {more : Bool}
    (ok : (advanceWith c next link up).outcome = .ok more) :
    pending c ((advanceWith c next link up).link :: (advanceWith c next link up).up) =
        pending c (link :: up) ∧
      (more = false → pending c (link :: up) = (advanceWith c next link up).link.queue.toList) := by
  have acc := (next up).accounts
  cases role : link.role with
  | source fed =>
    cases fed
    · simp only [advanceWith, role, Bool.false_eq_true, ↓reduceIte] at ok ⊢
      simp only [Except.ok.injEq, Bool.not_eq_eq_eq_not] at ok
      simp [pending, role]
    · simp [advanceWith, pending, role]
  | expand stage =>
    cases out : (next up).outcome with
    | error fault => simp [advanceWith, role, out] at ok
    | ok r =>
      cases r with
      | none => simp_all [advanceWith, pending, Accounts]
      | some r => simp_all [advanceWith, pending, Accounts]
  | store title kept =>
    cases out : (next up).outcome with
    | error fault => simp [advanceWith, role, out] at ok
    | ok r =>
      cases r with
      | none => simp_all [advanceWith, pending, Accounts]
      | some r => simp_all [advanceWith, pending, Accounts]
  | trace =>
    obtain ⟨outcome, link', up'⟩ := @advanceWith_trace c next link up role
    rw [outcome] at ok
    obtain ⟨all, drained, _⟩ := pending_slurp role ok
    refine ⟨?_, fun _ => by rw [all, link']⟩
    rw [all]
    simp [link', pending, drained, slurp_role, role]
  | idle title => simp [advanceWith, role] at ok

/-- How often a link can still say that there may be more without taking a record. -/
def unspent (link : Link) : Nat :=
  match link.role with
  | .source false => 1
  | .trace => if link.drained then 0 else 1
  | _ => 0

def cost (c : Setting) (link : Link) (up : List Link) : Nat := (pending c up).length + unspent link

/-- Each step that may be followed by more uses up some of what the chain before can deliver. -/
theorem cost_advanceWith {c : Setting} {next : Puller c} {link : Link} {up : List Link}
    (more : (advanceWith c next link up).outcome = .ok true) :
    cost c (advanceWith c next link up).link (advanceWith c next link up).up < cost c link up := by
  have acc := (next up).accounts
  cases role : link.role with
  | source fed => cases fed <;> simp_all [advanceWith, cost, unspent]
  | expand stage =>
    cases out : (next up).outcome with
    | error fault => simp [advanceWith, role, out] at more
    | ok r => cases r <;> simp_all [advanceWith, Accounts, cost, unspent]
  | store title kept =>
    cases out : (next up).outcome with
    | error fault => simp [advanceWith, role, out] at more
    | ok r => cases r <;> simp_all [advanceWith, Accounts, cost, unspent]
  | trace =>
    obtain ⟨outcome, link', up'⟩ := @advanceWith_trace c next link up role
    rw [outcome] at more
    obtain ⟨_, drained, taken⟩ := pending_slurp role more
    simp [cost, unspent, link', up', slurp_role, role, drained, taken]
  | idle title => simp [advanceWith, role] at more

theorem Accounts.ofPending {c : Setting} {before between after : List Link}
    {outcome : Except Fault (Option Record)} (same : pending c between = pending c before)
    (acc : Accounts c between after outcome) : Accounts c before after outcome := by
  simpa [Accounts, same] using acc

theorem pending_pop {c : Setting} {link : Link} {up : List Link} {r : Record} {queue : Queue Record}
    (pop : link.queue.pop? = some (r, queue)) :
    pending c (link :: up) = r :: pending c ({ link with queue } :: up) := by
  simp [pending, Queue.toList_of_pop? pop]

def pump (c : Setting) (next : Puller c) (link : Link) (up : List Link) : Pull c (link :: up) :=
  match pop : link.queue.pop? with
  | some (r, queue) =>
    { outcome := .ok (some r)
      after := { link with queue } :: up
      events := []
      accounts := pending_pop pop }
  | none =>
    let a := advanceWith c next link up
    match more : a.outcome with
    | .error fault => ⟨.error fault, a.link :: a.up, a.events, trivial⟩
    | .ok true =>
      let p := pump c next a.link a.up
      ⟨p.outcome, p.after, a.events ++ p.events, p.accounts.ofPending (pending_advanceWith more).1⟩
    | .ok false =>
      match pop : a.link.queue.pop? with
      | some (r, queue) =>
        { outcome := .ok (some r)
          after := { a.link with queue } :: a.up
          events := a.events
          accounts := Accounts.ofPending (pending_advanceWith more).1 (pending_pop pop) }
      | none =>
        { outcome := .ok none
          after := a.link :: a.up
          events := a.events
          accounts := by
            obtain ⟨same, all⟩ := pending_advanceWith more
            have none_left := (all rfl).trans (Queue.pop?_eq_none pop)
            exact ⟨none_left, same.trans none_left⟩ }
termination_by cost c link up
decreasing_by exact cost_advanceWith more

/-- A chain pulls through as many links as it has. -/
def pullFrom (c : Setting) : (depth : Nat) → Puller c
  | depth + 1, link :: up => pump c (pullFrom c depth) link up
  | _, links => ⟨.error .noSource, links, [], trivial⟩

/-- The next record of the last link, none when it is exhausted. -/
def pull (c : Setting) : Puller c := fun links => pullFrom c links.length links

def advance (c : Setting) (link : Link) (up : List Link) : Advance := advanceWith c (pull c) link up

/-- Steps of the last link until nothing more comes. Its records stay in its queue. -/
def runLink (c : Setting) (link : Link) (up : List Link) (events : Array Event) :
    Except Fault Unit × List Link × Array Event :=
  let a := advance c link up
  match _more : a.outcome with
  | .error fault => (.error fault, a.link :: a.up, events ++ a.events)
  | .ok false => (.ok (), a.link :: a.up, events ++ a.events)
  | .ok true => runLink c a.link a.up (events ++ a.events)
termination_by cost c link up
decreasing_by exact cost_advanceWith _more

/-- Runs a chain. One without links has nothing to do. -/
def run (c : Setting) : List Link → Except Fault Unit × List Link × List Event
  | [] => (.ok (), [], [])
  | link :: up =>
    let (outcome, links, events) := runLink c link up #[]
    (outcome, links, events.toList)

def traceWidth : Nat := 80

def Event.lines : Event → List String
  | .dropped .. => []
  | .traced title shown =>
    let heading := s!"--- {title} "
    ["", heading ++ String.ofList (List.replicate (traceWidth - 1 - heading.length) '-')] ++
      shown.map Record.toCsv

end AccessList.Chain
