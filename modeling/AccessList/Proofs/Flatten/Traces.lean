import AccessList.Proofs.Flatten.Agreement
import Mathlib.Data.List.Infix

/-! What the traces of a chain show. The first pull of a chain goes through to its source before anything comes
back, and each trace takes all records that are before it, so that the traces show them one after another from
the first on. From then on all traces are open, and nothing more is shown. -/
namespace AccessList.Chain

/-- An empty line, and one that names a link and is filled up with dashes. -/
def separator (title : String) : List String :=
  ["", String.ofList (("--- " ++ title ++ " ").toList.rightpad 79 '-')]

/-- What a trace shows of the records at its place, of which there may be none. -/
def display (label title : String) (records : List Record) : List String :=
  if records = [] then []
  else separator title ++ (records.filter (·.label = label)).map Record.toCsv

def printed (events : List Event) : List String := events.flatMap Event.lines

/-- What the traces of a chain show when they are opened one after another, the first of them first. -/
def announced (c : Setting) : List Link → List String
  | [] => []
  | link :: up => announced c up ++ match link.role with
    | .trace => display c.label (titleOf up) (total c up)
    | _ => []

/-- A link that has not done anything. -/
structure Link.Untouched (link : Link) : Prop where
  queue : link.queue.toList = []
  drained : link.drained = false
  unfed : link.role ≠ .source true

def Untouched (links : List Link) : Prop := ∀ link ∈ links, link.Untouched

/-- Every trace has taken what there was before it. -/
def Opened (links : List Link) : Prop := ∀ link ∈ links, link.role = .trace → link.drained = true

/-- What the next pull of a chain shows: everything if it is the first, and nothing once the chain is open. -/
inductive Opening (c : Setting) : List Link → List String → Prop where
  | first {links} (untouched : Untouched links) : Opening c links (announced c links)
  | later {links} (opened : Opened links) : Opening c links []

/-- What the pulls of a link rely on: those from the chain before it, of this length, show what they have to. -/
def Tells (c : Setting) (depth : Nat) (next : Puller c) : Prop :=
  ∀ up lines, Sound c up → up.length = depth → Opening c up lines →
    printed (next up).events = lines ∧ Opened (next up).after

variable {c : Setting} {link : Link} {links up up' before after : List Link} {events events' : List Event}
  {lines : List String} {r : Record} {depth : Nat} {next : Puller c}

@[simp] theorem printed_append : printed (events ++ events') = printed events ++ printed events' := by
  simp [printed]

@[simp] theorem printed_drops {stage : Stage} : printed (drops c stage r) = [] := by
  unfold drops
  split <;> rfl

theorem lines_traced (title : String) (shown : List Record) :
    (Event.traced title shown).lines = separator title ++ shown.map Record.toCsv := by
  have heading : s!"--- {title} " = "--- " ++ title ++ " " := rfl
  simp only [Event.lines, separator, heading, traceWidth, List.rightpad, String.ofList_append,
    String.ofList_toList, String.length_toList]

theorem printed_shows (up : List Link) (queue : Queue Record) :
    printed (shows c up queue) = display c.label (titleOf up) queue.toList := by
  unfold shows display
  by_cases empty : queue.toList = []
  · rw [if_pos ((Queue.isEmpty_iff queue).mpr empty), if_pos empty]
    rfl
  · rw [if_neg fun none => empty ((Queue.isEmpty_iff queue).mp none), if_neg empty, printed,
      List.flatMap_singleton, lines_traced]

def titles (links : List Link) : List String := links.map (·.role.title)

theorem titleOf_eq (links : List Link) : titleOf links = (titles links).headD "" := by
  cases links <;> rfl

theorem Takes.titles (taken : Takes up r up') : titles up' = titles up := by
  cases taken with
  | pop => rfl

theorem Move.titles (move : Move c before events after) : titles after = titles before := by
  induction move with
  | feed | close => rfl
  | expand taken | store taken | gather taken => exact congrArg (List.cons _) taken.titles
  | deeper _ ih => exact congrArg (List.cons _) ih

theorem Moves.titles (moves : Moves c before events after) : titles after = titles before := by
  induction moves with
  | none => rfl
  | next move _ ih => exact ih.trans move.titles

theorem pending_untouched (untouched : Untouched links) : pending c links = total c links := by
  induction links with
  | nil => rfl
  | cons link up ih =>
    obtain ⟨here, before⟩ := List.forall_mem_cons.mp untouched
    have same := ih before
    obtain ⟨role, queue, drained⟩ := link
    obtain ⟨empty, fresh, unfed⟩ := here
    dsimp only at empty fresh unfed
    cases role with
    | source fed =>
      cases fed with
      | true => exact absurd rfl unfed
      | false => simp [pending, total, empty]
    | expand | store | idle => simp [pending, total, empty, same]
    | trace => simp [pending, total, empty, fresh, same]

theorem Opening.upstream (opening : Opening c (link :: up) lines) (other : link.role ≠ .trace) :
    Opening c up lines := by
  cases opening with
  | first untouched =>
    have same : announced c (link :: up) = announced c up := by
      obtain ⟨role, queue, drained⟩ := link
      cases role with
      | trace => exact absurd rfl other
      | source | expand | store | idle => exact List.append_nil _
    rw [same]
    exact .first (List.forall_mem_cons.mp untouched).2
  | later opened => exact .later (List.forall_mem_cons.mp opened).2

theorem Opened.cons (opened : Opened up) (here : link.role = .trace → link.drained = true) :
    Opened (link :: up) :=
  List.forall_mem_cons.mpr ⟨here, opened⟩

theorem Works.keeps (works : Works c depth next) (sound : Sound c up) (length : up.length = depth) :
    Sound c (next up).after ∧ (next up).after.length = depth := by
  rcases works.pull sound length with ⟨r, between, _, moves, taken⟩ | ⟨_, moves, _⟩
  · exact ⟨taken.sound (moves.sound sound), taken.length.trans (moves.length.trans length)⟩
  · exact ⟨moves.sound sound, moves.length.trans length⟩

theorem drain_tells (works : Works c depth next) (tells : Tells c depth next) (records : Array Record)
    (earlier : Array Event) (sound : Sound c up) (length : up.length = depth) : ∀ {lines}, Opening c up lines →
      printed (drain c next up records earlier).events.toList = printed earlier.toList ++ lines ∧
        Opened (drain c next up records earlier).after := by
  fun_induction drain c next up records earlier with
  | case1 up records earlier p r outcome ih =>
    intro lines opening
    obtain ⟨shown, opened⟩ : printed p.events = lines ∧ Opened p.after := tells up lines sound length opening
    obtain ⟨soundAfter, lengthAfter⟩ : Sound c p.after ∧ p.after.length = depth := works.keeps sound length
    obtain ⟨rest, openedAfter⟩ := ih soundAfter lengthAfter (.later opened)
    refine ⟨?_, openedAfter⟩
    rw [rest]
    simp [shown]
  | case2 up records earlier p outcome | case3 up records earlier p fault outcome =>
    intro lines opening
    obtain ⟨shown, opened⟩ : printed p.events = lines ∧ Opened p.after := tells up lines sound length opening
    exact ⟨by simp [shown], opened⟩

/-- A trace that has not done anything takes all that is before it and then shows it. -/
theorem trace_tells (works : Works c depth next) (tells : Tells c depth next) (sound : Sound c up)
    (length : up.length = depth) (untouched : Untouched up) {queue : Queue Record} (empty : queue.toList = []) :
    let a := advanceWith c next ⟨.trace, queue, false⟩ up
    printed a.events = announced c up ++ display c.label (titleOf up) (total c up) ∧ Opened (a.link :: a.up) := by
  intro a
  obtain ⟨fault, _, _, _, moves⟩ := drain_moves works queue #[] #[] sound length
  obtain ⟨records, _⟩ := drain_records c next up #[] #[] fault
  obtain ⟨told, opened⟩ := drain_tells works tells #[] #[] sound length (.first untouched)
  have titles := moves.titles
  generalize drained : drain c next up #[] #[] = d at fault records told opened titles
  have title : titleOf d.after = titleOf up := by
    rw [titleOf_eq, titleOf_eq, show Chain.titles d.after = Chain.titles up from List.tail_eq_of_cons_eq titles]
  have all : (queue.append d.records.toList).toList = total c up := by
    rw [Queue.toList_append, empty, records, pending_untouched untouched]
    rfl
  have step : a.events = d.events.toList ++ shows c d.after (queue.append d.records.toList) ∧
      a.link = ⟨.trace, queue.append d.records.toList, true⟩ ∧ a.up = d.after := by
    simp only [a, advanceWith, slurp, drained, fault, shows]
    cases (queue.append d.records.toList).isEmpty <;> simp
  obtain ⟨events, link, up⟩ := step
  rw [events, link, up, printed_append, printed_shows, told, title, all]
  exact ⟨rfl, opened.cons fun _ => rfl⟩

theorem advanceWith_expand {stage : Stage} (role : link.role = .expand stage) :
    let a := advanceWith c next link up
    printed a.events = printed (next up).events ∧ a.up = (next up).after ∧ a.link.role ≠ .trace := by
  have dropped (r : Record) : printed ((next up).events ++ drops c stage r) = printed (next up).events := by simp
  cases outcome : (next up).outcome with
  | error fault => simp [advanceWith, role, outcome]
  | ok given =>
    cases given with
    | none => simp [advanceWith, role, outcome]
    | some r =>
      simp only [advanceWith, role, outcome]
      exact ⟨dropped r, trivial, by simp⟩

theorem advanceWith_store {title : String} {kept : Queue Record} (role : link.role = .store title kept) :
    let a := advanceWith c next link up
    a.events = (next up).events ∧ a.up = (next up).after ∧ a.link.role ≠ .trace := by
  cases outcome : (next up).outcome with
  | error fault => simp [advanceWith, role, outcome]
  | ok given => cases given <;> simp [advanceWith, role, outcome]

theorem advanceWith_tells (works : Works c depth next) (tells : Tells c depth next) (sound : Sound c (link :: up))
    (length : up.length = depth) (opening : Opening c (link :: up) lines) :
    let a := advanceWith c next link up
    printed a.events = lines ∧ Opened (a.link :: a.up) := by
  intro a
  obtain ⟨role, queue, drained⟩ := link
  cases role with
  | source fed =>
    obtain rfl : up = [] := sound
    obtain rfl : lines = [] := by cases opening <;> rfl
    cases fed with
    | true => exact ⟨rfl, Opened.cons nofun nofun⟩
    | false => exact ⟨rfl, Opened.cons nofun nofun⟩
  | expand stage =>
    obtain ⟨shown, opened⟩ := tells up lines sound length (opening.upstream nofun)
    obtain ⟨events, after, other⟩ := @advanceWith_expand c ⟨.expand stage, queue, drained⟩ up next stage rfl
    exact ⟨events.trans shown, (after ▸ opened).cons fun trace => absurd trace other⟩
  | store title kept =>
    obtain ⟨shown, opened⟩ := tells up lines sound.1 length (opening.upstream nofun)
    obtain ⟨events, after, other⟩ := @advanceWith_store c ⟨.store title kept, queue, drained⟩ up next title kept rfl
    exact ⟨(congrArg printed events).trans shown, (after ▸ opened).cons fun trace => absurd trace other⟩
  | trace =>
    cases opening with
    | first untouched =>
      obtain ⟨here, before⟩ := List.forall_mem_cons.mp untouched
      obtain rfl : drained = false := here.drained
      exact trace_tells works tells sound.1 length before here.queue
    | later opened =>
      obtain rfl : drained = true := opened _ List.mem_cons_self rfl
      exact ⟨rfl, opened⟩
  | idle title => exact sound.elim

/-- A pull shows what its first step shows, or nothing where a record is waiting. -/
theorem pump_tells (works : Works c depth next) (tells : Tells c depth next) (sound : Sound c (link :: up))
    (length : up.length = depth) : ∀ {lines}, Opening c (link :: up) lines →
      printed (pump c next link up).events = lines ∧ Opened (pump c next link up).after := by
  fun_induction pump c next link up with
  | case1 link up r queue oldest =>
    intro lines opening
    cases opening with
    | first untouched =>
      -- Nothing waits in a chain that has not been touched.
      have empty := (List.forall_mem_cons.mp untouched).1.queue
      rw [Queue.toList_of_pop? oldest] at empty
      cases empty
    | later opened =>
      obtain ⟨here, before⟩ := List.forall_mem_cons.mp opened
      exact ⟨rfl, Opened.cons before here⟩
  | case2 link up empty a fault outcome =>
    intro lines opening
    exact advanceWith_tells works tells sound length opening
  | case3 link up empty a outcome p ih =>
    intro lines opening
    have fine : a.Fine c (link :: up) := advanceWith_moves works sound length
    obtain ⟨soundAfter, same⟩ := fine.keeps sound
    obtain ⟨shown, opened⟩ : printed a.events = lines ∧ Opened (a.link :: a.up) :=
      advanceWith_tells works tells sound length opening
    obtain ⟨silent, openedAfter⟩ : printed p.events = [] ∧ Opened p.after :=
      ih soundAfter (same.trans length) (.later opened)
    exact ⟨by rw [printed_append, shown, silent, List.append_nil], openedAfter⟩
  | case4 link up empty a outcome r queue oldest =>
    intro lines opening
    obtain ⟨shown, opened⟩ : printed a.events = lines ∧ Opened (a.link :: a.up) :=
      advanceWith_tells works tells sound length opening
    obtain ⟨here, before⟩ := List.forall_mem_cons.mp opened
    exact ⟨shown, Opened.cons before here⟩
  | case5 link up empty a outcome emptyAfter =>
    intro lines opening
    exact advanceWith_tells works tells sound length opening

theorem pullFrom_tells (c : Setting) (depth : Nat) : Tells c depth (pullFrom c depth) := by
  intro links lines sound length opening
  induction depth generalizing links lines with
  | zero =>
    obtain rfl := List.length_eq_zero_iff.mp length
    exact sound.elim
  | succ depth ih =>
    cases links with
    | nil => exact sound.elim
    | cons link up => exact pump_tells (pullFrom_works c depth) ih sound (Nat.succ.inj length) opening

/-- A run shows everything at its first step. -/
theorem runLink_tells (earlier : Array Event) (sound : Sound c (link :: up)) :
    ∀ {lines}, Opening c (link :: up) lines →
      printed (runLink c link up earlier).2.2.toList = printed earlier.toList ++ lines := by
  have step {link : Link} {up : List Link} {lines : List String} (sound : Sound c (link :: up))
      (opening : Opening c (link :: up) lines) : printed (advance c link up).events = lines ∧
        Opened ((advance c link up).link :: (advance c link up).up) :=
    advanceWith_tells (fun _ sound _ => pull_fine sound)
      (fun up lines sound _ opening => pullFrom_tells c up.length up lines sound rfl opening) sound rfl opening
  fun_induction runLink c link up earlier with
  | case1 link up earlier a fault outcome | case2 link up earlier a outcome =>
    intro lines opening
    obtain ⟨shown, _⟩ : printed a.events = lines ∧ _ := step sound opening
    simp [shown]
  | case3 link up earlier a outcome ih =>
    intro lines opening
    have fine : a.Fine c (link :: up) := advance_fine sound
    obtain ⟨shown, opened⟩ : printed a.events = lines ∧ Opened (a.link :: a.up) := step sound opening
    rw [ih (fine.keeps sound).1 (.later opened)]
    simp [shown]

end AccessList.Chain

namespace AccessList.Flattener

open Chain

variable {c : Setting} {links : List Link} {traced : Bool} {stages : List Stage} {shown : List String}
  {title : String}

theorem untouched_foldl {roles : List Role} (untouched : Untouched links)
    (unfed : ∀ role ∈ roles, role ≠ .source true) : Untouched (roles.foldl (addLink traced) links) := by
  have fresh {role : Role} (unfed : role ≠ .source true) : ({ role } : Link).Untouched := ⟨rfl, rfl, unfed⟩
  induction roles generalizing links with
  | nil => exact untouched
  | cons role roles ih =>
    obtain ⟨here, later⟩ := List.forall_mem_cons.mp unfed
    refine ih ?_ later
    have added : Untouched ({ role } :: links) := List.forall_mem_cons.mpr ⟨fresh here, untouched⟩
    have both : Untouched ({ role := .trace } :: { role } :: links) :=
      List.forall_mem_cons.mpr ⟨fresh nofun, added⟩
    unfold addLink
    split
    · exact added
    · split
      · exact both
      · exact added

theorem untouched_chain : Untouched (chain traced stages) := by
  refine untouched_foldl (fun _ none => absurd none List.not_mem_nil) fun role member => ?_
  rintro rfl
  simp only [roles, List.cons_append, List.mem_cons, List.mem_append, List.mem_flatMap, List.not_mem_nil] at member
  rcases member with first | ⟨stage, _, made⟩ | last | none
  · cases first
  · cases stage <;> simp [stageRoles] at made
  · cases last
  · exact none

/-- What the traces after a link and after each of some stages show. The records are those that come from the
link, and the stages before a trace have been at them. -/
def displays (s : Symbols) (label title : String) (stages : List Stage) (records : List Record) : List String :=
  stages.inits.flatMap fun done =>
    display label ((done.map Stage.title).getLastD title) (flatten s done records)

theorem displays_nil (s : Symbols) (label title : String) (records : List Record) :
    displays s label title [] records = display label title records := by
  simp [displays, flatten]

theorem displays_cons (s : Symbols) (label title : String) (stage : Stage) (stages : List Stage)
    (records : List Record) : displays s label title (stage :: stages) records =
      display label title records ++ displays s label stage.title stages (stage.expandAll s records) := by
  simp only [displays, List.inits_cons, List.flatMap_cons, List.flatMap_map, List.map_cons, List.getLastD_cons]
  rfl

theorem announced_roles (stage : Stage) : announced c ((stageRoles stage).foldl (addLink true) links) =
    announced c links ++ display c.label stage.title (total c ((stageRoles stage).foldl (addLink true) links)) := by
  cases stage <;> simp [stageRoles, addLink, announced, total, titleOf, Role.title]

/-- The traces after the stages follow that of the link before them. -/
theorem announced_staged (before : announced c links = shown ++ display c.label title (total c links)) :
    announced c (staged true stages links) = shown ++ displays c.symbols c.label title stages (total c links) := by
  induction stages generalizing links shown title with
  | nil => rw [displays_nil, ← before]; rfl
  | cons stage stages ih =>
    rw [staged_cons, ih (announced_roles stage), total_roles, displays_cons, before, List.append_assoc]

theorem announced_untraced : announced c (staged false stages links) = announced c links := by
  induction stages generalizing links with
  | nil => rfl
  | cons stage stages ih =>
    rw [staged_cons, ih]
    cases stage <;> simp [stageRoles, addLink, announced]

theorem announced_chain : announced c (chain traced stages) =
    if traced then displays c.symbols c.label "Begin" stages c.records else [] := by
  have last : announced c (chain traced stages) =
      announced c (staged traced stages (addLink traced [] (.source false))) := by
    rw [chain_eq]
    exact List.append_nil _
  rw [last]
  cases traced with
  | true =>
    have first : announced c (addLink true [] (.source false)) =
        [] ++ display c.label "Begin" (total c (addLink true [] (.source false))) := rfl
    rw [announced_staged first, total_source]
    rfl
  | false => exact announced_untraced

theorem printed_run : printed (run c (chain traced stages)).2.2 =
    if traced then displays c.symbols c.label "Begin" stages c.records else [] := by
  have sound : Sound c (chain traced stages) := ready_chain.sound
  have opening : Opening c (chain traced stages) (announced c (chain traced stages)) := .first untouched_chain
  rw [← announced_chain]
  cases links : chain traced stages with
  | nil =>
    rw [links] at sound
    exact sound.elim
  | cons link up =>
    rw [links] at sound opening
    exact runLink_tells #[] sound opening

/-- A flattener that traces shows the records of one entry as they come in and as each enabled stage leaves them.
The places are shown in the order of the stages, each under a line that names the link before it, and the records
of a place are all those of the entry that the stages up to it make of the whole input, in their order. A place
without any records is passed over, and nothing else is shown. Where the line numbers that are given can be
written, so can those of all records that are shown. -/
theorem compile_shows (f : Flattener) (records : List Record) :
    ((f.compile records).2 =
      if f.tracing.on then
        f.switches.enabled.inits.flatMap fun done =>
          let there := flatten f.symbols done records
          if there = [] then []
          else separator ((done.map Stage.title).getLastD "Begin") ++
            (there.filter (·.label = f.tracing.label)).map Record.toCsv
      else []) ∧
    ((∀ r ∈ records, Numeral.isWritable r.line) →
      ∀ stages, ∀ r ∈ flatten f.symbols stages records, Numeral.isWritable r.line) :=
  ⟨printed_run, fun writable _ => writable_flatten writable⟩

end AccessList.Flattener
