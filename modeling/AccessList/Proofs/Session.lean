import AccessList.Proofs.Flatten.Warnings
import AccessList.Proofs.Lookup.Outcome
import AccessList.Session

/-! What is left of a session's past. Its tables and its records are those of the last configuration alone;
only what it was warned of adds up, each request with what it says by itself. -/
namespace AccessList.Session

inductive Request where
  | run (config : String)
  | lookUp (queries : String)
  deriving DecidableEq, Repr

def Request.config? : Request → Option String
  | run config => some config
  | lookUp _ => none

def answer (s : Session) : Request → Except Numeral.Unreadable Session
  | .run config => .ok (s.run config).value
  | .lookUp queries => (s.lookUp queries).map Noted.value

/-- The session after some requests; there is none if one of them fails. -/
def serve (s : Session) (requests : List Request) : Except Numeral.Unreadable Session :=
  requests.foldlM answer s

/-- The tables and the records that a run leaves. -/
structure Results where
  symbols : Symbols := {}
  listed : List Record := []
  network : List Record := []
  flattened : List Record := []
  deriving DecidableEq, Repr

def Results.ofConfig (switches : Switches) (config : String) : Results :=
  let symbols := (Config.read config).value
  let records := (Listing.ofText symbols config).records
  { symbols
    listed := records
    network := if switches.network then Stage.expandAll symbols records .network else []
    flattened := flatten symbols switches.enabled records }

def results (s : Session) : Results := ⟨s.symbols, s.listed, s.network, s.flattened⟩

/-- A session that has run the last configuration among some requests and has done nothing else. -/
def ofLast (fresh : Session) (requests : List Request) : Session :=
  match (requests.filterMap Request.config?).getLast? with
  | some config => (fresh.run config).value
  | none => fresh

/-- What a request warns of by itself, given the records that are there: a new flattener for a run and a new
search for a look-up. -/
def warningsOf (fresh : Session) (records : List Record) : Request → List String
  | .run config =>
    let symbols := (Config.read config).value
    let listing := Listing.ofText symbols config
    let flattener := { fresh with symbols }.flattener
    listing.diagnostics.warnings ++ (flattener.compile listing.records).1.diagnostics.warnings
  | .lookUp queries => (Lookup.lookUpText records queries).problems.map Lookup.Problem.message

/-- What some requests warn of one after another, when others came before them. -/
def warningsAfter (fresh : Session) (earlier : List Request) : List Request → List String
  | [] => []
  | request :: later => warningsOf fresh (fresh.ofLast earlier).flattened request ++
      warningsAfter fresh (earlier ++ [request]) later

variable {fresh s t now : Session} {earlier done requests : List Request} {request : Request}
  {config queries : String}

theorem ofLast_run : fresh.ofLast (earlier ++ [.run config]) = (fresh.run config).value := by
  simp [ofLast, Request.config?]

theorem ofLast_lookUp : fresh.ofLast (earlier ++ [.lookUp queries]) = fresh.ofLast earlier := by
  simp [ofLast, Request.config?]

theorem warningsAfter_concat : warningsAfter fresh earlier (requests ++ [request]) =
    warningsAfter fresh earlier requests ++
      warningsOf fresh (fresh.ofLast (earlier ++ requests)).flattened request := by
  induction requests generalizing earlier with
  | nil => simp [warningsAfter]
  | cons first requests ih => simp [warningsAfter, ih]

def afterRun (s : Session) (config : String) : Session :=
  let symbols := (Config.read config).value
  let listing := Listing.ofText symbols config
  let flattener := ({ s with symbols }.flattener.compile listing.records).1
  { s with
    symbols
    listed := listing.records
    network := flattener.network
    flattened := flattener.flattened
    diagnostics := s.diagnostics ++ listing.diagnostics ++ flattener.diagnostics }

theorem settings_afterRun : (s.afterRun config).settings = s.settings := by simp only [afterRun]

theorem tracedLabel_afterRun : (s.afterRun config).tracedLabel = s.tracedLabel := by simp only [afterRun]

theorem value_run (s : Session) (config : String) : (s.run config).value = s.afterRun config := rfl

theorem answer_run : s.answer (.run config) = .ok t ↔ s.afterRun config = t := by
  rw [answer, value_run, Except.ok.injEq]

/-- What a run leaves is told by the configuration and by the stages that are switched on. -/
theorem results_run (s : Session) (config : String) :
    (s.run config).value.results = .ofConfig s.settings.switches config := by
  rw [value_run, results, afterRun, Flattener.network_compile, Flattener.flattened_compile]
  rfl

theorem warnings_afterRun (s : Session) (config : String) (records : List Record) :
    (s.afterRun config).diagnostics.warnings =
      s.diagnostics.warnings ++ warningsOf s records (.run config) := by
  rw [afterRun, Diagnostics.warnings_append, Diagnostics.warnings_append, List.append_assoc]
  rfl

def afterLookUp (s : Session) (queries : String) : Session :=
  let outcome := Lookup.lookUpText s.flattened queries
  { s with
    found := outcome.found
    diagnostics := s.diagnostics ++ outcome.problems.map Lookup.Problem.diagnostic }

theorem answer_lookUp : s.answer (.lookUp queries) = .ok t ↔
    (Lookup.lookUpText s.flattened queries).failure = none ∧ s.afterLookUp queries = t := by
  dsimp only [answer, lookUp]
  split
  · next cause failure => simp [failure, Except.map]
  · next fine => exact ⟨fun answered => ⟨fine, Except.ok.inj answered⟩, fun ⟨_, after⟩ => congrArg _ after⟩

theorem bind_eq_ok {x : Except Numeral.Unreadable Session} {f : Session → Except Numeral.Unreadable Session} :
    (x >>= f) = .ok t ↔ ∃ now, x = .ok now ∧ f now = .ok t := by
  cases x with
  | error cause => simp [bind, Except.bind]
  | ok now => simp [bind, Except.bind]

theorem serve_cons : s.serve (request :: requests) = .ok t ↔
    ∃ now, s.answer request = .ok now ∧ now.serve requests = .ok t := by
  rw [serve, List.foldlM_cons, bind_eq_ok]
  rfl

theorem serve_append : s.serve (earlier ++ requests) = .ok t ↔
    ∃ now, s.serve earlier = .ok now ∧ now.serve requests = .ok t := by
  rw [serve, List.foldlM_append, bind_eq_ok]
  rfl

/-- The requests up to one of those that are served, and the session before and after this one. -/
theorem exists_serve_of_prefix (start : earlier ++ [request] <+: requests) (served : s.serve requests = .ok t) :
    ∃ before now, s.serve earlier = .ok before ∧ before.answer request = .ok now ∧
      s.serve (earlier ++ [request]) = .ok now := by
  obtain ⟨later, rfl⟩ := start
  obtain ⟨now, upTo, _⟩ := serve_append.mp served
  obtain ⟨before, first, last⟩ := serve_append.mp upTo
  obtain ⟨after, answered, ended⟩ := serve_cons.mp last
  obtain rfl : after = now := Except.ok.inj ended
  exact ⟨before, after, first, answered, upTo⟩

/-- What holds of a session that began as a fresh one and has answered some requests. -/
structure Follows (fresh : Session) (done : List Request) (s : Session) : Prop where
  settings : s.settings = fresh.settings
  label : s.tracedLabel = fresh.tracedLabel
  results : s.results = (fresh.ofLast done).results
  warnings : s.diagnostics.warnings = fresh.diagnostics.warnings ++ warningsAfter fresh [] done

theorem follows_fresh : Follows fresh [] fresh := ⟨rfl, rfl, rfl, (List.append_nil _).symm⟩

theorem Follows.warningsOf (follows : Follows fresh done s) (records : List Record) (request : Request) :
    warningsOf s records request = warningsOf fresh records request := by
  unfold Session.warningsOf flattener
  rw [follows.settings, follows.label]

theorem Follows.flattened (follows : Follows fresh done s) :
    s.flattened = (fresh.ofLast done).flattened :=
  congrArg Results.flattened follows.results

theorem Follows.answer (follows : Follows fresh done s) (answered : s.answer request = .ok t) :
    Follows fresh (done ++ [request]) t := by
  cases request with
  | run config =>
    obtain rfl := answer_run.mp answered
    refine ⟨settings_afterRun.trans follows.settings, tracedLabel_afterRun.trans follows.label, ?_, ?_⟩
    · rw [← value_run, ofLast_run, results_run, results_run, follows.settings]
    · rw [warnings_afterRun s config (fresh.ofLast done).flattened, follows.warningsOf, follows.warnings,
        warningsAfter_concat, List.nil_append, List.append_assoc]
  | lookUp queries =>
    obtain ⟨_, rfl⟩ := answer_lookUp.mp answered
    refine ⟨follows.settings, follows.label, ?_, ?_⟩
    · rw [ofLast_lookUp]
      exact follows.results
    · rw [afterLookUp, Diagnostics.warnings_append, Lookup.warnings_problems, follows.warnings, follows.flattened,
        warningsAfter_concat, List.nil_append, List.append_assoc]
      rfl

theorem Follows.serve (follows : Follows fresh done s) (served : s.serve requests = .ok t) :
    Follows fresh (done ++ requests) t := by
  induction requests generalizing done s with
  | nil =>
    obtain rfl : s = t := Except.ok.inj served
    rwa [List.append_nil]
  | cons request requests ih =>
    obtain ⟨now, answered, served⟩ := serve_cons.mp served
    rw [List.append_cons]
    exact ih (follows.answer answered) served

/-- Whether every look-up among some requests ends, given the records that are there. -/
def Answerable (switches : Switches) : List Record → List Request → Prop
  | _, [] => True
  | _, .run config :: later => Answerable switches (Results.ofConfig switches config).flattened later
  | records, .lookUp queries :: later =>
    (Lookup.lookUpText records queries).failure = none ∧ Answerable switches records later

theorem exists_serve_iff :
    (∃ t, s.serve requests = .ok t) ↔ Answerable s.settings.switches s.flattened requests := by
  induction requests generalizing s with
  | nil => exact ⟨fun _ => trivial, fun _ => ⟨s, rfl⟩⟩
  | cons request requests ih =>
    cases request with
    | run config =>
      have after : (s.afterRun config).flattened = (Results.ofConfig s.settings.switches config).flattened :=
        congrArg Results.flattened (results_run s config)
      simp only [serve_cons, answer_run, exists_eq_left', ih, Answerable, after]
      rfl
    | lookUp queries =>
      constructor
      · rintro ⟨t, served⟩
        obtain ⟨now, answered, served⟩ := serve_cons.mp served
        obtain ⟨ended, rfl⟩ := answer_lookUp.mp answered
        exact ⟨ended, (ih (s := s.afterLookUp queries)).mp ⟨t, served⟩⟩
      · rintro ⟨ended, answerable⟩
        obtain ⟨t, served⟩ := (ih (s := s.afterLookUp queries)).mpr answerable
        exact ⟨t, serve_cons.mpr ⟨_, answer_lookUp.mpr ⟨ended, rfl⟩, served⟩⟩

/-- A session forgets all but its warnings. After each run its tables and its records are those of a fresh
session with the same settings that runs this configuration alone, whatever either of them shows on the way.
Each look-up finds what a new search finds in the records of the last run, or in none before the first run, and
leaves the records as they are. The warnings are those that each request gives by itself, in the order of the
requests. -/
theorem serve_forgets (settings : Settings) (verbose : Bool) (tracedLabel : String)
    (served : serve { settings, verbose, tracedLabel } requests = .ok s) :
    let fresh : Session := { settings, verbose, tracedLabel }
    (∀ (earlier : List Request) config, earlier ++ [.run config] <+: requests →
      ∃ now, fresh.serve (earlier ++ [.run config]) = .ok now ∧
        ∀ verbose tracedLabel, now.results =
          (({ settings, verbose, tracedLabel } : Session).run config).value.results) ∧
    (∀ (earlier : List Request) queries, earlier ++ [.lookUp queries] <+: requests →
      ∃ now, fresh.serve (earlier ++ [.lookUp queries]) = .ok now ∧
        now.results = (fresh.ofLast earlier).results ∧
        now.found = (Lookup.lookUpText (fresh.ofLast earlier).flattened queries).found) ∧
    s.diagnostics.warnings = fresh.warningsAfter [] requests := by
  intro fresh
  refine ⟨?_, ?_, (follows_fresh.serve served).warnings⟩
  · intro earlier config start
    obtain ⟨_, now, _, _, upTo⟩ := exists_serve_of_prefix start served
    refine ⟨now, upTo, fun verbose tracedLabel => ?_⟩
    rw [(follows_fresh.serve upTo).results, List.nil_append, ofLast_run, results_run, results_run]
  · intro earlier queries start
    obtain ⟨before, now, first, answered, upTo⟩ := exists_serve_of_prefix start served
    have follows : Follows fresh earlier before := follows_fresh.serve first
    obtain ⟨_, rfl⟩ := answer_lookUp.mp answered
    refine ⟨before.afterLookUp queries, upTo, follows.results, ?_⟩
    exact congrArg (fun records => (Lookup.lookUpText records queries).found) follows.flattened

/-- Two configurations, with a look-up before, between and after them. -/
theorem serve_forgets_first :
    let first := "access-list a extended permit ip any"
    let second := "access-list b x\naccess-list b extended permit ip any any"
    let requests : List Request := [.lookUp "-", .run first, .lookUp "a.b", .run second, .lookUp "10.0.0.1/32"]
    ∃ s, serve {} requests = .ok s ∧ s.results = .ofConfig {} second ∧
      s.found.full.map (·.record.list) = ["b"] ∧
      s.diagnostics.warnings = ["Invalid lookup query skipped: -",
        "ACL line a:1: Flatten network objects: nothing to expand, rule dropped",
        "Invalid lookup query skipped: a.b", "Unsupported access-list type: access-list b x"] := by
  intro first second requests
  have answerable : Answerable {} [] requests :=
    ⟨by decide +kernel, by decide +kernel, by decide +kernel, trivial⟩
  obtain ⟨s, served⟩ := (exists_serve_iff (s := {})).mpr answerable
  obtain ⟨_, looked, warned⟩ := serve_forgets {} false "" served
  obtain ⟨now, upTo, results, found⟩ := looked (requests.take 4) "10.0.0.1/32" List.prefix_rfl
  obtain rfl : s = now := Except.ok.inj (served.symm.trans upTo)
  have last : (ofLast {} (requests.take 4)).results = .ofConfig {} second := results_run {} second
  refine ⟨s, served, results.trans last, ?_, ?_⟩
  · rw [found, show (ofLast {} (requests.take 4)).flattened = _ from congrArg Results.flattened last]
    decide +kernel
  · rw [warned]
    decide +kernel

end AccessList.Session
