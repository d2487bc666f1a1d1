import AccessList.Proofs.Entry.Numbering
import AccessList.Proofs.Flatten.Fields
import AccessList.Proofs.Flatten.Warnings
import AccessList.Proofs.Ledger
import AccessList.Proofs.Record

/-! What a label tells of an entry. The label of a record gives back its list and its number, and the number of a
line starts again with each run of its list. So two lines share a label just where a run of their list was broken
between them and both are equally far into their runs, and only there do messages and traces mix the entries. -/
namespace AccessList

variable {s : Symbols} {r d : Record} {entries : List String} {i j : Nat}

/-- Two records that are not taken for each other: nothing that is recorded about the first is fetched for the second,
and nothing that stages make of the first is shown under the label of the second. -/
structure Record.Apart (s : Symbols) (r d : Record) : Prop where
  messages : ∀ before severity message after,
    Diagnostics.ofRecord (before ++ .about severity r message :: after) d = Diagnostics.ofRecord (before ++ after) d
  traces : ∀ stages, ∀ made ∈ flatten s stages [r], made.label ≠ d.label

theorem Record.apart_iff : r.Apart s d ↔ r.label ≠ d.label := by
  constructor
  · intro apart same
    have fetched := apart.messages [] .warning "" []
    simp [Diagnostics.ofRecord_eq, Diagnostics.textsUnder, Diagnostic.about, same, List.eraseDups_cons] at fetched
  · intro other
    refine ⟨fun before severity message after => ?_, fun stages made member => ?_⟩
    · simp [Diagnostics.ofRecord_eq, Diagnostics.textsUnder, Diagnostic.about, other]
    · rwa [(keepsEntry_of_mem_flatten member).label]

namespace Listing

def listAt (entries : List String) (i : Nat) : String := listName (entries.getD i "")

/-- The number of a line by its place: how far it is into its run. -/
def numberAt (entries : List String) (i : Nat) : Nat := (run (entries.take (i + 1))).length

def sources (entries : List String) : List (String × Nat) := entries.zipIdx.filter fun source => isRead source.1

/-- Two places in different runs of one list that are equally far into them. -/
structure Meet (entries : List String) (i j : Nat) : Prop where
  list : listAt entries i = listAt entries j
  broken : ∃ k, (i < k ∧ k < j ∨ j < k ∧ k < i) ∧ listAt entries k ≠ listAt entries i
  number : numberAt entries i = numberAt entries j

/-- All lists stand in one run each. -/
def Together (entries : List String) : Prop :=
  ∀ i j k, i < j → j < k → k < entries.length → listAt entries i = listAt entries k →
    listAt entries j = listAt entries i

theorem take_succ (bound : i < entries.length) :
    ∃ line, entries.take (i + 1) = entries.take i ++ [line] ∧ listName line = listAt entries i := by
  refine ⟨entries[i], (List.take_append_getElem bound).symm, ?_⟩
  simp [listAt, bound]

theorem numberAt_succ (bound : i + 1 < entries.length) (same : listAt entries (i + 1) = listAt entries i) :
    numberAt entries (i + 1) = numberAt entries i + 1 := by
  obtain ⟨line, upTo, list⟩ := take_succ bound
  obtain ⟨before, upToBefore, listBefore⟩ := take_succ (Nat.lt_of_succ_lt bound)
  have last : lastList (entries.take (i + 1)) = listAt entries i := by
    rw [upToBefore, lastList_concat, listBefore]
  rw [numberAt, upTo, run_concat, if_pos (by rw [list, last, same])]
  simp [numberAt]

/-- Through an unbroken run the numbers go up one by one. -/
theorem numberAt_unbroken (order : i ≤ j) (bound : j < entries.length)
    (same : ∀ k, i < k → k ≤ j → listAt entries k = listAt entries i) :
    numberAt entries j = numberAt entries i + (j - i) := by
  induction j, order using Nat.le_induction with
  | base => simp
  | succ j order ih =>
    have here : listAt entries j = listAt entries i := by
      rcases Nat.eq_or_lt_of_le order with rfl | later
      · rfl
      · exact same j later (Nat.le_succ j)
    rw [numberAt_succ bound ((same (j + 1) (by omega) le_rfl).trans here.symm),
      ih (by omega) fun k above below => same k above (by omega)]
    omega

/-- Where the numbers of two lines of a list are the same, its run was broken between them. -/
theorem exists_broken (order : i < j) (bound : j < entries.length) (list : listAt entries i = listAt entries j)
    (number : numberAt entries i = numberAt entries j) : ∃ k, i < k ∧ k < j ∧ listAt entries k ≠ listAt entries i := by
  by_contra unbroken
  push Not at unbroken
  have counted := numberAt_unbroken order.le bound fun k above below => by
    rcases Nat.eq_or_lt_of_le below with rfl | before
    · exact list.symm
    · exact unbroken k above before
  omega

theorem meet_iff (other : i ≠ j) (inside : i < entries.length) (bound : j < entries.length) :
    Meet entries i j ↔ listAt entries i = listAt entries j ∧ numberAt entries i = numberAt entries j := by
  refine ⟨fun meet => ⟨meet.list, meet.number⟩, fun ⟨list, number⟩ => ⟨list, ?_, number⟩⟩
  rcases Nat.lt_or_gt_of_ne other with before | after
  · obtain ⟨k, above, below, elsewhere⟩ := exists_broken before bound list number
    exact ⟨k, .inl ⟨above, below⟩, elsewhere⟩
  · obtain ⟨k, above, below, elsewhere⟩ := exists_broken after inside list.symm number.symm
    rw [← list] at elsewhere
    exact ⟨k, .inr ⟨above, below⟩, elsewhere⟩

theorem Together.not_meet (together : Together entries) (inside : i < entries.length) (bound : j < entries.length) :
    ¬ Meet entries i j := by
  rintro ⟨list, ⟨k, ⟨above, below⟩ | ⟨above, below⟩, elsewhere⟩, _⟩
  · exact elsewhere (together i k j above below bound list)
  · exact elsewhere ((together j k i above below inside list.symm).trans list.symm)

theorem records_of_sources (s : Symbols) (text : String) :
    List.Forall₂ (fun source r => IsRecordOf s (source.1, numberAt (entriesOf text) source.2) r)
      (sources (entriesOf text)) (ofText s text).records := by
  have records := (accounts_progress s (Text.lines text)).records
  rw [← records_ofLines] at records
  have placed : (numbered (entriesOf text)).filter (fun entry => isRead entry.1) =
      (sources (entriesOf text)).map fun source => (source.1, numberAt (entriesOf text) source.2) := by
    rw [numbered, List.filter_map]
    rfl
  exact List.forall₂_map_left_iff.mp (placed ▸ records)

theorem sources_nodup (entries : List String) : ((sources entries).map Prod.snd).Nodup := by
  have places : (entries.zipIdx.map Prod.snd).Nodup := by
    rw [List.zipIdx_map_snd]
    exact List.nodup_range'
  exact places.sublist (List.filter_sublist.map Prod.snd)

theorem listAt_of_mem {line : String} (member : (line, i) ∈ sources entries) :
    i < entries.length ∧ listAt entries i = listName line := by
  have found := List.mk_mem_zipIdx_iff_getElem?.mp (List.mem_filter.mp member).1
  obtain ⟨bound, _⟩ := List.getElem?_eq_some_iff.mp found
  exact ⟨bound, by rw [listAt, List.getD_eq_getElem?_getD, found]; rfl⟩

def placed (s : Symbols) (text : String) : List ((String × Nat) × Record) :=
  (sources (entriesOf text)).zip (ofText s text).records

variable {text : String} {x y : (String × Nat) × Record}

theorem map_snd_placed (s : Symbols) (text : String) : (placed s text).map Prod.snd = (ofText s text).records :=
  List.map_snd_zip (records_of_sources s text).length_eq.ge

theorem map_fst_placed (s : Symbols) (text : String) : (placed s text).map Prod.fst = sources (entriesOf text) :=
  List.map_fst_zip (records_of_sources s text).length_eq.le

theorem places_nodup (s : Symbols) (text : String) : ((placed s text).map fun x => x.1.2).Nodup := by
  have places : (placed s text).map (fun x => x.1.2) = ((placed s text).map Prod.fst).map Prod.snd := by
    rw [List.map_map]
    rfl
  rw [places, map_fst_placed]
  exact sources_nodup (entriesOf text)

theorem isRecordOf_placed (member : x ∈ placed s text) :
    IsRecordOf s (x.1.1, numberAt (entriesOf text) x.1.2) x.2 :=
  List.forall₂_zip (records_of_sources s text) member

theorem listAt_placed (member : x ∈ placed s text) :
    x.1.2 < (entriesOf text).length ∧ listAt (entriesOf text) x.1.2 = x.2.list := by
  have source : x.1 ∈ sources (entriesOf text) := map_fst_placed s text ▸ List.mem_map_of_mem member
  obtain ⟨bound, list⟩ := listAt_of_mem source
  exact ⟨bound, list.trans (isRecordOf_placed member).list.symm⟩

theorem read_placed (member : x ∈ placed s text) : ReadFrom s x.1.1 (numberAt (entriesOf text) x.1.2) x.2 := by
  have read := (isRecordOf_placed member).read
  dsimp only at read
  exact read

theorem label_placed (among : x ∈ placed s text) (member : y ∈ placed s text) (other : x.1.2 ≠ y.1.2) :
    x.2.label = y.2.label ↔ Meet (entriesOf text) x.1.2 y.1.2 := by
  obtain ⟨inside, list⟩ := listAt_placed among
  obtain ⟨bound, list'⟩ := listAt_placed member
  rw [Record.label_inj, meet_iff other inside bound, list, list', (isRecordOf_placed among).line,
    (isRecordOf_placed member).line, Nat.cast_inj]

/-- Records of different lines have the same label just where the lines meet. Elsewhere neither messages nor traces
take one record for the other, and where all lists stand together every record has a label of its own. -/
theorem labels_alike_iff (s : Symbols) (text : String) :
    (placed s text).map Prod.snd = (ofText s text).records ∧
    (∀ x ∈ placed s text, ReadFrom s x.1.1 (numberAt (entriesOf text) x.1.2) x.2) ∧
    (∀ x ∈ placed s text, ∀ y ∈ placed s text, x.1.2 ≠ y.1.2 →
      (x.2.label = y.2.label ↔ Meet (entriesOf text) x.1.2 y.1.2) ∧
      (x.2.Apart s y.2 ↔ ¬ Meet (entriesOf text) x.1.2 y.1.2)) ∧
    (Together (entriesOf text) → ((ofText s text).records.map Record.label).Nodup) := by
  refine ⟨map_snd_placed s text, fun x member => read_placed member,
    fun x among y member other => ⟨label_placed among member other, ?_⟩, fun together => ?_⟩
  · rw [Record.apart_iff, ne_eq, label_placed among member other]
  · have unlike : (placed s text).Pairwise fun x y => x.2.label ≠ y.2.label := by
      refine (List.pairwise_map.mp (places_nodup s text)).imp_of_mem fun {x y} among member other same => ?_
      exact together.not_meet (listAt_placed among).1 (listAt_placed member).1
        ((label_placed among member other).mp same)
    rw [← map_snd_placed, List.map_map]
    exact List.pairwise_map.mpr unlike

/-- A remark between two lines of a list counts, and the lines have labels of their own. -/
theorem labels_alike_iff_remarked :
    let text := "access-list A standard permit any\naccess-list A remark\naccess-list A standard deny any"
    let lines := ["access-list A standard permit any", "access-list A remark", "access-list A standard deny any"]
    let first : Record := {
      list := "A", line := 1, type := "standard", action := "permit", protocol := "ip", source := "0.0.0.0/0"
      sourcePort := "-/-", destination := "0/0", destinationPort := "-/-", icmp := "-/-" }
    let second : Record := { first with line := 3, action := "deny" }
    placed {} text = [((lines[0], 0), first), ((lines[2], 2), second)] ∧ ¬ Meet lines 0 2 ∧
      first.Apart {} second := by
  intro text lines first second
  have split : Text.lines text = lines := by decide +kernel
  have entries : entriesOf text = lines := by
    rw [entriesOf, split]
    decide +kernel
  have read : placed {} text = [((lines[0], 0), first), ((lines[2], 2), second)] := by
    rw [placed, entries, ofText, split]
    decide +kernel
  obtain ⟨_, _, meets, _⟩ := labels_alike_iff {} text
  rw [entries, read] at meets
  have apart : ¬ Meet lines 0 2 := fun meet => absurd meet.number (by decide +kernel)
  have told := meets ((lines[0], 0), first) (by simp) ((lines[2], 2), second) (by simp) (by decide)
  exact ⟨read, apart, told.2.mpr apart⟩

/-- A warning about an entry is fetched for a later one of its list, with a line of another list between them. -/
theorem label_shared_across_lists :
    let text := "access-list A standard permit any\naccess-list B standard permit any\n" ++
      "access-list A standard deny any"
    let first : Record := {
      list := "A", line := 1, type := "standard", action := "permit", protocol := "ip", source := "0.0.0.0/0"
      sourcePort := "-/-", destination := "0/0", destinationPort := "-/-", icmp := "-/-" }
    let between : Record := { first with list := "B" }
    let later : Record := { first with action := "deny" }
    (ofText {} text).records = [first, between, later] ∧ first.label = "A:1" ∧ later.label = "A:1" ∧
      Diagnostics.ofRecord [.about .warning first "dropped"] later = ["ACL line A:1: dropped"] := by
  intro text first between later
  have split : Text.lines text = ["access-list A standard permit any", "access-list B standard permit any",
    "access-list A standard deny any"] := by decide +kernel
  rw [ofText, split]
  decide +kernel

end Listing
end AccessList
