import AccessList.Proofs.Entry.Origin
import AccessList.Proofs.Ledger
import Mathlib.Data.List.DropRight
import Mathlib.Data.List.Forall2

/-! What becomes of each line of an access list, and how the lines are numbered. The number of a line is how many
lines of its list stand in a row up to it, among the lines of access lists alone. -/
namespace AccessList.Listing

open Text Clause

variable {s : Symbols} {c : Count} {p : Progress} {acl entries : List String} {line : String} {number : Nat} {r : Record}

/-- The lines of access lists in a text, as they follow each other. -/
def entriesOf (text : String) : List String := (lines text).filter (startsWith "access-list")

def listName (line : String) : String := token ((words line).drop 1)

def typeOf (line : String) : String := token ((words line).drop 2)

def isRead (line : String) : Bool := typeOf line = "standard" || typeOf line = "extended"

def isUnsupported (line : String) : Bool := !isRead line && typeOf line ≠ "remark"

def lastList (entries : List String) : String := listName (entries.getLastD "")

/-- The unbroken run of lines of one list that the last line ends. -/
def run (entries : List String) : List String := entries.rtakeWhile (listName · = lastList entries)

def numbered (entries : List String) : List (String × Nat) :=
  entries.zipIdx.map fun (line, i) => (line, (run (entries.take (i + 1))).length)

theorem numbered_concat (entries : List String) (line : String) :
    numbered (entries ++ [line]) = numbered entries ++ [(line, (run (entries ++ [line])).length)] := by
  have earlier : entries.zipIdx.map (fun (e, i) => (e, (run ((entries ++ [line]).take (i + 1))).length)) =
      numbered entries := by
    refine List.map_congr_left fun (e, i) member => ?_
    have bound : i < entries.length := List.snd_lt_of_mem_zipIdx member
    simp [List.take_append_of_le_length (Nat.succ_le_of_lt bound)]
  have whole : (entries ++ [line]).take (entries.length + 1) = entries ++ [line] :=
    List.take_of_length_le (by simp)
  rw [numbered, List.zipIdx_append, List.map_append, earlier]
  simp [whole]

@[simp] theorem lastList_concat (entries : List String) (line : String) :
    lastList (entries ++ [line]) = listName line := by
  simp [lastList, List.getLastD_eq_getLast?]

/-- One more line goes on with the run if it is of the same list, and else begins a run. -/
theorem run_concat (entries : List String) (line : String) :
    run (entries ++ [line]) = (if listName line = lastList entries then run entries else []) ++ [line] := by
  rw [run, lastList_concat, List.rtakeWhile_concat_pos _ _ _ (by simp)]
  congr 1
  split
  · next same => rw [same, run]
  · next other =>
    rw [List.rtakeWhile_eq_nil_iff]
    intro given ends
    have last : lastList entries = listName (entries.getLast given) := by
      rw [lastList, List.getLastD_eq_getLast?, List.getLast?_eq_some_getLast given, Option.getD_some]
    exact other (last ▸ (of_decide_eq_true ends).symm)

structure Count.Counts (c : Count) (entries : List String) : Prop where
  list : c.list = lastList entries
  number : c.number = (run entries).length

theorem Count.Counts.next (counts : c.Counts entries) (line : String) :
    (c.next (listName line)).Counts (entries ++ [line]) := by
  unfold Count.next
  split
  · next same =>
    have goesOn : listName line = lastList entries := same.trans counts.list
    refine ⟨?_, ?_⟩
    · rw [lastList_concat, goesOn]
      exact counts.list
    · rw [run_concat, if_pos goesOn, List.length_append, ← counts.number]
      rfl
  · next other =>
    have begins : listName line ≠ lastList entries := counts.list ▸ other
    refine ⟨(lastList_concat entries line).symm, ?_⟩
    rw [run_concat, if_neg begins]
    rfl

structure IsRecordOf (s : Symbols) (entry : String × Nat) (r : Record) : Prop where
  read : ReadFrom s entry.1 entry.2 r
  list : r.list = listName entry.1
  line : r.line = entry.2

theorem ReadFrom.isRecordOf (read : ReadFrom s line number r) : IsRecordOf s (line, number) r := by
  refine ⟨read, ?_, ?_⟩
  · cases read <;> rfl
  · cases read <;> rfl

/-- What is known of the reading after some lines of access lists: the count, and that every line has become a
record, a warning or nothing. -/
structure Accounts (s : Symbols) (entries : List String) (p : Progress) : Prop where
  counts : p.count.Counts entries
  records : List.Forall₂ (IsRecordOf s) ((numbered entries).filter fun entry => isRead entry.1) p.records.toList
  unsupported : p.unsupported.toList = (entries.filter isUnsupported).map fun line => ⟨trim line⟩

theorem Accounts.readLine (accounts : Accounts s entries p) (listed : startsWith "access-list" line = true) :
    Accounts s (entries ++ [line]) (readLine s p line).value := by
  obtain ⟨counts, records, unsupported⟩ := accounts
  have counted : (p.count.next (token ((words line).drop 1))).Counts (entries ++ [line]) := counts.next line
  have kept (skipped : isRead line = false) : List.Forall₂ (IsRecordOf s)
      ((numbered (entries ++ [line])).filter fun entry => isRead entry.1) p.records.toList := by
    simpa [numbered_concat, skipped] using records
  have pushed {d : Record} (type : isRead line = true)
      (read : ReadFrom s line (p.count.next (token ((words line).drop 1))).number d) : List.Forall₂ (IsRecordOf s)
        ((numbered (entries ++ [line])).filter fun entry => isRead entry.1) (p.records.push d).toList := by
    rw [numbered_concat, List.filter_append, Array.toList_push, ← counted.number]
    exact List.rel_append records (by simpa [type] using read.isRecordOf)
  have unchanged (fine : isUnsupported line = false) :
      p.unsupported.toList = ((entries ++ [line]).filter isUnsupported).map fun line => ⟨trim line⟩ := by
    simpa [fine] using unsupported
  simp only [Listing.readLine, listed]
  rw [if_neg (by decide)]
  split
  · next type =>
    have read : isRead line = true := by simp [isRead, typeOf, type]
    exact ⟨counted, pushed read (.standard type), unchanged (by simp [isUnsupported, read])⟩
  · next type =>
    have read : isRead line = true := by simp [isRead, typeOf, type]
    exact ⟨counted, pushed read (.extended type), unchanged (by simp [isUnsupported, read])⟩
  · next type =>
    have skipped : isRead line = false := by simp [isRead, typeOf, type]
    exact ⟨counted, kept skipped, unchanged (by simp [isUnsupported, typeOf, type])⟩
  · next noStandard noExtended noRemark =>
    have skipped : isRead line = false := by
      simp [isRead, show typeOf line ≠ "standard" from noStandard, show typeOf line ≠ "extended" from noExtended]
    have warned : isUnsupported line = true := by
      simp [isUnsupported, skipped, show typeOf line ≠ "remark" from noRemark]
    refine ⟨counted, kept skipped, ?_⟩
    simp [warned, unsupported]

theorem readLine_unlisted (s : Symbols) (p : Progress) (other : startsWith "access-list" line = false) :
    (readLine s p line).value = p := by
  simp [readLine, other]

theorem accounts_progress (s : Symbols) (acl : List String) :
    Accounts s (acl.filter (startsWith "access-list")) (progress s acl) := by
  induction acl using List.reverseRecOn with
  | nil => exact ⟨⟨rfl, rfl⟩, .nil, rfl⟩
  | append_singleton acl line ih =>
    rw [progress_concat, List.filter_append]
    cases listed : startsWith "access-list" line with
    | true => simpa [listed] using ih.readLine listed
    | false => simpa [listed, readLine_unlisted s _ listed] using ih

theorem unsupported_ofLines (s : Symbols) (acl : List String) :
    (ofLines s acl).unsupported = (progress s acl).unsupported.toList := by
  simp only [ofLines, Noted.value_sweep, progress]

theorem warnings_diagnostics (l : Listing) :
    l.diagnostics.warnings = l.unsupported.map UnsupportedEntry.message ∧ l.diagnostics.errors = [] := by
  simp [diagnostics, Diagnostics.warnings_eq, Diagnostics.errors_eq, Diagnostics.texts, Diagnostic.general,
    List.filter_map, Function.comp_def]

/-- The lines of access lists of the types that are read give one record each, and remarks give nothing. There is
one warning for each other line. Both are in the order of the lines, and a record has the number of its line. -/
theorem lines_accounted (s : Symbols) (text : String) :
    let entries := entriesOf text
    let l := ofText s text
    List.Forall₂ (IsRecordOf s) ((numbered entries).filter fun entry => isRead entry.1) l.records ∧
      l.diagnostics.warnings =
        (entries.filter isUnsupported).map (fun line => s!"Unsupported access-list type: {trim line}") ∧
      l.diagnostics.errors = [] := by
  intro entries l
  obtain ⟨_, records, unsupported⟩ := accounts_progress s (lines text)
  rw [← records_ofLines] at records
  rw [← unsupported_ofLines] at unsupported
  obtain ⟨warnings, errors⟩ := warnings_diagnostics l
  refine ⟨records, ?_, errors⟩
  rw [warnings, show l.unsupported = _ from unsupported, List.map_map]
  rfl

example :
    let acl := ["access-list in remark", "access-list in extended", "name 10.0.0.1 host", "access-list in extended",
      "access-list out standard", "access-list in extended"]
    (ofLines {} acl).records.map (·.line) = [2, 3, 1, 1] := by
  decide +kernel

end AccessList.Listing
