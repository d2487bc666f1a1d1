import AccessList.Proofs.Ledger
import AccessList.Proofs.Record
import Mathlib.Data.List.Nodup

/-! Findings on record. They are reported to a ledger one after another: an error on record stays the status, the
texts of each severity stand in the order in which they came, and what was found about a record is fetched again by
its list and its line, each text at its first place. -/
namespace AccessList

/-- What is found wrong: how severe it is, which record it is about, if any, and what there is to say. -/
structure Finding where
  severity : Severity
  subject : Option Record := none
  message : String
  deriving DecidableEq

namespace Finding

/-- A finding about a record names its list and its line. -/
def text (f : Finding) : String :=
  match f.subject with
  | some r => s!"ACL line {r.list}:{r.line}: {f.message}"
  | none => f.message

def isAbout (r : Record) (f : Finding) : Bool := f.subject.any fun d => d.list = r.list && d.line = r.line

def diagnostic (f : Finding) : Diagnostic := .of f.severity f.subject f.message

@[simp] theorem severity_diagnostic (f : Finding) : f.diagnostic.severity = f.severity := by
  rw [diagnostic]
  cases f.subject <;> rfl

@[simp] theorem text_diagnostic (f : Finding) : f.diagnostic.text = f.text := by
  rw [diagnostic, text]
  cases f.subject with
  | some r => simp only [Diagnostic.of, Diagnostic.about, Record.label, toString, String.append_assoc]
  | none => rfl

/-- The label of a diagnostic tells exactly which records it is about. -/
theorem label_diagnostic (f : Finding) (r : Record) : f.diagnostic.label = some r.label ↔ f.isAbout r = true := by
  rw [diagnostic, isAbout]
  cases f.subject with
  | some d => simp [Diagnostic.of, Diagnostic.about, Record.label_inj]
  | none => simp [Diagnostic.of, Diagnostic.general]

end Finding

/-- The texts of a list without repetition, in order of first occurrence. -/
structure IsFirsts (told firsts : List String) : Prop where
  same : ∀ t, t ∈ firsts ↔ t ∈ told
  apart : firsts.Nodup
  ordered : firsts.Pairwise fun t u => told.idxOf t < told.idxOf u

theorem IsFirsts.concat {told firsts : List String} (first : IsFirsts told firsts) (t : String) :
    IsFirsts (told ++ [t]) (if t ∈ firsts then firsts else firsts ++ [t]) := by
  -- a text that was told keeps its place
  have kept : firsts.Pairwise fun t' u => (told ++ [t]).idxOf t' < (told ++ [t]).idxOf u :=
    first.ordered.imp_of_mem fun among member before => by
      rwa [List.idxOf_append_of_mem ((first.same _).mp among),
        List.idxOf_append_of_mem ((first.same _).mp member)]
  split
  · next old =>
    refine ⟨fun u => ?_, first.apart, kept⟩
    rw [List.mem_append, List.mem_singleton, ← first.same u]
    constructor
    · exact .inl
    · rintro (among | rfl)
      · exact among
      · exact old
  · next new =>
    refine ⟨fun u => by simp [first.same u], ?_,
      List.pairwise_append.mpr ⟨kept, List.pairwise_singleton _ _, ?_⟩⟩
    · exact first.apart.append (List.nodup_singleton t) (List.disjoint_singleton.mpr new)
    · intro u among last isLast
      obtain rfl := List.mem_singleton.mp isLast
      have earlier := (first.same u).mp among
      rw [List.idxOf_append_of_mem earlier, List.idxOf_append_of_notMem (mt (first.same last).mpr new)]
      exact Nat.lt_add_right _ (List.idxOf_lt_length_of_mem earlier)

theorem isFirsts_eraseDups (told : List String) : IsFirsts told told.eraseDups := by
  -- the last text is told after all others
  induction told using List.reverseRecOn with
  | nil => exact ⟨fun _ => Iff.rfl, List.nodup_nil, List.Pairwise.nil⟩
  | append_singleton told t ih =>
    have last : (told ++ [t]).eraseDups = if t ∈ told.eraseDups then told.eraseDups else told.eraseDups ++ [t] := by
      rw [List.eraseDups_append]
      split
      · next old => simp [List.removeAll, List.mem_eraseDups.mp old]
      · next new => simp [List.removeAll, mt List.mem_eraseDups.mpr new, List.eraseDups_cons]
    rw [last]
    exact ih.concat t

variable {findings : List Finding}

theorem exists_diagnostic (severity : Severity) :
    (∃ d ∈ findings.map Finding.diagnostic, d.severity = severity) ↔ ∃ f ∈ findings, f.severity = severity := by
  simp only [List.mem_map, exists_exists_and_eq_and, Finding.severity_diagnostic]

theorem texts_diagnostic (severity : Severity) : Diagnostics.texts severity (findings.map Finding.diagnostic) =
    (findings.filter (·.severity = severity)).map Finding.text := by
  simp [Diagnostics.texts, List.filter_map, Function.comp_def]

theorem textsUnder_diagnostic (r : Record) : Diagnostics.textsUnder r.label (findings.map Finding.diagnostic) =
    (findings.filter (·.isAbout r)).map Finding.text := by
  simp [Diagnostics.textsUnder, List.filter_map, Function.comp_def, Finding.label_diagnostic]

namespace Ledger

def report (l : Ledger) (f : Finding) : Ledger :=
  match f.severity with
  | .error => l.error f.subject f.message
  | .warning => l.warning f.subject f.message

theorem report_eq (l : Ledger) (f : Finding) : l.report f = l.add f.diagnostic := by
  rw [report, Finding.diagnostic]
  split
  · next severity => rw [severity, error]
  · next severity => rw [severity, warning]

theorem represents_reports (findings : List Finding) :
    (findings.foldl report {}).Represents (findings.map Finding.diagnostic) := by
  have reports : findings.foldl report {} = Diagnostics.ledger (findings.map Finding.diagnostic) := by
    rw [Diagnostics.ledger, List.foldl_map]
    exact List.foldl_ext _ _ _ fun l f _ => l.report_eq f
  rw [reports]
  exact represents_ledger _

/-- After any calls that report errors and warnings, the status is an error if there was one, otherwise a warning if
there was one. The texts of each severity are there in order, and of each record those that were reported about a
record of its list and line, each of them once and in order of first occurrence. -/
theorem findings_recorded (findings : List Finding) :
    let l := findings.foldl report {}
    l.status =
      (if ∃ f ∈ findings, f.severity = .error then .error
        else if ∃ f ∈ findings, f.severity = .warning then .warning
        else .success) ∧
    l.warnings.toList = (findings.filter (·.severity = .warning)).map Finding.text ∧
    l.errors.toList = (findings.filter (·.severity = .error)).map Finding.text ∧
    ∀ r, IsFirsts ((findings.filter (·.isAbout r)).map Finding.text) (l.ofRecord r) := by
  intro l
  have represents : l.Represents (findings.map Finding.diagnostic) := represents_reports findings
  refine ⟨?_, ?_, ?_, fun r => ?_⟩
  · rw [represents.status, Diagnostics.worst]
    simp only [exists_diagnostic]
  · rw [represents.warnings, texts_diagnostic]
  · rw [represents.errors, texts_diagnostic]
  · rw [ofRecord, represents.byLabel, textsUnder_diagnostic]
    exact isFirsts_eraseDups _

/-- A colon in the name of a list does not lead to the records of another list. -/
example :
    let r : Record := { list := "a", line := 2 }
    let d : Record := { list := "a:2", line := 2 }
    let l := ((({} : Ledger).warning (some r) "x").error (some d) "y").warning (some r) "x"
    l.status = .error ∧ l.ofRecord r = ["ACL line a:2: x"] ∧ l.ofRecord d = ["ACL line a:2:2: y"] := by
  decide +kernel

end Ledger
end AccessList
