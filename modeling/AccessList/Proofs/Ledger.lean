import AccessList.Diagnostics
import Mathlib.Data.List.Induction

/-! What a ledger represents. Each of its fields is kept up to date by itself, and after any diagnostics it is what
one would collect from all of them at once. -/
namespace AccessList

variable {l : Ledger} {ds : Diagnostics}

namespace Diagnostics

def texts (severity : Severity) (ds : Diagnostics) : List String :=
  (ds.filter (·.severity = severity)).map (·.text)

def textsUnder (label : String) (ds : Diagnostics) : List String :=
  (ds.filter (·.label = some label)).map (·.text)

def worst (ds : Diagnostics) : Status :=
  if ∃ d ∈ ds, d.severity = .error then .error
  else if ∃ d ∈ ds, d.severity = .warning then .warning
  else .success

theorem texts_concat (severity : Severity) (ds : Diagnostics) (d : Diagnostic) :
    texts severity (ds ++ [d]) = texts severity ds ++ if d.severity = severity then [d.text] else [] := by
  by_cases same : d.severity = severity <;> simp [texts, same]

theorem textsUnder_concat (label : String) (ds : Diagnostics) (d : Diagnostic) :
    textsUnder label (ds ++ [d]) = textsUnder label ds ++ if d.label = some label then [d.text] else [] := by
  by_cases same : d.label = some label <;> simp [textsUnder, same]

theorem exists_concat (severity : Severity) (ds : Diagnostics) (d : Diagnostic) :
    (∃ e ∈ ds ++ [d], e.severity = severity) ↔ (∃ e ∈ ds, e.severity = severity) ∨ d.severity = severity := by
  simp only [List.mem_append, List.mem_singleton, or_and_right, exists_or, exists_eq_left]

theorem worst_error {d : Diagnostic} (severity : d.severity = .error) : worst (ds ++ [d]) = .error :=
  if_pos ⟨d, List.mem_append_right _ (List.mem_singleton_self d), severity⟩

theorem worst_warning {d : Diagnostic} (severity : d.severity = .warning) :
    worst (ds ++ [d]) = max (worst ds) .warning := by
  rw [worst, worst]
  simp only [exists_concat, severity, reduceCtorEq, or_false, or_true, if_true]
  split_ifs <;> rfl

end Diagnostics

namespace Ledger

open Diagnostics

/-- What is known of a ledger that took in some diagnostics. -/
structure Represents (l : Ledger) (ds : Diagnostics) : Prop where
  status : l.status = worst ds
  errors : l.errors.toList = texts .error ds
  warnings : l.warnings.toList = texts .warning ds
  byLabel : ∀ label, (l.underLabel label).toList = textsUnder label ds

theorem byLabel_add (l : Ledger) (d : Diagnostic) : (l.add d).byLabel = l.filed d := by
  rw [add]
  split <;> rfl

theorem underLabel_add (l : Ledger) (d : Diagnostic) (label : String) : (l.add d).underLabel label =
    if d.label = some label then (l.underLabel label).push d.text else l.underLabel label := by
  rw [underLabel, byLabel_add, filed]
  split
  · next named given =>
    rw [given, Table.get?_insert]
    by_cases same : label = named
    · rw [if_pos same, if_pos (congrArg some same.symm), Option.getD_some, same]
    · rw [if_neg same, if_neg (fun other => same (Option.some.inj other).symm), underLabel]
  · next none => rw [none, if_neg nofun, underLabel]

theorem represents_nil : Represents {} [] where
  status := rfl
  errors := rfl
  warnings := rfl
  byLabel _ := rfl

theorem Represents.add (represents : l.Represents ds) (d : Diagnostic) : (l.add d).Represents (ds ++ [d]) := by
  have byLabel (label : String) : ((l.add d).underLabel label).toList = textsUnder label (ds ++ [d]) := by
    rw [underLabel_add, textsUnder_concat, ← represents.byLabel]
    split
    · exact Array.toList_push
    · exact (List.append_nil _).symm
  cases severity : d.severity with
  | error =>
    refine ⟨?_, ?_, ?_, byLabel⟩
    · simp only [Ledger.add, severity, worst_error]
    · simp only [Ledger.add, severity, texts_concat, Array.toList_push, represents.errors, if_true]
    · simp only [Ledger.add, severity, texts_concat, represents.warnings, reduceCtorEq, if_false, List.append_nil]
  | warning =>
    refine ⟨?_, ?_, ?_, byLabel⟩
    · simp only [Ledger.add, severity, worst_warning, represents.status]
    · simp only [Ledger.add, severity, texts_concat, represents.errors, reduceCtorEq, if_false, List.append_nil]
    · simp only [Ledger.add, severity, texts_concat, Array.toList_push, represents.warnings, if_true]

/-- Whatever a ledger takes in, it represents all of it. -/
theorem represents_ledger (ds : Diagnostics) : ds.ledger.Represents ds := by
  induction ds using List.reverseRecOn with
  | nil => exact represents_nil
  | append_singleton ds d ih =>
    rw [ledger, List.foldl_append]
    exact ih.add d

end Ledger

namespace Diagnostics

theorem warnings_eq (ds : Diagnostics) : ds.warnings = texts .warning ds := (Ledger.represents_ledger ds).warnings

theorem errors_eq (ds : Diagnostics) : ds.errors = texts .error ds := (Ledger.represents_ledger ds).errors

theorem ofRecord_eq (ds : Diagnostics) (r : Record) : ds.ofRecord r = (textsUnder r.label ds).eraseDups :=
  congrArg List.eraseDups ((Ledger.represents_ledger ds).byLabel r.label)

theorem warnings_append (a b : Diagnostics) : warnings (a ++ b) = warnings a ++ warnings b := by
  simp only [warnings_eq, texts, List.filter_append, List.map_append]

end Diagnostics
end AccessList
