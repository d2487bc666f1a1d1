import AccessList.Entry.Listing
import AccessList.Proofs.Config.Tables

/-! Where the records of a listing come from. Every record is read from one line of the text, by the reader
for the type that the line names, and with a number that counts lines. -/
namespace AccessList.Listing

open Text Clause

variable {s : Symbols} {line list : String} {acl before : List String} {number : Nat} {r : Record}

/-- The record that is read from a line. -/
inductive ReadFrom (s : Symbols) (line : String) (number : Nat) : Record → Prop where
  | standard (type : token ((words line).drop 2) = "standard") :
      ReadFrom s line number (Entry.standard s (words line) number).value
  | extended (type : token ((words line).drop 2) = "extended") :
      ReadFrom s line number (Entry.extended s (words line) number).value

def progress (s : Symbols) (acl : List String) : Progress :=
  acl.foldl (fun p line => (readLine s p line).value) {}

theorem records_ofLines (s : Symbols) (acl : List String) :
    (ofLines s acl).records = (progress s acl).records.toList := by
  simp only [ofLines, Noted.value_sweep, progress]

theorem progress_concat (s : Symbols) (acl : List String) (line : String) :
    progress s (acl ++ [line]) = (readLine s (progress s acl) line).value := by
  simp [progress]

/-- What is known of the records after some lines: each has its line and its number among them. -/
structure Traced (s : Symbols) (before : List String) (p : Progress) : Prop where
  count : p.count.number ≤ before.length
  records : ∀ r ∈ p.records.toList, ∃ line ∈ before, ∃ number,
    1 ≤ number ∧ number ≤ before.length ∧ ReadFrom s line number r

theorem Count.next_number (c : Count) (list : String) :
    1 ≤ (c.next list).number ∧ (c.next list).number ≤ c.number + 1 := by
  unfold Count.next
  split
  · exact ⟨Nat.le_add_left 1 c.number, Nat.le_refl _⟩
  · exact ⟨Nat.le_refl 1, Nat.le_add_left 1 c.number⟩

theorem Traced.readLine {p : Progress} (traced : Traced s before p) (line : String) :
    Traced s (before ++ [line]) (readLine s p line).value := by
  obtain ⟨count, records⟩ := traced
  have length : (before ++ [line]).length = before.length + 1 := by simp
  obtain ⟨positive, bounded⟩ := Count.next_number p.count (token ((words line).drop 1))
  have counted : (p.count.next (token ((words line).drop 1))).number ≤ before.length + 1 :=
    Nat.le_trans bounded (Nat.add_le_add_right count 1)
  have earlier : ∀ r ∈ p.records.toList, ∃ line' ∈ before ++ [line], ∃ number,
      1 ≤ number ∧ number ≤ before.length + 1 ∧ ReadFrom s line' number r := by
    intro r member
    obtain ⟨line', among, number, one, bound, read⟩ := records r member
    exact ⟨line', List.mem_append_left _ among, number, one, Nat.le_succ_of_le bound, read⟩
  have pushed {d : Record}
      (read : ReadFrom s line (p.count.next (token ((words line).drop 1))).number d) :
      ∀ r ∈ (p.records.push d).toList, ∃ line' ∈ before ++ [line], ∃ number,
        1 ≤ number ∧ number ≤ before.length + 1 ∧ ReadFrom s line' number r := by
    intro r member
    rw [Array.toList_push, List.mem_append, List.mem_singleton] at member
    rcases member with old | rfl
    · exact earlier r old
    · exact ⟨line, by simp, _, positive, counted, read⟩
  simp only [Listing.readLine]
  split
  · exact ⟨length ▸ Nat.le_succ_of_le count, length ▸ earlier⟩
  split
  · next type => exact ⟨length ▸ counted, length ▸ pushed (.standard type)⟩
  · next type => exact ⟨length ▸ counted, length ▸ pushed (.extended type)⟩
  · exact ⟨length ▸ counted, length ▸ earlier⟩
  · exact ⟨length ▸ counted, length ▸ earlier⟩

theorem traced_progress (s : Symbols) (acl : List String) : Traced s acl (progress s acl) := by
  induction acl using List.reverseRecOn with
  | nil => exact ⟨Nat.le_refl 0, by simp [progress]⟩
  | append_singleton acl line ih =>
    rw [progress_concat]
    exact ih.readLine line

theorem exists_line (member : r ∈ (ofLines s acl).records) :
    ∃ line ∈ acl, ∃ number, 1 ≤ number ∧ number ≤ acl.length ∧ ReadFrom s line number r := by
  rw [records_ofLines] at member
  exact (traced_progress s acl).records r member

theorem mem_readLine (p : Progress) (line : String) (member : r ∈ p.records.toList) :
    r ∈ (readLine s p line).value.records.toList := by
  simp only [readLine]
  split
  · exact member
  split
  · exact Array.toList_push ▸ List.mem_append_left _ member
  · exact Array.toList_push ▸ List.mem_append_left _ member
  · exact member
  · exact member

theorem ofLines_append_quiet (s : Symbols) (acl : List String) {others : List String}
    (quiet : ∀ line ∈ others, startsWith "access-list" line = false) :
    (ofLines s (acl ++ others)).records = (ofLines s acl).records := by
  rw [records_ofLines, records_ofLines]
  induction others using List.reverseRecOn with
  | nil => rw [List.append_nil]
  | append_singleton others line ih =>
    have passed : (readLine s (progress s (acl ++ others)) line).value = progress s (acl ++ others) := by
      simp [readLine, quiet line (by simp)]
    rw [← List.append_assoc, progress_concat, passed]
    exact ih fun line member => quiet line (List.mem_append_left _ member)

/-- A line is read alike under other symbols if the record is that it gives. -/
theorem readLine_congr {s' : Symbols} {p : Progress}
    (standard : ∀ number, (Entry.standard s' (words line) number).value =
      (Entry.standard s (words line) number).value)
    (extended : token ((words line).drop 2) = "extended" → ∀ number,
      (Entry.extended s (words line) number).value ∈ (readLine s p line).value.records.toList →
        (Entry.extended s' (words line) number).value = (Entry.extended s (words line) number).value) :
    (readLine s' p line).value = (readLine s p line).value := by
  simp only [readLine] at extended ⊢
  split
  · rfl
  next listed =>
  rw [if_neg listed] at extended
  split
  · simp only [Noted.value_bind, Noted.value_pure, standard]
  · next type =>
    have alike := extended type
    rw [type] at alike
    simp only [Noted.value_bind, Noted.value_pure] at alike ⊢
    rw [alike _ (by simp)]
  · rfl
  · rfl

theorem ofLines_congr {s' : Symbols}
    (standard : ∀ line ∈ acl, ∀ number, (Entry.standard s' (words line) number).value =
      (Entry.standard s (words line) number).value)
    (extended : ∀ line ∈ acl, token ((words line).drop 2) = "extended" → ∀ number,
      (Entry.extended s (words line) number).value ∈ (ofLines s acl).records →
        (Entry.extended s' (words line) number).value = (Entry.extended s (words line) number).value) :
    (ofLines s' acl).records = (ofLines s acl).records := by
  suffices whole : progress s' acl = progress s acl by rw [records_ofLines, records_ofLines, whole]
  simp only [records_ofLines] at extended
  induction acl using List.reverseRecOn with
  | nil => simp only [progress, List.foldl_nil]
  | append_singleton acl line ih =>
    have last : line ∈ acl ++ [line] := by simp
    simp only [progress_concat] at extended ⊢
    rw [ih]
    · exact readLine_congr (standard line last) (extended line last)
    · exact fun line among => standard line (List.mem_append_left _ among)
    · intro line' among type number member
      exact extended line' (List.mem_append_left _ among) type number (mem_readLine _ _ member)

end AccessList.Listing
