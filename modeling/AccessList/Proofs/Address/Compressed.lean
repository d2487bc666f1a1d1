import AccessList.Proofs.Address.Bounds
import AccessList.Proofs.Address.LongestRun

/-! The compressed form of an address of version 6. Whichever groups it leaves out, and with a dotted tail or
without one, it is a spelling of the address, so that nothing is lost and what is compressed stays as it is. -/
namespace AccessList

namespace Address.Hextets

open Text

variable {gs ts : List Nat} {tail : List String} {c : Char}

theorem mapM_dropZeros {cs : List Char} {ds : List Nat} (read : cs.mapM hexValue? = some ds) :
    ∃ ds', (cs.dropWhile (· = '0')).mapM hexValue? = some ds' ∧
      ds'.foldl (16 * · + ·) 0 = ds.foldl (16 * · + ·) 0 := by
  induction cs generalizing ds with
  | nil => exact ⟨ds, read, rfl⟩
  | cons c cs ih =>
    by_cases zero : c = '0'
    · subst zero
      simp only [List.mapM_cons, Option.bind_eq_bind, Option.bind_eq_some_iff] at read
      obtain ⟨d, digit, rest, readRest, whole⟩ := read
      obtain rfl : 0 = d := by simpa [hexValue?] using digit
      obtain rfl : 0 :: rest = ds := by simpa using whole
      simpa using ih readRest
    · exact ⟨ds, by simpa [zero] using read, rfl⟩

theorem spellsGroups_short : SpellsGroups short where
  reads g small := by
    obtain ⟨ds, read, value⟩ := hexDigits_read 4 g
    obtain ⟨ds', read', same⟩ := mapM_dropZeros read
    rw [value, Nat.mod_eq_of_lt (show g < 16 ^ 4 from small)] at same
    have few := (List.dropWhile_suffix (p := (· = '0')) (l := hexDigits 4 g)).length_le
    rw [length_hexDigits] at few
    unfold short
    split
    · next none =>
      rw [none] at read'
      obtain rfl : [] = ds' := by simpa using read'
      obtain rfl : 0 = g := same
      rfl
    · next given =>
      simp [group?, List.isEmpty_iff.not.mpr given, Nat.not_lt.mpr few, read', same]
  digits g c member := by
    unfold short at member
    split at member
    · obtain rfl : c = '0' := by simpa using member
      rfl
    · have among := (List.dropWhile_suffix (p := (· = '0')) (l := hexDigits 4 g)).subset
      exact hexDigits_chars 4 g (among (by simpa using member))

/-- What is missing of eight groups around a gap is the run that was left out. -/
theorem length_gap (eight : gs.length + ts.length = 8) :
    8 - ((gs.take (longestRun gs).start).length +
        (gs.drop ((longestRun gs).start + (longestRun gs).length) ++ ts).length) = (longestRun gs).length := by
  have length := length_of_run (isLongestRun gs).run
  rw [List.length_append]
  omega

/-- Whether or not there is a gap, the text spells the groups and those of its tail. -/
theorem spelled?_withGap (small : ∀ g ∈ gs, g < 0x10000) (pieces : ArePieces tail) (read : groupsOf? tail = some ts)
    (eight : gs.length + ts.length = 8) : spelled? (withGap gs tail) = some (ofGroups (gs ++ ts)) := by
  have readAfter {hs : List Nat} (part : hs ⊆ gs) : groupsOf? (hs.map short ++ tail) = some (hs ++ ts) :=
    spellsGroups_short.readGroups (fun g member => small g (part member)) read
  have piecesAfter {hs : List Nat} (part : hs ⊆ gs) : ArePieces (hs.map short ++ tail) :=
    (spellsGroups_short.pieces fun g member => small g (part member)).append pieces
  unfold withGap
  simp only
  split
  · next gap =>
    have smallHigh : ∀ g ∈ gs.take (longestRun gs).start, g < 0x10000 :=
      fun g member => small g (List.mem_of_mem_take member)
    have noQuad : ∀ part ∈ (gs.take (longestRun gs).start).map short, '.' ∉ part.toList :=
      List.forall_mem_map.mpr fun g _ => spellsGroups_short.not_mem (by decide) g
    have later := List.drop_subset ((longestRun gs).start + (longestRun gs).length) gs
    have missing := length_gap eight
    rw [spelled?_gap (spellsGroups_short.pieces smallHigh) noQuad (piecesAfter later)
      (spellsGroups_short.readAll smallHigh) (readAfter later) (by omega), missing, ← List.append_assoc,
      ← (isLongestRun gs).run]
  · have length : (gs ++ ts).length = 8 := by rw [List.length_append, eight]
    exact spelled?_pieces (piecesAfter (List.Subset.refl gs)) (readAfter (List.Subset.refl gs)) length

theorem mem_withGap (digit : hexValue? c = none) (colon : c ≠ ':') :
    c ∈ (withGap gs tail).toList ↔ ∃ part ∈ tail, c ∈ part.toList := by
  unfold withGap
  simp only
  split
  · rw [← List.append_nil ((gs.take (longestRun gs).start).map short), String.toList_append, String.toList_append,
      List.mem_append, List.mem_append, spellsGroups_short.mem_join digit colon,
      spellsGroups_short.mem_join digit colon]
    simp [colon]
  · exact spellsGroups_short.mem_join digit colon

theorem dot_mem_quadTail (a : Address .v6) : '.' ∈ (quadTail a).toList := by
  have four : (fields '.' (quadTail a)).length = 4 := by rw [quadTail, Dotted.fields_write]; rfl
  rw [length_fields] at four
  exact List.count_pos_iff.mp (by omega)

theorem read?_quadTail (a : Address .v6) : Family.v4.read? (quadTail a) = some (a.setWidth 32) :=
  Family.v4.read?_write (a.setWidth 32)

theorem drop_groups (a : Address .v6) :
    (groups a).drop 6 = [(a.setWidth 32).toNat / 0x10000, (a.setWidth 32).toNat % 0x10000] := by
  have low : (a.setWidth 32).toNat = a.toNat % 2 ^ 32 := BitVec.toNat_setWidth 32 a
  have upper : a.toNat / 2 ^ 16 % 0x10000 = a.toNat % 2 ^ 32 / 0x10000 := by omega
  have lower : a.toNat % 0x10000 = a.toNat % 2 ^ 32 % 0x10000 := by omega
  rw [low, ← upper, ← lower]
  simp [groups, Nat.shiftRight_eq_div_pow]

theorem groupsOf?_quadTail (a : Address .v6) : groupsOf? [quadTail a] = some ((groups a).drop 6) := by
  have read : Dotted.read? (quadTail a) = some (a.setWidth 32) := read?_quadTail a
  rw [groupsOf?, if_pos (has_iff.mpr (dot_mem_quadTail a)), read, Option.map_some, drop_groups]

theorem pieces_quadTail (a : Address .v6) : ArePieces [quadTail a] where
  free := by
    rw [List.forall_mem_singleton, colon_mem_iff (read?_quadTail a)]
    decide
  given := by
    have dot := dot_mem_quadTail a
    rw [List.forall_mem_singleton]
    intro empty
    simp [empty] at dot

def compressed (quad : Bool) (a : Address .v6) : String :=
  if quad then withGap ((groups a).take 6) [quadTail a] else withGap (groups a) []

theorem compress?_eq (s : String) : compress? s = (read? s).map (compressed (has '.' s)) := rfl

theorem has_compressed (quad : Bool) (a : Address .v6) : has '.' (compressed quad a) = quad := by
  have digit : hexValue? '.' = none := by decide
  cases quad with
  | false =>
    rw [Bool.eq_false_iff, ne_eq, has_iff, compressed, if_neg (by decide), mem_withGap digit (by decide)]
    simp
  | true =>
    rw [has_iff, compressed, if_pos rfl, mem_withGap digit (by decide)]
    exact ⟨quadTail a, List.mem_singleton_self _, dot_mem_quadTail a⟩

theorem spelled?_compressed (quad : Bool) (a : Address .v6) : spelled? (compressed quad a) = some a := by
  cases quad with
  | false =>
    rw [compressed, if_neg (by decide), spelled?_withGap (groups_small a) ⟨by simp, by simp⟩ rfl rfl,
      List.append_nil, ofGroups_groups]
  | true =>
    have small : ∀ g ∈ (groups a).take 6, g < 0x10000 := fun g member => groups_small a g (List.mem_of_mem_take member)
    rw [compressed, if_pos rfl, spelled?_withGap small (pieces_quadTail a) (groupsOf?_quadTail a) rfl,
      List.take_append_drop, ofGroups_groups]

/-- A dotted tail is kept where it was accepted, and so it is accepted again. -/
theorem read?_compressed {s : String} {a : Address .v6} (read : read? s = some a) :
    read? (compressed (has '.' s) a) = some a := by
  obtain ⟨_, embeds⟩ := Option.filter_eq_some_iff.mp read
  rw [read?, spelled?_compressed, has_compressed, Option.filter_some, if_pos embeds]

end Address.Hextets

namespace Address

open Text Hextets

variable {a c : String}

/-- Compression keeps the address. What is compressed stays as it is, and two texts without a dotted tail have one
compressed form if and only if they have one full form. -/
theorem compress_canonical (accepted : compress? a = some c) :
    (∃ x, full? a = some x ∧ full? c = some x) ∧ compress? c = some c ∧
      ∀ b d, compress? b = some d → has '.' a = false → has '.' b = false → (c = d ↔ full? a = full? b) := by
  rw [compress?_eq] at accepted
  obtain ⟨address, read, rfl⟩ := Option.map_eq_some_iff.mp accepted
  have again := read?_compressed read
  refine ⟨⟨full address, full?_of_read read, full?_of_read again⟩, ?_, ?_⟩
  · rw [compress?_eq, again, has_compressed, Option.map_some]
  · intro b d accepted' plain plain'
    rw [compress?_eq] at accepted'
    obtain ⟨other, read', rfl⟩ := Option.map_eq_some_iff.mp accepted'
    have again' := read?_compressed read'
    rw [plain] at again ⊢
    rw [plain'] at again' ⊢
    rw [full?_of_read read, full?_of_read read', Option.some.injEq, full_inj]
    constructor
    · intro same
      rw [same, again'] at again
      exact (Option.some.inj again).symm
    · rintro rfl
      rfl

/-- Two runs of zero groups, of which the longer one is left out, and a tail that stays a dotted quad. -/
theorem compress_canonical_runs :
    let a := "2001:DB8:0:0:1:0:0:0"
    let b := "2001:0db8::0001:0:0:0"
    let c := "2001:db8:0:0:1::"
    compress? a = some c ∧ compress? b = some c ∧ compress? c = some c ∧ full? a = full? b ∧
      compress? "0:0:0:0:0:FFFF:10.0.0.1" = some "::ffff:10.0.0.1" ∧
      compress? "::ffff:10.0.0.1" = some "::ffff:10.0.0.1" := by
  intro a b c
  have accepted : compress? a = some c := by decide +kernel
  have accepted' : compress? b = some c := by decide +kernel
  have tail : compress? "0:0:0:0:0:FFFF:10.0.0.1" = some "::ffff:10.0.0.1" := by decide +kernel
  obtain ⟨_, again, alike⟩ := compress_canonical accepted
  refine ⟨accepted, accepted', again, (alike b c accepted' (by decide) (by decide)).mp rfl, tail, ?_⟩
  exact (compress_canonical tail).2.1

end Address
end AccessList
