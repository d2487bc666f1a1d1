import AccessList.Proofs.Entry.Plain
import AccessList.Proofs.Flatten.Entry
import AccessList.Proofs.Flatten.Fields

/-! Records that are read back from the lines that they are written to. Entries and flattened records alike are
read back just if no comma stands in their texts, and none does where the configuration has no comma. -/
namespace AccessList

open Config Text

variable {s : Symbols} {r d : Record} {stage : Stage} {line : String} {number : Nat}

theorem isPlain_withService {descriptor : String} (plain : r.IsPlain) (text : IsPlain descriptor) :
    (r.withService descriptor).IsPlain := by
  have parts : ArePlain (fields '/' descriptor) := text.fields
  rw [Record.isPlain_iff] at plain ⊢
  obtain ⟨list, type, action, _, source, sourcePort, destination, destinationPort, icmp, state⟩ := plain
  unfold Record.withService
  split
  · next protocol given =>
    rw [given] at parts
    exact ⟨list, type, action, parts _ (by simp), source, sourcePort, destination, destinationPort, icmp, state⟩
  · next protocol type' code given =>
    rw [given] at parts
    exact ⟨list, type, action, parts _ (by simp), source, sourcePort, destination, destinationPort,
      (parts _ (by simp)).slash (parts _ (by simp)), state⟩
  · next given =>
    rw [given] at parts
    exact ⟨list, type, action, parts _ (by simp), source, (parts _ (by simp)).slash (parts _ (by simp)), destination,
      (parts _ (by simp)).slash (parts _ (by simp)), icmp, state⟩
  · exact ⟨list, type, action, text, source, sourcePort, destination, destinationPort, icmp, state⟩

/-- No stage brings a comma in. -/
theorem Stage.Makes.isPlain (symbols : s.IsPlain) (plain : r.IsPlain) (made : Stage.Makes s r stage d) :
    d.IsPlain := by
  have given := Record.isPlain_iff.mp plain
  obtain ⟨list, type, action, protocol, source, sourcePort, destination, destinationPort, icmp, state⟩ := given
  cases made with
  | network inSource inDestination =>
    exact Record.isPlain_iff.mpr ⟨list, type, action, protocol, symbols.members source _ inSource, sourcePort,
      symbols.members destination _ inDestination, destinationPort, icmp, state⟩
  | protocol member =>
    exact Record.isPlain_iff.mpr ⟨list, type, action, symbols.members protocol _ member, source, sourcePort,
      destination, destinationPort, icmp, state⟩
  | @service descriptor base member cleared =>
    refine isPlain_withService ?_ (symbols.members protocol _ member)
    rcases cleared with rfl | rfl
    · exact plain
    · have none : IsPlain Field.notApplicable := by decide
      exact Record.isPlain_iff.mpr ⟨list, type, action, protocol, source, none, destination, none, none, state⟩
  | port inSource inDestination =>
    exact Record.isPlain_iff.mpr ⟨list, type, action, protocol, source, symbols.members sourcePort _ inSource,
      destination, symbols.members destinationPort _ inDestination, icmp, state⟩
  | @icmpType type' member =>
    have text := symbols.members icmp _ member
    have coded : IsPlain (Icmp.withCode type') := by
      unfold Icmp.withCode
      split
      · exact text
      · exact text.append (by decide)
    exact Record.isPlain_iff.mpr ⟨list, type, action, protocol, source, sourcePort, destination, destinationPort,
      coded, state⟩

theorem Text.isBlank_of_mem_words {word : String} {c : Char} (member : word ∈ words line)
    (inside : c ∈ word.toList) : isBlank c = false := by
  have go (cs : List Char) : ∀ part ∈ cs.splitOnP isBlank, ∀ c ∈ part, isBlank c = false := by
    induction cs with
    | nil => simp
    | cons first cs ih =>
      rw [List.splitOnP_cons_eq_if_modifyHead]
      split
      · simpa using ih
      next plain =>
      cases later : cs.splitOnP isBlank with
      | nil => simp
      | cons part parts =>
        rw [later] at ih
        obtain ⟨here, others⟩ := List.forall_mem_cons.mp ih
        exact List.forall_mem_cons.mpr
          ⟨List.forall_mem_cons.mpr ⟨Bool.eq_false_iff.mpr plain, here⟩, others⟩
  simp only [words, List.mem_map, List.mem_filter] at member
  obtain ⟨chars, ⟨among, _⟩, rfl⟩ := member
  exact go line.toList chars among c (by simpa using inside)

/-- A record whose line can be told from its text, as far as white space and the number go. -/
structure Record.IsFramed (r : Record) : Prop where
  line : Numeral.isWritable r.line = true
  front : ∀ c ∈ r.list.toList.head?, isBlank c = false
  back : ∀ c ∈ r.state.toList.getLast?, isBlank c = false

theorem Record.KeepsEntry.isFramed (kept : r.KeepsEntry d) (framed : r.IsFramed) : d.IsFramed := by
  obtain ⟨list, line, state⟩ := kept
  obtain ⟨writable, front, back⟩ := framed
  exact ⟨line ▸ writable, list ▸ front, state ▸ back⟩

theorem Record.IsFramed.ofCsv_toCsv (framed : r.IsFramed) : ofCsv r.toCsv = .ok r ↔ r.IsPlain := by
  refine ⟨fun read text member comma => ?_, fun plain =>
    Record.ofCsv_toCsv framed.line plain framed.front framed.back⟩
  obtain ⟨count, refused, _⟩ := ofCsv_comma member comma
  rw [refused] at read
  cases read

namespace Listing

theorem ReadFrom.list_mem (read : ReadFrom s line number r) : r.list ∈ words line := by
  have third : Clause.token ((words line).drop 2) ≠ "" := by
    cases read with
    | standard type => rw [type]; decide
    | extended type => rw [type]; decide
  have list : r.list = Clause.token ((words line).drop 1) := by
    cases read <;> rfl
  rw [list]
  cases tokens : words line with
  | nil => simp [tokens, Clause.token] at third
  | cons first rest =>
    cases rest with
    | nil => simp [tokens, Clause.token] at third
    | cons second rest => simp

theorem isWritable_of_le {n m : Nat} (short : Numeral.isWritable m = true) (le : n ≤ m) :
    Numeral.isWritable n = true := by
  simp only [Numeral.isWritable, Numeral.decimalLength, decide_eq_true_eq, Int.natAbs_natCast,
    Nat.toString_eq_ofList_toDigits, String.length_ofList] at short ⊢
  have positive : 0 < Numeral.maxDigits := by decide
  generalize Numeral.maxDigits = digits at short positive ⊢
  rw [Nat.length_toDigits_le_iff (by decide) positive] at short ⊢
  exact Nat.lt_of_le_of_lt le short

theorem ReadFrom.isFramed (read : ReadFrom s line number r) (short : Numeral.isWritable number = true) :
    r.IsFramed := by
  have front : ∀ c ∈ r.list.toList.head?, isBlank c = false := fun c first =>
    isBlank_of_mem_words read.list_mem (List.mem_of_mem_head? first)
  have line : r.line = number := by cases read <;> rfl
  have state : r.state = "inactive" ∨ r.state = "active" := by
    cases read with
    | standard =>
      simp only [Entry.standard, Noted.value_bind, Noted.value_pure]
      exact ite_eq_or_eq _ _ _
    | extended =>
      simp only [Entry.extended, Noted.value_bind, Noted.value_pure]
      exact ite_eq_or_eq _ _ _
  refine ⟨line ▸ short, front, fun c last => ?_⟩
  -- Both states end in the same letter.
  have letter : r.state.toList.getLast? = some 'e' := by
    rcases state with same | same <;> rw [same] <;> rfl
  obtain rfl : 'e' = c := Option.some.inj (letter.symm.trans last)
  decide

theorem ReadFrom.isPlain (names : ArePlainNames s.names) (plain : ArePlain (words line))
    (read : ReadFrom s line number r) : r.IsPlain := by
  cases read with
  | standard => exact Entry.isPlain_standard names plain
  | extended => exact Entry.isPlain_extended names plain

end Listing

/-- The records that are written, entries and what any stages make of them, are read back just if they have no
comma in their texts, and refused for the number of their fields otherwise. A configuration without a comma gives
none but such as are read back. -/
theorem written_reads_back (lines acl : List String) (w : Switches)
    (short : Numeral.isWritable acl.length = true) :
    let s := symbols lines
    let entries := (Listing.ofLines s acl).records
    ∀ d, d ∈ entries ∨ d ∈ flatten s w.enabled entries →
      (Record.ofCsv d.toCsv = .ok d ↔ d.IsPlain) ∧
      (¬ d.IsPlain → ∃ count, Record.ofCsv d.toCsv = .error (.fieldCount count d.toCsv) ∧
        Record.columns.length < count) ∧
      ((∀ line ∈ lines ++ acl, ArePlain (words line)) → Record.ofCsv d.toCsv = .ok d) := by
  intro s entries d written
  -- A flattened record has its entry, and an entry is made of itself by no stages.
  obtain ⟨r, stages, entry, made⟩ : ∃ r stages, r ∈ entries ∧ d ∈ flatten s stages [r] := by
    rcases written with entry | made
    · exact ⟨d, [], entry, List.mem_singleton.mpr rfl⟩
    · rw [flatten_eq_flatMap] at made
      obtain ⟨r, entry, made⟩ := List.mem_flatMap.mp made
      exact ⟨r, w.enabled, entry, made⟩
  obtain ⟨line, among, number, _, bound, read⟩ := Listing.exists_line entry
  have framed : d.IsFramed :=
    (keepsEntry_of_mem_flatten made).isFramed (read.isFramed (Listing.isWritable_of_le short bound))
  refine ⟨framed.ofCsv_toCsv, fun comma => ?_, fun plain => framed.ofCsv_toCsv.mpr ?_⟩
  · simp only [Record.IsPlain, not_forall] at comma
    obtain ⟨text, member, inside⟩ := comma
    obtain ⟨count, refused, many⟩ := Record.ofCsv_comma member (not_not.mp inside)
    exact ⟨count, refused, many⟩
  · have symbols : s.IsPlain := isPlain_symbols fun line among => plain line (List.mem_append_left _ among)
    have start : r.IsPlain := read.isPlain symbols.names (plain line (List.mem_append_right _ among))
    exact flatten_induction (fun made given => made.isPlain symbols given) start made

/-- An entry of an object and a domain name, and the record that it is flattened to. -/
theorem written_reads_back_web :
    let lines := ["object network web", " fqdn www.example.com"]
    let acl := ["access-list inside extended permit tcp any object web eq https inactive"]
    let s := symbols lines
    let d : Record := {
      list := "inside", line := 1, type := "extended", action := "permit", protocol := "6", source := "0/0"
      sourcePort := "eq/any", destination := "www.example.com", destinationPort := "eq/443", icmp := "-/-"
      state := "inactive" }
    Numeral.isWritable acl.length = true ∧
      flatten s ({} : Switches).enabled (Listing.ofLines s acl).records = [d] ∧
      (∀ line ∈ lines ++ acl, ArePlain (words line)) ∧ Record.ofCsv d.toCsv = .ok d := by
  intro lines acl s d
  have short : Numeral.isWritable acl.length = true := by decide
  have flattened : flatten s ({} : Switches).enabled (Listing.ofLines s acl).records = [d] := by decide +kernel
  have plain : ∀ line ∈ lines ++ acl, ArePlain (words line) := by decide +kernel
  have written : d ∈ flatten s ({} : Switches).enabled (Listing.ofLines s acl).records := by
    rw [flattened]
    exact List.mem_singleton.mpr rfl
  exact ⟨short, flattened, plain, (written_reads_back lines acl {} short d (.inr written)).2.2 plain⟩

/-- The name of a list may have a comma in it, and so may a domain name. -/
theorem comma_not_read_back :
    let acl := ["access-list inside,outside extended permit ip any host www,example"]
    let r : Record := {
      list := "inside,outside", line := 1, type := "extended", action := "permit", protocol := "ip", source := "0/0"
      sourcePort := "-/-", destination := "www,example", destinationPort := "-/-", icmp := "-/-" }
    (Listing.ofLines (symbols []) acl).records = [r] ∧
      flatten (symbols []) ({} : Switches).enabled [r] = [r] ∧
      r.toCsv = "inside,outside,1,extended,permit,ip,0/0,-/-,www,example,-/-,-/-,active" ∧
      Record.ofCsv r.toCsv = .error (.fieldCount 13 r.toCsv) := by
  intro acl r
  exact ⟨by decide +kernel, by decide +kernel, by decide +kernel, by decide +kernel⟩

end AccessList
