import AccessList.Proofs.Config.Sections
import AccessList.Proofs.Config.Tables

/-! Configurations as blocks. Names, objects and groups are read apart from each other, each from the blocks
that open with its keyword, so that blocks of different families may stand in any order. -/
namespace AccessList.Config

open Text

def families : List String := ["name", "object", "object-group"]

/-- A line that is not indented with the indented lines below it, none of which opens a family. -/
structure Block where
  head : String
  body : List String
  flush : startsWith " " head = false
  indented : ∀ line ∈ body, startsWith " " line = true
  quiet : ∀ line ∈ body, ∀ keyword ∈ families, (words line).head? ≠ some keyword
  deriving DecidableEq

namespace Block

def lines (b : Block) : List String := b.head :: b.body

def opens (keyword : String) (b : Block) : Bool := (words b.head).head? = some keyword

end Block

variable {keyword : String} {blocks blocks' : List Block} {b : Block}

theorem Block.quiet_lines (family : keyword ∈ families) (other : b.opens keyword = false) :
    ∀ line ∈ b.lines, (words line).head? ≠ some keyword := by
  intro line member
  rcases List.mem_cons.mp member with rfl | inside
  · simpa [Block.opens] using other
  · exact b.quiet line inside keyword family

theorem flush_head (blocks : List Block) :
    ∀ line ∈ (blocks.flatMap Block.lines).head?, startsWith " " line = false := by
  cases blocks with
  | nil => simp
  | cons b blocks => simpa [Block.lines] using b.flush

theorem flatMap_opening {α : Type} {f : Block → List α} (silent : ∀ b, b.opens keyword = false → f b = [])
    (blocks : List Block) : (blocks.filter (·.opens keyword)).flatMap f = blocks.flatMap f := by
  induction blocks with
  | nil => rfl
  | cons b blocks ih =>
    cases opens : b.opens keyword with
    | true => rw [List.filter_cons_of_pos opens, List.flatMap_cons, List.flatMap_cons, ih]
    | false =>
      rw [List.filter_cons_of_neg (by simp [opens]), List.flatMap_cons, silent b opens, ih, List.nil_append]

/-- The sections of a family are those of its own blocks, in their order. -/
theorem sections_blocks (family : keyword ∈ families) (blocks : List Block) :
    sections keyword (blocks.flatMap Block.lines) =
      (blocks.filter (·.opens keyword)).flatMap fun b => sections keyword b.lines := by
  have silent (b : Block) (other : b.opens keyword = false) : sections keyword b.lines = [] := by
    rw [sections_eq, sectionsFrom_quiet (b.quiet_lines family other)]
  rw [flatMap_opening silent]
  induction blocks with
  | nil => rfl
  | cons b blocks ih =>
    rw [List.flatMap_cons, List.flatMap_cons, sections_eq, sectionsFrom_append (flush_head blocks),
      ← sections_eq, ← sections_eq, ih]

theorem nameLine?_quiet {line : String} (quiet : (words line).head? ≠ some "name") :
    nameLine? line = none := by
  simp only [nameLine?]
  split
  · rfl
  split
  · next all => simp [all] at quiet
  · rfl

theorem names_blocks (blocks : List Block) :
    names (blocks.flatMap Block.lines) =
      Table.ofList ((blocks.filter (·.opens "name")).flatMap fun b => b.lines.filterMap nameLine?) := by
  have silent (b : Block) (other : b.opens "name" = false) : b.lines.filterMap nameLine? = [] :=
    List.filterMap_eq_nil_iff.mpr fun line member =>
      nameLine?_quiet (b.quiet_lines (by decide) other line member)
  rw [flatMap_opening silent, names, List.filterMap_flatMap]

theorem value_read (text : String) : (read text).value = symbols (lines text) := rfl

/-- Blocks may be moved among the blocks of the other families without a change to the symbols that are
read, the order in the tables included. Only the order within a family counts; blocks that open no family
may stand anywhere. -/
theorem read_rearranged {text text' : String} (written : lines text = blocks.flatMap Block.lines)
    (written' : lines text' = blocks'.flatMap Block.lines)
    (kept : ∀ keyword ∈ families, blocks'.filter (·.opens keyword) = blocks.filter (·.opens keyword)) :
    (read text').value = (read text).value := by
  have alike {keyword : String} (family : keyword ∈ families) :
      sections keyword (lines text') = sections keyword (lines text) := by
    rw [written, written', sections_blocks family, sections_blocks family, kept keyword family]
  have named : names (lines text') = names (lines text) := by
    rw [written, written', names_blocks, names_blocks, kept "name" (by decide)]
  rw [value_read, value_read, symbols_eq, symbols_eq, alike (by decide), alike (by decide), named]

/-- A group may stand before the name and the object that it takes. -/
theorem read_rearranged_servers :
    let name : Block := ⟨"name 10.0.0.2 b", [], by decide +kernel, by simp, by simp⟩
    let object : Block := ⟨"object network a", [" host 10.0.0.1"], by decide +kernel, by decide +kernel,
      by decide +kernel⟩
    let group : Block := ⟨"object-group network servers",
      [" network-object object a", " network-object host b"], by decide +kernel, by decide +kernel,
      by decide +kernel⟩
    let ordered := "name 10.0.0.2 b\nobject network a\n host 10.0.0.1\n" ++
      "object-group network servers\n network-object object a\n network-object host b"
    let moved := "object-group network servers\n network-object object a\n network-object host b\n" ++
      "object network a\n host 10.0.0.1\nname 10.0.0.2 b"
    lines ordered = [name, object, group].flatMap Block.lines ∧
      lines moved = [group, object, name].flatMap Block.lines ∧
      (∀ keyword ∈ families,
        [group, object, name].filter (·.opens keyword) = [name, object, group].filter (·.opens keyword)) ∧
      (read moved).value = (read ordered).value ∧
      (read moved).value.networkGroups.get? "servers" = some ["10.0.0.1/32", "10.0.0.2/32"] := by
  intro name object group ordered moved
  have written : lines ordered = [name, object, group].flatMap Block.lines := by decide +kernel
  have written' : lines moved = [group, object, name].flatMap Block.lines := by decide +kernel
  have kept : ∀ keyword ∈ families,
      [group, object, name].filter (·.opens keyword) = [name, object, group].filter (·.opens keyword) := by
    decide +kernel
  have servers : (read moved).value.networkGroups.get? "servers" = some ["10.0.0.1/32", "10.0.0.2/32"] := by
    rw [value_read, written']
    decide +kernel
  exact ⟨written, written', kept, read_rearranged written written' kept, servers⟩

end AccessList.Config
