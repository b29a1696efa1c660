import TwinGraph.Proofs.Text.Boundary
import TwinGraph.Text.Scan

/-!
# Reading texts part by part

A text whose reading ends outside every literal is read the same way whatever follows it, so the
literals of such texts in a row are those of the first one and then those of the others.
-/

namespace TwinGraph
namespace Text

/-- A text without quotes is read character by character. -/
theorem pieces_append_of_quoteless {text : List Char} (quoteless : '\'' ∉ text) (rest : List Char) :
    pieces (text ++ rest) = (pieces rest).map (text.map .bare ++ ·) := by
  induction text with
  | nil => simp
  | cons character text induction =>
    rw [List.mem_cons, not_or] at quoteless
    have scanned := scan_bare (Ne.symm quoteless.1) (text ++ rest)
    rw [List.cons_append, pieces, scanned, ← pieces, induction quoteless.2, Option.map_map]
    rfl

/-- What the literals of a text hold and what stands outside them, wherever a reading that is
outside every literal comes upon the text. -/
def Reads (text : List Char) (contents : List (List Char)) (bare : List Char) : Prop :=
  ∃ found : List Piece,
    (∀ rest, scan none (text ++ rest) = (scan none rest).map (found ++ ·)) ∧
      found.filterMap Piece.contents? = contents ∧ found.filterMap Piece.bare? = bare

theorem reads_nil : Reads [] [] [] :=
  ⟨[], by simp, rfl, rfl⟩

theorem reads_quote (value : String) : Reads (quote value) [value.toList] [] := by
  refine ⟨[.literal value.toList], fun rest => ?_, rfl, rfl⟩
  rw [scan_quote]
  rfl

namespace Reads

variable {text more : List Char} {contents moreContents : List (List Char)}
  {bare moreBare : List Char}

theorem append (first : Reads text contents bare) (second : Reads more moreContents moreBare) :
    Reads (text ++ more) (contents ++ moreContents) (bare ++ moreBare) := by
  obtain ⟨found, scanned, rfl, rfl⟩ := first
  obtain ⟨found', scanned', rfl, rfl⟩ := second
  refine ⟨found ++ found', fun rest => ?_, by simp, by simp⟩
  -- Each part prepends its own pieces to those of whatever follows it.
  rw [List.append_assoc, scanned, scanned', Option.map_map]
  congr 1
  funext pieces
  simp

theorem cons {character : Char} (ordinary : character ≠ '\'') (reads : Reads text contents bare) :
    Reads (character :: text) contents (character :: bare) := by
  obtain ⟨found, scanned, rfl, rfl⟩ := reads
  refine ⟨.bare character :: found, fun rest => ?_, rfl, rfl⟩
  rw [List.cons_append, scan_bare ordinary, scanned, Option.map_map]
  rfl

theorem of_quoteless (quoteless : '\'' ∉ text) : Reads text [] text := by
  refine ⟨text.map .bare, pieces_append_of_quoteless quoteless, ?_, ?_⟩
  · simp [Piece.contents?]
  · simp [Function.comp_def, Piece.bare?]

theorem after_quoteless (quoteless : '\'' ∉ more) (reads : Reads text contents bare) :
    Reads (more ++ text) contents (more ++ bare) :=
  (of_quoteless quoteless).append reads

theorem before_quoteless (reads : Reads text contents bare) (quoteless : '\'' ∉ more) :
    Reads (text ++ more) contents (bare ++ more) := by
  have whole := reads.append (of_quoteless quoteless)
  rwa [List.append_nil] at whole

theorem literals_eq (reads : Reads text contents bare) : literals text = some contents := by
  obtain ⟨found, scanned, rfl, -⟩ := reads
  have whole : pieces text = some found := by simpa [pieces, scan] using scanned []
  rw [literals, whole]
  rfl

theorem outside_eq (reads : Reads text contents bare) : outside text = some bare := by
  obtain ⟨found, scanned, -, rfl⟩ := reads
  have whole : pieces text = some found := by simpa [pieces, scan] using scanned []
  rw [outside, whole]
  rfl

end Reads

section

variable {α : Type} {text : α → List Char} {contents : α → List (List Char)} {bare : α → List Char}

theorem reads_flatMap {parts : List α}
    (each : ∀ part ∈ parts, Reads (text part) (contents part) (bare part)) :
    Reads (parts.flatMap text) (parts.flatMap contents) (parts.flatMap bare) := by
  induction parts with
  | nil => exact reads_nil
  | cons part rest induction =>
    rw [List.forall_mem_cons] at each
    exact each.1.append (induction each.2)

/-- Texts that are joined by a separator without quotes are read one by one. -/
theorem reads_intercalate {separator : List Char} (quoteless : '\'' ∉ separator) {parts : List α}
    (each : ∀ part ∈ parts, Reads (text part) (contents part) (bare part)) :
    Reads (separator.intercalate (parts.map text)) (parts.flatMap contents)
      (separator.intercalate (parts.map bare)) := by
  cases parts with
  | nil => exact reads_nil
  | cons first rest =>
    rw [List.forall_mem_cons] at each
    simp only [List.map_cons, intercalate_cons, List.flatMap_map, List.flatMap_cons]
    refine each.1.append (reads_flatMap fun part member => ?_)
    exact (each.2 part member).after_quoteless quoteless

theorem reads_quoteList (values : List String) :
    Reads (quoteList values) (values.map String.toList)
      (commaSeparated (values.map fun _ => [])) := by
  rw [List.map_eq_flatMap]
  exact reads_intercalate (by decide) fun value _ => reads_quote value

end

end Text
end TwinGraph
