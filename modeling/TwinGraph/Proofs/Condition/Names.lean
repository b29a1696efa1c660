import TwinGraph.Condition.Text
import TwinGraph.Proofs.Vocabulary
import TwinGraph.Proofs.Condition.Calls

/-!
# Plain names

A qualifier that is a word and a column of letters, digits, underscores and dollar signs hold none
of the characters that a text puts between its parts, so a property is written in one way only and
ends at the first character that no name has.
-/

namespace TwinGraph

namespace Text

/-- A character of a plain column. -/
def isColumnPart (character : Char) : Bool :=
  isWordPart character || character == '$'

/-- Whether a text is a plain column: one or more letters, digits, underscores or dollar signs. -/
def isColumn (text : String) : Bool :=
  !text.toList.isEmpty && text.toList.all isColumnPart

/-- A character of a qualified column. -/
def isTargetPart (character : Char) : Bool :=
  isColumnPart character || character == '.'

theorem isColumnPart_of_isColumn {text : String} (column : isColumn text = true)
    {character : Char} (member : character ∈ text.toList) : isColumnPart character = true := by
  simp only [isColumn, Bool.and_eq_true, List.all_eq_true] at column
  exact column.2 character member

end Text

open Text

namespace Condition

/-- Whether all names of a condition are plain: each qualifier is empty, absent or a word, and each
column is a plain one. -/
def Plain : Condition → Prop :=
  Named (fun qualifier => qualifier = "" ∨ isWord qualifier = true)
    fun column => isColumn column = true

instance : DecidablePred Plain :=
  fun condition => inferInstanceAs (Decidable (Named _ _ condition))

/-- A qualifier and a column that are plain. -/
structure PlainTarget (qualifier column : String) : Prop where
  qualifier : qualifier = "" ∨ isWord qualifier = true
  column : isColumn column = true

theorem Plain.target {condition : Condition} (plain : condition.Plain) {qualifier column : String}
    (qualified : condition.qualifier? = some qualifier) (named : condition.column? = some column) :
    PlainTarget qualifier column :=
  ⟨plain.self.1 qualifier qualified, plain.self.2 column named⟩

namespace PlainTarget

variable {qualifier column qualifier' column' : String}

theorem isTargetPart_of_mem (target : PlainTarget qualifier column) :
    ∀ character ∈ qualify qualifier column, isTargetPart character = true := by
  intro character member
  have inColumn (inside : character ∈ column.toList) : isTargetPart character = true := by
    simp [isTargetPart, isColumnPart_of_isColumn target.column inside]
  unfold qualify at member
  split at member
  · exact inColumn member
  · next nonempty =>
    rcases List.mem_append.mp member with inside | rest
    · have word := isWordPart_of_isWord (target.qualifier.resolve_left nonempty) inside
      simp [isTargetPart, isColumnPart, word]
    · rcases List.mem_cons.mp rest with rfl | inside
      · rfl
      · exact inColumn inside

theorem qualify_ne_nil (target : PlainTarget qualifier column) : qualify qualifier column ≠ [] := by
  unfold qualify
  split
  · intro empty
    have plain := target.column
    simp [isColumn, empty] at plain
  · simp

theorem point_notMem_column (target : PlainTarget qualifier column) : '.' ∉ column.toList :=
  fun member => absurd (isColumnPart_of_isColumn target.column member) (by decide)

theorem qualify_inj (target : PlainTarget qualifier column)
    (target' : PlainTarget qualifier' column')
    (equal : qualify qualifier column = qualify qualifier' column') :
    qualifier = qualifier' ∧ column = column' := by
  unfold qualify at equal
  split at equal <;> split at equal
  · next empty empty' => exact ⟨empty.trans empty'.symm, String.toList_inj.mp equal⟩
  · exact absurd (equal ▸ by simp) target.point_notMem_column
  · exact absurd (equal ▸ by simp) target'.point_notMem_column
  · next nonempty nonempty' =>
    obtain ⟨qualifiers, columns⟩ := append_cons_inj
      (notMem_of_isWord (target.qualifier.resolve_left nonempty) rfl)
      (notMem_of_isWord (target'.qualifier.resolve_left nonempty') rfl) equal
    exact ⟨String.toList_inj.mp qualifiers, String.toList_inj.mp columns⟩

/-- A property is read off a text that goes on with anything but a character of a name. -/
theorem of_append {leftRest rightRest : List Char} (target : PlainTarget qualifier column)
    (target' : PlainTarget qualifier' column') (leftStops : Stops isTargetPart leftRest)
    (rightStops : Stops isTargetPart rightRest)
    (equal : qualify qualifier column ++ leftRest = qualify qualifier' column' ++ rightRest) :
    (qualifier = qualifier' ∧ column = column') ∧ leftRest = rightRest := by
  obtain ⟨targets, rests⟩ := append_inj_of_stops target.isTargetPart_of_mem
    target'.isTargetPart_of_mem leftStops rightStops equal
  exact ⟨target.qualify_inj target' targets, rests⟩

end PlainTarget

end Condition
end TwinGraph
