import Mathlib
import TwinGraph.Alias

/-!
# Words without regard to case

Whether a text is a word, a reserved one or an alias hangs on its capitals alone.  So a text that is
cased another way at any of its letters is the same to every query.
-/

namespace TwinGraph
namespace Text

/-- A text with its ASCII letters in upper case, as a text. -/
def capitals (text : String) : String :=
  String.ofList (upperCase text)

/-- A character itself or, if it is an ASCII letter, that letter in either case. -/
def Cased (character cased : Char) : Prop :=
  cased = character ∨ cased = character.toUpper ∨ cased = character.toLower

/-- A text in which any ASCII letters may be cased another way. -/
def Recased (text other : String) : Prop :=
  List.Forall₂ Cased text.toList other.toList

instance : DecidableRel Cased :=
  fun _ _ => inferInstanceAs (Decidable (_ ∨ _ ∨ _))

instance : DecidableRel Recased :=
  fun _ _ => inferInstanceAs (Decidable (List.Forall₂ _ _ _))

@[simp]
theorem toList_capitals (text : String) :
    (capitals text).toList = text.toList.map Char.toUpper := by
  simp [capitals, upperCase]

theorem upperCase_eq_iff {left right : String} :
    upperCase left = upperCase right ↔ capitals left = capitals right :=
  String.ofList_inj.symm

theorem capitals_capitals (text : String) : capitals (capitals text) = capitals text := by
  apply String.toList_inj.mp
  simp [Function.comp_def]

theorem Cased.toUpper_eq {character cased : Char} (same : Cased character cased) :
    cased.toUpper = character.toUpper := by
  rcases same with rfl | rfl | rfl
  · rfl
  · exact Char.toUpper_toUpper_eq_toUpper character
  · exact Char.toUpper_toLower_eq_toUpper character

theorem map_toUpper_of_cased {text other : List Char} (cased : List.Forall₂ Cased text other) :
    other.map Char.toUpper = text.map Char.toUpper := by
  induction cased with
  | nil => rfl
  | cons first _ induction => rw [List.map_cons, List.map_cons, first.toUpper_eq, induction]

theorem Recased.capitals_eq {text other : String} (recased : Recased text other) :
    capitals other = capitals text := by
  apply String.toList_inj.mp
  rw [toList_capitals, toList_capitals]
  exact map_toUpper_of_cased recased

theorem toUpper_eq_or_isAlpha (character : Char) :
    character.toUpper = character ∨
      character.isAlpha = true ∧ character.toUpper.isAlpha = true := by
  by_cases lower : character.isLower = true
  · have letter : character.isAlpha = true := Bool.or_eq_true_iff.mpr (.inr lower)
    exact .inr ⟨letter, by rw [Char.isAlpha_toUpper_eq_isAlpha, letter]⟩
  · exact .inl (Char.toUpper_eq_of_not_isLower lower)

theorem isWordStart_of_isAlpha {character : Char} (letter : character.isAlpha = true) :
    isWordStart character = true :=
  Bool.or_eq_true_iff.mpr (.inl letter)

theorem isWordStart_toUpper (character : Char) :
    isWordStart character.toUpper = isWordStart character := by
  rcases toUpper_eq_or_isAlpha character with same | ⟨letter, capital⟩
  · rw [same]
  · rw [isWordStart_of_isAlpha letter, isWordStart_of_isAlpha capital]

theorem isWordPart_toUpper (character : Char) :
    isWordPart character.toUpper = isWordPart character := by
  rcases toUpper_eq_or_isAlpha character with same | ⟨letter, capital⟩
  · rw [same]
  · rw [isWordPart_of_isWordStart (isWordStart_of_isAlpha letter),
      isWordPart_of_isWordStart (isWordStart_of_isAlpha capital)]

theorem isWord_capitals (text : String) : isWord (capitals text) = isWord text := by
  unfold isWord
  rw [toList_capitals]
  cases text.toList with
  | nil => rfl
  | cons first rest =>
    simp only [List.map_cons, List.all_map, Function.comp_def, isWordStart_toUpper,
      isWordPart_toUpper]

theorem isReserved_capitals (text : String) : isReserved (capitals text) = isReserved text := by
  have same : upperCase (capitals text) = upperCase text :=
    upperCase_eq_iff.mpr (capitals_capitals text)
  rw [Bool.eq_iff_iff, isReserved_iff, isReserved_iff, same]

/-- The reserved words are written in capitals, so it is enough to look for the capitals. -/
theorem isReserved_iff_mem {word : String} :
    isReserved word = true ↔ capitals word ∈ reservedWords := by
  have written : reservedWords.map capitals = reservedWords := by decide +kernel
  rw [isReserved_iff]
  constructor
  · rintro ⟨reserved, member, same⟩
    rw [← upperCase_eq_iff.mp same, ← written]
    exact List.mem_map_of_mem member
  · intro member
    exact ⟨capitals word, member, upperCase_eq_iff.mpr (capitals_capitals word)⟩

end Text

theorem isAlias_capitals (text : String) : IsAlias (Text.capitals text) ↔ IsAlias text := by
  rw [IsAlias, Text.isWord_capitals, Text.isReserved_capitals, IsAlias]

theorem isAlias_iff_of_recased {text other : String} (recased : Text.Recased text other) :
    IsAlias other ↔ IsAlias text := by
  rw [← isAlias_capitals other, recased.capitals_eq, isAlias_capitals]

end TwinGraph
