import TwinGraph.Proofs.Vocabulary
import TwinGraph.Proofs.Text.Case

/-!
# The language of aliases

An alias is told by its characters alone: a letter or an underscore, then letters, digits and
underscores, all of them ASCII, and no reserved word once it stands in capitals.  Every other text
is refused for one reason, and neither the field nor the case of a letter makes a difference.
-/

namespace TwinGraph

namespace Text

/-- A letter of ASCII. -/
def IsLetter (character : Char) : Prop :=
  'A' ≤ character ∧ character ≤ 'Z' ∨ 'a' ≤ character ∧ character ≤ 'z'

/-- A digit of ASCII. -/
def IsDigit (character : Char) : Prop :=
  '0' ≤ character ∧ character ≤ '9'

/-- A text of ASCII letters, digits and underscores that is not empty and begins with no digit. -/
def IsIdentifier (text : String) : Prop :=
  ∃ first rest, text.toList = first :: rest ∧ (IsLetter first ∨ first = '_') ∧
    ∀ character ∈ rest, IsLetter character ∨ IsDigit character ∨ character = '_'

theorem isAlpha_iff {character : Char} : character.isAlpha = true ↔ IsLetter character := by
  have unfolded : character.isAlpha =
      (decide ('A' ≤ character ∧ character ≤ 'Z') ||
        (decide ('a' ≤ character) && decide (character ≤ 'z'))) := rfl
  simp [unfolded, IsLetter]

theorem isDigit_iff {character : Char} : character.isDigit = true ↔ IsDigit character := by
  have unfolded : character.isDigit =
      (decide ('0' ≤ character) && decide (character ≤ '9')) := rfl
  simp [unfolded, IsDigit]

theorem isWordStart_iff {character : Char} :
    isWordStart character = true ↔ IsLetter character ∨ character = '_' := by
  rw [isWordStart, Bool.or_eq_true, isAlpha_iff, beq_iff_eq]

theorem isWordPart_iff {character : Char} :
    isWordPart character = true ↔
      IsLetter character ∨ IsDigit character ∨ character = '_' := by
  have unfolded : isWordPart character =
      (character.isAlpha || character.isDigit || character == '_') := rfl
  rw [unfolded, Bool.or_eq_true, Bool.or_eq_true, isAlpha_iff, isDigit_iff, beq_iff_eq, or_assoc]

theorem isWord_iff {text : String} : isWord text = true ↔ IsIdentifier text := by
  unfold isWord IsIdentifier
  cases text.toList with
  | nil => simp
  | cons first rest => simp [isWordStart_iff, isWordPart_iff]

/-- White space lies outside the ranges of letters and digits. -/
theorem isWhiteSpace_of_isWordPart {character : Char} (part : isWordPart character = true) :
    isWhiteSpace character = false := by
  have unfolded : isWordPart character =
      (character.isAlpha || character.isDigit || character == '_') := rfl
  cases digit : character.isDigit with
  | true =>
    have range : 48 ≤ character.toNat ∧ character.toNat ≤ 57 := Char.isDigit_iff_toNat.mp digit
    simp only [isWhiteSpace, Bool.or_eq_false_iff, Bool.and_eq_false_iff,
      decide_eq_false_iff_not, beq_eq_false_iff_ne]
    omega
  | false =>
    apply isWhiteSpace_of_isWordStart
    rwa [unfolded, digit, Bool.or_false] at part

end Text

open Text

variable {field text : String} {error : QueryError}

theorem validateAlias_eq_ok_iff_isIdentifier :
    validateAlias field text = .ok () ↔
      IsIdentifier text ∧ capitals text ∉ reservedWords := by
  rw [validateAlias_eq_ok_iff, IsAlias, isWord_iff, ← isReserved_iff_mem, Bool.not_eq_true]

/-- A text is refused for one of three reasons, and never for two of them. -/
theorem validateAlias_eq_error_iff :
    validateAlias field text = .error error ↔
      trim text = [] ∧ error = .invalidArgument field .blank ∨
      (trim text ≠ [] ∧ ¬ IsIdentifier text) ∧
        error = .invalidArgument field (.notIdentifier text) ∨
      (IsIdentifier text ∧ capitals text ∈ reservedWords) ∧
        error = .invalidArgument field (.reservedWord text) := by
  rw [Ne, trim_eq_nil_iff, ← isWord_iff, ← isReserved_iff_mem]
  unfold validateAlias
  cases blank : isBlank text with
  | true =>
    have noWord : isWord text = false := by
      refine Bool.eq_false_iff.mpr fun word => ?_
      rw [isBlank_of_isWord word] at blank
      cases blank
    simp [noWord, eq_comm (a := error)]
  | false =>
    cases isWord text with
    | false => simp [eq_comm (a := error)]
    | true => cases isReserved text <;> simp [eq_comm (a := error)]

/-- A text is taken for an alias, in whatever field, exactly if it is an identifier whose capitals
are no reserved word.  Otherwise it is refused as blank if nothing is left of it when it is trimmed,
then as no identifier, and only then as a reserved word.  The case of its letters never matters, and
an alias holds no white space and none of the marks that stand around aliases. -/
theorem alias_taken_or_refused (field text : String) :
    (validateAlias field text = .ok () ↔
      IsIdentifier text ∧ capitals text ∉ reservedWords) ∧
    (∀ error, validateAlias field text = .error error ↔
      trim text = [] ∧ error = .invalidArgument field .blank ∨
      (trim text ≠ [] ∧ ¬ IsIdentifier text) ∧
        error = .invalidArgument field (.notIdentifier text) ∨
      (IsIdentifier text ∧ capitals text ∈ reservedWords) ∧
        error = .invalidArgument field (.reservedWord text)) ∧
    (∀ other, Recased text other →
      (validateAlias field other = .ok () ↔ validateAlias field text = .ok ())) ∧
    (validateAlias field text = .ok () →
      (∀ character ∈ text.toList, isWhiteSpace character = false) ∧
        ∀ mark ∈ ['.', ',', '\'', '"', '\\', '(', ')'], mark ∉ text.toList) := by
  refine ⟨validateAlias_eq_ok_iff_isIdentifier, fun error => validateAlias_eq_error_iff, ?_, ?_⟩
  · intro other recased
    rw [validateAlias_eq_ok_iff, validateAlias_eq_ok_iff]
    exact isAlias_iff_of_recased recased
  · intro accepted
    have usable : IsAlias text := validateAlias_eq_ok_iff.mp accepted
    constructor
    · intro character member
      exact isWhiteSpace_of_isWordPart (usable.isWordPart_of_mem member)
    · intro mark listed
      have other : isWordPart mark = false := by
        simp only [List.mem_cons, List.not_mem_nil, or_false] at listed
        rcases listed with rfl | rfl | rfl | rfl | rfl | rfl | rfl <;> rfl
      exact usable.notMem other

/-- An alias in another casing, and texts that only look like aliases: of wide white space alone,
with a line end behind the last letter, with a letter that is not ASCII, and a reserved word in
mixed case. -/
theorem alias_taken_or_refused_of_lookalikes :
    (IsIdentifier "_Room2" ∧ capitals "_Room2" ∉ reservedWords ∧ Recased "_Room2" "_rOOM2") ∧
      validateAlias "alias" "_rOOM2" = .ok () ∧ '(' ∉ "_Room2".toList ∧
      validateAlias "twin_alias" "\u3000\u0085" =
        .error (.invalidArgument "twin_alias" .blank) ∧
      validateAlias "alias" "twin\n" =
        .error (.invalidArgument "alias" (.notIdentifier "twin\n")) ∧
      validateAlias "alias" "\u212Aey" =
        .error (.invalidArgument "alias" (.notIdentifier "\u212Aey")) ∧
      validateAlias "alias" "sElEcT" =
        .error (.invalidArgument "alias" (.reservedWord "sElEcT")) := by
  have identifier : IsIdentifier "_Room2" := isWord_iff.mp (by decide)
  have free : capitals "_Room2" ∉ reservedWords := by decide +kernel
  have recased : Recased "_Room2" "_rOOM2" := by decide +kernel
  obtain ⟨takes, -, recases, holds⟩ := alias_taken_or_refused "alias" "_Room2"
  have taken := takes.mpr ⟨identifier, free⟩
  have refuses (field text : String) := (alias_taken_or_refused field text).2.1
  refine ⟨⟨identifier, free, recased⟩, (recases _ recased).mpr taken,
    (holds taken).2 '(' (by simp), (refuses _ _ _).mpr (.inl ⟨by decide +kernel, rfl⟩),
    (refuses _ _ _).mpr (.inr (.inl ⟨⟨by decide +kernel, ?_⟩, rfl⟩)),
    (refuses _ _ _).mpr (.inr (.inl ⟨⟨by decide +kernel, ?_⟩, rfl⟩)),
    (refuses _ _ _).mpr (.inr (.inr ⟨⟨?_, by decide +kernel⟩, rfl⟩))⟩
  · exact isWord_iff.not.mp (by decide)
  · exact isWord_iff.not.mp (by decide)
  · exact isWord_iff.mp (by decide)

end TwinGraph
