import TwinGraph.Literal
import TwinGraph.Proofs.Text.Boundary

/-!
# Telling literals apart

A string stands in quotes, and every other literal is one run of letters, digits, signs and
points.  So a literal can be read off a text that goes on with a space or a parenthesis, except
that an integer and a float may be written alike.
-/

namespace TwinGraph

namespace Text

/-- A text that is over, or goes on with a space or a closing parenthesis. -/
def Ends (rest : List Char) : Prop :=
  ∀ character ∈ rest.head?, character = ' ' ∨ character = ')'

@[simp]
theorem ends_nil : Ends [] := by
  simp [Ends]

@[simp]
theorem ends_cons {character : Char} {rest : List Char} :
    Ends (character :: rest) ↔ character = ' ' ∨ character = ')' := by
  simp [Ends]

theorem Ends.stops {keep : Char → Bool} {rest : List Char} (ends : Ends rest)
    (space : keep ' ' = false) (parenthesis : keep ')' = false) : Stops keep rest := by
  intro character first
  rcases ends character first with rfl | rfl
  · exact space
  · exact parenthesis

/-- The characters that numerals consist of. -/
def isNumeralPart (character : Char) : Bool :=
  character.isDigit || character == '-' || character == '.'

/-- The characters that literals without quotes consist of. -/
def isBarePart (character : Char) : Bool :=
  character.isAlpha || isNumeralPart character

theorem isNumeralPart_of_mem_toDigits {number : Nat} {character : Char}
    (member : character ∈ Nat.toDigits 10 number) : isNumeralPart character = true := by
  simp [isNumeralPart, Nat.isDigit_of_mem_toDigits (by decide) (by decide) member]

end Text

open Text

theorem Decimal.isNumeralPart_of_mem_render {decimal : Decimal} {character : Char}
    (member : character ∈ decimal.render) : isNumeralPart character = true := by
  have zero : isNumeralPart '0' = true := by decide
  have point : isNumeralPart '.' = true := by decide
  simp only [Decimal.render] at member
  split at member
  · rcases List.mem_append.mp member with digit | padding
    · exact isNumeralPart_of_mem_toDigits digit
    · rw [List.eq_of_mem_replicate padding]
      exact zero
  split at member
  · rcases List.mem_append.mp member with digit | rest
    · exact isNumeralPart_of_mem_toDigits (List.mem_of_mem_take digit)
    · rcases List.mem_cons.mp rest with rfl | digit
      · exact point
      · exact isNumeralPart_of_mem_toDigits (List.mem_of_mem_drop digit)
  · rcases List.mem_cons.mp member with rfl | rest
    · exact zero
    rcases List.mem_cons.mp rest with rfl | rest
    · exact point
    rcases List.mem_append.mp rest with padding | digit
    · rw [List.eq_of_mem_replicate padding]
      exact zero
    · exact isNumeralPart_of_mem_toDigits digit

namespace Literal

/-- Whether a literal is a number. -/
def isNumeric : Literal → Bool
  | integer _ | float _ => true
  | _ => false

/-- Whether a literal stands in quotes. -/
def isString : Literal → Bool
  | string _ => true
  | _ => false

theorem isString_iff {literal : Literal} :
    literal.isString = true ↔ ∃ value, literal = string value := by
  cases literal <;> simp [isString]

/-- Equality of literals as far as a text shows it: of two numbers it shows the numerals. -/
def Alike (left right : Literal) : Prop :=
  left = right ∨ left.isNumeric = true ∧ right.isNumeric = true ∧ left.render = right.render

theorem isNumeralPart_of_mem_render {literal : Literal} (numeric : literal.isNumeric = true)
    (finite : literal.isFinite = true) {character : Char} (member : character ∈ literal.render) :
    isNumeralPart character = true := by
  have sign : isNumeralPart '-' = true := by decide
  cases literal with
  | integer value =>
    simp only [render, renderInteger] at member
    split at member
    · rcases List.mem_cons.mp member with rfl | digit
      · exact sign
      · exact isNumeralPart_of_mem_toDigits digit
    · exact isNumeralPart_of_mem_toDigits member
  | float value =>
    have finite' : value.isFinite = true := finite
    have number : value.isNaN = false := by
      simp_all [Binary64.isNaN, Binary64.isFinite]
    simp only [render, Binary64.render, Binary64.renderMagnitude, number, finite', if_true,
      Bool.false_eq_true, if_false] at member
    split at member
    · rcases List.mem_cons.mp member with rfl | rest
      · exact sign
      · exact Decimal.isNumeralPart_of_mem_render rest
    · exact Decimal.isNumeralPart_of_mem_render member
  | string value => simp [isNumeric] at numeric
  | boolean value => simp [isNumeric] at numeric
  | null => simp [isNumeric] at numeric

theorem isBarePart_of_mem_render {literal : Literal} (unquoted : literal.isString = false)
    (finite : literal.isFinite = true) {character : Char} (member : character ∈ literal.render) :
    isBarePart character = true := by
  have letters (word : List Char) (each : word.all Char.isAlpha = true)
      (inside : character ∈ word) : isBarePart character = true := by
    simp [isBarePart, List.all_eq_true.mp each character inside]
  have numeral (numeric : literal.isNumeric = true) : isBarePart character = true := by
    simp [isBarePart, isNumeralPart_of_mem_render numeric finite member]
  cases literal with
  | string value => simp [isString] at unquoted
  | integer value => exact numeral rfl
  | float value => exact numeral rfl
  | boolean value => cases value <;> exact letters _ (by decide) member
  | null => exact letters _ (by decide) member

theorem exists_letter {literal : Literal} (unquoted : literal.isString = false)
    (notNumeric : literal.isNumeric = false) :
    ∃ character ∈ literal.render, isNumeralPart character = false := by
  cases literal with
  | string value => simp [isString] at unquoted
  | integer value => simp [isNumeric] at notNumeric
  | float value => simp [isNumeric] at notNumeric
  | boolean value => cases value <;> exact ⟨'e', by decide, by decide⟩
  | null => exact ⟨'n', by decide, by decide⟩

theorem render_ne_of_isNumeric {number word : Literal} (numeric : number.isNumeric = true)
    (finite : number.isFinite = true) (unquoted : word.isString = false)
    (notNumeric : word.isNumeric = false) : number.render ≠ word.render := by
  intro equal
  obtain ⟨letter, inside, noNumeral⟩ := exists_letter unquoted notNumeric
  rw [← equal] at inside
  simp [isNumeralPart_of_mem_render numeric finite inside] at noNumeral

/-- Two numbers may share a numeral, but no other literals without quotes share a text. -/
theorem alike_of_render_eq {left right : Literal} (leftUnquoted : left.isString = false)
    (rightUnquoted : right.isString = false) (leftFinite : left.isFinite = true)
    (rightFinite : right.isFinite = true) (equal : left.render = right.render) :
    left.Alike right := by
  cases leftNumeric : left.isNumeric <;> cases rightNumeric : right.isNumeric
  · left
    cases left <;> cases right <;> simp_all [isString, isNumeric]
    next left right => cases left <;> cases right <;> simp_all [render]
    next left => cases left <;> simp [render] at equal
    next right => cases right <;> simp [render] at equal
  · exact absurd equal.symm
      (render_ne_of_isNumeric rightNumeric rightFinite leftUnquoted leftNumeric)
  · exact absurd equal (render_ne_of_isNumeric leftNumeric leftFinite rightUnquoted rightNumeric)
  · exact .inr ⟨leftNumeric, rightNumeric, equal⟩

theorem append_ne_quote {literal : Literal} {value : String} {rest after : List Char}
    (unquoted : literal.isString = false) (finite : literal.isFinite = true) (ends : Ends rest) :
    literal.render ++ rest ≠ quote value ++ after := by
  intro equal
  have bare : ∀ character ∈ literal.render, isBarePart character = true :=
    fun character member => isBarePart_of_mem_render unquoted finite member
  have quoteStops : Stops isBarePart (quote value ++ after) := by
    simp [quote, isBarePart, isNumeralPart]
  have equal' : literal.render ++ rest = [] ++ (quote value ++ after) := equal
  obtain ⟨-, rests⟩ := append_inj_of_stops bare (by simp) (ends.stops rfl rfl) quoteStops equal'
  rw [rests] at ends
  simp [quote] at ends

theorem alike_of_append {left right : Literal} {leftRest rightRest : List Char}
    (leftFinite : left.isFinite = true) (rightFinite : right.isFinite = true)
    (leftEnds : Ends leftRest) (rightEnds : Ends rightRest)
    (equal : left.render ++ leftRest = right.render ++ rightRest) :
    left.Alike right ∧ leftRest = rightRest := by
  cases leftString : left.isString <;> cases rightString : right.isString
  · have leftBare : ∀ character ∈ left.render, isBarePart character = true :=
      fun character member => isBarePart_of_mem_render leftString leftFinite member
    have rightBare : ∀ character ∈ right.render, isBarePart character = true :=
      fun character member => isBarePart_of_mem_render rightString rightFinite member
    obtain ⟨texts, rests⟩ := append_inj_of_stops leftBare rightBare (leftEnds.stops rfl rfl)
      (rightEnds.stops rfl rfl) equal
    exact ⟨alike_of_render_eq leftString rightString leftFinite rightFinite texts, rests⟩
  · obtain ⟨value, rfl⟩ := isString_iff.mp rightString
    exact absurd equal (append_ne_quote leftString leftFinite leftEnds)
  · obtain ⟨value, rfl⟩ := isString_iff.mp leftString
    exact absurd equal.symm (append_ne_quote rightString rightFinite rightEnds)
  · obtain ⟨value, rfl⟩ := isString_iff.mp leftString
    obtain ⟨other, rfl⟩ := isString_iff.mp rightString
    obtain ⟨rfl, rests⟩ := quote_append_inj equal
    exact ⟨.inl rfl, rests⟩

theorem Alike.render_eq {left right : Literal} (alike : left.Alike right) :
    left.render = right.render := by
  rcases alike with rfl | ⟨-, -, equal⟩
  · rfl
  · exact equal

end Literal
end TwinGraph
