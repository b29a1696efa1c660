import TwinGraph.Literal
import TwinGraph.Proofs.Number.Shortest
import TwinGraph.Text.Character
import Mathlib.Data.List.Basic

/-!
# Decimal numerals

A decimal numeral is a run of digits, with a sign in front of it if it denotes a negative integer.
The text of an integer denotes that integer, and a decimal without places is a numeral too.
-/

namespace TwinGraph

open scoped Binary64

namespace Text

/-- The integer that a decimal numeral denotes. -/
def integer? : List Char → Option Int
  | '-' :: digits => (number? 10 digits).map fun (magnitude : Nat) => -(magnitude : Int)
  | digits => (number? 10 digits).map fun (magnitude : Nat) => (magnitude : Int)

theorem digitValue?_of_isDigit {character : Char} (digit : character.isDigit = true) :
    digitValue? 10 character = some (character.toNat - '0'.toNat) := by
  have range := Char.isDigit_iff_toNat.mp digit
  have least : '0'.toNat = 0x30 := rfl
  have greatest : '9'.toNat = 0x39 := rfl
  rw [least, greatest] at range
  have inside : (decide (0x30 ≤ character.toNat) && decide (character.toNat ≤ 0x39)) = true := by
    simpa using range
  have small : character.toNat - 0x30 < 10 := by omega
  simp only [digitValue?, inside, least, if_true, small]

section

variable {digits : List Char} (each : ∀ character ∈ digits, character.isDigit = true)

include each

theorem numberOf_of_digits : numberOf 10 digits = Nat.ofDigitChars 10 digits 0 := by
  rw [numberOf, Nat.ofDigitChars_eq_foldl]
  apply List.foldl_ext
  intro number digit member
  rw [digitValue?_of_isDigit (each digit member), Option.getD_some, Nat.mul_comm]

theorem number?_of_digits (nonempty : digits ≠ []) :
    number? 10 digits = some (Nat.ofDigitChars 10 digits 0) := by
  have digital : digits.all (isDigitOf 10) = true := by
    rw [List.all_eq_true]
    intro digit member
    rw [isDigitOf, digitValue?_of_isDigit (each digit member), Option.isSome_some]
  have begun : digits.isEmpty = false := by simpa using nonempty
  simp [number?, digital, begun, numberOf_of_digits each]

theorem integer?_of_digits (nonempty : digits ≠ []) :
    integer? digits = some (Nat.ofDigitChars 10 digits 0 : Int) := by
  have read := number?_of_digits each nonempty
  cases digits with
  | nil => exact absurd rfl nonempty
  | cons first rest =>
    have unsigned : first ≠ '-' := by
      rintro rfl
      exact absurd (each '-' List.mem_cons_self) (by decide)
    simp [integer?, read, unsigned]

end

theorem isDigit_of_mem_toDigits_append {number zeros : Nat} :
    ∀ character ∈ Nat.toDigits 10 number ++ List.replicate zeros '0',
      character.isDigit = true := by
  intro character member
  rcases List.mem_append.mp member with digit | padding
  · exact Nat.isDigit_of_mem_toDigits (by omega) (by omega) digit
  · rw [List.eq_of_mem_replicate padding]
    rfl

theorem ofDigitChars_toDigits_append (number zeros : Nat) :
    Nat.ofDigitChars 10 (Nat.toDigits 10 number ++ List.replicate zeros '0') 0 =
      number * 10 ^ zeros := by
  rw [Nat.ofDigitChars_append, Nat.ofDigitChars_toDigits (by omega) (by omega),
    Nat.ofDigitChars_replicate_zero, Nat.mul_comm]

/-- A decimal without places is written as the numeral of the number that it is. -/
theorem integer?_render_decimal {decimal : Decimal} (whole : 0 ≤ decimal.exponent) :
    integer? decimal.render = some (decimal.whole : Int) := by
  have digits : decimal.render = Nat.toDigits 10 decimal.coefficient ++
      List.replicate decimal.exponent.toNat '0' := if_pos whole
  have nonempty : decimal.render ≠ [] := by
    rw [digits]
    exact List.append_ne_nil_of_left_ne_nil Nat.toDigits_ne_nil _
  rw [digits] at nonempty ⊢
  rw [integer?_of_digits isDigit_of_mem_toDigits_append nonempty, ofDigitChars_toDigits_append,
    Decimal.whole]

theorem integer?_renderInteger (value : Int) :
    integer? (Literal.renderInteger value) = some value := by
  have each : ∀ character ∈ Nat.toDigits 10 value.natAbs, character.isDigit = true :=
    fun _ member => Nat.isDigit_of_mem_toDigits (by omega) (by omega) member
  have read : Nat.ofDigitChars 10 (Nat.toDigits 10 value.natAbs) 0 = value.natAbs :=
    Nat.ofDigitChars_toDigits (by omega) (by omega)
  rw [Literal.renderInteger]
  split
  case isTrue negative =>
    rw [integer?, number?_of_digits each Nat.toDigits_ne_nil, read]
    have opposite : -(value.natAbs : Int) = value := by omega
    rw [Option.map_some, opposite]
  case isFalse natural =>
    have absolute : (value.natAbs : Int) = value := by omega
    rw [integer?_of_digits each Nat.toDigits_ne_nil, read, absolute]

end Text
end TwinGraph
