import TwinGraph.Proofs.Text.Numeral

/-!
# Integers of a JSON text as literals

A literal holds an integer as it is where sixty-four bits with a sign are enough.  Above, an integer
that fits the bits without a sign becomes a floating-point number, and the text of the literal is a
numeral of another integer most of the time.
-/

namespace TwinGraph

open scoped Binary64

namespace Literal

variable {value : Int}

theorem ofJson_of_signed (least : -2 ^ (63 : Nat) ≤ value) (signed : value < 2 ^ (63 : Nat)) :
    ofJson (.number (.integer value)) = .ok (integer (Int64.ofInt value)) := by
  rw [ofJson, ofNumber, if_pos ⟨least, signed⟩]

theorem ofJson_of_unsigned (large : 2 ^ (63 : Nat) ≤ value) :
    ofJson (.number (.integer value)) = .ok (float (Binary64.ofInt value)) := by
  have unsigned : ¬ (-2 ^ (63 : Nat) ≤ value ∧ value < 2 ^ (63 : Nat)) := fun ⟨_, signed⟩ =>
    absurd large (Int.not_le.mpr signed)
  rw [ofJson, ofNumber, if_neg unsigned]

theorem integer?_render_of_signed (least : -2 ^ (63 : Nat) ≤ value)
    (signed : value < 2 ^ (63 : Nat)) :
    Text.integer? (integer (Int64.ofInt value)).render = some value := by
  rw [render_integer, Int64.toInt_ofInt_of_le least signed, Text.integer?_renderInteger]

/-- What the text of a large integer denotes. -/
theorem exists_integer?_render_of_unsigned (large : 2 ^ (63 : Nat) ≤ value)
    (bounded : value < 2 ^ (64 : Nat)) :
    ∃ shown, Text.integer? (float (Binary64.ofInt value)).render = some shown ∧ 1000 ∣ shown ∧
      Binary64.ofInt shown = Binary64.ofInt value ∧
      value ≤ shown + 2 ^ (11 : Nat) ∧ shown ≤ value + 2 ^ (11 : Nat) := by
  obtain ⟨magnitude, rfl⟩ := Int.eq_ofNat_of_zero_le (by omega : 0 ≤ value)
  have least : 2 ^ (63 : Nat) ≤ magnitude := by omega
  have bounded' : magnitude < 2 ^ (64 : Nat) := by omega
  have count := Binary64.roundQuotient_of_large least bounded'
  obtain ⟨coarse, same, above, below⟩ := Binary64.shortest_ofInt_of_large least bounded'
  have thousands : 10 ^ (3 : Nat) ∣ (Binary64.ofInt magnitude).shortest.whole :=
    Decimal.dvd_whole coarse
  have text : (Binary64.ofInt magnitude).render = (Binary64.ofInt magnitude).shortest.render := by
    rw [Binary64.ofInt_of_large least bounded', Binary64.render_large count.2]
  refine ⟨(Binary64.ofInt magnitude).shortest.whole, ?_, by omega, same, by omega, by omega⟩
  rw [render_float, text]
  exact Text.integer?_render_decimal (by omega)

/-- Every integer of sixty-four bits, with or without a sign, becomes a literal whose text is the
numeral of an integer.  Below `2 ^ 63` it is the same integer.  From there on it is a multiple of a
thousand, which is rounded to the same number and so is not far away. -/
theorem numeral_of_integer (value : Int) (least : -2 ^ (63 : Nat) ≤ value)
    (bounded : value < 2 ^ (64 : Nat)) :
    ∃ literal shown, ofJson (.number (.integer value)) = .ok literal ∧
      Text.integer? literal.render = some shown ∧ (value < 2 ^ (63 : Nat) → shown = value) ∧
      (2 ^ (63 : Nat) ≤ value → 1000 ∣ shown ∧ Binary64.ofInt shown = Binary64.ofInt value ∧
        value ≤ shown + 2 ^ (11 : Nat) ∧ shown ≤ value + 2 ^ (11 : Nat)) := by
  rcases Int.lt_or_le value (2 ^ (63 : Nat)) with signed | large
  · exact ⟨_, value, ofJson_of_signed least signed, integer?_render_of_signed least signed,
      fun _ => rfl, fun large => absurd signed (Int.not_lt.mpr large)⟩
  · obtain ⟨shown, numeral, near⟩ := exists_integer?_render_of_unsigned large bounded
    exact ⟨_, shown, ofJson_of_unsigned large, numeral,
      fun signed => absurd large (Int.not_le.mpr signed), fun _ => near⟩

/-- The greatest integer is no multiple of a thousand, and the text shows another one. -/
theorem numeral_of_greatest :
    ∃ literal shown, ofJson (.number (.integer 18446744073709551615)) = .ok literal ∧
      Text.integer? literal.render = some shown ∧ shown ≠ 18446744073709551615 ∧
      Binary64.ofInt shown = Binary64.ofInt 18446744073709551615 := by
  obtain ⟨literal, shown, made, numeral, -, near⟩ :=
    numeral_of_integer 18446744073709551615 (by omega) (by omega)
  obtain ⟨thousands, same, -, -⟩ := near (by omega)
  exact ⟨literal, shown, made, numeral, by omega, same⟩

/-- An odd integer above `2 ^ 63` is neither refused nor shown. -/
theorem not_exact_or_refused :
    ¬ ∀ value : Int, -2 ^ (63 : Nat) ≤ value → value < 2 ^ (64 : Nat) →
      (∃ reason, ofJson (.number (.integer value)) = .error (.invalidArgument "value" reason)) ∨
        ∃ literal, ofJson (.number (.integer value)) = .ok literal ∧
          Text.integer? literal.render = some value := by
  intro kept
  have made := ofJson_of_unsigned (by omega : (2 : Int) ^ (63 : Nat) ≤ 9223372036854775809)
  obtain ⟨shown, numeral, thousands, -⟩ := exists_integer?_render_of_unsigned
    (by omega : (2 : Int) ^ (63 : Nat) ≤ 9223372036854775809) (by omega)
  rcases kept 9223372036854775809 (by omega) (by omega) with
    ⟨reason, refused⟩ | ⟨literal, given, read⟩
  · rw [made] at refused
    cases refused
  · rw [made] at given
    cases given
    rw [numeral] at read
    cases read
    omega

end Literal
end TwinGraph
