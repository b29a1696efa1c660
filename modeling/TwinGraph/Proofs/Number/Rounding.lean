import TwinGraph.Number.Binary64

/-!
# Rounding integers

What a quotient is rounded to is the integer nearest to it, and the even one where two are nearest.
From `2 ^ 63` up to `2 ^ 64` the significand of a number counts multiples of `2 ^ 11`, so an integer
of that range is rounded to the nearest of these.
-/

namespace TwinGraph
namespace Binary64

/-- Whether a quotient is rounded to an integer: none is nearer, and a nearest one that is not the
only one is even. -/
structure RoundsTo (numerator denominator result : Nat) : Prop where
  below : 2 * (denominator * result) ≤ 2 * numerator + denominator
  above : 2 * numerator ≤ 2 * (denominator * result) + denominator
  even : 2 * (denominator * result) = 2 * numerator + denominator ∨
    2 * numerator = 2 * (denominator * result) + denominator → result % 2 = 0

theorem roundsTo_roundQuotient {numerator denominator : Nat} (positive : 0 < denominator) :
    RoundsTo numerator denominator (roundQuotient numerator denominator) := by
  have division := Nat.div_add_mod numerator denominator
  have remainder := Nat.mod_lt numerator positive
  have next (quotient : Nat) :
      denominator * (quotient + 1) = denominator * quotient + denominator := Nat.mul_succ _ _
  simp only [roundQuotient, Bool.or_eq_true, Bool.and_eq_true, decide_eq_true_eq, beq_iff_eq]
  split
  · constructor <;> omega
  · constructor <;> rw [next] <;> omega

/-- There is but one integer to which a quotient is rounded. -/
theorem RoundsTo.unique {numerator denominator first second : Nat} (positive : 0 < denominator)
    (left : RoundsTo numerator denominator first) (right : RoundsTo numerator denominator second) :
    first = second := by
  -- Two results differ by one step at most, and by one only if both are equally near.
  have apart {low high : Nat} (less : low < high) (lower : RoundsTo numerator denominator low)
      (upper : RoundsTo numerator denominator high) : False := by
    have step : denominator * (low + 1) ≤ denominator * high := Nat.mul_le_mul_left _ less
    rw [Nat.mul_succ] at step
    have top := lower.above
    have bottom := upper.below
    have tie : 2 * numerator = 2 * (denominator * low) + denominator := by omega
    have tie' : 2 * (denominator * high) = 2 * numerator + denominator := by omega
    have adjacent : high = low + 1 := by
      apply Nat.eq_of_mul_eq_mul_left positive
      rw [Nat.mul_succ]
      omega
    have even := lower.even (.inr tie)
    have even' := upper.even (.inl tie')
    omega
  rcases Nat.lt_trichotomy first second with less | same | less
  · exact (apart less left right).elim
  · exact same
  · exact (apart less right left).elim

theorem roundQuotient_eq_iff {numerator denominator result : Nat} (positive : 0 < denominator) :
    roundQuotient numerator denominator = result ↔ RoundsTo numerator denominator result := by
  constructor
  · rintro rfl
    exact roundsTo_roundQuotient positive
  · exact (roundsTo_roundQuotient positive).unique positive

/-- The number that counts a multiple of `2 ^ 11` from `2 ^ 63` on. -/
def large (count : Nat) : Binary64 :=
  ofMagnitude false (1085 * 2 ^ (52 : Nat) + count)

section

variable {value : Nat} (least : 2 ^ (63 : Nat) ≤ value) (bounded : value < 2 ^ (64 : Nat))

include least bounded

theorem binaryOrder_of_large : binaryOrder value 1 = 63 := by
  have order : value.log2 = 63 := by
    apply (Nat.log2_eq_iff _).mpr ⟨least, bounded⟩
    omega
  have one : Nat.log2 1 = 0 := by decide
  have reached : 1 * 2 ^ (63 - 0 : Int).toNat ≤ value * 2 ^ (-(63 - 0) : Int).toNat := by
    simpa using least
  simp only [binaryOrder, order, one]
  exact if_pos reached

theorem roundQuotient_of_large :
    2 ^ (52 : Nat) ≤ roundQuotient value (2 ^ (11 : Nat)) ∧
      roundQuotient value (2 ^ (11 : Nat)) ≤ 2 ^ (53 : Nat) := by
  have rounded : RoundsTo value (2 ^ (11 : Nat)) (roundQuotient value (2 ^ (11 : Nat))) :=
    roundsTo_roundQuotient (Nat.two_pow_pos 11)
  have below := rounded.below
  have above := rounded.above
  constructor <;> omega

theorem ofInt_of_large : ofInt value = large (roundQuotient value (2 ^ (11 : Nat))) := by
  have positive : value ≠ 0 := by omega
  have count := roundQuotient_of_large least bounded
  have range : 1085 * 2 ^ (52 : Nat) + roundQuotient value (2 ^ (11 : Nat)) ≤
      2047 * 2 ^ (52 : Nat) := by
    omega
  have scale : max ((63 : Int) - 52) (-1074) = 11 := by decide
  have sign : decide ((value : Int) < 0) = false := by simp
  rw [ofInt, nearest, sign, Int.natAbs_natCast, if_neg positive, binaryOrder_of_large least bounded]
  simp only [scale]
  have exponent : ((11 : Int) + 1074).toNat = 1085 := by decide
  have divisor : 1 * 2 ^ (11 : Int).toNat = 2 ^ (11 : Nat) := by decide
  have dividend : value * 2 ^ (-11 : Int).toNat = value := by simp
  rw [exponent, divisor, dividend, Nat.min_eq_left range, large]

end

end Binary64
end TwinGraph
