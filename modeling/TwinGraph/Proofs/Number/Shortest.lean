import TwinGraph.Number.Shortest
import TwinGraph.Proofs.Number.Rounding

/-!
# The shortest decimals of large integers

Whatever the shortest decimal of a number is, it lies in the interval of values that round to the
number, and its grid is no finer than one that has a point there.  From `2 ^ 63` up to `2 ^ 64` the
interval is wide enough for a multiple of a thousand.
-/

namespace TwinGraph

open scoped Binary64

/-- The natural number that a decimal without places is. -/
def Decimal.whole (decimal : Decimal) : Nat :=
  decimal.coefficient * 10 ^ decimal.exponent.toNat

theorem Decimal.dvd_whole {decimal : Decimal} {exponent : Nat}
    (coarse : exponent ≤ decimal.exponent) : 10 ^ exponent ∣ decimal.whole := by
  have powers : exponent ≤ decimal.exponent.toNat := by omega
  exact Nat.dvd_mul_left_of_dvd (Nat.pow_dvd_pow 10 powers) _

namespace Binary64
namespace RoundingInterval

variable {interval : RoundingInterval} {exponent : Int} {coefficient : Nat}

theorem contains_of_nearestPoint? (found : interval.nearestPoint? exponent = some coefficient) :
    interval.contains exponent coefficient = true := by
  simp only [nearestPoint?] at found
  split at found
  case h_1 below above =>
    split at found
    · rwa [← Option.some.inj found]
    · rwa [← Option.some.inj found]
  case h_2 below above => rwa [← Option.some.inj found]
  case h_3 below above => rwa [← Option.some.inj found]
  case h_4 => cases found

theorem exists_nearestPoint? (inside : interval.contains exponent
      (interval.quarters exponent interval.center / interval.tens exponent 1 + 1) = true) :
    ∃ point, interval.nearestPoint? exponent = some point := by
  simp only [nearestPoint?, inside]
  split
  case h_1 =>
    split
    · exact ⟨_, rfl⟩
    · exact ⟨_, rfl⟩
  case h_3 => exact ⟨_, rfl⟩
  all_goals contradiction

/-- Going down from a coarser grid, nothing passes by a grid that has a point. -/
theorem coarsestPoint_of_grid {grids : Nat} (place : exponent = grids - 324)
    (met : ∃ point, interval.nearestPoint? exponent = some point) (more : Nat) :
    let decimal := interval.coarsestPoint (grids + 1 + more)
    exponent ≤ decimal.exponent ∧
      interval.contains decimal.exponent decimal.coefficient = true := by
  induction more with
  | zero =>
    obtain ⟨point, found⟩ := met
    simp only [coarsestPoint, ← place, found]
    exact ⟨Int.le_refl _, contains_of_nearestPoint? found⟩
  | succ more induction =>
    rw [← Nat.add_assoc, coarsestPoint]
    cases found : interval.nearestPoint? ((grids + 1 + more : Nat) - 324) with
    | none => exact induction
    | some point =>
      have coarser : exponent ≤ (grids + 1 + more : Nat) - 324 := by omega
      exact ⟨coarser, contains_of_nearestPoint? found⟩

end RoundingInterval

section

variable {count : Nat} (inner : 2 ^ (52 : Nat) < count) (bounded : count < 2 ^ (53 : Nat))

include inner bounded

theorem exponent_large : (large count).exponent.val = 1086 := by
  have field : (large count).exponent.val =
      (1085 * 2 ^ (52 : Nat) + count) / 2 ^ (52 : Nat) % 2048 := rfl
  omega

theorem fraction_large : (large count).fraction.val = count - 2 ^ (52 : Nat) := by
  have field : (large count).fraction.val = (1085 * 2 ^ (52 : Nat) + count) % 2 ^ (52 : Nat) := rfl
  omega

theorem roundingInterval_large :
    (large count).roundingInterval =
      ⟨4 * count - 2, 4 * count, 4 * count + 2, count % 2 == 0, 9⟩ := by
  have exponent := exponent_large inner bounded
  have fraction := fraction_large inner bounded
  have significand : (large count).significand = count := by
    rw [significand_of_exponent_pos (by omega), fraction]
    omega
  have scale : (large count).scale = 11 := by
    rw [Binary64.scale, exponent]
    rfl
  have between : (large count).fraction.val ≠ 0 := by omega
  simp [roundingInterval, significand, scale, between]

theorem tens_large (exponent : Int) (coefficient : Nat) :
    (large count).roundingInterval.tens exponent coefficient =
      coefficient * 10 ^ exponent.toNat := by
  rw [roundingInterval_large inner bounded, RoundingInterval.tens]
  exact Nat.mul_one _

theorem quarters_large {exponent : Int} (whole : 0 ≤ exponent) (amount : Nat) :
    (large count).roundingInterval.quarters exponent amount = amount * 2 ^ (9 : Nat) := by
  have places : (-exponent).toNat = 0 := by omega
  rw [roundingInterval_large inner bounded, RoundingInterval.quarters, places]
  exact Nat.mul_one _

/-- The interval has the decimals without places that are rounded to the count. -/
theorem contains_large_iff {exponent : Int} (whole : 0 ≤ exponent) {coefficient : Nat} :
    (large count).roundingInterval.contains exponent coefficient = true ↔
      RoundsTo (coefficient * 10 ^ exponent.toNat) (2 ^ (11 : Nat)) count := by
  rw [RoundingInterval.contains, tens_large inner bounded, quarters_large inner bounded whole,
    quarters_large inner bounded whole, roundingInterval_large inner bounded]
  generalize coefficient * 10 ^ exponent.toNat = point
  simp only [beq_iff_eq]
  split
  case isTrue even =>
    rw [Bool.and_eq_true, decide_eq_true_eq, decide_eq_true_eq]
    constructor
    · intro inside
      exact ⟨by omega, by omega, fun _ => even⟩
    · rintro ⟨below, above, -⟩
      omega
  case isFalse odd =>
    rw [Bool.and_eq_true, decide_eq_true_eq, decide_eq_true_eq]
    constructor
    · intro inside
      exact ⟨by omega, by omega, by omega⟩
    · rintro ⟨below, above, even⟩
      omega

theorem gridCount_large : (large count).roundingInterval.gridCount = 345 := by
  have greatest : (4 * count + 2).log2 = 54 := by
    apply (Nat.log2_eq_iff _).mpr
    · constructor <;> omega
    · omega
  rw [roundingInterval_large inner bounded, RoundingInterval.gridCount, greatest]
  rfl

/-- A half of the last place is more than a thousand, so the grid of the thousands has a point. -/
theorem exists_nearestPoint?_large :
    ∃ point, (large count).roundingInterval.nearestPoint? 3 = some point := by
  apply RoundingInterval.exists_nearestPoint?
  apply (contains_large_iff inner bounded (by omega)).mpr
  have center : (large count).roundingInterval.center = 4 * count := by
    rw [roundingInterval_large inner bounded]
  have power : 10 ^ (3 : Int).toNat = 1000 := rfl
  rw [quarters_large inner bounded (by omega), tens_large inner bounded, center, power]
  constructor <;> omega

theorem shortest_large :
    3 ≤ (large count).shortest.exponent ∧
      RoundsTo (large count).shortest.whole (2 ^ (11 : Nat)) count := by
  have normal : 0 < (large count).exponent.val := by
    rw [exponent_large inner bounded]
    omega
  have found : (large count).shortest = (large count).roundingInterval.coarsestPoint 345 := by
    simp only [shortest, isZero_of_exponent_pos normal, gridCount_large inner bounded]
    rfl
  have thousands : (3 : Int) = (327 : Nat) - 324 := rfl
  obtain ⟨coarse, inside⟩ := RoundingInterval.coarsestPoint_of_grid thousands
    (exists_nearestPoint?_large inner bounded) 17
  have whole := Int.le_trans (by omega : (0 : Int) ≤ 3) coarse
  rw [found]
  exact ⟨coarse, (contains_large_iff inner bounded whole).mp inside⟩

end

theorem render_large {count : Nat} (bounded : count ≤ 2 ^ (53 : Nat)) :
    (large count).render = (large count).shortest.render := by
  have field : (large count).exponent.val =
      (1085 * 2 ^ (52 : Nat) + count) / 2 ^ (52 : Nat) % 2048 := rfl
  have finite : (large count).isFinite = true := isFinite_of_exponent_lt (by omega)
  have positive : (large count).negative = false := rfl
  rw [render, isNaN_of_isFinite finite, positive, renderMagnitude, if_pos finite]
  rfl

/-- The shortest decimal of what a large integer is rounded to is a multiple of a thousand, which is
rounded to the same number and so is near to the integer. -/
theorem shortest_ofInt_of_large {value : Nat} (least : 2 ^ (63 : Nat) ≤ value)
    (bounded : value < 2 ^ (64 : Nat)) :
    3 ≤ (ofInt value).shortest.exponent ∧ ofInt (ofInt value).shortest.whole = ofInt value ∧
      value ≤ (ofInt value).shortest.whole + 2 ^ (11 : Nat) ∧
      (ofInt value).shortest.whole ≤ value + 2 ^ (11 : Nat) := by
  have rounded : RoundsTo value (2 ^ (11 : Nat)) (roundQuotient value (2 ^ (11 : Nat))) :=
    roundsTo_roundQuotient (Nat.two_pow_pos 11)
  have range := roundQuotient_of_large least bounded
  rw [ofInt_of_large least bounded]
  generalize roundQuotient value (2 ^ (11 : Nat)) = count at rounded range
  have below := rounded.below
  have above := rounded.above
  -- At a power of two the interval is narrower on one side, so the two ends are evaluated.
  rcases Nat.eq_or_lt_of_le range.1 with rfl | inner
  · have decimal : (large (2 ^ (52 : Nat))).shortest = ⟨9223372036854776, 3⟩ := by decide +kernel
    have same : ofInt (9223372036854776000 : Nat) = large (2 ^ (52 : Nat)) := by decide +kernel
    have whole : Decimal.whole ⟨9223372036854776, 3⟩ = 9223372036854776000 := rfl
    rw [decimal, whole]
    exact ⟨Int.le_refl 3, same, by omega, by omega⟩
  rcases Nat.eq_or_lt_of_le range.2 with rfl | outer
  · have decimal : (large (2 ^ (53 : Nat))).shortest = ⟨18446744073709552, 3⟩ := by decide +kernel
    have same : ofInt (18446744073709552000 : Nat) = large (2 ^ (53 : Nat)) := by decide +kernel
    have whole : Decimal.whole ⟨18446744073709552, 3⟩ = 18446744073709552000 := rfl
    rw [decimal, whole]
    exact ⟨Int.le_refl 3, same, by omega, by omega⟩
  obtain ⟨coarse, near⟩ := shortest_large inner outer
  have below' := near.below
  have above' := near.above
  have same : ofInt (large count).shortest.whole = large count := by
    rw [ofInt_of_large (by omega) (by omega),
      (roundQuotient_eq_iff (Nat.two_pow_pos 11)).mpr near]
  exact ⟨coarse, same, by omega, by omega⟩

end Binary64
end TwinGraph
