import TwinGraph.Number.Binary64

/-!
# The shortest decimal of a binary64 number

A decimal reads back as a number if it lies in the interval of values that round to it.  The
shortest one lies on the coarsest grid of multiples of a power of ten that meets this interval;
there it is the point nearest to the number, and the greater of two equally near ones.  It is
written out in full, whatever its length, without an exponent and without a trailing point.
-/

namespace TwinGraph

/-- The decimal `coefficient · 10 ^ exponent`. -/
structure Decimal where
  /-- All its digits as one natural number. -/
  coefficient : Nat
  /-- The power of ten that the coefficient counts. -/
  exponent : Int
  deriving DecidableEq

namespace Decimal

/-- The decimal written out in full. -/
def render (decimal : Decimal) : List Char :=
  let digits := Nat.toDigits 10 decimal.coefficient
  if 0 ≤ decimal.exponent then
    digits ++ List.replicate decimal.exponent.toNat '0'
  else
    let places := (-decimal.exponent).toNat
    if places < digits.length then
      digits.take (digits.length - places) ++ '.' :: digits.drop (digits.length - places)
    else
      '0' :: '.' :: (List.replicate (places - digits.length) '0' ++ digits)

end Decimal

namespace Binary64

/-- The values that round to a number, counted in quarters of its last place. -/
structure RoundingInterval where
  /-- The least value of the interval. -/
  lowest : Nat
  /-- The number itself. -/
  center : Nat
  /-- The greatest value of the interval. -/
  highest : Nat
  /-- Whether the two ends round to the number too. -/
  closed : Bool
  /-- The power of two that a quarter of the last place is. -/
  scale : Int

/-- The values that round to a finite number without its sign.  Below a power of two the next
number is half as far away as above it. -/
def roundingInterval (number : Binary64) : RoundingInterval where
  lowest :=
    4 * number.significand - if number.fraction.val = 0 && 1 < number.exponent.val then 1 else 2
  center := 4 * number.significand
  highest := 4 * number.significand + 2
  closed := number.significand % 2 == 0
  scale := number.scale - 2

namespace RoundingInterval

/-- The place of a multiple of `10 ^ exponent`, in the common measure of `quarters`. -/
def tens (interval : RoundingInterval) (exponent : Int) (multiple : Nat) : Nat :=
  multiple * 10 ^ exponent.toNat * 2 ^ (-interval.scale).toNat

/-- The place of a count of quarters, in the common measure of `tens`. -/
def quarters (interval : RoundingInterval) (exponent : Int) (count : Nat) : Nat :=
  count * 2 ^ interval.scale.toNat * 10 ^ (-exponent).toNat

/-- Whether a multiple of `10 ^ exponent` lies in the interval. -/
def contains (interval : RoundingInterval) (exponent : Int) (multiple : Nat) : Bool :=
  let place := interval.tens exponent multiple
  let lowest := interval.quarters exponent interval.lowest
  let highest := interval.quarters exponent interval.highest
  if interval.closed then lowest ≤ place && place ≤ highest
  else lowest < place && place < highest

/-- The point of the grid of `10 ^ exponent` that lies in the interval and is nearest to the
number, the greater one of two.  If the interval holds a point it holds a neighbour of the
number. -/
def nearestPoint? (interval : RoundingInterval) (exponent : Int) : Option Nat :=
  let center := interval.quarters exponent interval.center
  let below := center / interval.tens exponent 1
  let above := below + 1
  match interval.contains exponent below, interval.contains exponent above with
  | true, true =>
    if center - interval.tens exponent below < interval.tens exponent above - center then
      some below
    else some above
  | true, false => some below
  | false, true => some above
  | false, false => none

/-- The point found on the first grid that has one, going down from `10 ^ (grids - 325)`.  On the
grid of `10 ^ (-324)` every interval has one. -/
def coarsestPoint (interval : RoundingInterval) : Nat → Decimal
  | 0 => ⟨0, 0⟩
  | grids + 1 =>
    let exponent : Int := grids - 324
    match interval.nearestPoint? exponent with
    | some coefficient => ⟨coefficient, exponent⟩
    | none => interval.coarsestPoint grids

/-- How many grids can meet the interval: `10 ^ (grids - 325)` is above its greatest value. -/
def gridCount (interval : RoundingInterval) : Nat :=
  (((interval.highest.log2 + 1 + interval.scale) * 30103 / 100000) + 326).toNat

end RoundingInterval

/-- The shortest decimal that reads back as a finite number without its sign. -/
def shortest (number : Binary64) : Decimal :=
  if number.isZero then ⟨0, 0⟩
  else
    let interval := number.roundingInterval
    interval.coarsestPoint interval.gridCount

/-- The text of a number without its sign. -/
def renderMagnitude (number : Binary64) : List Char :=
  if number.isFinite then number.shortest.render else ['i', 'n', 'f']

/-- The text of a number, with a sign also for a negative zero. -/
def render (number : Binary64) : List Char :=
  if number.isNaN then ['N', 'a', 'N']
  else if number.negative then '-' :: number.renderMagnitude
  else number.renderMagnitude

end Binary64
end TwinGraph
