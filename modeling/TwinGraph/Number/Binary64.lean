/-!
# Numbers of the binary64 format

A number is its three fields.  A finite one has the value `significand · 2 ^ scale` with its sign.
Rounding takes the nearest number, and of two equally near ones that with the even significand.
-/

namespace TwinGraph

namespace Binary64

/-- The powers of the core library, also where a library with powers of its own is in scope. -/
scoped instance (priority := 20000) corePow {α : Type} [NatPow α] : Pow α Nat :=
  instPowNat

end Binary64

open scoped Binary64

/-- A floating-point number of sixty-four bits, given by its fields. -/
structure Binary64 where
  /-- Whether the sign bit is set. -/
  negative : Bool
  /-- The biased exponent. -/
  exponent : Fin 2048
  /-- The trailing bits of the significand. -/
  fraction : Fin (2 ^ (52 : Nat))
  deriving DecidableEq

namespace Binary64

/-- The number whose bits after the sign form `magnitude`. -/
def ofMagnitude (negative : Bool) (magnitude : Nat) : Binary64 where
  negative := negative
  exponent := Fin.ofNat 2048 (magnitude / 2 ^ (52 : Nat))
  fraction := Fin.ofNat (2 ^ (52 : Nat)) magnitude

/-- The number with the given sixty-four bits. -/
def ofBits (word : UInt64) : Binary64 :=
  ofMagnitude (2 ^ (63 : Nat) ≤ word.toNat) (word.toNat % 2 ^ (63 : Nat))

/-- The infinity of a sign. -/
def infinity (negative : Bool) : Binary64 :=
  ofMagnitude negative (2047 * 2 ^ (52 : Nat))

/-- The zero of a sign. -/
def zero (negative : Bool) : Binary64 :=
  ofMagnitude negative 0

/-- Neither an infinity nor a NaN. -/
def isFinite (number : Binary64) : Bool :=
  number.exponent != 2047

/-- Not a number. -/
def isNaN (number : Binary64) : Bool :=
  number.exponent == 2047 && number.fraction != 0

/-- A zero of either sign. -/
def isZero (number : Binary64) : Bool :=
  number.exponent == 0 && number.fraction == 0

/-- Equality of values: a NaN equals nothing, and the two zeros are equal. -/
def sameValue (left right : Binary64) : Bool :=
  !left.isNaN && !right.isNaN && (left == right || (left.isZero && right.isZero))

/-- The integral significand, with its hidden bit in a normal number. -/
def significand (number : Binary64) : Nat :=
  if number.exponent = 0 then number.fraction else 2 ^ (52 : Nat) + number.fraction

/-- The power of two that the significand counts. -/
def scale (number : Binary64) : Int :=
  max number.exponent.val 1 - 1075

/-- The integer nearest to a quotient, the even one of two. -/
def roundQuotient (numerator denominator : Nat) : Nat :=
  let quotient := numerator / denominator
  let twice := 2 * (numerator % denominator)
  if twice < denominator || (twice == denominator && quotient % 2 == 0) then quotient
  else quotient + 1

/-- The greatest power of two that is at most a positive quotient. -/
def binaryOrder (numerator denominator : Nat) : Int :=
  let order : Int := numerator.log2 - denominator.log2
  if denominator * 2 ^ order.toNat ≤ numerator * 2 ^ (-order).toNat then order else order - 1

/-- The number nearest to a quotient of a positive denominator; beyond the range an infinity. -/
def nearest (negative : Bool) (numerator denominator : Nat) : Binary64 :=
  if numerator = 0 then zero negative
  else
    let scale := max (binaryOrder numerator denominator - 52) (-1074)
    let significand :=
      roundQuotient (numerator * 2 ^ (-scale).toNat) (denominator * 2 ^ scale.toNat)
    ofMagnitude negative
      (min ((scale + 1074).toNat * 2 ^ (52 : Nat) + significand) (2047 * 2 ^ (52 : Nat)))

/-- The number nearest to an integer. -/
def ofInt (value : Int) : Binary64 :=
  nearest (value < 0) value.natAbs 1

/-- The number nearest to `coefficient · 10 ^ exponent`.  Exponents far beyond the range are
answered at once, since their powers would be too long to write down. -/
def ofDecimal (negative : Bool) (coefficient : Nat) (exponent : Int) : Binary64 :=
  if coefficient = 0 then zero negative
  else if 400 < exponent then infinity negative
  else if exponent + coefficient.log2 < -400 then zero negative
  else nearest negative (coefficient * 10 ^ exponent.toNat) (10 ^ (-exponent).toNat)

/-- The number that equals a floating-point number of thirty-two bits. -/
def ofBinary32Bits (word : UInt32) : Binary64 :=
  let negative : Bool := 2 ^ (31 : Nat) ≤ word.toNat
  let exponent : Nat := word.toNat / 2 ^ (23 : Nat) % 2 ^ (8 : Nat)
  let fraction : Nat := word.toNat % 2 ^ (23 : Nat)
  if exponent = 255 then
    ofMagnitude negative (2047 * 2 ^ (52 : Nat) + fraction * 2 ^ (29 : Nat))
  else
    let significand := if exponent = 0 then fraction else 2 ^ (23 : Nat) + fraction
    let scale : Int := (max exponent 1 : Nat) - 150
    nearest negative (significand * 2 ^ scale.toNat) (2 ^ (-scale).toNat)

section

variable {number : Binary64}

theorem isFinite_of_exponent_lt (below : number.exponent.val < 2047) : number.isFinite = true := by
  simp only [isFinite, bne_iff_ne, ne_eq]
  intro greatest
  rw [greatest] at below
  exact Nat.lt_irrefl _ below

theorem isNaN_of_isFinite (finite : number.isFinite = true) : number.isNaN = false := by
  simp_all [isNaN, isFinite]

theorem isZero_of_exponent_pos (normal : 0 < number.exponent.val) : number.isZero = false := by
  have nonzero : number.exponent ≠ 0 := fun zero => by simp [zero] at normal
  simp [isZero, nonzero]

theorem significand_of_exponent_pos (normal : 0 < number.exponent.val) :
    number.significand = 2 ^ (52 : Nat) + number.fraction.val :=
  if_neg fun zero => by simp [zero] at normal

end

/-- What is not finite is a NaN or one of the two infinities. -/
theorem isFinite_eq_false_iff {number : Binary64} :
    number.isFinite = false ↔ number.isNaN = true ∨ ∃ negative, number = infinity negative := by
  obtain ⟨negative, exponent, fraction⟩ := number
  have infinite (sign : Bool) : infinity sign = ⟨sign, 2047, 0⟩ := rfl
  by_cases isZero : fraction = 0 <;> simp [isFinite, isNaN, infinite, isZero]

theorem sameValue_self {number : Binary64} (finite : number.isFinite = true) :
    number.sameValue number = true := by
  simp_all [sameValue, isNaN, isFinite]

end Binary64
end TwinGraph
