namespace EntityBase

/-!
# Binary64 words

A floating-point value is kept as its 64-bit pattern.  Two values are the
same exactly when their patterns are, so a NaN equals itself and the two
zeros differ.  Everything else about a value is read off the pattern in exact
integer arithmetic: a finite one is a sign, a significand and a power of two.

Integers and 32-bit patterns are carried over here as well.  A 32-bit value
always fits.  An integer may not, and is then rounded to the nearest pattern,
with a tie going to the even significand.
-/

/-- A floating-point value, identified with its bit pattern. -/
structure Binary64 where
  bits : UInt64
deriving DecidableEq, Repr

/-- What a pattern stands for once its sign is set aside.  A finite
magnitude is `significand * 2 ^ exponent`. -/
inductive Binary64.Magnitude where
  | notANumber
  | infinite
  | finite (significand : Nat) (exponent : Int)
deriving DecidableEq, Repr

namespace Binary64

/-- The place value of the sign bit. -/
def signBit : Nat := 0x8000000000000000

/-- The place value of the hidden leading bit, just above the fifty-two
fraction bits. -/
def hiddenBit : Nat := 0x10000000000000

def isNegative (value : Binary64) : Bool :=
  value.bits.toNat / signBit = 1

/-- The eleven exponent bits. -/
def exponentField (value : Binary64) : Nat :=
  value.bits.toNat / hiddenBit % 2048

/-- The fifty-two fraction bits. -/
def fractionField (value : Binary64) : Nat :=
  value.bits.toNat % hiddenBit

/-- The magnitude of a pattern.  The smallest exponent field has no hidden
leading bit, which is what makes room for zero. -/
def magnitude (value : Binary64) : Magnitude :=
  if value.exponentField = 2047 then
    if value.fractionField = 0 then .infinite else .notANumber
  else if value.exponentField = 0 then
    .finite value.fractionField (-1074)
  else
    .finite (hiddenBit + value.fractionField) (value.exponentField - 1075)

/-- Assemble a pattern from a sign and the 63 bits below it. -/
def ofParts (negative : Bool) (rest : Nat) : Binary64 :=
  ⟨UInt64.ofNat ((if negative then signBit else 0) + rest)⟩

/-- The quotient by `2 ^ shift`, rounded to the nearest integer, a tie going
to the even one. -/
def shiftRounded (value shift : Nat) : Nat :=
  let divisor := 1 <<< shift
  let quotient := value / divisor
  let twice := 2 * (value % divisor)
  if divisor < twice ∨ (twice = divisor ∧ quotient % 2 = 1) then quotient + 1
  else quotient

/-- The exponent and fraction bits of `significand * 2 ^ exponent`, for a
significand of fifty-three bits.  A significand that rounding has carried to
fifty-four bits spills into the exponent field, which is where it belongs. -/
def packed (significand : Nat) (exponent : Int) : Nat :=
  (exponent + 1075).toNat * hiddenBit + (significand - hiddenBit)

/-- The bits below the sign for a natural number, rounded to the nearest. -/
def packedNat (value : Nat) : Nat :=
  if value = 0 then 0
  else if value.log2 ≤ 52 then
    packed (value <<< (52 - value.log2)) (value.log2 - 52)
  else
    packed (shiftRounded value (value.log2 - 52)) (value.log2 - 52)

/-- The pattern nearest to an integer.  Zero comes out positive. -/
def ofInt (value : Int) : Binary64 :=
  ofParts (value < 0) (packedNat value.natAbs)

/-- The same value as a 32-bit pattern.  A NaN keeps its sign and payload and
is made quiet. -/
def ofBinary32 (word : UInt32) : Binary64 :=
  let negative : Bool := word.toNat / 0x80000000 = 1
  let exponent := word.toNat / 0x800000 % 256
  let fraction := word.toNat % 0x800000
  if exponent = 255 then
    if fraction = 0 then ofParts negative (2047 * hiddenBit)
    else ofParts negative (2047 * hiddenBit + (0x8000000000000 ||| fraction <<< 29))
  else if exponent = 0 then
    if fraction = 0 then ofParts negative 0
    else ofParts negative
      (packed (fraction <<< (52 - fraction.log2)) (fraction.log2 - 201))
  else
    ofParts negative ((exponent + 896) * hiddenBit + fraction <<< 29)

end Binary64

end EntityBase
