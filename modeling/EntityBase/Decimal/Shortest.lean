import EntityBase.Binary64

namespace EntityBase

/-!
# Shortest decimals

A binary value is written with as few decimal digits as still identify it.
The decimals that read back as a given pattern fill an interval around its
value; the ends belong to it when the significand is even.  For coarser to
finer powers of ten the two neighbours of the value on that decimal grid are
tested against the interval, and the first grid with a neighbour inside
decides.  When both neighbours are inside, the nearer one is taken, and an
exact tie goes to the larger.

The text is always positional: no exponent is ever written, however many
zeros that takes, and a whole number has no fractional part.
-/

namespace Decimal

/-- The number `digits * 10 ^ exponent`. -/
structure Scaled where
  digits : Nat
  exponent : Int
deriving DecidableEq, Repr

/-- An interval of the positive rationals with a point inside it.  All three
numbers are over the one denominator. -/
structure Target where
  lower : Nat
  value : Nat
  upper : Nat
  denominator : Nat
  /-- Whether the two ends belong to the interval. -/
  closed : Bool

namespace Target

/-- The decimals that read back as the pattern with this significand and
exponent.  Just above a power of two the patterns below are twice as close
as those above, so the lower half of the interval is narrower there. -/
def ofFinite (significand : Nat) (exponent : Int) : Target :=
  let scale := 1 <<< (exponent - 2).toNat
  let gap := if significand = Binary64.hiddenBit ∧ -1074 < exponent then 1 else 2
  { lower := (4 * significand - gap) * scale
    value := 4 * significand * scale
    upper := (4 * significand + 2) * scale
    denominator := 1 <<< (2 - exponent).toNat
    closed := significand % 2 = 0 }

def contains (target : Target) (decimal : Scaled) : Bool :=
  let point := decimal.digits * Nat.pow 10 decimal.exponent.toNat * target.denominator
  let unit := Nat.pow 10 (-decimal.exponent).toNat
  if target.closed then
    target.lower * unit ≤ point ∧ point ≤ target.upper * unit
  else
    target.lower * unit < point ∧ point < target.upper * unit

/-- The largest multiple of `10 ^ exponent` that does not exceed the value,
and whether the value is at least half way to the next one. -/
def floorOn (target : Target) (exponent : Int) : Scaled × Bool :=
  let numerator := target.value * Nat.pow 10 (-exponent).toNat
  let divisor := target.denominator * Nat.pow 10 exponent.toNat
  (⟨numerator / divisor, exponent⟩, divisor ≤ 2 * (numerator % divisor))

/-- The choice among the value's two neighbours on one decimal grid. -/
def neighbour? (target : Target) (exponent : Int) : Option Scaled :=
  let (below, upperHalf) := target.floorOn exponent
  let above : Scaled := ⟨below.digits + 1, exponent⟩
  if target.contains above ∧ (upperHalf ∨ ¬ target.contains below) then some above
  else if target.contains below then some below
  else none

/-- Try the grids from `10 ^ exponent` downwards, `grids` of them. -/
def search (target : Target) : (grids : Nat) → (exponent : Int) → Option Scaled
  | 0, _ => none
  | grids + 1, exponent =>
      match target.neighbour? exponent with
      | some found => some found
      | none => target.search grids (exponent - 1)

/-- The grids worth trying: the coarsest has one point at most below the
interval's upper end, and on the finest, `10 ^ -1076`, every finite value is
itself a point. -/
def shortest (target : Target) : Scaled :=
  let coarsest := (Nat.repr (target.upper / target.denominator)).length
  (target.search (coarsest + 1077) coarsest).getD ⟨0, 0⟩

end Target

def Scaled.positional (decimal : Scaled) : String :=
  let digits := Nat.repr decimal.digits
  let places := (-decimal.exponent).toNat
  if places = 0 then
    digits ++ String.ofList (List.replicate decimal.exponent.toNat '0')
  else if places < digits.length then
    let split := digits.length - places
    String.ofList (digits.toList.take split) ++ "." ++ String.ofList (digits.toList.drop split)
  else
    "0." ++ String.ofList (List.replicate (places - digits.length) '0') ++ digits

end Decimal

/-- The text of a floating-point value: the shortest decimal that reads back,
without an exponent.  The sign of zero is shown, that of a NaN is not. -/
def Binary64.display (value : Binary64) : String :=
  let sign := if value.isNegative then "-" else ""
  match value.magnitude with
  | .notANumber => "NaN"
  | .infinite => sign ++ "inf"
  | .finite 0 _ => sign ++ "0"
  | .finite significand exponent =>
      sign ++ (Decimal.Target.ofFinite significand exponent).shortest.positional

end EntityBase
