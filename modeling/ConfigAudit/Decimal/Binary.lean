/-
# Binary floating point as integers

A finite floating-point number is an integer times a power of two.  Everything exact that is said
about floating-point numbers in this library (their shortest text, their order among integers,
their integral part) is said about that pair, which is read off the bits.

* `Binary.ofFloat` : sign, significand and exponent;
* `truncate` : the integer part;
* `compareInt` : the exact order between an integer and a floating-point number.
-/

namespace ConfigAudit.Decimal

/-- What the bits of a floating-point number say. -/
inductive Binary where
  /-- Not a number. -/
  | nan
  /-- An infinity and its sign. -/
  | infinite (negative : Bool)
  /-- The number `± significand * 2 ^ exponent`. -/
  | finite (negative : Bool) (significand : Nat) (exponent : Int)
  deriving Repr, DecidableEq

namespace Binary

/-- Reads sign, significand and exponent off the 64 bits. -/
def ofBits (bits : UInt64) : Binary :=
  let n := bits.toNat
  let negative := n / 0x8000000000000000 == 1
  let biased : Nat := n / 0x10000000000000 % 0x800
  let fraction : Nat := n % 0x10000000000000
  if biased == 2047 then (if fraction == 0 then infinite negative else nan)
  else if biased == 0 then finite negative fraction (-1074)
  else finite negative (0x10000000000000 + fraction) ((biased : Int) - 1075)

/-- Reads a floating-point number. -/
def ofFloat (x : Float) : Binary := ofBits x.toBits

/-- The integer part of `significand * 2 ^ exponent`. -/
def magnitudeFloor (significand : Nat) (exponent : Int) : Nat :=
  if 0 ≤ exponent then significand * Nat.pow 2 exponent.toNat
  else significand / Nat.pow 2 (-exponent).toNat

/-- The integer part of a finite number, toward zero. -/
def truncate? : Binary → Option Int
  | finite negative m e =>
    let n : Int := magnitudeFloor m e
    some (if negative then -n else n)
  | _ => none

/-- The exact order of an integer and a number; nothing compares with what is not a number. -/
def compareInt (i : Int) : Binary → Option Ordering
  | nan => none
  | infinite negative => some (if negative then .gt else .lt)
  | finite negative m e =>
    let scale := Nat.pow 2 (-e).toNat
    let left := i * (scale : Int)
    let magnitude : Int := (m * Nat.pow 2 e.toNat : Nat)
    some (compare left (if negative then -magnitude else magnitude))

end Binary

end ConfigAudit.Decimal
