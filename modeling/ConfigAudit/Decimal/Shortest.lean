/-
# Decimal texts of floating-point numbers

Two ways to write a floating-point number: with the fewest digits that still read back as the
same number, and rounded to a fixed count of significant digits.  Both are computed in exact
integer arithmetic on the number's significand and exponent.

* `shortestDigits` : of all shortest decimals in the rounding interval, the nearest;
* `roundedDigits` : a given number of digits, a half going to the even neighbour;
* `Layout` : where the point goes, when an exponent is written, what stands for zero decimals.
-/
import ConfigAudit.Decimal.Binary

namespace ConfigAudit.Decimal

/-! ## Digits -/

/-- The decimal `0.d₁d₂…dₙ * 10 ^ point`, its digits read as one number. -/
structure Digits where
  /-- The digits, without a trailing zero unless the number is zero. -/
  value : Nat
  /-- How many digits there are. -/
  count : Nat
  /-- Position of the decimal point behind the first digit counted. -/
  point : Int
  deriving Repr, DecidableEq

/-- The decimal digits of a number, most significant first. -/
def digitChars (n : Nat) : List Char := Nat.toDigits 10 n

/-- How many decimal digits a number has. -/
def digitCount (n : Nat) : Nat := (digitChars n).length

/-- Strips trailing zeros, at most `fuel` of them. -/
def stripZeros : Nat → Nat → Nat
  | 0, n => n
  | fuel + 1, n => if n ≠ 0 ∧ n % 10 = 0 then stripZeros fuel (n / 10) else n

/-- A fraction of two natural numbers. -/
structure Ratio where
  /-- Numerator. -/
  num : Nat
  /-- Denominator, positive. -/
  den : Nat

/-- The fraction `m * 2 ^ e`. -/
def Ratio.ofBinary (m : Nat) (e : Int) : Ratio := ⟨m * Nat.pow 2 e.toNat, Nat.pow 2 (-e).toNat⟩

/-- The fraction `r * 10 ^ k`. -/
def Ratio.scale (r : Ratio) (k : Int) : Ratio :=
  ⟨r.num * Nat.pow 10 k.toNat, r.den * Nat.pow 10 (-k).toNat⟩

/-- Whether one fraction is smaller than another, or equal if `closed`. -/
def Ratio.below (closed : Bool) (a b : Ratio) : Bool :=
  if closed then a.num * b.den ≤ b.num * a.den else a.num * b.den < b.num * a.den

/-- The position of the decimal point: the least `k` with `r < 10 ^ k`, for positive `r`. -/
def Ratio.point (r : Ratio) : Int :=
  let guess : Int := (digitCount r.num : Int) - digitCount r.den
  -- the guess is the position or one below it
  let bound := Ratio.scale ⟨1, 1⟩ guess
  if Ratio.below false r bound then guess else guess + 1

/-- Of the two multiples of `10 ^ unit` next to `v`, the nearer one that lies in the interval. -/
def gridHit (v lo hi : Ratio) (closed : Bool) (unit : Int) : Option Nat :=
  let s := v.scale (-unit)
  let down := s.num / s.den
  let up := down + 1
  let back (k : Nat) : Ratio := Ratio.scale ⟨k, 1⟩ unit
  let inside (k : Nat) : Bool := Ratio.below closed lo (back k) && Ratio.below closed (back k) hi
  let twice := 2 * (s.num % s.den)
  let downFirst := if twice == s.den then down % 2 == 0 else decide (twice < s.den)
  let first := if downFirst then down else up
  let second := if downFirst then up else down
  if first ≠ 0 ∧ inside first then some first
  else if second ≠ 0 ∧ inside second then some second
  else none

/-- The digits of `k * 10 ^ unit`. -/
def Digits.ofUnits (k : Nat) (unit : Int) : Digits :=
  let bare := stripZeros (digitCount k) k
  ⟨bare, digitCount bare, (digitCount k : Int) + unit⟩

/-- Searches ever finer grids, `n` digits first, for a decimal in the interval. -/
def shortestUnits (v lo hi : Ratio) (closed : Bool) (point : Int) : Nat → Nat → Nat × Int
  | 0, n => let s := v.scale ((n : Int) - point); (s.num / s.den, point - n)
  | fuel + 1, n => match gridHit v lo hi closed (point - n) with
    | some k => (k, point - n)
    | none => shortestUnits v lo hi closed point fuel (n + 1)

/-- The shortest decimal that reads back as `m * 2 ^ e`, and of those the nearest. -/
def shortestDigits (m : Nat) (e : Int) : Digits :=
  if m = 0 then ⟨0, 1, 1⟩ else
  let v := Ratio.ofBinary m e
  let hi := Ratio.ofBinary (2 * m + 1) (e - 1)
  -- below a power of two the gap to the next number is half as wide
  let lo := if m = 0x10000000000000 ∧ e > -1074 then Ratio.ofBinary (4 * m - 1) (e - 2)
    else Ratio.ofBinary (2 * m - 1) (e - 1)
  let (k, unit) := shortestUnits v lo hi (m % 2 == 0) v.point 17 1
  Digits.ofUnits k unit

/-- The decimal of `n` significant digits nearest to `m * 2 ^ e`, a half going to the even one. -/
def roundedDigits (n : Nat) (m : Nat) (e : Int) : Digits :=
  if m = 0 then ⟨0, 1, 1⟩ else
  let v := Ratio.ofBinary m e
  let unit := v.point - n
  let s := v.scale (-unit)
  let down := s.num / s.den
  let twice := 2 * (s.num % s.den)
  let k := if twice < s.den ∨ (twice = s.den ∧ down % 2 = 0) then down else down + 1
  Digits.ofUnits k unit

/-! ## Layout -/

/-- How digits are laid out as text. -/
structure Layout where
  /-- Exponents below this one are written out. -/
  least : Int
  /-- Exponents from this one on are written out. -/
  limit : Int
  /-- Whether a whole number shows one decimal zero. -/
  decimalZero : Bool

/-- The layout of numbers in messages and documents: positional from `10⁻⁴` to below `10¹⁶`. -/
def Layout.number : Layout := ⟨-4, 16, true⟩

/-- The layout of durations in messages: six digits, positional from `10⁻⁴` to below `10⁶`. -/
def Layout.duration : Layout := ⟨-4, 6, false⟩

/-- The exponent part of a number: sign and at least two digits. -/
def exponentText (e : Int) : String :=
  let digits := String.ofList (digitChars e.natAbs)
  (if e < 0 then "e-" else "e+") ++ (if e.natAbs < 10 then "0" ++ digits else digits)

/-- Lays out digits. -/
def Layout.render (l : Layout) (d : Digits) : String :=
  let ds := digitChars d.value
  let e := d.point - 1
  if e < l.least ∨ l.limit ≤ e then
    match ds with
    | [] => ""
    | [x] => String.ofList [x] ++ exponentText e
    | x :: rest => String.ofList (x :: '.' :: rest) ++ exponentText e
  else if d.point ≤ 0 then
    "0." ++ String.ofList (List.replicate (-d.point).toNat '0' ++ ds)
  else
    let p := d.point.toNat
    if ds.length ≤ p then
      String.ofList (ds ++ List.replicate (p - ds.length) '0') ++ (if l.decimalZero then ".0" else "")
    else String.ofList (ds.take p ++ '.' :: ds.drop p)

/-- The text of a floating-point number, its digits chosen by `digits`. -/
def Layout.text (l : Layout) (digits : Nat → Int → Digits) (x : Float) : String :=
  match Binary.ofFloat x with
  | .nan => "nan"
  | .infinite negative => if negative then "-inf" else "inf"
  | .finite negative m e => (if negative then "-" else "") ++ l.render (digits m e)

/-- The shortest text that reads back as the number. -/
def shortest (x : Float) : String := Layout.number.text shortestDigits x

/-- The text with six significant digits, trailing zeros dropped. -/
def sixDigits (x : Float) : String := Layout.duration.text (roundedDigits 6) x

end ConfigAudit.Decimal
