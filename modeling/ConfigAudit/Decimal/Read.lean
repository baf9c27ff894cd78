/-
# Reading numbers

The texts that are accepted as integers and as floating-point numbers: blanks around them are
ignored, digits of any script count, and single underscores may stand between digits.

* `readInteger` : an optional sign and digits;
* `readFloat` : digits, point and exponent, or a name of an infinity or of not-a-number.
-/
import ConfigAudit.Text.Lines
import ConfigAudit.Decimal.Binary

namespace ConfigAudit.Decimal

open Text

/-- How many decimal digits an integer may have, to be read or to be written. -/
def digitLimit : Nat := 4300

/-- Writes digits of other scripts as basic digits and blanks as spaces. -/
def basicForm (s : String) : List Char :=
  (strip s).toList.map fun c =>
    match digitValue? c with
    | some d => Char.ofNat (0x30 + d)
    | none => if isBlank c then ' ' else c

/-- Drops underscores that stand between two digits; any other underscore is refused. -/
def dropUnderscores : Bool → List Char → Option (List Char)
  | _, [] => some []
  | afterDigit, '_' :: rest =>
    match rest with
    | c :: _ => if afterDigit && c.isDigit then dropUnderscores false rest else none
    | [] => none
  | _, c :: rest => (dropUnderscores c.isDigit rest).map (c :: ·)

/-- Whether a character is a digit below a base. -/
def digitBelow? (base : Nat) (c : Char) : Option Nat :=
  match hexValue? c with
  | some d => if d < base then some d else none
  | none => none

/-- The number spelled by digits below a base; no digit, or another character, is refused. -/
def naturalOf? (base : Nat) : List Char → Option Nat
  | [] => none
  | cs => cs.foldl (fun acc c => match acc, digitBelow? base c with
    | some n, some d => some (n * base + d)
    | _, _ => none) (some 0)

/-- Cuts off a leading sign. -/
def takeSign : List Char → Bool × List Char
  | '-' :: rest => (true, rest)
  | '+' :: rest => (false, rest)
  | cs => (false, cs)

/-- An integer in decimal notation. -/
def readInteger (s : String) : Option Int := do
  let (negative, cs) := takeSign (basicForm s)
  let digits ← dropUnderscores false cs
  let n ← naturalOf? 10 digits
  return if negative then -(n : Int) else n

/-- An integer in the notation of a base, without sign or blanks. -/
def readBase (base : Nat) (s : String) : Option Int := do
  let (negative, cs) := takeSign (strip s).toList
  let n ← naturalOf? base cs
  return if negative then -(n : Int) else n

/-- The number `m * 10 ^ e`, rounded to the nearest floating-point number. -/
def floatOf (m : Nat) (e : Int) : Float :=
  let size : Int := (Nat.toDigits 10 m).length + e
  if m = 0 then 0.0
  else if size > 310 then 1.0 / 0.0
  else if size < -330 then 0.0
  else if e < 0 then Float.ofScientific m true e.natAbs
  else Float.ofScientific m false e.toNat

/-- Digits, point and exponent, after the sign. -/
def unsignedFloat? (cs : List Char) : Option Float := do
  let whole := cs.takeWhile Char.isDigit
  let rest := cs.dropWhile Char.isDigit
  let (fraction, rest) := match rest with
    | '.' :: more => (more.takeWhile Char.isDigit, more.dropWhile Char.isDigit)
    | _ => ([], rest)
  if whole.isEmpty && fraction.isEmpty then none
  let mantissa ← naturalOf? 10 (whole ++ fraction)
  let exponent ← match rest with
    | [] => some (0 : Int)
    | c :: more =>
      if c == 'e' || c == 'E' then
        let (negative, digits) := takeSign more
        (naturalOf? 10 digits).map fun (n : Nat) => if negative then -(n : Int) else n
      else none
  return floatOf mantissa (exponent - fraction.length)

/-- A floating-point number in decimal notation, or by name. -/
def readFloat (s : String) : Option Float := do
  let cs ← dropUnderscores false (basicForm s)
  let (negative, body) := takeSign cs
  let signed (x : Float) : Float := if negative then -x else x
  let name := String.ofList (body.map Char.toLower)
  if name == "inf" || name == "infinity" then return signed (1.0 / 0.0)
  if name == "nan" then return 0.0 / 0.0
  return signed (← unsignedFloat? body)

/-- The floating-point number nearest to an integer, if it is finite. -/
def floatOfInt? (n : Int) : Option Float :=
  let x := if n < 0 then -(Float.ofScientific n.natAbs false 0) else Float.ofScientific n.natAbs false 0
  match Binary.ofFloat x with
  | .finite .. => some x
  | _ => none

end ConfigAudit.Decimal
