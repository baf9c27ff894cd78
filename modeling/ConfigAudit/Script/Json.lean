/-
# The exchange format of scripts

Interpreters are fed, and answer, in JSON.  Writing keeps to basic characters and refuses values
that the format has no place for; reading also accepts the three special numbers that writing
produces.  Both refuse integers with too many digits, and neither limits how deep values are
nested.

* `Json.write` : the written form of a value;
* `Json.parse` : the value of a written form, or why there is none;
* `Json.read` : the value of a written form, if there is one.
-/
import ConfigAudit.Value.Convert

namespace ConfigAudit.Json

open Text

/-! ## Writing -/

/-- A code unit as an escape. -/
def unitEscape (n : Nat) : List Char := '\\' :: 'u' :: hexPadded 4 n

/-- One character inside a written text. -/
def writeChar (c : Char) : List Char :=
  match c with
  | '\\' => ['\\', '\\']
  | '\n' => ['\\', 'n']
  | '\r' => ['\\', 'r']
  | '\t' => ['\\', 't']
  | c =>
    let n := c.toNat
    if c == doubleMark then ['\\', c]
    else if n = 8 then ['\\', 'b']
    else if n = 12 then ['\\', 'f']
    else if 0x20 ≤ n ∧ n ≤ 0x7e then [c]
    else if n ≤ 0xffff then unitEscape n
    else
      let m := n - 0x10000
      unitEscape (0xd800 + m / 0x400) ++ unitEscape (0xdc00 + m % 0x400)

/-- A written text. -/
def writeText (s : String) : String :=
  String.ofList (doubleMark :: s.toList.flatMap writeChar ++ [doubleMark])

/-- A written floating-point number. -/
def writeFloat (x : Float) : String :=
  match Decimal.Binary.ofFloat x with
  | .nan => "NaN"
  | .infinite negative => if negative then "-Infinity" else "Infinity"
  | _ => Decimal.shortest x

/-- A written integer. -/
def writeInteger (n : Int) : Except ValueFault String :=
  if Value.isShort n then .ok (toString n) else .error .integerSize

/-- A written key; only plain values can be keys. -/
def writeKey : Value → Except ValueFault String
  | .text s => .ok (writeText s)
  | .outcome o => .ok (writeText o.text)
  | .flag b => .ok (writeText (if b then "true" else "false"))
  | .null => .ok (writeText "null")
  | .int n => (writeInteger n).map writeText
  | .float x => .ok (writeText (writeFloat x))
  | v => .error (.unwritableKey v.kind)

/-- Puts parts between brackets. -/
def enclose (opening closing : String) (parts : List String) : String :=
  opening ++ join ", " parts ++ closing

mutual

/-- The written form of a value. -/
def write : Value → Except ValueFault String
  | .null => .ok "null"
  | .flag b => .ok (if b then "true" else "false")
  | .int n => writeInteger n
  | .float x => .ok (writeFloat x)
  | .text s => .ok (writeText s)
  | .outcome o => .ok (writeText o.text)
  | .list xs => do return enclose "[" "]" (← writeAll xs)
  | .pair a b => do return enclose "[" "]" [← write a, ← write b]
  | .table es => do return enclose "\x7b" "\x7d" (← writeEntries es)
  | .bytes _ => .error (.unwritable "bytes")
  | .date _ => .error (.unwritable "date")
  | .moment _ => .error (.unwritable "datetime")
  | .set _ => .error (.unwritable "set")

/-- The written forms of several values. -/
def writeAll : List Value → Except ValueFault (List String)
  | [] => .ok []
  | x :: xs => do return (← write x) :: (← writeAll xs)

/-- The written forms of the entries of a table. -/
def writeEntries : List (Value × Value) → Except ValueFault (List String)
  | [] => .ok []
  | (k, v) :: rest => do
    let key ← writeKey k
    let value ← write v
    return (key ++ ": " ++ value) :: (← writeEntries rest)

end

/-! ## Reading -/

/-- Why a text cannot be read. -/
inductive Mistake where
  /-- It is no written form. -/
  | malformed
  /-- An integer has too many digits. -/
  | integerLength (digits : Nat)

/-- What has to be there. -/
def expected {α : Type} : Option α → Except Mistake α
  | some a => .ok a
  | none => .error .malformed

/-- Blanks between the parts of a written form. -/
def isSpace (c : Char) : Bool := c == ' ' || c == '\t' || c == '\n' || c == '\r'

/-- Drops blanks. -/
def skip (cs : List Char) : List Char := cs.dropWhile isSpace

/-- Reads four hexadecimal digits. -/
def unit? : List Char → Option (Nat × List Char)
  | a :: b :: c :: d :: rest => do
    let a ← hexValue? a
    let b ← hexValue? b
    let c ← hexValue? c
    let d ← hexValue? d
    return (((a * 16 + b) * 16 + c) * 16 + d, rest)
  | _ => none

/-- The character of a one-letter escape. -/
def shortEscape? : Char → Option Char
  | '\\' => some '\\'
  | '/' => some '/'
  | 'b' => some (Char.ofNat 8)
  | 'f' => some (Char.ofNat 12)
  | 'n' => some '\n'
  | 'r' => some '\r'
  | 't' => some '\t'
  | c => if c == doubleMark then some c else none

/-- Reads the rest of a text; `acc` holds its characters in reverse. -/
def text? : Nat → List Char → List Char → Option (String × List Char)
  | 0, _, _ => none
  | fuel + 1, acc, cs =>
    match cs with
    | [] => none
    | '\\' :: 'u' :: rest => do
      let (n, rest) ← unit? rest
      if 0xd800 ≤ n ∧ n < 0xdc00 then
        match rest with
        | '\\' :: 'u' :: more =>
          match unit? more with
          | some (m, more) =>
            if 0xdc00 ≤ m ∧ m < 0xe000 then
              text? fuel (Char.ofNat (0x10000 + (n - 0xd800) * 0x400 + (m - 0xdc00)) :: acc) more
            else text? fuel (Text.half n :: acc) rest
          | none => text? fuel (Text.half n :: acc) rest
        | _ => text? fuel (Text.half n :: acc) rest
      else if 0xdc00 ≤ n ∧ n < 0xe000 then text? fuel (Text.half n :: acc) rest
      else text? fuel (Char.ofNat n :: acc) rest
    | '\\' :: c :: rest => do text? fuel ((← shortEscape? c) :: acc) rest
    | c :: rest =>
      if c == doubleMark then some (String.ofList acc.reverse, rest)
      else if c.toNat < 0x20 then none
      else text? fuel (c :: acc) rest

/-- Cuts the digits off the front. -/
def digits (cs : List Char) : List Char × List Char := cs.span Char.isDigit

/-- Cuts the whole part of a number off the front. -/
def whole? : List Char → Option (List Char × List Char)
  | '0' :: rest => some (['0'], rest)
  | c :: rest => if c.isDigit then some (digits (c :: rest)) else none
  | [] => none

/-- Cuts the decimals of a number off the front. -/
def decimals (cs : List Char) : List Char × List Char :=
  match cs with
  | '.' :: rest => match digits rest with
    | ([], _) => ([], cs)
    | (ds, rest) => ('.' :: ds, rest)
  | _ => ([], cs)

/-- Cuts the exponent of a number off the front. -/
def exponent (cs : List Char) : List Char × List Char :=
  match cs with
  | e :: rest =>
    if e == 'e' || e == 'E' then
      let (sign, rest) := match rest with
        | '+' :: more => (['+'], more)
        | '-' :: more => (['-'], more)
        | _ => ([], rest)
      match digits rest with
      | ([], _) => ([], cs)
      | (ds, rest) => ('e' :: sign ++ ds, rest)
    else ([], cs)
  | [] => ([], cs)

/-- Reads a number. -/
def parseNumber (cs : List Char) : Except Mistake (Value × List Char) := do
  let (sign, body) := match cs with
    | '-' :: rest => (['-'], rest)
    | _ => ([], cs)
  let (whole, rest) ← expected (whole? body)
  let (fraction, rest) := decimals rest
  let (power, rest) := exponent rest
  if fraction.isEmpty && power.isEmpty then
    if Decimal.digitLimit < whole.length then throw (.integerLength whole.length)
    let n ← expected (Decimal.readInteger (String.ofList (sign ++ whole)))
    return (.int n, rest)
  let x ← expected (Decimal.readFloat (String.ofList (sign ++ whole ++ fraction ++ power)))
  return (.float x, rest)

/-- Drops a word from the front. -/
def word? (word : String) (cs : List Char) : Option (List Char) :=
  if startsWith word.toList cs then some (cs.drop word.toList.length) else none

/-- The values that are written as words. -/
def words : List (String × Value) :=
  [("null", .null), ("true", .flag true), ("false", .flag false), ("NaN", .float (0.0 / 0.0)),
   ("Infinity", .float (1.0 / 0.0)), ("-Infinity", .float (-1.0 / 0.0))]

/-- Reads a value that is written as a word. -/
def wordValue? (cs : List Char) : Option (Value × List Char) :=
  words.findSome? fun w => (word? w.1 cs).map fun rest => (w.2, rest)

mutual

/-- Reads a value. -/
def parseValue : Nat → List Char → Except Mistake (Value × List Char)
  | 0, _ => .error .malformed
  | fuel + 1, cs =>
    match cs with
    | [] => .error .malformed
    | '[' :: rest => match skip rest with
      | ']' :: rest => .ok (.list [], rest)
      | rest => parseElements fuel [] rest
    | '\x7b' :: rest => match skip rest with
      | '\x7d' :: rest => .ok (.table [], rest)
      | rest => parseEntries fuel [] rest
    | c :: rest =>
      if c == doubleMark then
        expected ((text? (rest.length + 1) [] rest).map fun r => (.text r.1, r.2))
      else match wordValue? cs with
        | some r => .ok r
        | none => parseNumber cs

/-- Reads the elements of a sequence; `acc` holds those read, in reverse. -/
def parseElements : Nat → List Value → List Char → Except Mistake (Value × List Char)
  | 0, _, _ => .error .malformed
  | fuel + 1, acc, cs => do
    let (v, rest) ← parseValue fuel cs
    match skip rest with
    | ',' :: rest => parseElements fuel (v :: acc) (skip rest)
    | ']' :: rest => return (.list (v :: acc).reverse, rest)
    | _ => .error .malformed

/-- Reads the entries of a table; of entries with the same key the last counts. -/
def parseEntries : Nat → List (Value × Value) → List Char → Except Mistake (Value × List Char)
  | 0, _, _ => .error .malformed
  | fuel + 1, acc, cs =>
    match cs with
    | c :: rest =>
      if c == doubleMark then do
        let (key, rest) ← expected (text? (rest.length + 1) [] rest)
        match skip rest with
        | ':' :: rest => do
          let (v, rest) ← parseValue fuel (skip rest)
          let acc := Value.put (.text key) v acc
          match skip rest with
          | ',' :: rest => parseEntries fuel acc (skip rest)
          | '\x7d' :: rest => return (.table acc, rest)
          | _ => .error .malformed
        | _ => .error .malformed
      else .error .malformed
    | [] => .error .malformed

end

/-- Reads a written form, or says why it cannot be read. -/
def parse (s : String) : Except Mistake Value := do
  let cs := skip s.toList
  let (v, rest) ← parseValue (2 * cs.length + 4) cs
  if (skip rest).isEmpty then return v else .error .malformed

/-- Reads a written form. -/
def read (s : String) : Option Value := (parse s).toOption

end ConfigAudit.Json
