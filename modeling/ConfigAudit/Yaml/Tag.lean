/-
# Tags

A tag says what kind of value a node stands for.  A plain scalar without a tag receives one from
its form.

* `implicitTag` : the tag of a plain scalar;
* `timestamp?` : the parts of a date or a date with a time.
-/
import ConfigAudit.Yaml.Cursor

namespace ConfigAudit.Yaml

/-- The full form of a tag of the core kinds. -/
def coreTag (name : String) : String := "tag:yaml.org,2002:" ++ name

/-! ## Numbers -/

/-- Drops a sign. -/
def dropSign : List Char → List Char
  | '+' :: cs => cs
  | '-' :: cs => cs
  | cs => cs

/-- Digits and the marks that group them. -/
def isGrouped (c : Char) : Bool := c.isDigit || c == '_'

/-- Drops digits that may be grouped, the first of which is a digit. -/
def dropNumber? (cs : List Char) : Option (List Char) :=
  match cs with
  | c :: rest => if c.isDigit then some (rest.dropWhile isGrouped) else none
  | [] => none

/-- Whether characters are an exponent, or nothing. -/
def isExponent : List Char → Bool
  | [] => true
  | e :: sign :: digits => (e == 'e' || e == 'E') && (sign == '+' || sign == '-') &&
      !digits.isEmpty && digits.all Char.isDigit
  | _ => false

/-- Whether a part of a number in base sixty is one. -/
def isSixtieth : List Char → Bool
  | [c] => c.isDigit
  | [a, b] => '0' ≤ a && a ≤ '5' && b.isDigit
  | _ => false

/-- Cuts characters at colons. -/
def colonParts (cs : List Char) : List (List Char) := Text.partsFrom ':' [] cs

/-- Whether characters are parts in base sixty. -/
def areSixtieths (parts : List (List Char)) : Bool := !parts.isEmpty && parts.all isSixtieth

/-- Whether characters are a number with a point. -/
def isPointed (cs : List Char) : Bool :=
  match dropNumber? cs with
  | some ('.' :: rest) => isExponent (rest.dropWhile isGrouped)
  | _ => false

/-- Whether characters are a number in base sixty with a point. -/
def isSixtiethPointed (cs : List Char) : Bool :=
  match dropNumber? cs with
  | some (':' :: rest) =>
    let (whole, fraction) := rest.span (· != '.')
    areSixtieths (colonParts whole) &&
      match fraction with
      | _ :: digits => digits.all isGrouped
      | [] => false
  | _ => false

/-- Whether a text is a number with a fraction. -/
def isFloat (s : String) : Bool :=
  let cs := s.toList
  let body := dropSign cs
  isPointed body || isSixtiethPointed body ||
    (match cs with
      | '.' :: rest => match dropNumber? rest with
        | some rest => isExponent rest
        | none => false
      | _ => false) ||
    [".inf", ".Inf", ".INF"].contains (String.ofList body) ||
    [".nan", ".NaN", ".NAN"].contains s

/-- Whether characters are a number in base sixty. -/
def isSixtiethWhole (cs : List Char) : Bool :=
  match cs with
  | '0' :: _ => false
  | _ => match dropNumber? cs with
    | some (':' :: rest) => areSixtieths (colonParts rest)
    | _ => false

/-- Whether characters are not empty and all have a property. -/
def areAll (p : Char → Bool) (cs : List Char) : Bool := !cs.isEmpty && cs.all p

/-- Whether a text is a whole number. -/
def isInteger (s : String) : Bool :=
  let body := dropSign s.toList
  isSixtiethWhole body || match body with
    | ['0'] => true
    | '0' :: 'b' :: rest => areAll (fun c => c == '0' || c == '1' || c == '_') rest
    | '0' :: 'x' :: rest => areAll (fun c => isHexDigit c || c == '_') rest
    | '0' :: rest => areAll (fun c => ('0' ≤ c && c ≤ '7') || c == '_') rest
    | cs => dropNumber? cs == some []

/-! ## Dates -/

/-- The parts of a date, which may have a time. -/
structure Timestamp where
  /-- The year. -/
  year : Nat
  /-- The month. -/
  month : Nat
  /-- The day. -/
  day : Nat
  /-- Hour, minute, second and millionths of a second, if there is a time. -/
  time : Option (Nat × Nat × Nat × Nat)
  /-- The offset in minutes, if there is one. -/
  offset : Option Int
  /-- Whether month and day have two digits. -/
  padded : Bool

/-- The number that digits spell. -/
def decimal (cs : List Char) : Nat := cs.foldl (fun n c => 10 * n + (c.toNat - 0x30)) 0

/-- Takes digits, at least `lo` and at most `hi`. -/
def digitsOf (lo hi : Nat) (cs : List Char) : Option (List Char × List Char) :=
  let digits := (cs.take hi).takeWhile Char.isDigit
  if digits.length < lo then none else some (digits, cs.drop digits.length)

/-- Takes one character. -/
def expect (c : Char) : List Char → Option (List Char)
  | x :: rest => if x == c then some rest else none
  | [] => none

/-- Reads an offset, or nothing. -/
def offset? (cs : List Char) : Option (Option Int) :=
  match cs.dropWhile (fun c => c == ' ' || c == '\t') with
  | [] => if cs.isEmpty then some none else none
  | ['Z'] => some (some 0)
  | sign :: rest =>
    if sign == '+' || sign == '-' then do
      let (hours, rest) ← digitsOf 1 2 rest
      let minutes ← match rest with
        | [] => some []
        | rest => do
          let (minutes, rest) ← digitsOf 2 2 (← expect ':' rest)
          if rest.isEmpty then some minutes else none
      let n : Int := (decimal hours * 60 + decimal minutes : Nat)
      return some (if sign == '-' then -n else n)
    else none

/-- Reads a fraction of a second as millionths. -/
def fraction (cs : List Char) : Nat × List Char :=
  match cs with
  | '.' :: rest =>
    let (digits, rest) := rest.span Char.isDigit
    (decimal ((digits ++ List.replicate 6 '0').take 6), rest)
  | cs => (0, cs)

/-- Reads a time with its offset. -/
def clock? (cs : List Char) : Option ((Nat × Nat × Nat × Nat) × Option Int) := do
  let (hour, cs) ← digitsOf 1 2 cs
  let (minute, cs) ← digitsOf 2 2 (← expect ':' cs)
  let (second, cs) ← digitsOf 2 2 (← expect ':' cs)
  let (micro, cs) := fraction cs
  return ((decimal hour, decimal minute, decimal second, micro), ← offset? cs)

/-- Drops what separates a time from its date. -/
def dropSeparator? (cs : List Char) : Option (List Char) :=
  match cs with
  | 'T' :: rest => some rest
  | 't' :: rest => some rest
  | c :: rest =>
    if c == ' ' || c == '\t' then some (rest.dropWhile fun c => c == ' ' || c == '\t') else none
  | [] => none

/-- Reads a date, which may have a time. -/
def timestamp? (s : String) : Option Timestamp := do
  let (year, cs) ← digitsOf 4 4 s.toList
  let (month, cs) ← digitsOf 1 2 (← expect '-' cs)
  let (day, cs) ← digitsOf 1 2 (← expect '-' cs)
  let padded := month.length == 2 && day.length == 2
  if cs.isEmpty then return ⟨decimal year, decimal month, decimal day, none, none, padded⟩
  let (time, offset) ← clock? (← dropSeparator? cs)
  return ⟨decimal year, decimal month, decimal day, some time, offset, padded⟩

/-- Whether a plain text is a date: without a time, month and day have two digits. -/
def isTimestamp (s : String) : Bool :=
  match timestamp? s with
  | some t => t.time.isSome || t.padded
  | none => false

/-! ## Implicit tags -/

/-- The texts that mean yes. -/
def yesTexts : List String :=
  ["yes", "Yes", "YES", "true", "True", "TRUE", "on", "On", "ON"]

/-- The texts that mean no. -/
def noTexts : List String :=
  ["no", "No", "NO", "false", "False", "FALSE", "off", "Off", "OFF"]

/-- The texts that mean nothing. -/
def nullTexts : List String := ["", "~", "null", "Null", "NULL"]

/-- The tag of a plain scalar. -/
def implicitTag (s : String) : String :=
  coreTag <|
    if yesTexts.contains s || noTexts.contains s then "bool"
    else if isFloat s then "float"
    else if isInteger s then "int"
    else if s == "<<" then "merge"
    else if nullTexts.contains s then "null"
    else if isTimestamp s then "timestamp"
    else if s == "=" then "value"
    else if ["!", "&", "*"].contains s then "yaml"
    else "str"

end ConfigAudit.Yaml
