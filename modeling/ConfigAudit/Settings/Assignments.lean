/-
# Files of variables

A file of variables holds one assignment a line: a name, an equal sign, and a value, which may be
quoted and may then span lines.  Values can refer to variables by their names, with a text for the
case that there is no such variable.  Lines that cannot be read are passed over.

* `Assignments.read` : the assignments of a text;
* `Assignments.resolve` : their values, with references replaced.
-/
import ConfigAudit.Text.Lines
import ConfigAudit.Text.Quoted

namespace ConfigAudit

/-- A name with its value; there may be none. -/
abbrev Assignment := String × Option String

namespace Assignments

open Text

/-! ## Lines -/

/-- Blanks that do not end a line. -/
def isGap (c : Char) : Bool := isBlank c && c != '\n' && c != '\r'

/-- What lies behind the blanks of a line. -/
def skipGaps (cs : List Char) : List Char := cs.dropWhile isGap

/-- What lies behind the current line. -/
def nextLine (cs : List Char) : List Char := (cs.dropWhile fun c => c != '\n' && c != '\r').drop 1

/-- What lies behind a comment and the end of the line, if nothing else is on it. -/
def endLine? (cs : List Char) : Option (List Char) :=
  let cs := match skipGaps cs with
    | '#' :: rest => rest.dropWhile fun c => c != '\n' && c != '\r'
    | rest => rest
  match cs with
  | [] => some []
  | '\r' :: '\n' :: rest => some rest
  | c :: rest => if c == '\n' || c == '\r' then some rest else none

/-! ## Names -/

/-- Skips a word that may stand before a name. -/
def skipExport (cs : List Char) : List Char :=
  match cs with
  | 'e' :: 'x' :: 'p' :: 'o' :: 'r' :: 't' :: rest =>
    match rest with
    | c :: _ => if isGap c then skipGaps rest else cs
    | [] => cs
  | _ => cs

/-- Whether a character can be part of a name without quotes. -/
def isNameChar (c : Char) : Bool := c != '=' && c != '#' && !isBlank c

/-- Reads a name; a comment has none. -/
def name? (cs : List Char) : Option (Option String × List Char) :=
  match cs with
  | '#' :: _ => some (none, cs)
  | '\x27' :: rest =>
    match rest.span (· != '\x27') with
    | (word, '\x27' :: rest) => if word.isEmpty then none else some (some (String.ofList word), rest)
    | _ => none
  | cs => match cs.span isNameChar with
    | ([], _) => none
    | (word, rest) => some (some (String.ofList word), rest)

/-! ## Values -/

/-- The places of quotes: how many characters lie before each, and whether a backslash is the
last of them. -/
def quotePlaces (mark : Char) (n : Nat) (escaped : Bool) : List Char → List (Nat × Bool)
  | [] => []
  | c :: rest =>
    (if c == mark then [(n, escaped)] else []) ++ quotePlaces mark (n + 1) (c == '\\') rest

/-- Where a quoted value ends: at the first quote without a backslash before it, or at the last
quote if there is none. -/
def closing? (mark : Char) (cs : List Char) : Option Nat :=
  let places := quotePlaces mark 0 false cs
  match places.find? fun p => !p.2 with
  | some p => some p.1
  | none => places.getLast?.map Prod.fst

/-- Replaces backslashes and the letters behind them. -/
def unescape (letters : List (Char × Char)) : List Char → List Char
  | '\\' :: c :: rest => match letters.lookup c with
    | some d => d :: unescape letters rest
    | none => '\\' :: unescape letters (c :: rest)
  | c :: rest => c :: unescape letters rest
  | [] => []

/-- What backslashes stand for between single quotes. -/
def singleLetters : List (Char × Char) := [('\\', '\\'), ('\x27', '\x27')]

/-- What backslashes stand for between double quotes. -/
def doubleLetters : List (Char × Char) :=
  [('\\', '\\'), ('\x27', '\x27'), ('\x22', '\x22'), ('a', '\x07'), ('b', '\x08'), ('f', '\x0c'),
   ('n', '\n'), ('r', '\r'), ('t', '\t'), ('v', '\x0b')]

/-- Reads a value behind its opening quote. -/
def quoted? (mark : Char) (letters : List (Char × Char)) (cs : List Char) :
    Option (String × List Char) :=
  (closing? mark cs).map fun n => (String.ofList (unescape letters (cs.take n)), cs.drop (n + 1))

/-- The part of a value before a comment, which begins with blanks and a hash sign. -/
def beforeComment (afterBlank : Bool) : List Char → List Char
  | [] => []
  | c :: rest => if c == '#' && afterBlank then [] else c :: beforeComment (isBlank c) rest

/-- Reads a value. -/
def value? (cs : List Char) : Option (String × List Char) :=
  match cs with
  | '\x27' :: rest => quoted? '\x27' singleLetters rest
  | '\x22' :: rest => quoted? '\x22' doubleLetters rest
  | cs =>
    let (part, rest) := cs.span fun c => c != '\n' && c != '\r'
    some (String.ofList (stripRight (beforeComment false part)), rest)

/-! ## Assignments -/

/-- Reads an assignment, or a comment, up to the end of its line. -/
def assignment? (cs : List Char) : Option (Option Assignment × List Char) := do
  let (name, cs) ← name? (skipExport cs)
  let cs := skipGaps cs
  let (value, cs) ← match cs with
    | '=' :: rest => (value? (skipGaps rest)).map fun r => (some r.1, r.2)
    | cs => some (none, cs)
  return (name.map fun n => (n, value), ← endLine? cs)

/-- How much of a text is behind a line that cannot be read: what could be read of it may have
spanned lines. -/
def afterFault (cs : List Char) : List Char :=
  match name? (skipExport cs) with
  | none => nextLine cs
  | some (_, rest) => match skipGaps rest with
    | '=' :: rest => match value? (skipGaps rest) with
      | some (_, rest) => nextLine rest
      | none => nextLine rest
    | rest => nextLine rest

/-- Reads assignments; `fuel` bounds the number of lines. -/
def readFrom : Nat → List Char → List Assignment
  | 0, _ => []
  | fuel + 1, cs =>
    match cs.dropWhile isBlank with
    | [] => []
    | cs => match assignment? cs with
      | some (a, rest) => a.toList ++ readFrom fuel rest
      | none => readFrom fuel (afterFault cs)

/-- The assignments of a text. -/
def read (cs : List Char) : List Assignment := readFrom (cs.length + 1) cs

/-! ## References -/

/-- Reads a reference behind its dollar sign and opening brace: a name, perhaps a text for the case
that there is no such variable, and the closing brace. -/
def reference? (cs : List Char) : Option (String × String × Nat) :=
  let (name, rest) := cs.span fun c => c != '\x7d' && c != ':'
  match rest with
  | '\x7d' :: _ => some (String.ofList name, "", name.length + 1)
  | ':' :: '-' :: rest =>
    match rest.span (· != '\x7d') with
    | (other, '\x7d' :: _) =>
      some (String.ofList name, String.ofList other, name.length + other.length + 3)
    | _ => none
  | _ => none

/-- A value with its references replaced; `skip` is the number of characters that have been dealt
with. -/
def replace (find : String → Option (Option String)) (skip : Nat) : List Char → List Char
  | [] => []
  | c :: rest =>
    match skip with
    | n + 1 => replace find n rest
    | 0 =>
      if c == '$' && rest.head? == some '\x7b' then
        match reference? (rest.drop 1) with
        | some (name, other, n) =>
          ((find name).elim other (·.getD "")).toList ++ replace find (n + 1) rest
        | none => c :: replace find 0 rest
      else c :: replace find 0 rest

/-- Gives a name a value, in its place or at the end. -/
def put (a : Assignment) : List Assignment → List Assignment
  | [] => [a]
  | b :: rest => if b.1 == a.1 then a :: rest else b :: put a rest

/-- The values of assignments with references replaced: by the assignments before, or else by the
variables around. -/
def resolve (around : List (String × String)) (as : List Assignment) : List Assignment :=
  as.foldl (fun done a =>
    let find (name : String) : Option (Option String) :=
      match done.lookup name with
      | some v => some v
      | none => (around.lookup name).map some
    put (a.1, a.2.map fun v => String.ofList (replace find 0 v.toList)) done) []

end Assignments

end ConfigAudit
