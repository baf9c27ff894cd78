/-
# Scalars

A scalar is written in a block, between quotation marks, or plainly.  Lines of a scalar are
folded: a single line end counts as a space, except in blocks that keep their lines.

* `blockScalar` : scalars in blocks;
* `quotedScalar` : scalars between quotation marks;
* `plainScalar` : plain scalars.
-/
import ConfigAudit.Yaml.Token.Basic

namespace ConfigAudit.Yaml

/-! ## Blocks -/

/-- What is done with the line ends at the end of a block. -/
inductive Chomping where
  /-- All are dropped. -/
  | strip
  /-- One is kept. -/
  | clip
  /-- All are kept. -/
  | keep
  deriving DecidableEq

/-- Reads a mark of chomping. -/
def chomping? (c : Char) : Option Chomping :=
  if c == '+' then some .keep else if c == '-' then some .strip else none

/-- Reads a mark of indentation. -/
def increment? (start : Mark) (c : Cursor) : Except Fault (Option Nat × Cursor) :=
  if c.peek.isDigit then
    if c.peek == '0' then within (.scanning "a block scalar") start .zeroIndentation c
    else .ok (some (c.peek.toNat - 0x30), c.next)
  else .ok (none, c)

/-- Reads the marks of a block, in either order. -/
def blockHeader (start : Mark) (c : Cursor) :
    Except Fault (Chomping × Option Nat × Cursor) := do
  let (chomping, increment, c) ← match chomping? c.peek with
    | some k => do
      let (n, c) ← increment? start c.next
      pure (k, n, c)
    | none => do
      let (n, c) ← increment? start c
      match n, chomping? c.peek with
      | some n, some k => pure (k, some n, c.next)
      | n, _ => pure (.clip, n, c)
  if endsWord c.peek then return (chomping, increment, c)
  within (.scanning "a block scalar") start
    (.expected "chomping or indentation indicators" c.peek) c

/-- Passes a comment up to the end of its line, where nothing else may stand. -/
def restOfLine (context : Context) (start : Mark) (c : Cursor) : Except Fault Cursor :=
  let c := c.skipSpaces
  let c := if c.peek == '#' then c.skipLine else c
  if endsLine c.peek then .ok c.lineBreak.2
  else within context start (.expected "a comment or a line break" c.peek) c

/-- Passes empty lines and notes the deepest indentation; `fuel` bounds the characters. -/
def deepestIndent : Nat → List Char → Nat → Cursor → List Char × Nat × Cursor
  | 0, breaks, deepest, c => (breaks, deepest, c)
  | fuel + 1, breaks, deepest, c =>
    if c.peek == ' ' then
      deepestIndent fuel breaks (max deepest c.next.column) c.next
    else if isBreak c.peek then
      let (b, c) := c.lineBreak
      deepestIndent fuel (breaks ++ b) deepest c
    else (breaks, deepest, c)

/-- Passes spaces up to an indentation. -/
def toIndent (indent : Nat) : Nat → Cursor → Cursor
  | 0, c => c
  | fuel + 1, c => if c.column < indent && c.peek == ' ' then toIndent indent fuel c.next else c

/-- Passes empty lines of an indented block. -/
def blockBreaks (indent : Nat) : Nat → List Char → Cursor → List Char × Cursor
  | 0, breaks, c => (breaks, c)
  | fuel + 1, breaks, c =>
    let c := toIndent indent indent c
    if isBreak c.peek then
      let (b, c) := c.lineBreak
      blockBreaks indent fuel (breaks ++ b) c
    else (breaks, c)

/-- What stands for a line end between two lines of a block. -/
def blockJoint (folded fromText toText : Bool) (lineEnd breaks : List Char) : List Char :=
  if folded && lineEnd == ['\n'] && fromText && toText then
    if breaks.isEmpty then [' '] else []
  else lineEnd

/-- The lines of a block; `text` holds what was read, in pieces, in reverse. -/
def blockLines (folded : Bool) (indent : Nat) :
    Nat → List (List Char) → List Char → List Char → Cursor →
    List (List Char) × List Char × List Char × Cursor
  | 0, text, lineEnd, breaks, c => (text, lineEnd, breaks, c)
  | fuel + 1, text, lineEnd, breaks, c =>
    if c.column == indent && c.peek != ending then
      let isText (x : Char) : Bool := x != ' ' && x != '\t'
      let fromText := isText c.peek
      let (line, c) := c.span fun x => !endsLine x
      let text := line :: breaks :: text
      let (lineEnd, c) := c.lineBreak
      let (breaks, c) := blockBreaks indent c.rest.length [] c
      if c.column == indent && c.peek != ending then
        let joint := blockJoint folded fromText (isText c.peek) lineEnd breaks
        blockLines folded indent fuel (joint :: text) lineEnd breaks c
      else (text, lineEnd, breaks, c)
    else (text, lineEnd, breaks, c)

/-- The characters of pieces that were collected in reverse. -/
def assemble (pieces : List (List Char)) : String := String.ofList pieces.reverse.flatten

/-- Reads a scalar in a block; `indent` is the indentation of the collection around it. -/
def blockScalar (folded : Bool) (indent : Int) (c : Cursor) : Except Fault (Token × Cursor) := do
  let start := c.mark
  let (chomping, increment, c) ← blockHeader start c.next
  let c ← restOfLine (.scanning "a block scalar") start c
  let least := (max (indent + 1) 1).toNat
  let (breaks, indent, c) := match increment with
    | none =>
      let (breaks, deepest, c) := deepestIndent c.rest.length [] 0 c
      (breaks, max least deepest, c)
    | some n =>
      let (breaks, c) := blockBreaks (least + n - 1) (c.rest.length + 1) [] c
      (breaks, least + n - 1, c)
  let (text, lineEnd, breaks, c) := blockLines folded indent (c.rest.length + 1) [] [] breaks c
  let text := if chomping = .strip then text else lineEnd :: text
  let text := if chomping = .keep then breaks :: text else text
  return (⟨.scalar (assemble text) false, start, c.mark⟩, c)

/-! ## Quotation marks -/

/-- The characters that stand behind a backslash for another one. -/
def escapes : List (Char × Char) :=
  [('0', '\x00'), ('a', '\x07'), ('b', '\x08'), ('t', '\t'), ('\t', '\t'), ('n', '\n'),
   ('v', '\x0b'), ('f', '\x0c'), ('r', '\r'), ('e', '\x1b'), (' ', ' '), ('\x22', '\x22'),
   ('\\', '\\'), ('/', '/'), ('N', '\x85'), ('_', '\xa0'), ('L', '\u2028'), ('P', '\u2029')]

/-- How many digits stand behind the mark of an escaped number. -/
def escapeDigits? (c : Char) : Option Nat :=
  if c == 'x' then some 2 else if c == 'u' then some 4 else if c == 'U' then some 8 else none

/-- The value of a digit in base sixteen. -/
def hexValue (c : Char) : Nat :=
  if c.isDigit then c.toNat - 0x30
  else if 'a' ≤ c then c.toNat - 0x61 + 10 else c.toNat - 0x41 + 10

/-- The number that digits in base sixteen spell. -/
def hexNumber (cs : List Char) : Nat := cs.foldl (fun n c => 16 * n + hexValue c) 0

/-- Reads an escaped number. -/
def escapedNumber (n : Nat) (start : Mark) (c : Cursor) : Except Fault (Char × Cursor) :=
  let digits := (c.rest.take n).takeWhile isHexDigit
  if digits.length < n then
    within (.scanning "a double-quoted scalar") start
      (.expected ("escape sequence of " ++ toString n ++ " hexadecimal numbers")
        (c.peekAt digits.length)) c
  else if hexNumber digits < 0x110000 then
    let code := hexNumber digits
    .ok (if 0xd800 ≤ code && code ≤ 0xdfff then Text.half code else Char.ofNat code, c.skip n)
  else .error (.codePoint (hexNumber digits))

/-- Passes empty lines of a quoted scalar. -/
def quotedBreaks (start : Mark) : Nat → List Char → Cursor → Except Fault (List Char × Cursor)
  | 0, breaks, c => .ok (breaks, c)
  | fuel + 1, breaks, c =>
    if c.atSeparator then within (.scanning "a quoted scalar") start .documentSeparator c
    else
      let c := c.skipWhile fun x => x == ' ' || x == '\t'
      if isBreak c.peek then
        let (b, c) := c.lineBreak
        quotedBreaks start fuel (breaks ++ b) c
      else .ok (breaks, c)

/-- Reads what stands behind a backslash. -/
def escaped (start : Mark) (c : Cursor) : Except Fault (List Char × Cursor) :=
  match escapes.lookup c.peek, escapeDigits? c.peek with
  | some x, _ => .ok ([x], c.next)
  | none, some n => do
    let (x, c) ← escapedNumber n start c.next
    return ([x], c)
  | none, none =>
    if isBreak c.peek then
      let c := c.lineBreak.2
      quotedBreaks start (c.rest.length + 1) [] c
    else within (.scanning "a double-quoted scalar") start (.unknownEscape c.peek) c

/-- The characters that a quoted scalar cannot take as they are. -/
def isQuotedSpecial (c : Char) : Bool :=
  c == '\x27' || c == '\x22' || c == '\\' || endsToken c

/-- Reads the part of a quoted scalar up to the next blank or to its end. -/
def quotedWord (double : Bool) (start : Mark) :
    Nat → List (List Char) → Cursor → Except Fault (List (List Char) × Cursor)
  | 0, text, c => .ok (text, c)
  | fuel + 1, text, c => do
    let (word, c) := c.span fun x => !isQuotedSpecial x
    let text := word :: text
    if !double && c.looksAt "''" then quotedWord double start fuel (['\x27'] :: text) (c.skip 2)
    else if (double && c.peek == '\x27') || (!double && (c.peek == '\x22' || c.peek == '\\')) then
      quotedWord double start fuel ([c.peek] :: text) c.next
    else if double && c.peek == '\\' then
      let (x, c) ← escaped start c.next
      quotedWord double start fuel (x :: text) c
    else return (text, c)

/-- Reads the blanks of a quoted scalar, where lines are folded. -/
def quotedBlanks (start : Mark) (c : Cursor) : Except Fault (List Char × Cursor) := do
  let (blanks, c) := c.span fun x => x == ' ' || x == '\t'
  if c.peek == ending then within (.scanning "a quoted scalar") start .endOfText c
  if isBreak c.peek then
    let (lineEnd, c) := c.lineBreak
    let (breaks, c) ← quotedBreaks start (c.rest.length + 1) [] c
    let joint := if lineEnd != ['\n'] then lineEnd else if breaks.isEmpty then [' '] else []
    return (joint ++ breaks, c)
  return (blanks, c)

/-- Reads a quoted scalar up to its end. -/
def quotedText (double : Bool) (mark : Char) (start : Mark) :
    Nat → List (List Char) → Cursor → Except Fault (List (List Char) × Cursor)
  | 0, text, c => .ok (text, c)
  | fuel + 1, text, c => do
    if c.peek == mark then return (text, c.next)
    let (blanks, c) ← quotedBlanks start c
    let (text, c) ← quotedWord double start (c.rest.length + 1) (blanks :: text) c
    quotedText double mark start fuel text c

/-- Reads a scalar between quotation marks. -/
def quotedScalar (double : Bool) (c : Cursor) : Except Fault (Token × Cursor) := do
  let start := c.mark
  let mark := c.peek
  let c := c.next
  let (text, c) ← quotedWord double start (c.rest.length + 1) [] c
  let (text, c) ← quotedText double mark start (c.rest.length + 1) text c
  return (⟨.scalar (assemble text) false, start, c.mark⟩, c)

/-! ## Plain scalars -/

/-- Whether a plain scalar stops before a character, given the one behind it. -/
def stopsPlain (flow : Bool) (c behind : Char) : Bool :=
  endsToken c ||
    (c == ':' && (endsToken behind || (flow && ",[]\x7b\x7d".toList.contains behind))) ||
    (flow && ",?[]\x7b\x7d".toList.contains c)

/-- Reads one word of a plain scalar. -/
def plainWord (flow : Bool) (m : Mark) : List Char → List Char × Cursor
  | [] => ([], ⟨[], m⟩)
  | x :: rest =>
    if stopsPlain flow x (rest.headD ending) then ([], ⟨x :: rest, m⟩)
    else
      let (word, c) := plainWord flow (after m x) rest
      (x :: word, c)

/-- Passes empty lines between the lines of a plain scalar; nothing if a document ends there. -/
def plainBreaks : Nat → List Char → Cursor → Option (List Char) × Cursor
  | 0, breaks, c => (some breaks, c)
  | fuel + 1, breaks, c =>
    if c.peek == ' ' then plainBreaks fuel breaks c.next
    else if isBreak c.peek then
      let (b, c) := c.lineBreak
      if c.atSeparator then (none, c) else plainBreaks fuel (breaks ++ b) c
    else (some breaks, c)

/-- Reads the blanks of a plain scalar, where lines are folded; says whether a line ended. -/
def plainBlanks (c : Cursor) : List Char × Cursor × Bool :=
  let (blanks, c) := c.span (· == ' ')
  if isBreak c.peek then
    let (lineEnd, c) := c.lineBreak
    if c.atSeparator then ([], c, true)
    else match plainBreaks (c.rest.length + 1) [] c with
      | (none, c) => ([], c, true)
      | (some breaks, c) =>
        let joint := if lineEnd != ['\n'] then lineEnd else if breaks.isEmpty then [' '] else []
        (joint ++ breaks, c, true)
  else (blanks, c, false)

/-- What was read of a plain scalar. -/
structure PlainText where
  /-- The pieces, in reverse. -/
  text : List (List Char)
  /-- Where the last word ends. -/
  stop : Mark
  /-- Whether a line ended behind the last word. -/
  newLine : Bool
  /-- The place behind. -/
  cursor : Cursor

/-- Reads the words of a plain scalar. -/
def plainWords (flow : Bool) (indent : Int) : Nat → List Char → PlainText → PlainText
  | 0, _, t => t
  | fuel + 1, blanks, t =>
    if t.cursor.peek == '#' then t
    else
      let (word, c) := plainWord flow t.cursor.mark t.cursor.rest
      if word.isEmpty then t
      else
        let (behind, c', newLine) := plainBlanks c
        let t := ⟨word :: blanks :: t.text, c.mark, newLine, c'⟩
        if behind.isEmpty || c'.peek == '#' || (!flow && (c'.column : Int) < indent + 1) then t
        else plainWords flow indent fuel behind t

/-- Reads a plain scalar; says whether a line ended behind it. -/
def plainScalar (flow : Bool) (indent : Int) (c : Cursor) : Token × Cursor × Bool :=
  let t := plainWords flow indent (c.rest.length + 1) [] ⟨[], c.mark, false, c⟩
  (⟨.scalar (assemble t.text) true, c.mark, t.stop⟩, t.cursor, t.newLine)

end ConfigAudit.Yaml
