/-
# Reading a document character by character

A cursor is a place in a document with the characters behind it.  Line ends are line feeds, next
lines, and line and paragraph separators.

* `Cursor` : a place and what follows;
* `Cursor.span` : the characters with a property;
* `Cursor.lineBreak` : a line end;
* `acceptable` : the characters of documents.
-/
import ConfigAudit.Yaml.Fault

namespace ConfigAudit.Yaml

/-! ## Characters -/

/-- The characters that documents can contain. -/
def acceptable (c : Char) : Bool :=
  let n := c.toNat
  n == 0x09 || n == 0x0a || n == 0x0d || (0x20 ≤ n && n ≤ 0x7e) || n == 0x85 ||
    (0xa0 ≤ n && n ≤ 0xd7ff) || (0xe000 ≤ n && n ≤ 0xfffd) || 0x10000 ≤ n

/-- What stands for the end of a document; no document contains it. -/
def ending : Char := '\x00'

/-- Line ends. -/
def isBreak (c : Char) : Bool :=
  c == '\n' || c == '\r' || c == '\x85' || c == '\u2028' || c == '\u2029'

/-- Line ends and the end of the document. -/
def endsLine (c : Char) : Bool := c == ending || isBreak c

/-- Spaces, line ends and the end of the document. -/
def endsWord (c : Char) : Bool := c == ' ' || endsLine c

/-- Blanks, line ends and the end of the document. -/
def endsToken (c : Char) : Bool := c == '\t' || endsWord c

/-- The characters of names. -/
def isNameChar (c : Char) : Bool := c.isAlphanum || c == '-' || c == '_'

/-- The digits of numbers in base sixteen. -/
def isHexDigit (c : Char) : Bool :=
  c.isDigit || ('a' ≤ c && c ≤ 'f') || ('A' ≤ c && c ≤ 'F')

/-! ## Cursors -/

/-- The place behind a character. -/
def after (m : Mark) (c : Char) : Mark :=
  if isBreak c then ⟨m.index + 1, m.line + 1, 0⟩
  else if c == '\ufeff' then ⟨m.index + 1, m.line, m.column⟩
  else ⟨m.index + 1, m.line, m.column + 1⟩

/-- A place in a document. -/
structure Cursor where
  /-- The characters behind it. -/
  rest : List Char
  /-- The place. -/
  mark : Mark

namespace Cursor

/-- The beginning of a document. -/
def start (cs : List Char) : Cursor := ⟨cs, ⟨0, 0, 0⟩⟩

/-- The next character. -/
def peek (c : Cursor) : Char := c.rest.headD ending

/-- The character `k` places behind the next one. -/
def peekAt (k : Nat) (c : Cursor) : Char := (c.rest[k]?).getD ending

/-- The column of a place. -/
def column (c : Cursor) : Nat := c.mark.column

/-- The place behind the next character. -/
def next (c : Cursor) : Cursor :=
  match c.rest with
  | [] => c
  | x :: rest => ⟨rest, after c.mark x⟩

/-- The place behind the next `n` characters. -/
def skip : Nat → Cursor → Cursor
  | 0, c => c
  | n + 1, c => skip n c.next

/-- Splits characters at a place, where the first one without a property stands. -/
def spanFrom (p : Char → Bool) (m : Mark) : List Char → List Char × Cursor
  | [] => ([], ⟨[], m⟩)
  | x :: rest =>
    if p x then
      let (word, c) := spanFrom p (after m x) rest
      (x :: word, c)
    else ([], ⟨x :: rest, m⟩)

/-- The next characters with a property, and the place behind them. -/
def span (p : Char → Bool) (c : Cursor) : List Char × Cursor := spanFrom p c.mark c.rest

/-- The place behind the next characters with a property. -/
def skipWhile (p : Char → Bool) (c : Cursor) : Cursor := (c.span p).2

/-- The place behind the next spaces. -/
def skipSpaces (c : Cursor) : Cursor := c.skipWhile (· == ' ')

/-- The place behind the rest of the line. -/
def skipLine (c : Cursor) : Cursor := c.skipWhile fun x => !endsLine x

/-- Whether the next characters are the given ones. -/
def looksAt (s : String) (c : Cursor) : Bool := Text.startsWith s.toList c.rest

/-- Whether the next characters separate documents. -/
def atSeparator (c : Cursor) : Bool :=
  (c.looksAt "---" || c.looksAt "...") && endsToken (c.peekAt 3)

/-- The line end at a place, if there is one, and the place behind it: the usual line ends count
as line feeds, and the separators of lines and paragraphs as themselves. -/
def lineBreak (c : Cursor) : List Char × Cursor :=
  match c.peek with
  | '\r' => (['\n'], if c.looksAt "\r\n" then c.skip 2 else c.next)
  | '\n' => (['\n'], c.next)
  | '\x85' => (['\n'], c.next)
  | '\u2028' => (['\u2028'], c.next)
  | '\u2029' => (['\u2029'], c.next)
  | _ => ([], c)

end Cursor

/-! ## Faults at places -/

/-- A fault of the tokens without a context. -/
def unplaced {α : Type} (problem : Problem) (c : Cursor) : Except Fault α :=
  .error (.marked .tokens none problem c.mark)

/-- A fault of the tokens within a context. -/
def within {α : Type} (context : Context) (start : Mark) (problem : Problem) (c : Cursor) :
    Except Fault α :=
  .error (.marked .tokens (some (context, start)) problem c.mark)

/-- Checks that documents can contain all characters. -/
def checkCharacters : Nat → List Char → Except Fault Unit
  | _, [] => .ok ()
  | position, c :: rest =>
    if acceptable c then checkCharacters (position + 1) rest
    else .error (.character c.toNat position)

end ConfigAudit.Yaml
