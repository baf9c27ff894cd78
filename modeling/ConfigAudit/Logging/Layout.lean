/-
# Layouts of messages

A layout says how a message is written: plain characters, and directives that stand for the time,
the level, the name of the logger or the message itself.  A directive can ask for a least width
and a greatest length.

* `Layout.make` : a layout, which needs at least one directive;
* `Layout.render` : a message as it is written.
-/
import ConfigAudit.Fault
import ConfigAudit.Journal

namespace ConfigAudit

/-! ## Times -/

/-- One part of a written time. -/
def timePart (m : Moment) : Char → Option String
  | 'Y' => some (toString m.date.year)
  | 'm' => some (Date.padded 2 m.date.month)
  | 'd' => some (Date.padded 2 m.date.day)
  | 'H' => some (Date.padded 2 m.clock.hour)
  | 'M' => some (Date.padded 2 m.clock.minute)
  | 'S' => some (Date.padded 2 m.clock.second)
  | '%' => some "%"
  | _ => none

/-- A time as a pattern of percent signs and letters says; unknown parts stay as they are. -/
def timeChars (m : Moment) : List Char → List Char
  | '%' :: c :: rest => match timePart m c with
    | some s => s.toList ++ timeChars m rest
    | none => '%' :: c :: timeChars m rest
  | c :: rest => c :: timeChars m rest
  | [] => []

/-- A written time. -/
def timeText (pattern : String) (m : Moment) : String :=
  String.ofList (timeChars m pattern.toList)

/-! ## Directives -/

/-- A directive of a layout. -/
structure Directive where
  /-- What it stands for. -/
  field : String
  /-- The flags. -/
  flags : List Char
  /-- The least width. -/
  width : Nat
  /-- The greatest length. -/
  limit : Option Nat
  /-- The way in which the field is written. -/
  style : Char

/-- A part of a layout. -/
inductive Piece where
  /-- A character that stands for itself. -/
  | plain (c : Char)
  /-- A directive. -/
  | directive (d : Directive)
  /-- A percent sign without a directive. -/
  | stray

namespace Directive

/-- The flags of directives. -/
def flagChars : List Char := ['#', '0', '+', ' ', '-']

/-- The letters of the ways in which a field is written. -/
def styleChars : List Char := "diouxefgcrsa%DIOUXEFGCRSA".toList

/-- Reads a directive behind its percent sign. -/
def read? (cs : List Char) : Option (Directive × List Char) :=
  match cs with
  | '(' :: cs =>
    let (field, cs) := cs.span (· != ')')
    let (flags, cs) := (cs.drop 1).span flagChars.contains
    let (width, cs) := cs.span Char.isDigit
    let (limit, cs) := match cs with
      | '.' :: cs =>
        let (limit, cs) := cs.span Char.isDigit
        (some ((String.ofList limit).toNat?.getD 0), cs)
      | cs => (none, cs)
    match cs with
    | c :: cs => if styleChars.contains c
      then some (⟨String.ofList field, flags, (String.ofList width).toNat?.getD 0, limit, c⟩, cs)
      else none
    | [] => none
  | _ => none

/-- Whether a field can be searched for: it is a word. -/
def isNamed (d : Directive) : Bool :=
  !d.field.isEmpty && d.field.toList.all fun c => Text.isAlphanumeric c || c == '_'

/-- Fills a text up to the least width. -/
def fill (d : Directive) (zeros : Bool) (sign s : String) : String :=
  let gap := d.width - (sign.length + s.length)
  let blanks := String.ofList (List.replicate gap ' ')
  if d.flags.contains '-' then sign ++ s ++ blanks
  else if zeros && d.flags.contains '0' then
    sign ++ String.ofList (List.replicate gap '0') ++ s
  else blanks ++ sign ++ s

/-- A text cut to the greatest length. -/
def cut (d : Directive) (s : String) : String := d.limit.elim s fun n => Text.firstChars n s

/-- A whole number as a directive writes it. -/
def whole (d : Directive) (n : Int) : String :=
  let sign := if n < 0 then "-" else if d.flags.contains '+' then "+"
    else if d.flags.contains ' ' then " " else ""
  let digits := toString n.natAbs
  let zeros := (d.limit.getD 0) - digits.length
  d.fill true sign (String.ofList (List.replicate zeros '0') ++ digits)

/-- A value as a directive writes it, if it can. -/
def write? (d : Directive) (v : Value) : Option String :=
  match d.style with
  | 's' => some (d.fill false "" (d.cut v.plain))
  | 'r' | 'a' => some (d.fill false "" (d.cut v.quoted))
  | 'd' | 'i' | 'u' => v.asInt?.map d.whole
  | '%' => some "%"
  | _ => none

end Directive

/-! ## Layouts -/

/-- The parts of a format; `fuel` bounds their number. -/
def piecesOf : Nat → List Char → List Piece
  | 0, _ => []
  | _, [] => []
  | fuel + 1, '%' :: cs =>
    match Directive.read? cs with
    | some (d, rest) => .directive d :: piecesOf fuel rest
    | none => match cs with
      | '%' :: rest => .plain '%' :: piecesOf fuel rest
      | _ => .stray :: piecesOf fuel cs
  | fuel + 1, c :: cs => .plain c :: piecesOf fuel cs

/-- Whether a directive begins anywhere in a format. -/
def hasDirective : List Char → Bool
  | [] => false
  | c :: cs => (c == '%' && (Directive.read? cs).any (·.1.isNamed)) || hasDirective cs

/-- How messages are written. -/
structure Layout where
  /-- The parts of a message. -/
  pieces : List Piece
  /-- How times are written. -/
  times : String

/-- A message on its way. -/
structure Entry where
  /-- The logger that it is left with. -/
  logger : String
  /-- How important it is. -/
  level : Int
  /-- What it says. -/
  message : Value
  /-- When it is left. -/
  time : Moment

namespace Layout

/-- The format that is used unless another one is given. -/
def standardFormat : String := "%(asctime)s [%(levelname)s] [%(name)s] %(message)s"

/-- The form of times that is used unless another one is given. -/
def standardTimes : String := "%Y-%m-%dT%H:%M:%S"

/-- A text, or another one in the place of an empty one. -/
def orElse (s other : String) : String := if s.isEmpty then other else s

/-- A layout of a format; a format without any directive is refused. -/
def make (format times : String) : Except Fault Layout :=
  let format := orElse format standardFormat
  if hasDirective format.toList then
    .ok ⟨piecesOf format.length format.toList, orElse times standardTimes⟩
  else .error (.config (.layout format))

/-- The value that a directive stands for. -/
def field? (l : Layout) (e : Entry) : String → Option Value
  | "message" => e.message.spell.toOption.map .text
  | "msg" => some e.message
  | "name" => some (.text e.logger)
  | "levelname" => some (.text (levelName e.level))
  | "levelno" => some (.int e.level)
  | "asctime" => some (.text (timeText l.times e.time))
  | _ => none

/-- A part of a message as it is written, if it can be. -/
def piece? (l : Layout) (e : Entry) : Piece → Option String
  | .plain c => some (String.singleton c)
  | .directive d => (l.field? e d.field).bind fun v => if v.isSpellable then d.write? v else none
  | .stray => none

/-- A message as it is written, if all its parts can be. -/
def render (l : Layout) (e : Entry) : Option String :=
  (l.pieces.mapM (l.piece? e)).map String.join

end Layout

end ConfigAudit
