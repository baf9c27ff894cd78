/-
# Dividing Python scripts into tokens

Blocks are told by indentation: a line that is further to the right than the one before begins a
block, and one that is further to the left ends blocks.  Within brackets, and behind a backslash,
a line goes on.  Lines without tokens do not count.

* `Lexer.next` : the next token;
* `tokensOf` : all tokens of a script, up to the end or a fault.
-/
import ConfigAudit.Script.Python.Token

namespace ConfigAudit.Python

/-! ## Characters -/

/-- Whether a character can begin a name, or is no basic character. -/
def beginsWord (c : Char) : Bool := c.isAlpha || c == '_' || 128 ≤ c.toNat

/-- Whether a character can be part of a name, or is no basic character. -/
def isWordChar (c : Char) : Bool := beginsWord c || c.isDigit

/-- Blanks within a line. -/
def isGap (c : Char) : Bool := c == ' ' || c == '\t' || c == '\x0c'

/-! ## Numbers -/

/-- What lies behind the digits of a decimal number; underscores stand between digits. -/
def decimalTail : List Char → Except LexCause (List Char)
  | [] => .ok []
  | '_' :: rest => match rest with
    | c :: more => if c.isDigit then decimalTail more else .error (.number "decimal")
    | [] => .error (.number "decimal")
  | c :: rest => if c.isDigit then decimalTail rest else .ok (c :: rest)

/-- Whether a word follows that may stand right behind a number. -/
def followsNumber (cs : List Char) : Bool :=
  match cs with
  | 'i' :: c :: _ => c == 'f' || c == 'n' || c == 's'
  | cs => [['a', 'n', 'd'], ['e', 'l', 's', 'e'], ['f', 'o', 'r'], ['o', 'r'], ['n', 'o', 't']].any
      fun word => Text.startsWith word cs && !((cs.drop word.length).head?.any isWordChar)

/-- Accepts the end of a number: no name may follow. -/
def endNumber (kind : String) (cs : List Char) : Except LexCause (List Char) :=
  if cs.head?.any isWordChar && !followsNumber cs then .error (.number kind) else .ok cs

/-- What lies behind the digits of a number in another base; `need` says that a digit has to
come. -/
def radixTail (isDigit : Char → Bool) (kind : String) (need : Bool) :
    List Char → Except LexCause (List Char)
  | [] => if need then .error (.number kind) else .ok []
  | c :: rest =>
    if isDigit c then radixTail isDigit kind false rest
    else if c.isDigit then .error (.digit c kind)
    else if need then .error (.number kind)
    else if c == '_' then radixTail isDigit kind true rest
    else .ok (c :: rest)

/-- What lies behind a number in another base. -/
def radixNumber (isDigit : Char → Bool) (kind : String) (cs : List Char) :
    Except LexCause (List Char) := do
  let cs := match cs with
    | '_' :: rest => rest
    | cs => cs
  endNumber kind (← radixTail isDigit kind true cs)

/-- What lies behind the zeros that a number begins with. -/
def zerosTail : List Char → Except LexCause (List Char)
  | [] => .ok []
  | '_' :: rest => match rest with
    | c :: more =>
      if c == '0' then zerosTail more
      else if c.isDigit then .ok (c :: more)
      else .error (.number "decimal")
    | [] => .error (.number "decimal")
  | c :: rest => if c == '0' then zerosTail rest else .ok (c :: rest)

/-- What lies behind the mark of an imaginary number, or the end of another one. -/
def endDecimal (cs : List Char) : Except LexCause (List Char) :=
  match cs with
  | c :: rest => if c == 'j' || c == 'J' then endNumber "imaginary" rest else endNumber "decimal" cs
  | [] => .ok []

/-- What lies behind the exponent of a number, if it has one. -/
def exponentTail (cs : List Char) : Except LexCause (List Char) :=
  match cs with
  | c :: rest =>
    if c == 'e' || c == 'E' then
      match rest with
      | d :: more =>
        if d == '+' || d == '-' then
          if more.head?.any Char.isDigit then do endDecimal (← decimalTail more)
          else .error (.number "decimal")
        else if d.isDigit then do endDecimal (← decimalTail rest)
        else endNumber "decimal" cs
      | [] => endNumber "decimal" cs
    else endDecimal cs
  | [] => .ok []

/-- What lies behind the fraction and the exponent of a number, behind its point. -/
def fractionTail (cs : List Char) : Except LexCause (List Char) := do
  if cs.head?.any Char.isDigit then exponentTail (← decimalTail cs) else exponentTail cs

/-- What lies behind the whole part of a decimal number. -/
def wholeTail (cs : List Char) : Except LexCause (List Char) :=
  match cs with
  | '.' :: rest => fractionTail rest
  | cs => exponentTail cs

/-- Whether a fraction, an exponent or the mark of an imaginary number follows. -/
def goesOn (cs : List Char) : Bool :=
  cs.head?.any fun c => c == '.' || c == 'e' || c == 'E' || c == 'j' || c == 'J'

/-- What lies behind a number. -/
def numberTail (cs : List Char) : Except LexCause (List Char) :=
  match cs with
  | '0' :: c :: rest =>
    if c == 'x' || c == 'X' then
      radixNumber (fun d => d.isDigit || ('a' ≤ d.toLower && d.toLower ≤ 'f')) "hexadecimal" rest
    else if c == 'o' || c == 'O' then radixNumber (fun d => '0' ≤ d && d ≤ '7') "octal" rest
    else if c == 'b' || c == 'B' then radixNumber (fun d => d == '0' || d == '1') "binary" rest
    else do
      let rest ← zerosTail (c :: rest)
      if rest.head?.any Char.isDigit then
        let rest ← decimalTail rest
        if goesOn rest then wholeTail rest else .error .zeros
      else wholeTail rest
  | _ :: rest => do wholeTail (← decimalTail rest)
  | [] => .ok []

/-! ## Texts -/

/-- Finds the end of a text: as many quotes as it began with.  The answer is what was read, in
reverse, the rest, and its line; or the line where the text has to end. -/
def stringTail (mark : Char) (size found line : Nat) (read : List Char) :
    List Char → Except Nat (List Char × List Char × Nat)
  | [] => .error (line - 1)
  | '\\' :: c :: rest =>
    stringTail mark size 0 (if c == '\n' then line + 1 else line) (c :: '\\' :: read) rest
  | c :: rest =>
    if c == '\n' && size == 1 then .error line
    else if c == mark then
      if found + 1 == size then .ok (c :: read, rest, line)
      else stringTail mark size (found + 1) line (c :: read) rest
    else stringTail mark size 0 (if c == '\n' then line + 1 else line) (c :: read) rest

/-- Finds the end of a text behind its opening quote. -/
def stringEnd (mark : Char) (line : Nat) (read : List Char) (cs : List Char) :
    Except LexCause (List Char × List Char × Nat) :=
  match cs with
  | a :: b :: rest =>
    if a == mark && b == mark then
      (stringTail mark 3 0 line (b :: a :: read) rest).mapError (.unterminated true)
    else if a == mark then .ok (a :: read, b :: rest, line)
    else (stringTail mark 1 0 line read cs).mapError (.unterminated false)
  | cs => (stringTail mark 1 0 line read cs).mapError (.unterminated false)

/-- Whether letters may stand before a text, in this order. -/
def isStringStart (letters : List Char) : Bool :=
  ["", "b", "u", "r", "f", "br", "rb", "fr", "rf"].contains
    (String.ofList (letters.map Char.toLower))

/-! ## Marks -/

/-- The marks of more than one character, the longer ones first. -/
def longMarks : List String :=
  ["**=", "//=", "<<=", ">>=", "...", "!=", "%=", "&=", "**", "*=", "+=", "-=", "->", "//", "/=",
   ":=", "<<", "<=", "<>", "==", ">=", ">>", "@=", "^=", "|="]

/-- The bracket that a bracket closes. -/
def openingOf (c : Char) : Char :=
  if c == ')' then '(' else if c == ']' then '[' else '\x7b'

/-! ## The state of division -/

/-- How far the division into tokens has come. -/
structure Lexer where
  /-- The characters to come. -/
  rest : List Char
  /-- The line of the next character. -/
  line : Nat
  /-- Whether a line begins here. -/
  atStart : Bool
  /-- The columns at which blocks began, the innermost one first; tabs count in two ways. -/
  indents : List (Nat × Nat)
  /-- How many beginnings of blocks are due; ends of blocks if negative. -/
  pending : Int
  /-- The open brackets with their lines, the innermost one first. -/
  brackets : List (Char × Nat)

/-- Where a line begins. -/
structure LineStart where
  /-- The column, with tabs to multiples of eight. -/
  column : Nat
  /-- The column, with tabs as single blanks. -/
  plain : Nat
  /-- The column of the first backslash; 0 if there is none. -/
  joined : Nat
  /-- The characters to come. -/
  rest : List Char
  /-- The line. -/
  line : Nat

namespace Lexer

/-- How many blocks can be nested. -/
def maxBlocks : Nat := 100

/-- How many brackets can be nested. -/
def maxBrackets : Nat := 200

/-- The line to be named: at the end of the script the last one. -/
def here (s : Lexer) : Nat := if s.rest.isEmpty then s.line - 1 else s.line

/-- A fault at this place. -/
def fault {α : Type} (s : Lexer) (cause : LexCause) : Except LexFault α :=
  .error ⟨cause, s.here, s.brackets⟩

/-- A token at this place. -/
def token (s : Lexer) (label : Label) (text : String) (line : Nat) : Token :=
  ⟨label, text, line, s.brackets.length⟩

/-- The end of the script within a line: an open bracket, or nothing to go on with. -/
def endFault {α : Type} (s : Lexer) : Except LexFault α :=
  match s.brackets with
  | (c, line) :: _ => .error ⟨.unclosed c, line, s.brackets⟩
  | [] => s.fault .ended

/-- Measures the beginning of a line. -/
def lineStart (column plain joined line : Nat) : List Char → Except (LexCause × Nat) LineStart
  | ' ' :: rest => lineStart (column + 1) (plain + 1) joined line rest
  | '\t' :: rest => lineStart ((column / 8 + 1) * 8) (plain + 1) joined line rest
  | '\x0c' :: rest => lineStart 0 0 joined line rest
  | '\\' :: rest => match rest with
    | '\n' :: more =>
      if more.isEmpty then .error (.ended, line)
      else lineStart column plain (if joined == 0 then column else joined) (line + 1) more
    | _ => .error (.continuation, line)
  | cs => .ok ⟨column, plain, joined, cs, line⟩

/-- Leaves the blocks that a column is to the left of, and counts them. -/
def leaveBlocks (column : Nat) : List (Nat × Nat) → List (Nat × Nat) × Nat
  | [] => ([], 0)
  | i :: rest =>
    if column < i.1 then
      let (left, n) := leaveBlocks column rest
      (left, n + 1)
    else (i :: rest, 0)

/-- Compares the beginning of a line with the blocks around. -/
def indentTo (s : Lexer) (column plain : Nat) : Except LexFault Lexer :=
  let (col, alt) := s.indents.headD (0, 0)
  if column == col then
    if plain == alt then .ok s else s.fault .tabs
  else if col < column then
    if maxBlocks ≤ s.indents.length + 1 then s.fault .depth
    else if plain ≤ alt then s.fault .tabs
    else .ok { s with indents := (column, plain) :: s.indents, pending := s.pending + 1 }
  else
    let (indents, n) := leaveBlocks column s.indents
    let s := { s with indents := indents, pending := s.pending - n }
    let (col, alt) := indents.headD (0, 0)
    if column != col then s.fault .dedent
    else if plain != alt then s.fault .tabs
    else .ok s

/-- Reads a name, or a text with letters before it. -/
def word (s : Lexer) : Except LexFault (Token × Lexer) :=
  let letters := s.rest.takeWhile isWordChar
  let rest := s.rest.drop letters.length
  match rest with
  | mark :: more =>
    if (mark == '\x27' || mark == '\x22') && isStringStart letters then
      match stringEnd mark s.line (mark :: letters.reverse) more with
      | .error cause => s.fault cause
      | .ok (read, rest, line) =>
        .ok (s.token .string (String.ofList read.reverse) s.line, { s with rest := rest, line := line })
    else name letters rest
  | [] => name letters rest
where
  /-- Reads a name. -/
  name (letters rest : List Char) : Except LexFault (Token × Lexer) :=
    let text := String.ofList letters
    let bad : Option Char := match letters with
      | [] => none
      | c :: more => if !Text.isNameStart c then some c else more.find? fun d => !Text.isNameRest d
    match bad with
    | some c => s.fault (if Text.isPrintable c then .character c else .unprintable c)
    | none => .ok (s.token (wordLabel text) text s.line, { s with rest := rest })

/-- Reads a text without letters before it. -/
def text (s : Lexer) (mark : Char) (cs : List Char) : Except LexFault (Token × Lexer) :=
  match stringEnd mark s.line [mark] cs with
  | .error cause => s.fault cause
  | .ok (read, rest, line) =>
    .ok (s.token .string (String.ofList read.reverse) s.line, { s with rest := rest, line := line })

/-- Reads a number. -/
def number (s : Lexer) (tail : Except LexCause (List Char)) : Except LexFault (Token × Lexer) :=
  match tail with
  | .error cause => s.fault cause
  | .ok rest =>
    let text := String.ofList (s.rest.take (s.rest.length - rest.length))
    .ok (s.token .number text s.line, { s with rest := rest })

/-- Reads a bracket that opens. -/
def opened (s : Lexer) (c : Char) (rest : List Char) : Except LexFault (Token × Lexer) :=
  if maxBrackets ≤ s.brackets.length then s.fault .nesting
  else
    let s := { s with rest := rest, brackets := (c, s.line) :: s.brackets }
    .ok (s.token (.mark c.toString) c.toString s.line, s)

/-- Reads a bracket that closes. -/
def closed (s : Lexer) (c : Char) (rest : List Char) : Except LexFault (Token × Lexer) :=
  match s.brackets with
  | [] => s.fault (.unmatched c)
  | (opening, line) :: outer =>
    if opening == openingOf c then
      let s := { s with rest := rest, brackets := outer }
      .ok (s.token (.mark c.toString) c.toString s.line, s)
    else
      let s := { s with brackets := outer }
      s.fault (.mismatched c opening (if line == s.line then none else some line))

/-- Reads a mark. -/
def mark (s : Lexer) (c : Char) (rest : List Char) : Except LexFault (Token × Lexer) :=
  match longMarks.find? fun m => Text.startsWith m.toList s.rest with
  | some m => .ok (s.token (.mark m) m s.line, { s with rest := s.rest.drop m.length })
  | none =>
    if c == '(' || c == '[' || c == '\x7b' then s.opened c rest
    else if c == ')' || c == ']' || c == '\x7d' then s.closed c rest
    else if !Text.isPrintable c then s.fault (.unprintable c)
    else .ok (s.token (.mark c.toString) c.toString s.line, { s with rest := rest })

/-- Reads a token that begins with a character other than blanks and line ends. -/
def visible (s : Lexer) (c : Char) (rest : List Char) : Except LexFault (Token × Lexer) :=
  if beginsWord c then s.word
  else if c.isDigit then s.number (numberTail s.rest)
  else if c == '.' && rest.head?.any Char.isDigit then s.number (fractionTail rest)
  else if c == '\x27' || c == '\x22' then s.text c rest
  else s.mark c rest

/-- Skips blanks and a comment. -/
def skipGaps (s : Lexer) : Lexer :=
  let cs := s.rest.dropWhile isGap
  { s with rest := if cs.head? == some '#' then cs.dropWhile (· != '\n') else cs }

/-- Deals with the beginning of a line; a line without tokens is passed over. -/
def beginLine (s : Lexer) : Except LexFault Lexer :=
  match lineStart 0 0 0 s.line s.rest with
  | .error (cause, line) => match cause with
    | .ended => endFault { s with rest := [], line := line + 1 }
    | cause => .error ⟨cause, line, s.brackets⟩
  | .ok start =>
    let s := { s with rest := start.rest, line := start.line, atStart := false }
    if start.rest.head? == some '#' || start.rest.head? == some '\n' then
      .ok { s with
        rest := (start.rest.dropWhile (· != '\n')).drop 1
        line := start.line + 1
        atStart := true }
    else if s.brackets.isEmpty then
      if start.joined == 0 then s.indentTo start.column start.plain
      else s.indentTo start.joined start.joined
    else .ok s

/-- The next token; `fuel` bounds the number of lines that are passed over. -/
def next : Nat → Lexer → Except LexFault (Token × Lexer)
  | 0, s => s.fault .ended
  | fuel + 1, s =>
    if s.atStart then
      match s.beginLine with
      | .error f => .error f
      | .ok s => next fuel s
    else if s.pending < 0 then
      .ok (s.token .dedent "" s.here, { s with pending := s.pending + 1 })
    else if 0 < s.pending then
      .ok (s.token .indent "" s.here, { s with pending := s.pending - 1 })
    else
      let s := s.skipGaps
      match s.rest with
      | [] => if s.brackets.isEmpty then .ok (s.token .finish "" s.here, s) else s.endFault
      | '\n' :: rest =>
        let after := { s with rest := rest, line := s.line + 1, atStart := true }
        if s.brackets.isEmpty then .ok (s.token .newline "\n" s.line, after) else next fuel after
      | '\\' :: rest => match rest with
        | '\n' :: more =>
          let after := { s with rest := more, line := s.line + 1 }
          if more.isEmpty then after.endFault else next fuel after
        | _ => s.fault .continuation
      | c :: rest => s.visible c rest

/-- Where the division of a script begins. -/
def ofChars (cs : List Char) (line : Nat) : Lexer := ⟨cs, line, true, [], 0, []⟩

/-- Reads tokens up to the end or a fault; `fuel` bounds their number. -/
def all : Nat → Lexer → Array Token → Array Token × Option LexFault
  | 0, s, read => (read, some ⟨.ended, s.here, s.brackets⟩)
  | fuel + 1, s, read =>
    match s.next (s.rest.length + 8) with
    | .error f => (read, some f)
    | .ok (t, s) => if t.label = .finish then (read.push t, none) else all fuel s (read.push t)

end Lexer

/-- A script with line feeds at the ends of its lines, also of the last one. -/
def sourceLines : List Char → List Char
  | [] => []
  | '\r' :: '\n' :: rest => '\n' :: sourceLines rest
  | c :: rest =>
    let d := if c == '\r' then '\n' else c
    if rest.isEmpty && d != '\n' then [d, '\n'] else d :: sourceLines rest

/-- All tokens of a script whose first line has the given number, and the fault that ends them if
there is one. -/
def tokensOf (cs : List Char) (line : Nat) : Array Token × Option LexFault :=
  Lexer.all (2 * cs.length + 300) (.ofChars (sourceLines cs) line) #[]

end ConfigAudit.Python
