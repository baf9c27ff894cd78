/-
# Texts in Python scripts

A text is written between quotes, perhaps with letters before them: `b` makes it a text of bytes,
`r` takes escapes away, and `f` lets it hold expressions in braces, each with an optional
conversion and format, where the format may hold expressions in turn.

* `Literal.escapeFault?`, `Literal.byteFault?` : what is wrong with the escapes of a text;
* `Literal.formatted` : accepts a text with expressions;
* `Literal.kindOf` : accepts texts that stand one after the other.
-/
import ConfigAudit.Script.Python.Tree

namespace ConfigAudit.Python

/-- What is said about a script, and on what line; without a line, the last token counts that was
looked at. -/
structure Complaint where
  /-- The line. -/
  line : Option Nat
  /-- The wording. -/
  message : String
  /-- Whether the wording tells already where the fault is. -/
  isSettled : Bool

/-- A complaint about a line. -/
def Complaint.on (line : Nat) (message : String) : Complaint := ⟨some line, message, false⟩

/-- A complaint about the last token that was looked at. -/
def Complaint.here (message : String) : Complaint := ⟨none, message, false⟩

namespace Literal

/-! ## Escapes -/

/-- Whether a character is a digit to the base sixteen. -/
def isHex (c : Char) : Bool := c.isDigit || ('a' ≤ c && c ≤ 'f') || ('A' ≤ c && c ≤ 'F')

/-- The value of a digit to the base sixteen. -/
def hexValue (c : Char) : Nat :=
  if c.isDigit then c.toNat - '0'.toNat else c.toLower.toNat - 'a'.toNat + 10

/-- A text with escapes in place of all other than basic characters; a backslash before one of
them, or at the end, stands for itself. -/
def basicOnly : List Char → List Char
  | [] => []
  | '\\' :: [] => "\\u005c".toList
  | '\\' :: c :: rest =>
    if c.toNat < 128 then '\\' :: c :: basicOnly rest
    else "\\u005c".toList ++ escaped c ++ basicOnly rest
  | c :: rest => if c.toNat < 128 then c :: basicOnly rest else escaped c ++ basicOnly rest
where
  /-- The escape for a character. -/
  escaped (c : Char) : List Char := '\\' :: 'U' :: Text.hexPadded 8 c.toNat

/-- The wording of a fault in the places from `first` up to `last`. -/
def decodingFault (first last : Nat) (cause : String) : String :=
  "(unicode error) 'unicodeescape' codec can't decode bytes in position " ++ toString first ++
    "-" ++ toString last ++ ": " ++ cause

/-- What is wrong with an escape of a number of digits behind its letter. -/
def hexFault? (place digits : Nat) (cause : String) (cs : List Char) : Option String :=
  let found := (cs.take digits).takeWhile isHex
  if found.length < digits then some (decodingFault place (place + 1 + found.length) cause)
  else if 0x10FFFF < found.foldl (fun n c => 16 * n + hexValue c) 0 then
    some (decodingFault place (place + 1 + digits) "illegal Unicode character")
  else none

/-- What is wrong with an escape by the name of a character, behind its letter. -/
def nameFault? (place : Nat) (cs : List Char) : Option String :=
  let cause := "malformed \\N character escape"
  match cs with
  | '\x7b' :: rest =>
    let name := rest.takeWhile (· != '\x7d')
    if name.length = rest.length || name.isEmpty then
      some (decodingFault place (place + 2 + name.length) cause)
    else none
  | _ => some (decodingFault place (place + 1) cause)

/-- What is wrong with the escapes of basic characters, from a place on. -/
def basicFault? (place : Nat) : List Char → Option String
  | '\\' :: c :: rest =>
    let found := match c with
      | 'x' => hexFault? place 2 "truncated \\xXX escape" rest
      | 'u' => hexFault? place 4 "truncated \\uXXXX escape" rest
      | 'U' => hexFault? place 8 "truncated \\UXXXXXXXX escape" rest
      | 'N' => nameFault? place rest
      | _ => none
    found.or (basicFault? (place + 2) rest)
  | _ :: rest => basicFault? (place + 1) rest
  | [] => none

/-- What is wrong with the escapes of a text. -/
def escapeFault? (cs : List Char) : Option String :=
  if cs.contains '\\' then basicFault? 0 (basicOnly cs) else none

/-- What is wrong with the escapes of a text of bytes, from a place on. -/
def byteFault? (place : Nat) : List Char → Option String
  | '\\' :: c :: rest =>
    if c == 'x' && ((rest.take 2).takeWhile isHex).length < 2 then
      some ("(value error) invalid \\x escape at position " ++ toString place)
    else byteFault? (place + 2) rest
  | _ :: rest => byteFault? (place + 1) rest
  | [] => none

/-! ## Texts with expressions -/

/-- A complaint about the last token that was looked at. -/
def here {α : Type} (message : String) : Except Complaint α := .error (.here message)

/-- A complaint about a text with expressions. -/
def formattedFault {α : Type} (message : String) : Except Complaint α :=
  here ("f-string: " ++ message)

/-- A text with expressions ends before a brace closes. -/
def unclosedBrace {α : Type} : Except Complaint α := formattedFault "expecting '\x7d'"

/-- What stands before the next expression, the rest, and whether it ends with a doubled brace;
`read` holds what was read, in reverse. -/
def plainPart (isRaw isOuter : Bool) (read : List Char) :
    List Char → Except Complaint (List Char × List Char × Bool)
  | [] => .ok (read.reverse, [], false)
  | '\\' :: 'N' :: d :: rest =>
    if isRaw then
      -- the backslash is a character like any other
      plainPart isRaw isOuter ('N' :: '\\' :: read) (d :: rest)
    else if d == '\x7b' then inName isRaw isOuter (d :: 'N' :: '\\' :: read) rest
    else plainPart isRaw isOuter (d :: 'N' :: '\\' :: read) rest
  | '\\' :: c :: rest =>
    if c == '\x7b' || c == '\x7d' then brace isOuter ('\\' :: read) c rest
    else if isRaw && c == '\\' then plainPart isRaw isOuter ('\\' :: read) (c :: rest)
    else plainPart isRaw isOuter (c :: '\\' :: read) rest
  | c :: rest =>
    if c == '\x7b' || c == '\x7d' then brace isOuter read c rest
    else plainPart isRaw isOuter (c :: read) rest
where
  /-- A brace: doubled, or the begin or end of an expression. -/
  brace (isOuter : Bool) (read : List Char) (c : Char) (rest : List Char) :
      Except Complaint (List Char × List Char × Bool) :=
    if isOuter && rest.head? == some c then .ok ((c :: read).reverse, rest.drop 1, true)
    else if isOuter && c == '\x7d' then formattedFault "single '\x7d' is not allowed"
    else .ok (read.reverse, c :: rest, false)
  /-- Goes on up to the end of the name of a character. -/
  inName (isRaw isOuter : Bool) (read : List Char) :
      List Char → Except Complaint (List Char × List Char × Bool)
    | [] => .ok (read.reverse, [], false)
    | c :: rest =>
      if c == '\x7d' then plainPart isRaw isOuter (c :: read) rest
      else inName isRaw isOuter (c :: read) rest

/-- How many brackets can be nested in an expression. -/
def maxNesting : Nat := 200

/-- Whether a character begins an operator that has an equals sign behind it. -/
def beginsComparison (c : Char) : Bool := c == '!' || c == '=' || c == '<' || c == '>'

/-- Whether a character ends an expression where no bracket is open. -/
def endsExpression (c : Char) : Bool := c == '!' || c == ':' || c == '\x7d' || c == '='

/-- An expression, in reverse behind `read`, and the rest that begins with what ends it.  `quote`
is the quote that is open, with whether it is a threefold one, and `brackets` those that are. -/
def expressionPart (quote : Option (Char × Bool)) (brackets read : List Char) :
    List Char → Except Complaint (List Char × List Char)
  | [] => match quote, brackets with
    | some _, _ => formattedFault "unterminated string"
    | none, b :: _ => formattedFault ("unmatched '" ++ b.toString ++ "'")
    | none, [] => unclosedBrace
  | c :: rest =>
    if c == '\\' then here "f-string expression part cannot include a backslash"
    else match quote with
    | some (mark, isThreefold) =>
      if c != mark then expressionPart quote brackets (c :: read) rest
      else if isThreefold then
        match rest with
        | a :: b :: more =>
          if a == mark && b == mark then expressionPart none brackets (b :: a :: c :: read) more
          else expressionPart quote brackets (c :: read) (a :: b :: more)
        | [a] => expressionPart quote brackets (c :: read) [a]
        | [] => expressionPart quote brackets (c :: read) []
      else expressionPart none brackets (c :: read) rest
    | none =>
      if c == '\x27' || c == '\x22' then
        match rest with
        | a :: b :: more =>
          if a == c && b == c then expressionPart (some (c, true)) brackets (b :: a :: c :: read) more
          else expressionPart (some (c, false)) brackets (c :: read) (a :: b :: more)
        | [a] => expressionPart (some (c, false)) brackets (c :: read) [a]
        | [] => expressionPart (some (c, false)) brackets (c :: read) []
      else if c == '(' || c == '[' || c == '\x7b' then
        if maxNesting ≤ brackets.length then formattedFault "too many nested parenthesis"
        else expressionPart none (c :: brackets) (c :: read) rest
      else if c == '#' then here "f-string expression part cannot include '#'"
      else if brackets.isEmpty && (endsExpression c || beginsComparison c) then
        match rest with
        | d :: more =>
          if d == '=' && beginsComparison c then
            expressionPart none brackets (d :: c :: read) more
          else if endsExpression c then .ok (read.reverse, c :: rest)
          else expressionPart none brackets (c :: read) (d :: more)
        | [] =>
          if endsExpression c then .ok (read.reverse, c :: rest)
          else expressionPart none brackets (c :: read) []
      else if c == ')' || c == ']' || c == '\x7d' then
        match brackets with
        | [] => formattedFault ("unmatched '" ++ c.toString ++ "'")
        | opening :: outer =>
          let fits := match c with
            | ')' => opening == '('
            | ']' => opening == '['
            | _ => opening == '\x7b'
          if fits then expressionPart none outer (c :: read) rest
          else formattedFault ("closing parenthesis '" ++ c.toString ++
            "' does not match opening parenthesis '" ++ opening.toString ++ "'")
      else expressionPart none brackets (c :: read) rest

/-- What reads the expressions in texts; it is given the line that an expression begins on. -/
abbrev ExpressionReader := List Char → Nat → Except Complaint Unit

/-- Accepts an expression that is followed by `next`. -/
def checkExpression (read : ExpressionReader) (line : Nat) (cs : List Char) (next : Char) :
    Except Complaint Unit :=
  if cs.all fun c => c == ' ' || c == '\t' || c == '\n' || c == '\x0c' then
    if next == '!' || next == ':' || next == '=' then
      formattedFault ("expression required before '" ++ next.toString ++ "'")
    else formattedFault "empty expression not allowed"
  else read (['('] ++ cs ++ [')']) line

/-- What follows an equals sign that has an expression shown. -/
def afterEquals (cs : List Char) : Except Complaint (List Char) :=
  match cs with
  | '=' :: rest =>
    let rest := rest.dropWhile fun c => c == ' ' || ('\t' ≤ c && c ≤ '\r')
    if rest.isEmpty then unclosedBrace else .ok rest
  | cs => .ok cs

/-- What follows a conversion. -/
def afterConversion (cs : List Char) : Except Complaint (List Char) :=
  match cs with
  | '!' :: rest =>
    let letters := rest.takeWhile fun c => c != '\x7d' && c != ':'
    let wanted := ": expected 's', 'r', or 'a'"
    if letters.length = rest.length then unclosedBrace
    else if letters.isEmpty then formattedFault ("invalid conversion character" ++ wanted)
    else if letters == ['s'] || letters == ['r'] || letters == ['a'] then
      .ok (rest.drop letters.length)
    else formattedFault
      ("invalid conversion character " ++ Text.quote (String.ofList letters) ++ wanted)
  | cs => .ok cs

/-- How a text with expressions is written: whether backslashes are characters like any other, and
on which line each of its places is, by how many line ends follow. -/
structure Layout where
  /-- Whether there are no escapes. -/
  isRaw : Bool
  /-- The line of the end of the text. -/
  lastLine : Nat

/-- The line of a place, by what follows. -/
def Layout.lineOf (l : Layout) (rest : List Char) : Nat := l.lastLine - rest.count '\n'

mutual

/-- Accepts a text with expressions, and gives what follows; `level` counts the formats around.
`fuel` bounds the number of expressions. -/
def formatted (read : ExpressionReader) (l : Layout) (level : Nat) :
    Nat → List Char → Except Complaint (List Char)
  | 0, cs => .ok cs
  | fuel + 1, cs => do
    let (text, rest, isDoubled) ← plainPart l.isRaw (level == 0) [] cs
    if !l.isRaw then
      if let some message := basicFault? 0 (basicOnly text) then throw (.here message)
    if isDoubled then formatted read l level fuel rest
    else match rest with
    | '\x7b' :: more => do
      let rest ← placeholder read l level fuel more
      formatted read l level fuel rest
    | rest => if level == 0 || rest.head? == some '\x7d' then .ok rest else unclosedBrace

/-- Accepts an expression in braces behind its opening brace, and gives what follows. -/
def placeholder (read : ExpressionReader) (l : Layout) (level : Nat) :
    Nat → List Char → Except Complaint (List Char)
  | 0, cs => .ok cs
  | fuel + 1, cs => do
    if 2 ≤ level then formattedFault "expressions nested too deeply"
    let (text, rest) ← expressionPart none [] [] cs
    checkExpression read (l.lineOf cs) text (rest.headD '\x7d')
    let rest ← afterConversion (← afterEquals rest)
    let rest ← match rest with
      | ':' :: more => if more.isEmpty then unclosedBrace else formatted read l (level + 1) fuel more
      | rest => pure rest
    match rest with
    | '\x7d' :: more => .ok more
    | _ => unclosedBrace

end

/-! ## Texts one after the other -/

/-- A text without its quotes, and the letters before it. -/
def parts (text : String) : List Char × List Char :=
  let cs := text.toList
  let letters := cs.takeWhile fun c => c != '\x27' && c != '\x22'
  let body := cs.drop letters.length
  let mark := body.headD '\x27'
  let size := if 6 ≤ body.length && (body.take 3).all (· == mark) then 3 else 1
  (letters.map Char.toLower, (body.drop size).take (body.length - 2 * size))

/-- Accepts texts that stand one after the other; `isBytes` is what the ones before are, and
`isFormatted` says whether one of them has expressions. -/
def checkAll (read : ExpressionReader) ( isBytes : Option Bool) ( isFormatted : Bool) :
    List Token → Except Complaint Kind
  | [] => .ok (if isFormatted then .formatted else .literal)
  | t :: ts => do
    let (letters, body) := parts t.text
    let isRaw := letters.contains 'r'
    let areBytes := letters.contains 'b'
    let hasExpressions := letters.contains 'f'
    if areBytes && body.any fun c => 128 ≤ c.toNat then
      throw (.on t.line "bytes can only contain ASCII literal characters")
    if !isRaw && !hasExpressions then
      if let some message := if areBytes then byteFault? 0 body else escapeFault? body then
        throw (.here message)
    if isBytes.any (· != areBytes) then throw (.here "cannot mix bytes and nonbytes literals")
    if hasExpressions then
      let _ ← formatted read ⟨isRaw, t.line + t.text.toList.count '\n'⟩ 0 (2 * body.length + 2) body
    checkAll read (some areBytes) ( isFormatted || hasExpressions) ts

/-- Accepts texts that stand one after the other, and gives the kind of expression they are. -/
def kindOf (read : ExpressionReader) (ts : List Token) : Except Complaint Kind :=
  checkAll read none false ts

end Literal

end ConfigAudit.Python
