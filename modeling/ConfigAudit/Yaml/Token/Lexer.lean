/-
# From characters to tokens

The indentation of lines opens and closes collections, and a colon turns what stands before it
into a key.  So a word that could become a key is held back, with all that follows it, until it is
clear whether it is one.

* `Lexer` : the state between two tokens;
* `Lexer.step` : reads one token;
* `tokens` : the tokens of a document, up to the first fault.
-/
import ConfigAudit.Yaml.Token.Name

namespace ConfigAudit.Yaml

/-- A token that could become a key. -/
structure Candidate where
  /-- The number of brackets that are open around it. -/
  level : Nat
  /-- The number of its token. -/
  number : Nat
  /-- Whether nothing but a key can stand there. -/
  required : Bool
  /-- Where it begins. -/
  mark : Mark

/-- The state between two tokens. -/
structure Lexer where
  /-- The place. -/
  cursor : Cursor
  /-- The number of brackets that are open. -/
  level : Nat
  /-- Whether a key may begin here. -/
  keyAllowed : Bool
  /-- The indentation of the innermost collection; -1 outside of all. -/
  indent : Int
  /-- The indentations of the collections around it. -/
  outer : List Int
  /-- The tokens that could become keys, at most one for each level. -/
  candidates : List Candidate
  /-- The number of tokens that are settled. -/
  settled : Nat
  /-- The settled tokens, in reverse. -/
  done : List Token
  /-- The tokens that are held back. -/
  held : List Token

namespace Lexer

/-- The state before the first token. -/
def start (cs : List Char) : Lexer := ⟨.start cs, 0, true, -1, [], [], 0, [], []⟩

/-- Whether brackets are open. -/
def inFlow (x : Lexer) : Bool := x.level != 0

/-- Adds a token. -/
def push (x : Lexer) (kind : TokenKind) (start stop : Mark) : Lexer :=
  { x with held := x.held ++ [⟨kind, start, stop⟩] }

/-- Adds a token without extent. -/
def pushAt (x : Lexer) (kind : TokenKind) (m : Mark) : Lexer := x.push kind m m

/-- Inserts a token before one that is held back. -/
def insertAt (x : Lexer) (number : Nat) (kind : TokenKind) (m : Mark) : Lexer :=
  { x with held := x.held.insertIdx (number - x.settled) ⟨kind, m, m⟩ }

/-- Settles the tokens that are no candidates. -/
def settle (x : Lexer) : Lexer :=
  let open_ := x.held.zipIdx.takeWhile fun e =>
    !x.candidates.any (·.number == x.settled + e.2)
  { x with settled := x.settled + open_.length,
           done := (open_.map Prod.fst).reverse ++ x.done,
           held := x.held.drop open_.length }

/-! ## Candidates -/

/-- Refuses a candidate that had to be a key. -/
def refuse {α : Type} (x : Lexer) (k : Candidate) : Except Fault α :=
  within (.scanning "a simple key") k.mark .missingColon x.cursor

/-- Whether a candidate can no longer become a key: keys are short and end in their line. -/
def isStale (x : Lexer) (k : Candidate) : Bool :=
  k.mark.line != x.cursor.mark.line || x.cursor.mark.index - k.mark.index > 1024

/-- Drops the candidates that can no longer become keys. -/
def dropStale (x : Lexer) : Except Fault Lexer :=
  match x.candidates.find? fun k => x.isStale k && k.required with
  | some k => x.refuse k
  | none => .ok { x with candidates := x.candidates.filter fun k => !x.isStale k }

/-- Drops the candidate of the current level. -/
def dropCandidate (x : Lexer) : Except Fault Lexer :=
  match x.candidates.find? (·.level == x.level) with
  | none => .ok x
  | some k =>
    if k.required then x.refuse k
    else .ok { x with candidates := x.candidates.filter (·.level != x.level) }

/-- Notes that the next token could become a key. -/
def addCandidate (x : Lexer) : Except Fault Lexer :=
  if x.keyAllowed then do
    let required := !x.inFlow && x.indent == x.cursor.column
    let number := x.settled + x.held.length
    let mark := x.cursor.mark
    let x ← x.dropCandidate
    return { x with candidates := x.candidates ++ [⟨x.level, number, required, mark⟩] }
  else .ok x

/-! ## Indentation -/

/-- Closes collections that are indented deeper than a column. -/
def closeTo (column : Int) : List Int → Lexer → Lexer
  | [], x => x
  | outer :: rest, x =>
    if x.indent > column then
      closeTo column rest { x.pushAt .blockEnd x.cursor.mark with indent := outer, outer := rest }
    else x

/-- Closes collections that are indented deeper than a column, unless brackets are open. -/
def unwind (x : Lexer) (column : Int) : Lexer :=
  if x.inFlow then x else closeTo column x.outer x

/-- Opens a collection at a column, if it is indented deeper; says whether it is. -/
def indentTo (x : Lexer) (column : Nat) : Lexer × Bool :=
  if x.indent < column then ({ x with indent := column, outer := x.indent :: x.outer }, true)
  else (x, false)

/-! ## Kinds of tokens -/

/-- Reads a mark of `n` characters. -/
def sign (x : Lexer) (kind : TokenKind) (n : Nat) : Lexer :=
  let c := x.cursor.skip n
  { x.push kind x.cursor.mark c.mark with cursor := c }

/-- Takes what a reader of tokens answers. -/
def take (x : Lexer) (r : Except Fault (Token × Cursor)) : Except Fault Lexer := do
  let (token, c) ← r
  return { x with held := x.held ++ [token], cursor := c }

/-- Ends the document. -/
def finish (x : Lexer) : Except Fault Lexer := do
  let x ← (x.unwind (-1)).dropCandidate
  return { x.pushAt .streamEnd x.cursor.mark with keyAllowed := false, candidates := [] }

/-- Leaves all collections, before a mark between documents. -/
def leaveAll (x : Lexer) : Except Fault Lexer := do
  return { ← (x.unwind (-1)).dropCandidate with keyAllowed := false }

/-- Reads an opening bracket. -/
def opening (x : Lexer) (kind : TokenKind) : Except Fault Lexer := do
  let x ← x.addCandidate
  return { x with level := x.level + 1, keyAllowed := true }.sign kind 1

/-- Reads a closing bracket. -/
def closing (x : Lexer) (kind : TokenKind) : Except Fault Lexer := do
  let x ← x.dropCandidate
  return { x with level := x.level - 1, keyAllowed := false }.sign kind 1

/-- Reads a comma. -/
def comma (x : Lexer) : Except Fault Lexer := do
  return { ← x.dropCandidate with keyAllowed := true }.sign .comma 1

/-- Opens an indented collection here, where `what` may stand. -/
def openBlock (x : Lexer) (what : String) (kind : TokenKind) : Except Fault Lexer :=
  if x.inFlow then .ok x
  else if !x.keyAllowed then unplaced (.notAllowed what) x.cursor
  else
    let (x, isNew) := x.indentTo x.cursor.column
    .ok (if isNew then x.pushAt kind x.cursor.mark else x)

/-- Reads the mark of a member. -/
def member (x : Lexer) : Except Fault Lexer := do
  let x ← x.openBlock "sequence entries" .blockSequence
  return { ← x.dropCandidate with keyAllowed := true }.sign .entry 1

/-- Reads the mark of a key. -/
def explicitKey (x : Lexer) : Except Fault Lexer := do
  let x ← x.openBlock "mapping keys" .blockMapping
  return { ← x.dropCandidate with keyAllowed := !x.inFlow }.sign .key 1

/-- Turns a candidate into a key. -/
def promote (x : Lexer) (k : Candidate) : Lexer :=
  let x := { x with candidates := x.candidates.filter (·.level != x.level), keyAllowed := false }
  let x := x.insertAt k.number .key k.mark
  if x.inFlow then x
  else
    let (x, isNew) := x.indentTo k.mark.column
    if isNew then x.insertAt k.number .blockMapping k.mark else x

/-- Reads the mark of a value. -/
def valueSign (x : Lexer) : Except Fault Lexer := do
  let x ← match x.candidates.find? (·.level == x.level) with
    | some k => pure (x.promote k)
    | none => do
      let x ← x.openBlock "mapping values" .blockMapping
      pure { ← x.dropCandidate with keyAllowed := !x.inFlow }
  return x.sign .value 1

/-- Reads a token that could become a key. -/
def keyable (x : Lexer) (r : Except Fault (Token × Cursor)) : Except Fault Lexer := do
  let x ← x.addCandidate
  { x with keyAllowed := false }.take r

/-- Reads a scalar in a block. -/
def block (x : Lexer) (folded : Bool) : Except Fault Lexer := do
  let x ← { x with keyAllowed := true }.dropCandidate
  x.take (blockScalar folded x.indent x.cursor)

/-- Reads a plain scalar. -/
def plain (x : Lexer) : Except Fault Lexer := do
  let x ← x.addCandidate
  let (token, c, newLine) := plainScalar x.inFlow x.indent x.cursor
  return { x with held := x.held ++ [token], cursor := c, keyAllowed := newLine }

/-! ## Steps -/

/-- Passes blanks, comments and line ends; says whether a line ended. -/
def skipBlanks (inComment ended : Bool) (m : Mark) : List Char → Cursor × Bool
  | [] => (⟨[], m⟩, ended)
  | c :: rest =>
    if isBreak c then skipBlanks false true (after m c) rest
    else if inComment then skipBlanks true ended (after m c) rest
    else if c == ' ' then skipBlanks false ended (after m c) rest
    else if c == '#' then skipBlanks true ended (after m c) rest
    else (⟨c :: rest, m⟩, ended)

/-- Passes what stands before the next token. -/
def toNext (x : Lexer) : Lexer :=
  let c := x.cursor
  let c := if c.mark.index == 0 && c.peek == '\ufeff' then c.next else c
  let (c, ended) := skipBlanks false false c.mark c.rest
  { x with cursor := c, keyAllowed := x.keyAllowed || (ended && !x.inFlow) }

/-- The characters that begin no plain scalar. -/
def isIndicator (c : Char) : Bool :=
  endsToken c || "-?:,[]\x7b\x7d#&*!|>\x27\x22%@\x60".toList.contains c

/-- Whether a plain scalar begins here. -/
def atPlain (x : Lexer) : Bool :=
  let c := x.cursor.peek
  !isIndicator c || (!endsToken (x.cursor.peekAt 1) &&
    (c == '-' || (!x.inFlow && (c == '?' || c == ':'))))

/-- Whether a mark that needs a blank behind it stands here; within brackets it needs none. -/
def atSign (x : Lexer) (c : Char) : Bool :=
  x.cursor.peek == c && (x.inFlow || endsToken (x.cursor.peekAt 1))

/-- Reads the token that begins here. -/
def token (x : Lexer) : Except Fault Lexer :=
  let c := x.cursor
  let first := c.column == 0
  if first && c.peek == '%' then do
    let x ← x.leaveAll
    x.take (instructionToken x.cursor)
  else if first && c.looksAt "---" && c.atSeparator then do
    return (← x.leaveAll).sign .documentStart 3
  else if first && c.looksAt "..." && c.atSeparator then do
    return (← x.leaveAll).sign .documentEnd 3
  else match c.peek with
    | '[' => x.opening .flowSequence
    | '\x7b' => x.opening .flowMapping
    | ']' => x.closing .flowSequenceEnd
    | '\x7d' => x.closing .flowMappingEnd
    | ',' => x.comma
    | '*' => x.keyable (nameToken true c)
    | '&' => x.keyable (nameToken false c)
    | '!' => x.keyable (tagToken c)
    | '\x27' => x.keyable (quotedScalar false c)
    | '\x22' => x.keyable (quotedScalar true c)
    | p =>
      if p == '-' && endsToken (c.peekAt 1) then x.member
      else if x.atSign '?' then x.explicitKey
      else if x.atSign ':' then x.valueSign
      else if p == '|' && !x.inFlow then x.block false
      else if p == '>' && !x.inFlow then x.block true
      else if x.atPlain then x.plain
      else within (.scanning "for the next token") c.mark (.cannotStart p) c

/-- Reads one token; says whether it was the last. -/
def step (x : Lexer) : Except Fault (Lexer × Bool) := do
  let x ← x.toNext.dropStale
  let x := x.unwind x.cursor.column
  if x.cursor.peek == ending then return (← x.finish, true)
  -- what follows decides whether a candidate is still one
  return (← (← x.token).dropStale, false)

end Lexer

/-- Reads tokens; `fuel` bounds their number.  A fault leaves the tokens that were settled
before it. -/
def tokensFrom : Nat → Lexer → List Token × Option Fault
  | 0, x => (x.done.reverse, none)
  | fuel + 1, x =>
    match x.step with
    | .error f => (x.done.reverse, some f)
    | .ok (x, true) => (x.settle.done.reverse, none)
    | .ok (x, false) => tokensFrom fuel x.settle

/-- The tokens of a document, up to the first fault. -/
def tokens (cs : List Char) : List Token × Option Fault :=
  tokensFrom (cs.length + 2) (.start cs)

end ConfigAudit.Yaml
