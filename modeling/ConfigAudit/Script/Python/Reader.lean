/-
# Reading by a grammar

Alternatives are tried in their order, and what a rule yields at a place is kept for the next time
that it is tried there.  A script is read a second time, with the rules for mistakes, when it does
not fit.

* `Source.readPhrase` : what a rule yields at a place;
* `Source.read` : what a whole source yields, or its defect;
* `readWithin` : a source in whose texts expressions may be nested.
-/
import Std.Data.TreeMap
import ConfigAudit.Script.Python.Lexer
import ConfigAudit.Script.Python.Grammar.Expressions
import ConfigAudit.Script.Python.Grammar.Mistakes
import ConfigAudit.Script.Python.Grammar.Parameters
import ConfigAudit.Script.Python.Grammar.Patterns
import ConfigAudit.Script.Python.Grammar.Statements

namespace ConfigAudit.Python

/-- The alternatives of a rule. -/
def Phrase.choices (r : Phrase) : List Choice :=
  r.inStatements ++ r.inParameters ++ r.inTargets ++ r.inPatterns ++ r.inExpressions ++ r.inMistakes

/-! ## Sources -/

/-- What is read. -/
structure Source where
  /-- The tokens. -/
  tokens : Array Token
  /-- The fault behind the tokens. -/
  fault : Option LexFault
  /-- Accepts texts that stand one after the other. -/
  texts : List Token → Except Complaint Kind

/-- What ends the reading of a source. -/
inductive Stop where
  /-- The fault behind the tokens has been reached. -/
  | fault (f : LexFault)
  /-- Something is wrong with the tokens. -/
  | complaint (c : Complaint)

/-- What rules have yielded, under the number of the rule and the place. -/
abbrev Memory :=
  Std.TreeMap (Nat × Nat) (Option (Tree × Nat)) (compareLex (compareOn Prod.fst) (compareOn Prod.snd))

/-- How far the reading of a source has come. -/
structure Progress where
  /-- How many tokens have been looked at. -/
  seen : Nat
  /-- What rules have yielded. -/
  kept : Memory

/-- Reading that may stop. -/
abbrev Reading := EStateM Stop Progress

namespace Source

/-- The token at a place. -/
def token (src : Source) (place : Nat) : Reading Token := do
  match src.tokens[place]? with
  | some t =>
    modify fun p => { p with seen := max p.seen (place + 1) }
    return t
  | none => match src.fault with
    | some f => throw (.fault f)
    | none => return ⟨.finish, "", 0, 0⟩

/-- The texts at a place, and the place behind them. -/
def textsAt (src : Source) : Nat → Nat → Reading (List Token × Nat)
  | 0, place => return ([], place)
  | fuel + 1, place => do
    let t ← src.token place
    if t.label = .string then
      let (ts, after) ← src.textsAt fuel (place + 1)
      return (t :: ts, after)
    else return ([], place)

/-- What a token yields if it is wanted. -/
def take (src : Source) (place : Nat) ( isWanted : Token → Bool) : Reading (Option (Tree × Nat)) := do
  let t ← src.token place
  return if isWanted t then some (.token t, place + 1) else none

/-- The names that are keywords in some places. -/
def softKeywords : List String := ["_", "case", "match"]

/-- The line of the token at a place. -/
def lineAt (src : Source) (place : Nat) : Nat := (src.tokens[place]?.map Token.line).getD 0

/-- Whether the token before a place stands within brackets. -/
def isInside (src : Source) (place : Nat) : Bool :=
  src.tokens[place - 1]?.any fun t => t.depth != 0

mutual

/-- What an item yields at a place, and the place behind it.  `fuel` bounds the depth of rules and
the length of sequences; `isSecond` tells that mistakes are looked for. -/
def readItem (src : Source) ( isSecond : Bool) :
    Nat → Item → Nat → Reading (Option (Tree × Nat))
  | 0, _, _ => return none
  | fuel + 1, item, place => do
    match item with
    | .token l => src.take place fun t => t.label = l
    | .soft s => src.take place fun t => t.label = .name && t.text == s
    | .anySoft => src.take place fun t => t.label = .name && softKeywords.contains t.text
    | .literals =>
      let (ts, after) ← src.textsAt src.tokens.size place
      if ts.isEmpty then return none
      match src.texts ts with
      | .ok kind => return some (.expr ⟨kind, src.lineAt place, []⟩, after)
      | .error c => throw (.complaint c)
    | .phrase r => src.readPhrase isSecond fuel r place
    | .option i =>
      let found ← src.readItem isSecond fuel i place
      return found.or (some (.nothing, place))
    | .many i =>
      let (ts, after) ← src.readMany isSecond fuel i place []
      return some (.list ts, after)
    | .some i =>
      let some (t, next) ← src.readItem isSecond fuel i place | return none
      let (ts, after) ← src.readMany isSecond fuel i next [t]
      return some (.list ts, after)
    | .sepBy mark i =>
      let some (t, next) ← src.readItem isSecond fuel i place | return none
      let (ts, after) ← src.readMany isSecond fuel (.seq [mark, i]) next [t]
      return some (.list ts, after)
    | .ahead i =>
      let found ← src.readItem isSecond fuel i place
      return found.map fun _ => (.nothing, place)
    | .unless i =>
      let found ← src.readItem isSecond fuel i place
      return if found.isSome then none else some (.nothing, place)
    | .cut => return some (.nothing, place)
    | .demand mark =>
      let t ← src.token place
      if t.label = .mark mark then return some (.token t, place + 1)
      throw (.complaint (.on t.line ("expected '" ++ mark ++ "'")))
    | .oneOf choices => src.readOneOf isSecond fuel choices place

/-- What an item yields as often as it fits, behind what it has yielded, in reverse. -/
def readMany (src : Source) ( isSecond : Bool) :
    Nat → Item → Nat → List Tree → Reading (List Tree × Nat)
  | 0, _, place, read => return (read.reverse, place)
  | fuel + 1, item, place, read => do
    match ← src.readItem isSecond fuel item place with
    | some (t, next) => src.readMany isSecond fuel item next (t :: read)
    | none => return (read.reverse, place)

/-- What the first sequence yields that fits. -/
def readOneOf (src : Source) ( isSecond : Bool) :
    Nat → List (List Item) → Nat → Reading (Option (Tree × Nat))
  | 0, _, _ => return none
  | _ + 1, [], _ => return none
  | fuel + 1, items :: rest, place => do
    let (found, _) ← src.readSequence isSecond fuel items place [] false
    match found with
    | some (ts, after) => return some (.list ts, after)
    | none => src.readOneOf isSecond fuel rest place

/-- What a sequence yields, behind what was yielded before, in reverse; and whether no other
sequence counts. -/
def readSequence (src : Source) ( isSecond : Bool) :
    Nat → List Item → Nat → List Tree → Bool → Reading (Option (List Tree × Nat) × Bool)
  | 0, _, _, _, isCut => return (none, isCut)
  | _ + 1, [], place, read, isCut => return (some (read.reverse, place), isCut)
  | fuel + 1, item :: rest, place, read, isCut => do
    match ← src.readItem isSecond fuel item place with
    | none => return (none, isCut)
    | some (t, next) =>
      let isCut := isCut || item matches .cut
      src.readSequence isSecond fuel rest next (t :: read) isCut

/-- What the first alternative yields that fits. -/
def readChoices (src : Source) ( isSecond : Bool) :
    Nat → List Choice → Nat → Reading (Option (Tree × Nat))
  | 0, _, _ => return none
  | _ + 1, [], _ => return none
  | fuel + 1, choice :: rest, place => do
    if choice.isMistake && !isSecond then src.readChoices isSecond fuel rest place
    else
      let (found, isCut) ← src.readSequence isSecond fuel choice.items place [] false
      match found with
      | some (parts, after) =>
        match choice.verdict (src.lineAt place) (src.isInside after) parts with
        | .yield t => return some (t, after)
        | .fail => return none
        | .complain c => throw (.complaint c)
      | none => if isCut then return none else src.readChoices isSecond fuel rest place

/-- What a rule yields at a place. -/
def readPhrase (src : Source) ( isSecond : Bool) :
    Nat → Phrase → Nat → Reading (Option (Tree × Nat))
  | 0, _, _ => return none
  | fuel + 1, r, place => do
    let isSecond := isSecond && r != .plainExpression
    if r.isKept then
      match (← get).kept[(r.ctorIdx, place)]? with
      | some found => return found
      | none =>
        let found ← src.readChoices isSecond fuel r.choices place
        modify fun p => { p with kept := p.kept.insert (r.ctorIdx, place) found }
        return found
    else src.readChoices isSecond fuel r.choices place

end

/-! ## Defects -/

/-- The defect of a source. -/
structure Defect where
  /-- The line. -/
  line : Nat
  /-- The wording. -/
  message : String

/-- Words a message about a source that may be an expression in a text. -/
def wording ( isNested : Bool) (message : String) : String :=
  if isNested then "f-string: " ++ message else message

/-- The defect that the fault behind the tokens is. -/
def defectOf ( isNested : Bool) (f : LexFault) : Defect :=
  ⟨f.line, if f.cause.isStrong then f.cause.message else wording isNested f.cause.message⟩

/-- The line of the last token that has been looked at. -/
def lastLine (src : Source) (seen : Nat) : Nat := src.lineAt (seen - 1)

/-- The defect of a source, given one that was found at a place: a fault behind the tokens goes
before it if it concerns a word or a bracket, or if a bracket is open there since an earlier
line. -/
def settle (src : Source) ( isNested : Bool) (seen : Nat) (found : Defect) : Defect :=
  match src.fault with
  | none => found
  | some f =>
    if f.cause.isStrong then defectOf isNested f
    else match f.brackets with
    | (c, line) :: _ =>
      if line < src.lastLine seen then ⟨line, wording isNested (LexCause.unclosed c).message⟩
      else found
    | [] => found

/-- The defect that a stop stands for. -/
def stopDefect (src : Source) ( isNested : Bool) (seen : Nat) : Stop → Defect
  | .fault f => defectOf isNested f
  | .complaint c =>
    src.settle isNested seen ⟨c.line.getD (src.lastLine seen),
      if c.isSettled then c.message else wording isNested c.message⟩

/-- The defect of a source that has not fit, up to the last of some tokens, and has no known
mistake. -/
def plainDefect (src : Source) ( isNested : Bool) (seen : Nat) (last : Nat) : Defect :=
  let line := src.lineAt (last - 1)
  match src.tokens[last - 1]?.map Token.label with
  | some .indent => ⟨src.lastLine seen, wording isNested "unexpected indent"⟩
  | some .dedent => ⟨src.lastLine seen, wording isNested "unexpected unindent"⟩
  | _ => src.settle isNested seen ⟨line, wording isNested "invalid syntax"⟩

/-- How deep rules may be nested and how long sequences may be in a source. -/
def fuelFor (src : Source) : Nat := 400 * (src.tokens.size + 10)

/-- Reads a source by a rule. -/
def read (src : Source) ( isNested : Bool) (start : Phrase) : Except Defect Tree :=
  match (src.readPhrase false src.fuelFor start 0).run ⟨0, {}⟩ with
  | .ok (some (t, _)) _ => .ok t
  | .error stop p => .error (src.stopDefect isNested p.seen stop)
  | .ok none p =>
    match (src.readPhrase true src.fuelFor start 0).run ⟨p.seen, {}⟩ with
    | .ok _ q => .error (src.plainDefect isNested q.seen p.seen)
    | .error stop q => .error (src.stopDefect isNested q.seen stop)

end Source

/-! ## Nested sources -/

/-- Reads characters by a rule; `depth` bounds how deep texts with expressions are nested, and
`isNested` tells that the characters stand in such a text. -/
def readWithin : Nat → Bool → Phrase → List Char → Nat → Except Source.Defect Tree
  | 0, _, _, _, line => .error ⟨line, "too many nested parentheses"⟩
  | depth + 1, isNested, start, cs, line =>
    let (tokens, fault) := tokensOf cs line
    let source : Source := ⟨tokens, fault, Literal.kindOf fun inner n =>
      match readWithin depth true .starExpressions inner n with
      | .ok _ => .ok ()
      | .error d => .error ⟨some d.line, d.message, true⟩⟩
    source.read isNested start

/-- The statements of a script. -/
def statementsOf (cs : List Char) : Except Source.Defect (List Statement) :=
  (readWithin (cs.length + 2) false .file cs 1).map Tree.allStatements

end ConfigAudit.Python
