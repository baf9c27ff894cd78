/-
# Finding patterns in texts

A search with backtracking: an expression is run at a place of a text and hands every place where
it can end to the rest of the search, until the rest succeeds.  The definition is by recursion on
the expression; a repetition recurs on a count that exceeds the number of useful rounds.

* `Node.run` : runs an expression;
* `search` : whether a pattern is found in a text;
* `matchesWhole` : whether a pattern covers a text.
-/
import ConfigAudit.Pattern.Node

namespace ConfigAudit.Pattern

open Text

/-! ## Places -/

/-- A place in a text, with the texts kept so far. -/
structure Spot where
  /-- Characters before the place. -/
  index : Nat
  /-- The text before the place, in reverse. -/
  before : List Char
  /-- The text behind the place. -/
  after : List Char
  /-- The texts kept under numbers, the latest first. -/
  kept : List (Nat × List Char)
  deriving Repr, DecidableEq

namespace Spot

/-- The start of a text. -/
def start (s : List Char) : Spot := ⟨0, [], s, []⟩

/-- The place behind one character that passes a test. -/
def step? (t : Test) (p : Spot) : Option Spot :=
  match p.after with
  | c :: rest => if t.holds c then some ⟨p.index + 1, c :: p.before, rest, p.kept⟩ else none
  | [] => none

/-- The place `n` characters back. -/
def back? : Nat → Spot → Option Spot
  | 0, p => some p
  | n + 1, p => match p.before with
    | c :: rest => back? n ⟨p.index - 1, rest, c :: p.after, p.kept⟩
    | [] => none

/-- The place behind characters whose compared forms are those of `cs`. -/
def skip? (fold : Fold) : List Char → Spot → Option Spot
  | [], p => some p
  | c :: cs, p => match p.after with
    | d :: rest =>
      if fold.apply c.toNat == fold.apply d.toNat then
        skip? fold cs ⟨p.index + 1, d :: p.before, rest, p.kept⟩
      else none
    | [] => none

/-- Keeps the text between an earlier place and this one. -/
def keep (number : Nat) (since : Spot) (p : Spot) : Spot :=
  { p with kept := (number, since.after.take (p.index - since.index)) :: p.kept }

/-- The text kept under a number. -/
def kept? (number : Nat) (p : Spot) : Option (List Char) := p.kept.lookup number

/-- Whether a character belongs to a word. -/
def isWord (basic : Bool) (c : Char) : Bool := Class.holds basic c.toNat .word

/-- Whether exactly one of the neighbours of a place belongs to a word. -/
def atBoundary (basic : Bool) (p : Spot) : Bool :=
  (p.before.head?.any (isWord basic)) != (p.after.head?.any (isWord basic))

/-- Whether the whole text is empty. -/
def inEmptyText (p : Spot) : Bool := p.before.isEmpty && p.after.isEmpty

/-- Whether a place is as an anchor asks. -/
def meets (p : Spot) : Anchor → Bool
  | .textStart => p.before.isEmpty
  | .lineStart => p.before.head?.all (· == '\n')
  | .textEnd => p.after.isEmpty
  | .lastLineEnd => p.after.isEmpty || p.after == ['\n']
  | .lineEnd => p.after.head?.all (· == '\n')
  | .boundary basic => !p.inEmptyText && p.atBoundary basic
  | .noBoundary basic => !p.inEmptyText && !p.atBoundary basic

end Spot

/-! ## Running expressions -/

/-- The rest of a search. -/
abbrev Rest := Spot → Option Spot

/-- Runs a repetition: `count` rounds are done, the last optional one began at `last`. -/
def rounds (body : Spot → Rest → Option Spot) (mode : Mode) (least : Nat) (most : Option Nat) :
    Nat → Nat → Option Nat → Spot → Rest → Option Spot
  | 0, _, _, _, _ => none
  | fuel + 1, count, last, p, k =>
    let again (last : Option Nat) : Option Spot :=
      body p fun q => rounds body mode least most fuel (count + 1) last q k
    let mayRepeat : Bool := most.all (count < ·) && last != some p.index
    if count < least then
      match mode with
      | .possessive => match body p some with
        | some q => rounds body mode least most fuel (count + 1) last q k
        | none => none
      | _ => again last
    else match mode with
      | .greedy =>
        match (if mayRepeat then again (some p.index) else none) with
        | some q => some q
        | none => k p
      | .lazy =>
        match k p with
        | some q => some q
        | none => if mayRepeat then again (some p.index) else none
      | .possessive =>
        if mayRepeat then
          match body p some with
          | some q => rounds body mode least most fuel (count + 1) (some p.index) q k
          | none => k p
        else k p

namespace Node

/-- Runs an expression at a place; `k` is the rest of the search. -/
def run : Node → Spot → Rest → Option Spot
  | empty, p, k => k p
  | one t, p, k => (p.step? t).bind k
  | seq a b, p, k => run a p fun q => run b q k
  | alt a b, p, k =>
    match run a p k with
    | some q => some q
    | none => run b p k
  | capture n b, p, k => run b p fun q => k (Spot.keep n p q)
  | loop mode least most b, p, k =>
    rounds (fun q k => run b q k) mode least most (least + p.after.length + 3) 0 none p k
  | atomic b, p, k => (run b p some).bind k
  | ahead false b, p, k => (run b p some).bind fun q => k { p with kept := q.kept }
  | ahead true b, p, k => if (run b p some).isSome then none else k p
  | behind false w b, p, k =>
    ((p.back? w.least).bind fun q => run b q some).bind fun q => k { p with kept := q.kept }
  | behind true w b, p, k =>
    if ((p.back? w.least).bind fun q => run b q some).isSome then none else k p
  | anchor a, p, k => if p.meets a then k p else none
  | repeated n fold, p, k => ((p.kept? n).bind fun cs => p.skip? fold cs).bind k
  | choose n a b, p, k => if (p.kept? n).isSome then run a p k else run b p k

/-- The empty expression leaves everything to the rest of the search. -/
@[simp] theorem run_empty (p : Spot) (k : Rest) : run empty p k = k p := by simp [run]

/-- Two expressions in a row are run one after the other. -/
@[simp] theorem run_seq (a b : Node) (p : Spot) (k : Rest) :
    run (seq a b) p k = run a p fun q => run b q k := by simp [run]

end Node

/-! ## Searching texts -/

/-- Looks for an expression at a place and behind it; `before` is the text before the place. -/
def searchFrom (n : Node) (index : Nat) (before : List Char) : List Char → Bool
  | [] => (n.run ⟨index, before, [], []⟩ some).isSome
  | c :: rest =>
    (n.run ⟨index, before, c :: rest, []⟩ some).isSome ||
      searchFrom n (index + 1) (c :: before) rest

/-- Whether an expression is found somewhere in a text. -/
def search (n : Node) (s : String) : Bool := searchFrom n 0 [] s.toList

/-- Whether an expression covers a whole text. -/
def matchesWhole (n : Node) (s : String) : Bool :=
  (n.run (Spot.start s.toList) fun q => if q.after.isEmpty then some q else none).isSome

end ConfigAudit.Pattern
