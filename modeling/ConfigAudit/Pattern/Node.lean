/-
# Expressions of patterns

A pattern is read into an expression over tests on single characters.  The expression says what
has to be found; the order in which alternatives and repetitions are tried belongs to it, because
a search stops at the first success.

* `Node` : expressions;
* `Width` : how many characters an expression can consume;
* `Node.defect?` : why a well-formed expression cannot be used.
-/
import ConfigAudit.Pattern.Charset
import ConfigAudit.Pattern.Fault

namespace ConfigAudit.Pattern

/-! ## Widths -/

/-- The least and greatest number of characters that an expression consumes. -/
structure Width where
  /-- The least number. -/
  least : Nat
  /-- The greatest number. -/
  greatest : Nat
  deriving Repr, DecidableEq, Inhabited

namespace Width

/-- A number that stands for every larger one. -/
def limit : Nat := 0x10000000000000000

/-- A width that is not above the limit. -/
def bounded (least greatest : Nat) : Width := ⟨min least limit, min greatest limit⟩

/-- The width of the empty expression. -/
def zero : Width := ⟨0, 0⟩

/-- The width of a test. -/
def one : Width := ⟨1, 1⟩

/-- The width of one expression behind another. -/
def add (a b : Width) : Width := bounded (a.least + b.least) (a.greatest + b.greatest)

/-- The width of one expression or another. -/
def either (a b : Width) : Width := ⟨min a.least b.least, max a.greatest b.greatest⟩

/-- The width of a repetition. -/
def times (least : Nat) (most : Option Nat) (w : Width) : Width :=
  bounded (w.least * least) (match most with
    | some n => w.greatest * n
    | none => if w.greatest = 0 then 0 else limit)

end Width

/-! ## Expressions -/

/-- What a place in a text can be asked for. -/
inductive Anchor where
  /-- The text begins here. -/
  | textStart
  /-- A line begins here. -/
  | lineStart
  /-- The text ends here. -/
  | textEnd
  /-- The text ends here, but for a line feed. -/
  | lastLineEnd
  /-- A line ends here. -/
  | lineEnd
  /-- A word begins or ends here; `basic` confines words to basic characters. -/
  | boundary (basic : Bool)
  /-- No word begins or ends here, in a text that is not empty. -/
  | noBoundary (basic : Bool)
  deriving Repr, DecidableEq

/-- How a repetition chooses its count. -/
inductive Mode where
  /-- As many as possible, fewer if the rest fails. -/
  | greedy
  /-- As few as possible, more if the rest fails. -/
  | lazy
  /-- As many as possible, for good. -/
  | possessive
  deriving Repr, DecidableEq

/-- An expression. -/
inductive Node where
  /-- Nothing. -/
  | empty
  /-- One character that passes a test. -/
  | one (test : Test)
  /-- One expression, then another. -/
  | seq (first second : Node)
  /-- One expression or, failing that, another. -/
  | alt (first second : Node)
  /-- An expression whose text is kept under a number. -/
  | capture (number : Nat) (body : Node)
  /-- A repetition. -/
  | loop (mode : Mode) (least : Nat) (most : Option Nat) (body : Node)
  /-- An expression of which only the first success counts. -/
  | atomic (body : Node)
  /-- What follows is, or is not, as the expression says. -/
  | ahead (negated : Bool) (body : Node)
  /-- What precedes is, or is not, as the expression says. -/
  | behind (negated : Bool) (width : Width) (body : Node)
  /-- A place. -/
  | anchor (place : Anchor)
  /-- The text that was kept under a number. -/
  | repeated (number : Nat) (fold : Fold)
  /-- One expression if a text was kept under a number, another if not. -/
  | choose (number : Nat) (yes no : Node)
  deriving Repr, DecidableEq, Inhabited

namespace Node

/-- One expression after the other. -/
def ofList : List Node → Node
  | [] => empty
  | [n] => n
  | n :: rest => seq n (ofList rest)

/-- The first expression that succeeds. -/
def oneOf : List Node → Node
  | [] => empty
  | [n] => n
  | n :: rest => alt n (oneOf rest)

/-! ## Restrictions of use -/

/-- The name of a repetition's mode. -/
def modeName : Mode → String
  | .greedy => "MAX_REPEAT"
  | .lazy => "MIN_REPEAT"
  | .possessive => "POSSESSIVE_REPEAT"

/-- Why an expression cannot be used: a look-behind needs a fixed width, and a template pattern
(`template`) cannot hold a repetition. -/
def defect? (template : Bool) : Node → Option Cause
  | seq a b => (defect? template a).or (defect? template b)
  | alt a b => (defect? template a).or (defect? template b)
  | capture _ b => defect? template b
  | loop mode _ _ b =>
    if template then some (.templateRepeat (modeName mode)) else defect? template b
  | atomic b => defect? template b
  | ahead _ b => defect? template b
  | behind _ w b =>
    if w.least > 4294967295 then some .excessiveWidth
    else if w.least ≠ w.greatest then some .variableWidth
    else defect? template b
  | choose _ a b => (defect? template a).or (defect? template b)
  | _ => none

end Node

end ConfigAudit.Pattern
