/-
# The form of a grammar

A rule has alternatives, of which the first one that fits counts.  An alternative is a sequence of
items, with what it yields.  Some alternatives describe what is often written by mistake; they are
tried only in scripts that are known to be faulty, and yield complaints.

* `Phrase` : the rules of the grammar;
* `Item` : what an alternative is a sequence of;
* `Choice` : a sequence with its verdict.
-/
import ConfigAudit.Script.Python.Literal

namespace ConfigAudit.Python

/-! ## Rules -/

/-- The two places where parameters stand. -/
inductive Form where
  /-- The definition of a function. -/
  | definition
  /-- A function without a name. -/
  | lambda
  deriving Repr, DecidableEq

/-- The rules of the grammar. -/
inductive Phrase where
  -- scripts, blocks and statements
  | file | statements | statement | simpleStatements | simpleStatement | compoundStatement | block
  | assignment | assignedValue | augmentation | importTargets | importTarget | moduleAlias
  | dottedName | decorators | classDefinition | classBody | functionDefinition | functionBody
  | ifStatement | elifPart | elsePart | whileStatement | forStatement | withStatement | withItem
  | tryStatement | exceptPart | exceptGroupPart | finallyPart | matchStatement | subject
  | casePart | guard
  -- parameters
  | params (f : Form) | parameters (f : Form) | slashPlain (f : Form) | slashDefault (f : Form)
  | starRest (f : Form) | keywordRest (f : Form) | plainParam (f : Form) | starAnnotated
  | defaultParam (f : Form) | maybeParam (f : Form) | param (f : Form) | defaultValue
  -- patterns
  | patterns | pattern | asPattern | orPattern | closedPattern | literalPattern | literalKey
  | complexNumber | signedNumber | signedReal | realNumber | imaginaryNumber | captureTarget
  | valuePattern | memberPath | namePath | sequencePattern | openSequence | sequenceItems
  | sequenceItem | starPattern | mappingPattern | mappingItems | mappingItem | doubleStarPattern
  | classPattern | positionalPatterns | keywordPatterns | keywordPattern
  -- expressions
  | expressions | expression | plainExpression | yieldExpression | starExpressions
  | starExpression | starNamedExpressions | starNamedExpression | assignmentExpression
  | namedExpression | disjunction | conjunction | inversion | comparison | comparisonRest
  | bitOr | bitXor | bitAnd | shift | sum | term | factor | power | awaited | primary | trailer
  | slices | slice | atom | group | lambda | texts | list | tuple | set | dict | pairs | pair
  | keyValue | loops | loop | listLoop | setLoop | generator | dictLoop
  | arguments | args | argument | namedArgs | namedOrStarred | namedOrSpread | starred
  -- targets
  | starTargets | starTargetsList | starTargetsTuple | starTarget | starInnerTarget | starAtom
  | singleTarget | memberTarget | targetPrimary | targetGoesOn | deleteTargets | deleteTarget
  | deleteAtom
  -- mistakes
  | wrongArguments | wrongNamedArgument | wrongLegacy | wrongExpression | wrongNamed
  | wrongAssignment | wrongAnnotated | wrongDelete | wrongBlock | wrongLoop | wrongDictLoop
  | wrongParameters (f : Form) | defaultBefore (f : Form) | wrongDefault | wrongStarRest (f : Form)
  | wrongKeywordRest (f : Form) | wrongWithItem | wrongForTarget | wrongGroup | wrongImportTargets
  | wrongWith | wrongWithBlock | wrongTry | wrongExcept | wrongFinally | wrongExceptBlock
  | wrongExceptGroupBlock | wrongMatch | wrongCase | wrongAsPattern | wrongClassPattern
  | lateArguments | wrongIf | wrongElif | wrongElse | wrongWhile | wrongFor | wrongFunction
  | wrongClass | wrongPairs | wrongPair
  deriving Repr, DecidableEq

namespace Phrase

/-- Whether what a rule yields at a place is kept, and used again at the same place. -/
def isKept : Phrase → Bool
  | simpleStatement | block | dottedName | closedPattern | memberPath | namePath
  | starPattern | expression | starExpression | disjunction | conjunction | inversion | bitOr
  | bitXor | bitAnd | shift | sum | term | factor | awaited | primary | texts | arguments
  | starTarget | starInnerTarget | targetPrimary | deleteTarget | wrongNamed => true
  | _ => false

end Phrase

/-! ## Items -/

/-- What an alternative is a sequence of. -/
inductive Item where
  /-- A token of a kind. -/
  | token (l : Label)
  /-- Texts that stand one after the other. -/
  | literals
  /-- A name with a certain text. -/
  | soft (s : String)
  /-- A name that is a keyword in some places. -/
  | anySoft
  /-- What a rule describes. -/
  | phrase (r : Phrase)
  /-- An item or nothing. -/
  | option (i : Item)
  /-- An item any number of times. -/
  | many (i : Item)
  /-- An item at least once. -/
  | some (i : Item)
  /-- An item at least once, with a mark between. -/
  | sepBy (mark : String) (i : Item)
  /-- Something that has to follow. -/
  | ahead (i : Item)
  /-- Something that must not follow. -/
  | unless (i : Item)
  /-- From here on no other alternative counts. -/
  | cut
  /-- A mark whose absence is complained of. -/
  | demand (mark : String)
  /-- One of several sequences. -/
  | oneOf (choices : List (List Item))

/-- A keyword or a mark. -/
def Item.ofText (s : String) : Item :=
  .token (if s.toList.head?.any Char.isAlpha then .word s else .mark s)

instance : Coe Phrase Item := ⟨Item.phrase⟩
instance : Coe String Item := ⟨Item.ofText⟩

namespace Item

/-- A name. -/
def name : Item := .token .name
/-- A number. -/
def number : Item := .token .number
/-- A text. -/
def string : Item := .token .string
/-- The end of a line. -/
def newline : Item := .token .newline
/-- The beginning of a block. -/
def indent : Item := .token .indent
/-- The end of a block. -/
def dedent : Item := .token .dedent
/-- The end of the script. -/
def finish : Item := .token .finish

/-- A sequence as an item. -/
def seq (items : List Item) : Item := .oneOf [items]

/-- One of several items. -/
def either (items : List Item) : Item := .oneOf (items.map fun i => [i])

end Item

/-! ## Alternatives -/

/-- What becomes of an alternative that fits. -/
inductive Verdict where
  /-- It yields a tree. -/
  | yield (t : Tree)
  /-- Its rule does not fit after all. -/
  | fail
  /-- A mistake has been found. -/
  | complain (c : Complaint)

/-- A sequence of items, and what becomes of it.  The verdict depends on the line that it begins
on, on whether its last token stands within brackets, and on what its items yield. -/
structure Choice where
  /-- Whether it describes a mistake. -/
  isMistake : Bool
  /-- Its items. -/
  items : List Item
  /-- Its verdict. -/
  verdict : Nat → Bool → List Tree → Verdict

namespace Choice

/-- Yields what its items yield. -/
def pass (items : List Item) : Choice :=
  ⟨false, items, fun _ _ parts => .yield (match parts with
    | [t] => t
    | parts => .list parts)⟩

/-- Yields what one of its items yields. -/
def pick (k : Nat) (items : List Item) : Choice :=
  ⟨false, items, fun _ _ parts => .yield (parts.getD k .nothing)⟩

/-- Yields an expression of a kind that depends on what its items yield. -/
def nodeBy (kind : List Tree → Kind) (items : List Item) : Choice :=
  ⟨false, items, fun line _ parts => .yield (.expr ⟨kind parts, line, (Tree.list parts).exprs⟩)⟩

/-- Yields an expression. -/
def node (kind : Kind) (items : List Item) : Choice := nodeBy (fun _ => kind) items

/-- Yields statements that depend on what its items yield. -/
def states (f : List Tree → List Statement) (items : List Item) : Choice :=
  ⟨false, items, fun _ _ parts => .yield (.statements (f parts))⟩

/-- Yields a statement without statements in it. -/
def simple (items : List Item) : Choice := states (fun _ => [.simple]) items

/-- Yields a statement with the statements of its items in it. -/
def compound (items : List Item) : Choice :=
  states (fun parts => [.compound (Tree.list parts).allStatements]) items

/-- Refers to a rule for mistakes. -/
def mistake (r : Phrase) : Choice := { pass [r] with isMistake := true }

/-- Judges a mistake. -/
def judge (items : List Item) (f : List Tree → Verdict) : Choice :=
  ⟨true, items, fun _ _ parts => f parts⟩

/-- Complains on the line of one of its items, in words that depend on what they yield. -/
def blameBy (k : Nat) (items : List Item) (message : List Tree → String) : Choice :=
  judge items fun parts => .complain (.on (parts.getD k .nothing).line (message parts))

/-- Complains on the line of one of its items. -/
def blame (k : Nat) (message : String) (items : List Item) : Choice :=
  blameBy k items fun _ => message

/-- Complains on the line of the last token that was looked at. -/
def blameHere (message : String) (items : List Item) : Choice :=
  judge items fun _ => .complain (.here message)

end Choice

/-- The expression that the item at a place yields. -/
def exprAt (parts : List Tree) (k : Nat) : Option Expr := (parts.getD k .nothing).exprs.head?

/-- What the expression is called that the item at a place yields. -/
def describeAt (parts : List Tree) (k : Nat) : String :=
  (exprAt parts k).elim "" Expr.description

/-- Complains of the part of an expression that cannot be a target, if there is one. -/
def blameTarget (purpose : Expr.Purpose) (k : Nat) (parts : List Tree) : Verdict :=
  match (exprAt parts k).bind (Expr.invalidTarget? purpose) with
  | some e =>
    let verb := if purpose = .delete then "delete" else "assign to"
    .complain (.on e.line ("cannot " ++ verb ++ " " ++ e.description))
  | none => .fail

end ConfigAudit.Python
