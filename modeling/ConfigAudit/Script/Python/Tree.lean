/-
# What Python scripts say

Only what has to be known about a script is kept: of its statements, what they import and which
functions they define; of its expressions, what they are called in a complaint.

* `Statement.walk` : the statements of a script with those inside them, level by level;
* `Expr.invalidTarget?` : the part of an expression that nothing can be assigned to;
* `Tree` : what a rule of the grammar yields.
-/
import ConfigAudit.Script.Python.Token

namespace ConfigAudit.Python

/-! ## Expressions -/

/-- The kinds of expressions. -/
inductive Kind where
  /-- A name. -/
  | name (s : String)
  /-- A member of a value. -/
  | member
  /-- An item of a value. -/
  | item
  /-- A call. -/
  | call
  /-- A value that is spread out. -/
  | starred
  /-- A list. -/
  | list
  /-- A tuple. -/
  | tuple
  /-- A set. -/
  | set
  /-- A dictionary. -/
  | dict
  /-- A list made by loops. -/
  | listLoop
  /-- A set made by loops. -/
  | setLoop
  /-- A dictionary made by loops. -/
  | dictLoop
  /-- A generator. -/
  | generator
  /-- A function without a name. -/
  | lambda
  /-- A number or a text. -/
  | literal
  /-- A text with expressions in it. -/
  | formatted
  /-- One of the three values that are keywords. -/
  | constant (s : String)
  /-- Three points. -/
  | ellipsis
  /-- Operators other than comparisons. -/
  | operation
  /-- A comparison; `isIn` tells that it begins with a test of membership. -/
  | comparison ( isIn : Bool)
  /-- A choice between two values. -/
  | conditional
  /-- A value that is given a name. -/
  | named
  /-- A value that is handed over. -/
  | yielded
  /-- A value that is waited for. -/
  | awaited
  /-- The arguments of a call; `isSpread` tells that named ones are spread out. -/
  | arguments ( isSpread : Bool)
  /-- A named argument. -/
  | keyword
  /-- Named arguments that are spread out. -/
  | spread
  /-- A pattern. -/
  | pattern
  deriving Repr, DecidableEq

/-- What a kind of expression is called. -/
def Kind.description : Kind → String
  | name _ => "name"
  | member => "attribute"
  | item => "subscript"
  | call => "function call"
  | starred => "starred"
  | list => "list"
  | tuple => "tuple"
  | set => "set display"
  | dict => "dict literal"
  | listLoop => "list comprehension"
  | setLoop => "set comprehension"
  | dictLoop => "dict comprehension"
  | generator => "generator expression"
  | lambda => "lambda"
  | literal => "literal"
  | formatted => "f-string expression"
  | constant s => s
  | ellipsis => "ellipsis"
  | operation => "expression"
  | comparison _ => "comparison"
  | conditional => "conditional expression"
  | named => "named expression"
  | yielded => "yield expression"
  | awaited => "await expression"
  | arguments _ => "arguments"
  | keyword => "keyword"
  | spread => "keyword"
  | pattern => "pattern"

/-- An expression: its kind, its first line and its parts. -/
inductive Expr where
  /-- Puts an expression together. -/
  | mk (kind : Kind) (line : Nat) (parts : List Expr)

namespace Expr

/-- The kind of an expression. -/
def kind : Expr → Kind
  | mk k _ _ => k

/-- The first line of an expression. -/
def line : Expr → Nat
  | mk _ n _ => n

/-- The parts of an expression. -/
def parts : Expr → List Expr
  | mk _ _ es => es

/-- What an expression is called. -/
def description (e : Expr) : String := e.kind.description

/-- What targets are for. -/
inductive Purpose where
  /-- A value is assigned. -/
  | assign
  /-- The values of a loop are assigned. -/
  | loop
  /-- They are deleted. -/
  | delete
  deriving Repr, DecidableEq

mutual

/-- The part of an expression that cannot be a target. -/
def invalidTarget? (purpose : Purpose) : Expr → Option Expr
  | .mk kind line parts => match kind with
    | .list | .tuple => invalidAmong? purpose parts
    | .starred =>
      if purpose = .delete then some (.mk kind line parts) else invalidFirst? purpose parts
    | .comparison isIn =>
      if purpose = .loop then if isIn then invalidFirst? purpose parts else none
      else some (.mk kind line parts)
    | .name _ | .item | .member => none
    | _ => some (.mk kind line parts)

/-- The first part of several expressions that cannot be a target. -/
def invalidAmong? (purpose : Purpose) : List Expr → Option Expr
  | [] => none
  | e :: es => match invalidTarget? purpose e with
    | some t => some t
    | none => invalidAmong? purpose es

/-- The part of the first of several expressions that cannot be a target. -/
def invalidFirst? (purpose : Purpose) : List Expr → Option Expr
  | [] => none
  | e :: _ => invalidTarget? purpose e

end

end Expr

/-! ## Statements -/

/-- A statement. -/
inductive Statement where
  /-- A statement without statements in it. -/
  | simple
  /-- Imports modules. -/
  | importNames (names : List String)
  /-- Imports from a module, which is given relatively by points, or by its name. -/
  | importFrom (points : Nat) (name : String)
  /-- Defines a function. -/
  | function (name : String) (body : List Statement)
  /-- Another statement with statements in it, or a part of one with statements of its own. -/
  | compound (parts : List Statement)

namespace Statement

/-- The statements right inside a statement. -/
def inner : Statement → List Statement
  | function _ body => body
  | compound parts => parts
  | _ => []

/-- The modules that a statement itself imports. -/
def imports : Statement → List String
  | importNames names => names
  | importFrom points name => [if points = 0 then name else String.ofList (List.replicate points '.')]
  | _ => []

/-- Whether a statement defines a function of a name. -/
def defines (name : String) : Statement → Bool
  | function n _ => n == name
  | _ => false

mutual

/-- How deep statements are nested in a statement, itself included. -/
def depth : Statement → Nat
  | function _ body => depthOf body + 1
  | compound parts => depthOf parts + 1
  | _ => 1

/-- How deep statements are nested. -/
def depthOf : List Statement → Nat
  | [] => 0
  | s :: ss => max (depth s) (depthOf ss)

end

/-- The statements of a number of levels, the outer ones first. -/
def levels : Nat → List Statement → List Statement
  | 0, _ => []
  | n + 1, ss => ss ++ levels n (ss.flatMap inner)

/-- All statements, level by level. -/
def walk (ss : List Statement) : List Statement := levels (depthOf ss) ss

end Statement

/-! ## Trees -/

/-- What a rule of the grammar yields. -/
inductive Tree where
  /-- Nothing that matters. -/
  | nothing
  /-- A token. -/
  | token (t : Token)
  /-- What a sequence yields. -/
  | list (ts : List Tree)
  /-- An expression. -/
  | expr (e : Expr)
  /-- A name with points in it. -/
  | words (s : String)
  /-- Statements. -/
  | statements (ss : List Statement)

namespace Tree

mutual

/-- The trees in a tree that are no lists. -/
def leaves : Tree → List Tree
  | .list ts => leavesOf ts
  | t => [t]

/-- The trees in several trees that are no lists. -/
def leavesOf : List Tree → List Tree
  | [] => []
  | t :: ts => leaves t ++ leavesOf ts

end

/-- The expressions in a tree. -/
def exprs (t : Tree) : List Expr :=
  t.leaves.filterMap fun
    | .expr e => some e
    | _ => none

/-- The statements in a tree. -/
def allStatements (t : Tree) : List Statement :=
  t.leaves.flatMap fun
    | .statements ss => ss
    | _ => []

/-- The names in a tree that may have points in them. -/
def allWords (t : Tree) : List String :=
  t.leaves.filterMap fun
    | .words s => some s
    | _ => none

/-- The tokens in a tree. -/
def tokens (t : Tree) : List Token :=
  t.leaves.filterMap fun
    | .token t => some t
    | _ => none

/-- What a tree says that is a token or a name. -/
def text : Tree → String
  | .token t => t.meaning
  | .words s => s
  | _ => ""

/-- The first line of a tree. -/
def line (t : Tree) : Nat :=
  (t.leaves.findSome? fun
    | .token t => some t.line
    | .expr e => some e.line
    | _ => none).getD 0

end Tree

end ConfigAudit.Python
