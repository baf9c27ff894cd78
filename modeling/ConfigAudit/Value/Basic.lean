/-
# Values

Rules, policies, devices and configurations arrive as documents, and a document may hold any
value in any place.  A value is kept as it came until something needs more of it; what can go
wrong then is a `ValueFault`.

* `Value` : the values of documents;
* `Value.truthy` : what counts as set;
* `Value.equal` : equality, which identifies numbers of all kinds.
-/
import ConfigAudit.Outcome
import ConfigAudit.Calendar.Moment
import ConfigAudit.Decimal.Binary

namespace ConfigAudit

/-- A value of a document. -/
inductive Value where
  /-- Nothing. -/
  | null
  /-- A truth value. -/
  | flag (b : Bool)
  /-- An integer of any size. -/
  | int (n : Int)
  /-- A floating-point number. -/
  | float (x : Float)
  /-- A text. -/
  | text (s : String)
  /-- A sequence of bytes. -/
  | bytes (bs : List UInt8)
  /-- A day. -/
  | date (d : Date)
  /-- A date and time. -/
  | moment (m : Moment)
  /-- An outcome; it is also the text that it is written as. -/
  | outcome (o : Outcome)
  /-- A sequence. -/
  | list (xs : List Value)
  /-- Two values together. -/
  | pair (a b : Value)
  /-- Distinct values, in order of insertion. -/
  | set (xs : List Value)
  /-- Values under distinct keys, in order of insertion. -/
  | table (entries : List (Value × Value))
  deriving Inhabited

namespace Value

/-! ## Kinds -/

/-- The name of a value's kind, as it is shown to authors of documents. -/
def kind : Value → String
  | null => "NoneType"
  | flag _ => "bool"
  | int _ => "int"
  | float _ => "float"
  | text _ => "str"
  | bytes _ => "bytes"
  | date _ => "date"
  | moment _ => "datetime"
  | outcome _ => "ResultOption"
  | list _ => "list"
  | pair _ _ => "tuple"
  | set _ => "set"
  | table _ => "dict"

/-- The name of a value's kind with the family of calendar kinds spelled out. -/
def fullKind : Value → String
  | date _ => "datetime.date"
  | moment _ => "datetime.datetime"
  | v => v.kind

/-- Whether a value counts as set. -/
def truthy : Value → Bool
  | null => false
  | flag b => b
  | int n => n != 0
  | float x => !(x == 0.0)
  | text s => !s.isEmpty
  | bytes bs => !bs.isEmpty
  | date _ => true
  | moment _ => true
  | outcome _ => true
  | list xs => !xs.isEmpty
  | pair _ _ => true
  | set xs => !xs.isEmpty
  | table es => !es.isEmpty

/-- The text that a value is, if it is one. -/
def asText? : Value → Option String
  | text s => some s
  | outcome o => some o.text
  | _ => none

/-- Whether a value is a text. -/
def isText (v : Value) : Bool := v.asText?.isSome

/-- The integer that a value is; truth values count as 0 and 1. -/
def asInt? : Value → Option Int
  | int n => some n
  | flag b => some (if b then 1 else 0)
  | _ => none

/-! ## Equality -/

/-- Equality of an integer and a floating-point number. -/
def intEqFloat (n : Int) (x : Float) : Bool :=
  (Decimal.Binary.ofFloat x).compareInt n == some .eq

mutual

/-- Equality: numbers of all kinds by value, an outcome with the text it is written as, sequences
place by place, sets and tables without regard to order. -/
def equal : Value → Value → Bool
  | null, null => true
  | flag a, flag b => a == b
  | flag a, int n => (if a then 1 else 0) == n
  | flag a, float x => intEqFloat (if a then 1 else 0) x
  | int n, flag b => n == (if b then 1 else 0)
  | int n, int m => n == m
  | int n, float x => intEqFloat n x
  | float x, flag b => intEqFloat (if b then 1 else 0) x
  | float x, int n => intEqFloat n x
  | float x, float y => x == y
  | text a, text b => a == b
  | text a, outcome o => a == o.text
  | outcome o, text a => a == o.text
  | outcome a, outcome b => a == b
  | bytes a, bytes b => a == b
  | date a, date b => a == b
  | moment a, moment b => a.same b
  | list xs, list ys => equalAll xs ys
  | pair a b, pair c d => equal a c && equal b d
  | set xs, set ys => xs.length == ys.length && memberAll xs ys
  | table xs, table ys => xs.length == ys.length && entriesIn xs ys
  | _, _ => false
termination_by structural v => v

/-- Equality of two sequences. -/
def equalAll : List Value → List Value → Bool
  | [], [] => true
  | x :: xs, y :: ys => equal x y && equalAll xs ys
  | _, _ => false
termination_by structural xs => xs

/-- Whether every value of the first sequence equals one of the second. -/
def memberAll : List Value → List Value → Bool
  | [], _ => true
  | x :: xs, ys => ys.any (fun y => equal x y) && memberAll xs ys
termination_by structural xs => xs

/-- Whether every entry of the first table is one of the second. -/
def entriesIn : List (Value × Value) → List (Value × Value) → Bool
  | [], _ => true
  | (k, v) :: rest, es => es.any (fun e => equal k e.1 && equal v e.2) && entriesIn rest es
termination_by structural es => es

end

/-- Integers are equal as values exactly when they are equal. -/
@[simp] theorem equal_int (a b : Int) : equal (int a) (int b) = (a == b) := by simp [equal]

/-- Texts are equal as values exactly when they are equal. -/
@[simp] theorem equal_text (a b : String) : equal (text a) (text b) = (a == b) := by simp [equal]

/-- Whether a value is one of several, as keys. -/
def isIn (v : Value) (xs : List Value) : Bool := xs.any (equal v)

/-! ## Tables -/

/-- The value under a key. -/
def lookup (key : Value) : List (Value × Value) → Option Value
  | [] => none
  | (k, v) :: rest => if equal k key then some v else lookup key rest

/-- Puts a value under a key: in the place of the key if it is there, else at the end. -/
def put (key value : Value) : List (Value × Value) → List (Value × Value)
  | [] => [(key, value)]
  | (k, v) :: rest => if equal k key then (k, value) :: rest else (k, v) :: put key value rest

/-- Removes the entry of a key. -/
def without (key : Value) : List (Value × Value) → List (Value × Value)
  | [] => []
  | (k, v) :: rest => if equal k key then rest else (k, v) :: without key rest

/-- A table whose keys are texts. -/
def record (fields : List (String × Value)) : Value := table (fields.map fun f => (text f.1, f.2))

/-- The value under a text key of a table, if there is one. -/
def field? (name : String) : Value → Option Value
  | table es => lookup (text name) es
  | _ => none

end Value

end ConfigAudit
