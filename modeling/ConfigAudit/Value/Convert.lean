/-
# Asking values for more

The conversions that documents go through: members, keys, numbers, sets of groups.  Each answers
or names the cause of its failure.

* `Value.members`, `Value.distinct`, `Value.sorted` : collections;
* `Value.get`, `Value.index` : keys;
* `Value.toInteger`, `Value.toNumber` : numbers.
-/
import ConfigAudit.Value.Fault
import ConfigAudit.Decimal.Read

namespace ConfigAudit

namespace Value

/-! ## Keys -/

/-- The value under a text key, or nothing; only tables can be asked. -/
def get (name : String) : Value → Except ValueFault Value
  | table es => .ok ((lookup (text name) es).getD null)
  | v => .error (.noOperation v.fullKind "get")

/-- The value under a text key with a stand-in for a missing one; only tables can be asked. -/
def getOr (v : Value) (name : String) (default : Value) : Except ValueFault Value :=
  match v with
  | table es => .ok ((lookup (text name) es).getD default)
  | v => .error (.noOperation v.fullKind "get")

/-- The value under a text key, which has to be there. -/
def index (name : String) : Value → Except ValueFault Value
  | table es => match lookup (text name) es with
    | some v => .ok v
    | none => .error (.missingKey (text name))
  | text _ => .error .textIndex
  | outcome _ => .error .textIndex
  | list _ => .error (.sequenceIndex "list")
  | pair _ _ => .error (.sequenceIndex "tuple")
  | bytes _ => .error (.sequenceIndex "byte")
  | v => .error (.notSubscriptable v.fullKind)

/-! ## Members -/

/-- The members of a value. -/
def members : Value → Except ValueFault (List Value)
  | list xs => .ok xs
  | pair a b => .ok [a, b]
  | set xs => .ok xs
  | table es => .ok (es.map Prod.fst)
  | text s => .ok (s.toList.map fun c => text (String.ofList [c]))
  | outcome o => .ok (o.text.toList.map fun c => text (String.ofList [c]))
  | bytes bs => .ok (bs.map fun b => int b.toNat)
  | v => .error (.notIterable v.fullKind)

/-- Why a value cannot be a key, if it cannot. -/
def unhashable? : Value → Option ValueFault
  | list _ => some (.unhashable "list")
  | set _ => some (.unhashable "set")
  | table _ => some (.unhashable "dict")
  | pair a b => (unhashable? a).or (unhashable? b)
  | _ => none

/-- Accepts a value as a key. -/
def asKey (v : Value) : Except ValueFault Value :=
  match v.unhashable? with
  | some f => .error f
  | none => .ok v

/-- Keeps the first of equal values. -/
def distinct (xs : List Value) : Except ValueFault (List Value) :=
  xs.foldlM (fun acc x => do
    let x ← x.asKey
    return if x.isIn acc then acc else acc ++ [x]) []

/-- The set of the members of a value. -/
def memberSet (v : Value) : Except ValueFault (List Value) := do distinct (← v.members)

/-- Reads one member as a key and a value. -/
def entryOf (index : Nat) (v : Value) : Except ValueFault (Value × Value) :=
  match v.members with
  | .error _ => .error (.entryKind index)
  | .ok [k, x] => .ok (k, x)
  | .ok xs => .error (.entryLength index xs.length)

/-- Puts entries into a table one after the other. -/
def putAll : Nat → List (Value × Value) → List Value → Except ValueFault (List (Value × Value))
  | _, es, [] => .ok es
  | i, es, x :: xs => do
    let (k, v) ← entryOf i x
    let k ← k.asKey
    putAll (i + 1) (put k v es) xs

/-- The entries of a table, or of a sequence of keys and values. -/
def toEntries : Value → Except ValueFault (List (Value × Value))
  | table es => .ok es
  | v => do putAll 0 [] (← v.members)

/-! ## Order -/

/-- The order of two values of one kind; of two values together the first ones that differ count. -/
def less (a b : Value) : Except ValueFault Bool :=
  match a, b with
  | float x, float y => .ok (x < y)
  | float x, other => match other.asInt? with
    | some n => .ok ((Decimal.Binary.ofFloat x).compareInt n == some .gt)
    | none => .error (.incomparable "<" a.fullKind b.fullKind)
  | other, float y => match other.asInt? with
    | some n => .ok ((Decimal.Binary.ofFloat y).compareInt n == some .lt)
    | none => .error (.incomparable "<" a.fullKind b.fullKind)
  | bytes x, bytes y => .ok (decide (x.map UInt8.toNat < y.map UInt8.toNat))
  | date x, date y => .ok (x.ordinal < y.ordinal)
  | moment x, moment y =>
    if x.offset.isSome == y.offset.isSome then .ok (x.isBefore y) else .error .incomparableMoments
  | date _, moment _ => .error (.incomparableDates "datetime.datetime" "datetime.date")
  | moment _, date _ => .error (.incomparableDates "datetime.datetime" "datetime.date")
  | pair a b, pair c d =>
    if equal a c then (if equal b d then .ok false else less b d) else less a c
  | a, b =>
    match a.asText?, b.asText? with
    | some x, some y => .ok (x < y)
    | _, _ => match a.asInt?, b.asInt? with
      | some n, some m => .ok (n < m)
      | _, _ => .error (.incomparable "<" a.fullKind b.fullKind)

/-- Inserts a value behind the values that are not greater, `xs` being sorted downwards. -/
def insertDown (x : Value) : List Value → Except ValueFault (List Value)
  | [] => .ok [x]
  | y :: ys => do
    if ← less x y then return y :: (← insertDown x ys)
    return x :: y :: ys

/-- Sorts values upwards, if each can be compared with its neighbours. -/
def sorted (xs : List Value) : Except ValueFault (List Value) := do
  return (← xs.foldlM (fun acc x => insertDown x acc) []).reverse

/-- Joins values that must be texts. -/
def joinTexts (sep : String) (xs : List Value) : Except ValueFault String := do
  let parts ← xs.zipIdx.mapM fun (x, i) => match x.asText? with
    | some s => Except.ok s
    | none => .error (.joinKind i x.kind)
  return Text.join sep parts

/-! ## Numbers -/

/-- The blanks around a number that are ignored: in a basic text only the plain ones. -/
def numberText (s : String) : Option String :=
  let cs := s.toList
  if cs.all (·.toNat < 0x80) then
    let body := Text.strip s
    let plainBlank (c : Char) : Bool := c == ' ' || (0x09 ≤ c.toNat && c.toNat ≤ 0x0d)
    let edge := cs.takeWhile Text.isBlank ++ cs.reverse.takeWhile Text.isBlank
    if edge.all plainBlank then some body else none
  else some s

/-- How many decimal digits a text holds. -/
def countDigits (s : String) : Nat := (s.toList.filter Text.isDecimal).length

/-- Reads a text as an integer; `v` is the value that the text belongs to. -/
def integerOfText (v : Value) (s : String) : Except ValueFault Int :=
  match (numberText s).bind Decimal.readInteger with
  | some n =>
    if Decimal.digitLimit < countDigits s then .error (.integerLength (countDigits s)) else .ok n
  | none => .error (.integerText 10 v)

/-- The integer part of a floating-point number. -/
def integerOfFloat (x : Float) : Except ValueFault Int :=
  match Decimal.Binary.ofFloat x with
  | .nan => .error .integerNaN
  | .infinite _ => .error .integerInfinite
  | b => match b.truncate? with
    | some n => .ok n
    | none => .error .integerNaN

/-- The text that bytes spell, if they are all basic. -/
def basicText? (bs : List UInt8) : Option String :=
  if bs.all (·.toNat < 0x80) then some (String.ofList (bs.map fun b => Char.ofNat b.toNat)) else none

/-- The integer that a value stands for. -/
def toInteger : Value → Except ValueFault Int
  | flag b => .ok (if b then 1 else 0)
  | int n => .ok n
  | float x => integerOfFloat x
  | text s => integerOfText (text s) s
  | outcome o => integerOfText (outcome o) o.text
  | bytes bs => match basicText? bs with
    | some s => integerOfText (bytes bs) s
    | none => .error (.integerText 10 (bytes bs))
  | v => .error (.integerKind v.fullKind)

/-- Reads a text as a number; `v` is the value that the text belongs to. -/
def numberOfText (v : Value) (s : String) : Except ValueFault Float :=
  match (numberText s).bind Decimal.readFloat with
  | some x => .ok x
  | none => .error (.floatText v)

/-- The floating-point number that a value stands for. -/
def toNumber : Value → Except ValueFault Float
  | float x => .ok x
  | flag b => .ok (if b then 1.0 else 0.0)
  | int n => match Decimal.floatOfInt? n with
    | some x => .ok x
    | none => .error .floatRange
  | text s => numberOfText (text s) s
  | outcome o => numberOfText (outcome o) o.text
  | bytes bs => match basicText? bs with
    | some s => numberOfText (bytes bs) s
    | none => .error (.floatText (bytes bs))
  | v => .error (.floatKind v.fullKind)

end Value

end ConfigAudit
