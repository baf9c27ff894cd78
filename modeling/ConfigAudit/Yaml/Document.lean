/-
# From nodes to values

Every tag of the core kinds stands for a kind of value.  Collections are completed level by
level, so of several faults the one nearest to the root counts, and on one level the first.

* `Node.scalarValue` : the value of a scalar;
* `Node.merged` : the entries of a mapping with those that it takes over from others;
* `Node.value` : the value of a node;
* `readDocument` : the value of a file.
-/
import ConfigAudit.Yaml.Node
import ConfigAudit.Yaml.Bytes
import ConfigAudit.Value.Convert
import ConfigAudit.Calendar.Reading

namespace ConfigAudit.Yaml

/-- Why a document has no value. -/
inductive DocumentFault where
  /-- It is not well formed. -/
  | malformed (fault : Fault)
  /-- A scalar is not what its tag says. -/
  | value (fault : ValueFault)
  /-- A date does not exist. -/
  | moment (fault : MomentFault)

/-- A fault of the values, within a context. -/
def ill {α : Type} (context : Option (Context × Mark)) (problem : Problem) (m : Mark) :
    Except DocumentFault α := .error (.malformed (.marked .values context problem m))

/-- A fault of a scalar. -/
def misread {α : Type} (f : ValueFault) : Except DocumentFault α := .error (.value f)

/-! ## Scalars -/

/-- Splits the sign off a number. -/
def signed (s : String) : Except DocumentFault (Bool × String) :=
  match s.toList with
  | [] => misread .textPosition
  | '-' :: rest => .ok (true, String.ofList rest)
  | '+' :: rest => .ok (false, String.ofList rest)
  | _ => .ok (false, s)

/-- The text of a number without the marks that group its digits. -/
def ungrouped (s : String) : String := String.ofList (s.toList.filter (· != '_'))

/-- Reads an integer. -/
def readWhole (s : String) : Except DocumentFault Int :=
  match Value.toInteger (.text s) with
  | .ok n => .ok n
  | .error f => misread f

/-- Reads an integer in a base. -/
def readInBase (base : Nat) (s : String) : Except DocumentFault Int :=
  match Decimal.readBase base s with
  | some n => .ok n
  | none => misread (.integerText base (.text s))

/-- Puts parts in base sixty together, the last one first. -/
def joinSixtieths : List Int → Int
  | [] => 0
  | n :: rest => n + 60 * joinSixtieths rest

/-- The integer that a scalar stands for. -/
def integerValue (s : String) : Except DocumentFault Int := do
  let (negative, body) ← signed (ungrouped s)
  let n ← match body.toList with
    | [] => misread .textPosition
    | ['0'] => pure 0
    | '0' :: 'b' :: rest => readInBase 2 (String.ofList rest)
    | '0' :: 'x' :: rest => readInBase 16 (String.ofList rest)
    | '0' :: _ => readInBase 8 body
    | cs =>
      if cs.contains ':' then do
        pure (joinSixtieths (← (Text.splitAt ':' body).mapM readWhole).reverse)
      else readWhole body
  return if negative then -n else n

/-- Reads a floating-point number. -/
def readNumber (s : String) : Except DocumentFault Float :=
  match Value.toNumber (.text s) with
  | .ok x => .ok x
  | .error f => misread f

/-- Adds parts in base sixty up, the last one first; `base` is the weight of the next part. -/
def sumSixtieths (sum base : Float) : List Float → Float
  | [] => sum
  | x :: rest => sumSixtieths (sum + x * base) (base * 60) rest

/-- The floating-point number that a scalar stands for. -/
def floatValue (s : String) : Except DocumentFault Float := do
  let (negative, body) ← signed (Text.lowerName (ungrouped s))
  if body == ".nan" then return 0.0 / 0.0
  let x ← if body == ".inf" then pure (1.0 / 0.0)
    else if body.toList.contains ':' then do
      pure (sumSixtieths 0.0 1.0 (← (Text.splitAt ':' body).mapM readNumber).reverse)
    else readNumber body
  return if negative then -1.0 * x else x

/-- The truth value that a scalar stands for. -/
def flagValue (s : String) : Except DocumentFault Bool :=
  let word := Text.lowerName s
  if ["yes", "true", "on"].contains word then .ok true
  else if ["no", "false", "off"].contains word then .ok false
  else misread (.missingKey (.text word))

/-- Checks a date with a time. -/
def checked (m : Moment) : Except DocumentFault Moment :=
  match m.check with
  | .ok m => .ok m
  | .error f => .error (.moment f)

/-- The date, or the date with a time, that a scalar stands for. -/
def dateValue (s : String) : Except DocumentFault Value := do
  match timestamp? s with
  | none => misread (.noOperation "NoneType" "groupdict")
  | some t =>
    let day : Date := ⟨t.year, t.month, t.day⟩
    match t.time with
    | none => return .date (← checked ⟨day, Clock.midnight, none⟩).date
    | some (hour, minute, second, micro) =>
      return .moment (← checked ⟨day, ⟨hour, minute, second, micro⟩, t.offset.map (· * 60000000)⟩)

/-- The bytes that a scalar stands for. -/
def bytesValue (s : String) (m : Mark) : Except DocumentFault (List UInt8) :=
  match decodeBytes s with
  | .ok bs => .ok bs
  | .error f => match f with
    | .notBasic .. => ill none (.codedText f.message) m
    | _ => ill none (.codedBytes f.message) m

namespace Node

/-! ## Shapes -/

mutual

/-- The text of a scalar, or the one that a mapping gives as its value. -/
def text? : Node → Except (String × Mark) String
  | scalar _ s _ => .ok s
  | sequence _ _ m => .error ("sequence", m)
  | mapping _ es m => textIn? m es
  | enclosing _ m => .error ("mapping", m)

/-- The text that entries give as a value. -/
def textIn? (m : Mark) : List (Node × Node) → Except (String × Mark) String
  | [] => .error ("mapping", m)
  | (k, v) :: rest => if k.tag == coreTag "value" then text? v else textIn? m rest

end

/-- The text of a node that must be a scalar. -/
def scalarText (n : Node) : Except DocumentFault String :=
  match n.text? with
  | .ok s => .ok s
  | .error (found, m) => ill none (.expectedNode "a scalar node" found) m

/-- The tags of collections. -/
def isCollectionTag (tag : String) : Bool :=
  ["seq", "map", "set", "omap", "pairs"].any fun name => tag == coreTag name

/-- The value of a node that is no collection. -/
def scalarValue (n : Node) : Except DocumentFault Value := do
  let tag := n.tag
  if tag == coreTag "null" then
    discard n.scalarText
    return .null
  else if tag == coreTag "bool" then return .flag (← flagValue (← n.scalarText))
  else if tag == coreTag "int" then return .int (← integerValue (← n.scalarText))
  else if tag == coreTag "float" then return .float (← floatValue (← n.scalarText))
  else if tag == coreTag "binary" then return .bytes (← bytesValue (← n.scalarText) n.mark)
  else if tag == coreTag "timestamp" then return ← dateValue (← n.scalarText)
  else if tag == coreTag "str" then return .text (← n.scalarText)
  else ill none (.unknownTag tag) n.mark

/-- The value of a node, if it needs no other nodes. -/
def immediate (n : Node) : Except DocumentFault (Option Value) :=
  match n with
  | enclosing .. => .ok none
  | n => if isCollectionTag n.tag then .ok none else do return some (← n.scalarValue)

/-! ## Merging -/

mutual

/-- The entries of a mapping: first those that it takes over from others, then its own. -/
def merged : Node → Except DocumentFault (List (Node × Node))
  | mapping _ es m => do
    let (others, own) ← mergedEntries m es
    return others ++ own
  | _ => .ok []

/-- Sorts entries into those that are taken over and those that stand there. -/
def mergedEntries (m : Mark) :
    List (Node × Node) → Except DocumentFault (List (Node × Node) × List (Node × Node))
  | [] => .ok ([], [])
  | (k, v) :: rest => do
    if k.tag == coreTag "merge" then
      let here ← match v with
        | mapping t es p => merged (mapping t es p)
        | sequence _ items _ => do pure (← mergedItems m items).reverse.flatten
        | scalar _ _ p =>
          ill (some (.constructing "a mapping", m))
            (.expectedNode "a mapping or list of mappings for merging" "scalar") p
        | enclosing .. => pure []
      let (others, own) ← mergedEntries m rest
      return (here ++ others, own)
    else
      let k := match k with
        | scalar t s p => scalar (if t == coreTag "value" then coreTag "str" else t) s p
        | k => k
      let (others, own) ← mergedEntries m rest
      return (others, (k, v) :: own)

/-- The entries of the mappings that a sequence lists. -/
def mergedItems (m : Mark) : List Node → Except DocumentFault (List (List (Node × Node)))
  | [] => .ok []
  | n :: rest => do
    let here ← match n with
      | mapping t es p => merged (mapping t es p)
      | enclosing .. => pure []
      | n =>
        let problem := Problem.expectedNode "a mapping for merging" n.shape
        ill (some (.constructing "a mapping", m)) problem n.mark
    return here :: (← mergedItems m rest)

end

/-! ## Levels -/

/-- The nodes of a level that need other nodes, after the values of the rest have been read. -/
def pending : List Node → Except DocumentFault (List Node)
  | [] => .ok []
  | n :: rest => do
    match ← n.immediate with
    | some _ => pending rest
    | none => return n :: (← pending rest)

/-- The next level below the entries of a mapping; keys need no other nodes. -/
def levelOfEntries (m : Mark) : List (Node × Node) → Except DocumentFault (List Node)
  | [] => .ok []
  | (k, v) :: rest => do
    match ← k.immediate with
    | none => ill (some (.constructing "a mapping", m)) .unhashableKey k.mark
    | some _ =>
      let here ← pending [v]
      return here ++ (← levelOfEntries m rest)

/-- The next level below a sequence of single entries. -/
def levelOfPairs (what : String) (m : Mark) : List Node → Except DocumentFault (List Node)
  | [] => .ok []
  | n :: rest => do
    let here ← match n with
      | mapping _ [(k, v)] _ => pending [k, v]
      | mapping _ es p => ill (some (.constructing what, m)) (.entryCount es.length) p
      | n =>
        let problem := Problem.expectedNode "a mapping of length 1" n.shape
        ill (some (.constructing what, m)) problem n.mark
    return here ++ (← levelOfPairs what m rest)

/-- The next level below a collection. -/
def levelOf (n : Node) : Except DocumentFault (List Node) :=
  if n.tag == coreTag "seq" then match n with
    | sequence _ items _ => pending items
    | n => ill none (.expectedNode "a sequence node" n.shape) n.mark
  else if n.tag == coreTag "omap" || n.tag == coreTag "pairs" then
    let what := if n.tag == coreTag "omap" then "an ordered map" else "pairs"
    match n with
    | sequence _ items m => levelOfPairs what m items
    | n => ill (some (.constructing what, n.mark)) (.expectedNode "a sequence" n.shape) n.mark
  else match n with
    | mapping t es m => do levelOfEntries m (← merged (mapping t es m))
    | enclosing .. => .ok []
    | n => ill none (.expectedNode "a mapping node" n.shape) n.mark

/-- The next level below several collections. -/
def levelOfAll : List Node → Except DocumentFault (List Node)
  | [] => .ok []
  | n :: rest => do return (← n.levelOf) ++ (← levelOfAll rest)

/-- Looks for faults level by level; `fuel` bounds the levels. -/
def survey : Nat → List Node → Except DocumentFault Unit
  | 0, _ => .ok ()
  | _ + 1, [] => .ok ()
  | fuel + 1, level => do survey fuel (← levelOfAll level)

mutual

/-- The number of levels of a node. -/
def depth : Node → Nat
  | scalar .. => 1
  | sequence _ items _ => depthAll items + 1
  | mapping _ es _ => depthEntries es + 1
  | enclosing .. => 1

/-- The greatest number of levels of several nodes. -/
def depthAll : List Node → Nat
  | [] => 0
  | n :: rest => max (depth n) (depthAll rest)

/-- The greatest number of levels of keys and values. -/
def depthEntries : List (Node × Node) → Nat
  | [] => 0
  | (k, v) :: rest => max (max (depth k) (depth v)) (depthEntries rest)

end

/-! ## Values -/

/-- The members of a node that is completed with others: entries, with keys as members. -/
def entries (n : Node) : List (Node × Node) :=
  match n.merged with
  | .ok es => es
  | .error _ => []

/-- The value of a node without faults; `fuel` bounds the levels. -/
def build : Nat → Node → Value
  | 0, _ => .null
  | fuel + 1, n =>
    match n.immediate with
    | .ok (some v) => v
    | .error _ => .null
    | .ok none =>
      let paired (n : Node) : Value := match n with
        | mapping _ ((k, v) :: _) _ => .pair (build fuel k) (build fuel v)
        | _ => .null
      match n with
      | sequence tag items _ =>
        if tag == coreTag "seq" then .list (items.map (build fuel)) else .list (items.map paired)
      | mapping tag _ _ =>
        let es := n.entries.foldl
          (fun acc e => Value.put (build fuel e.1) (build fuel e.2) acc) []
        if tag == coreTag "set" then .set (es.map Prod.fst) else .table es
      | _ => .null

/-- The value of a node. -/
def value (n : Node) : Except DocumentFault Value := do
  match ← n.immediate with
  | some v => return v
  | none =>
    survey (n.depth + 1) [n]
    return n.build (n.depth + 1)

end Node

/-! ## Documents -/

/-- The value of the only document of a text; nothing if there is none. -/
def readDocument (cs : List Char) : Except DocumentFault Value :=
  match Nodes.document cs with
  | .error f => .error (.malformed f)
  | .ok none => .ok .null
  | .ok (some n) => n.value

end ConfigAudit.Yaml
