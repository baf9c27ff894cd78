/-
# Nodes

A node is a scalar, a sequence or a mapping, with a tag.  A reference to an anchor is the node
that has it.  Within that very node it is a copy of the node, and only a reference within the copy
is a node of its own.

* `Node` : the nodes;
* `Nodes.document` : the node of the only document, from its tokens.
-/
import ConfigAudit.Yaml.Token.Lexer
import ConfigAudit.Yaml.Tag

namespace ConfigAudit.Yaml

/-- A node of a document. -/
inductive Node where
  /-- A text. -/
  | scalar (tag text : String) (mark : Mark)
  /-- A sequence of nodes. -/
  | sequence (tag : String) (items : List Node) (mark : Mark)
  /-- Nodes under nodes. -/
  | mapping (tag : String) (entries : List (Node × Node)) (mark : Mark)
  /-- A reference to the node around it that has this anchor.  Values have no cycles; where such a
  reference is left there is nothing in its place. -/
  | enclosing (anchor : String) (mark : Mark)
  deriving Inhabited

namespace Node

/-- Where a node begins. -/
def mark : Node → Mark
  | scalar _ _ m => m
  | sequence _ _ m => m
  | mapping _ _ m => m
  | enclosing _ m => m

/-- The tag of a node. -/
def tag : Node → String
  | scalar t _ _ => t
  | sequence t _ _ => t
  | mapping t _ _ => t
  | enclosing .. => ""

/-- The shape of a node. -/
def shape : Node → String
  | scalar .. => "scalar"
  | sequence .. => "sequence"
  | mapping .. => "mapping"
  | enclosing .. => "mapping"

/-- A scalar that is not written. -/
def absent (m : Mark) : Node := scalar (coreTag "null") "" m

mutual

/-- Puts a node in the place of the references to an anchor. -/
def withAnchor (anchor : String) (n : Node) : Node → Node
  | scalar t s m => scalar t s m
  | sequence t items m => sequence t (withAnchorAll anchor n items) m
  | mapping t es m => mapping t (withAnchorEntries anchor n es) m
  | enclosing a m => if a == anchor then n else enclosing a m

/-- The same in several nodes. -/
def withAnchorAll (anchor : String) (n : Node) : List Node → List Node
  | [] => []
  | x :: rest => withAnchor anchor n x :: withAnchorAll anchor n rest

/-- The same in keys and values. -/
def withAnchorEntries (anchor : String) (n : Node) : List (Node × Node) → List (Node × Node)
  | [] => []
  | (k, v) :: rest =>
    (withAnchor anchor n k, withAnchor anchor n v) :: withAnchorEntries anchor n rest

end

end Node

/-! ## Reading tokens -/

/-- What is known while nodes are built. -/
structure Nodes where
  /-- The tokens to come. -/
  tokens : List Token
  /-- Why there are no more tokens, if there is a reason. -/
  fault : Option Fault
  /-- The anchors: where they are, and their nodes if these are complete. -/
  anchors : List (String × Mark × Option Node)
  /-- The handles of tags, with what they stand for. -/
  handles : List (String × String)

/-- Building nodes can fail. -/
abbrev Building := StateT Nodes (Except Fault)

namespace Nodes

/-- What tokens are missing for, if the tokens end without reason. -/
def exhausted : Fault := .character 0 0

/-- The next token, which stays. -/
def peek : Building Token := do
  let s ← get
  match s.tokens with
  | t :: _ => return t
  | [] => throw (s.fault.getD exhausted)

/-- Passes the next token. -/
def pop : Building Unit := modify fun s => { s with tokens := s.tokens.drop 1 }

/-- A fault at a token. -/
def failAt {α : Type} (context : Option (Context × Mark)) (problem : Problem) (m : Mark) :
    Building α := throw (.marked .form context problem m)

/-- A fault of a token in place of another one. -/
def unexpected {α : Type} (context : Option (Context × Mark)) (what verb : String) (t : Token) :
    Building α := failAt context (.expectedToken what verb t.kind.label) t.start

/-! ## Properties -/

/-- What stands before the content of a node. -/
structure Properties where
  /-- The anchor. -/
  anchor : Option String
  /-- The tag, with its handle. -/
  tag : Option (Option String × String)
  /-- Where the properties begin. -/
  start : Option Mark
  /-- Where the tag begins. -/
  tagStart : Mark

/-- Reads an anchor and a tag, in either order. -/
def properties : Building Properties := do
  let first ← peek
  match first.kind with
  | .anchor name =>
    pop
    let second ← peek
    match second.kind with
    | .tag handle suffix =>
      pop
      return ⟨some name, some (handle, suffix), some first.start, second.start⟩
    | _ => return ⟨some name, none, some first.start, first.start⟩
  | .tag handle suffix =>
    pop
    let second ← peek
    match second.kind with
    | .anchor name =>
      pop
      return ⟨some name, some (handle, suffix), some first.start, first.start⟩
    | _ => return ⟨none, some (handle, suffix), some first.start, first.start⟩
  | _ => return ⟨none, none, none, first.start⟩

/-- The full form of a tag. -/
def fullTag (p : Properties) (start : Mark) : Building (Option String) := do
  match p.tag with
  | none => return none
  | some (none, suffix) => return some suffix
  | some (some handle, suffix) =>
    match (← get).handles.lookup handle with
    | some front => return some (front ++ suffix)
    | none => failAt (some (.parsing "a node", start)) (.undefinedHandle handle) p.tagStart

/-- Notes an anchor of a node that begins; anchors are not used twice. -/
def openAnchor (anchor : Option String) (start : Mark) : Building Unit := do
  match anchor with
  | none => return ()
  | some name =>
    match (← get).anchors.lookup name with
    | some (first, _) =>
      throw (.marked .references (some (.duplicateAnchor name, first)) .secondOccurrence start)
    | none => modify fun s => { s with anchors := (name, start, none) :: s.anchors }

/-- Notes the node of an anchor; the references to it that stand within it are copies. -/
def closeAnchor (anchor : Option String) (n : Node) : Building Node := do
  match anchor with
  | none => return n
  | some name =>
    let n := n.withAnchor name n
    modify fun s => { s with anchors := (name, n.mark, some n) :: s.anchors }
    return n

/-- The node that a reference means. -/
def refer (name : String) (m : Mark) : Building Node := do
  match (← get).anchors.lookup name with
  | none => throw (.marked .references none (.undefinedAlias name) m)
  | some (_, some n) => return n
  | some (_, none) => return .enclosing name m

/-! ## Nodes -/

/-- Whether a tag leaves the kind of a node open. -/
def isOpen (tag : Option String) : Bool := tag.all (· == "!")

/-- The tag of a collection. -/
def collectionTag (tag : Option String) (name : String) : String :=
  if isOpen tag then coreTag name else tag.getD ""

/-- The tag of a scalar. -/
def scalarTag (tag : Option String) (text : String) (plain : Bool) : String :=
  match tag with
  | none => if plain then implicitTag text else coreTag "str"
  | some "!" => implicitTag text
  | some tag => tag

/-- The tokens before which no member of an indented sequence stands. -/
def endsMember : TokenKind → Bool
  | .entry => true
  | .blockEnd => true
  | _ => false

/-- The tokens before which no member of a sequence without indentation stands. -/
def endsLooseMember : TokenKind → Bool
  | .key => true
  | .value => true
  | k => endsMember k

/-- The tokens before which no part of an indented mapping stands. -/
def endsBlockPart : TokenKind → Bool
  | .key => true
  | .value => true
  | .blockEnd => true
  | _ => false

/-- The tokens before which no key stands within brackets. -/
def endsFlowKey (closing : TokenKind → Bool) : TokenKind → Bool
  | .value => true
  | .comma => true
  | k => closing k

/-- The tokens before which no value stands within brackets. -/
def endsFlowValue (closing : TokenKind → Bool) : TokenKind → Bool
  | .comma => true
  | k => closing k

/-- The end of a bracketed sequence. -/
def closesSequence : TokenKind → Bool
  | .flowSequenceEnd => true
  | _ => false

/-- The end of a bracketed mapping. -/
def closesMapping : TokenKind → Bool
  | .flowMappingEnd => true
  | _ => false

/-- Passes the comma between two members; `closing` names the mark that may stand there too. -/
def separator (what closing : String) (opened : Mark) : Building Unit := do
  let t ← peek
  match t.kind with
  | .comma => pop
  | _ => unexpected (some (.parsing what, opened)) ("',' or '" ++ closing ++ "'") "got" t

mutual

/-- Reads a node; `block` says whether it may be indented, and `loose` whether it may be a
sequence without indentation. -/
def node (block loose : Bool) : Nat → Building Node
  | 0 => throw exhausted
  | fuel + 1 => do
    let first ← peek
    match first.kind with
    | .anchorRef name =>
      pop
      refer name first.start
    | _ =>
      let p ← properties
      let tag ← fullTag p (p.start.getD first.start)
      let t ← peek
      let start := p.start.getD t.start
      match t.kind, block with
      | .scalar text plain, _ =>
        pop
        openAnchor p.anchor start
        closeAnchor p.anchor (.scalar (scalarTag tag text plain) text start)
      | .flowSequence, _ =>
        openAnchor p.anchor start
        pop
        let items ← flowItems t.start true fuel
        closeAnchor p.anchor (.sequence (collectionTag tag "seq") items start)
      | .flowMapping, _ =>
        openAnchor p.anchor start
        pop
        let entries ← flowEntries t.start true fuel
        closeAnchor p.anchor (.mapping (collectionTag tag "map") entries start)
      | .blockSequence, true =>
        openAnchor p.anchor start
        pop
        let items ← blockItems t.start fuel
        closeAnchor p.anchor (.sequence (collectionTag tag "seq") items start)
      | .blockMapping, true =>
        openAnchor p.anchor start
        pop
        let entries ← blockEntries t.start fuel
        closeAnchor p.anchor (.mapping (collectionTag tag "map") entries start)
      | kind, _ =>
        if loose && (match kind with | .entry => true | _ => false) then
          openAnchor p.anchor start
          let items ← looseItems fuel
          closeAnchor p.anchor (.sequence (collectionTag tag "seq") items start)
        else if p.anchor.isSome || tag.isSome then
          openAnchor p.anchor start
          closeAnchor p.anchor (.scalar (scalarTag tag "" true) "" start)
        else
          unexpected (some (.parsing (if block then "a block node" else "a flow node"), start))
            "the node content" "found" t

/-- Reads the members of an indented sequence. -/
def blockItems (opened : Mark) : Nat → Building (List Node)
  | 0 => throw exhausted
  | fuel + 1 => do
    let t ← peek
    match t.kind with
    | .entry =>
      pop
      let item ← part true false endsMember t.stop fuel
      return item :: (← blockItems opened fuel)
    | .blockEnd =>
      pop
      return []
    | _ => unexpected (some (.parsing "a block collection", opened)) "<block end>" "found" t

/-- Reads the members of a sequence without indentation. -/
def looseItems : Nat → Building (List Node)
  | 0 => throw exhausted
  | fuel + 1 => do
    let t ← peek
    match t.kind with
    | .entry =>
      pop
      let item ← part true false endsLooseMember t.stop fuel
      return item :: (← looseItems fuel)
    | _ => return []

/-- Reads the entries of an indented mapping. -/
def blockEntries (opened : Mark) : Nat → Building (List (Node × Node))
  | 0 => throw exhausted
  | fuel + 1 => do
    let t ← peek
    match t.kind with
    | .key =>
      pop
      let key ← part true true endsBlockPart t.stop fuel
      let value ← valuePart true true endsBlockPart fuel
      return (key, value) :: (← blockEntries opened fuel)
    | .blockEnd =>
      pop
      return []
    | _ => unexpected (some (.parsing "a block mapping", opened)) "<block end>" "found" t

/-- Reads the members of a bracketed sequence. -/
def flowItems (opened : Mark) (first : Bool) : Nat → Building (List Node)
  | 0 => throw exhausted
  | fuel + 1 => do
    if closesSequence (← peek).kind then
      pop
      return []
    if !first then separator "a flow sequence" "]" opened
    let t ← peek
    match t.kind with
    | .key =>
      pop
      let key ← part false false (endsFlowKey closesSequence) t.stop fuel
      let value ← valuePart false false (endsFlowValue closesSequence) fuel
      let item := Node.mapping (coreTag "map") [(key, value)] t.start
      return item :: (← flowItems opened false fuel)
    | .flowSequenceEnd =>
      pop
      return []
    | _ =>
      let item ← node false false fuel
      return item :: (← flowItems opened false fuel)

/-- Reads the entries of a bracketed mapping. -/
def flowEntries (opened : Mark) (first : Bool) : Nat → Building (List (Node × Node))
  | 0 => throw exhausted
  | fuel + 1 => do
    if closesMapping (← peek).kind then
      pop
      return []
    if !first then separator "a flow mapping" "\x7d" opened
    let t ← peek
    match t.kind with
    | .key =>
      pop
      let key ← part false false (endsFlowKey closesMapping) t.stop fuel
      let value ← valuePart false false (endsFlowValue closesMapping) fuel
      return (key, value) :: (← flowEntries opened false fuel)
    | .flowMappingEnd =>
      pop
      return []
    | _ =>
      let key ← node false false fuel
      let value := Node.absent (← peek).start
      return (key, value) :: (← flowEntries opened false fuel)

/-- Reads a node behind a mark that ends at a place, unless the next token says that there is
none. -/
def part (block loose : Bool) (ends : TokenKind → Bool) (m : Mark) : Nat → Building Node
  | 0 => throw exhausted
  | fuel + 1 => do
    if ends (← peek).kind then return .absent m
    node block loose fuel

/-- Reads the value behind a key, which may be missing. -/
def valuePart (block loose : Bool) (ends : TokenKind → Bool) : Nat → Building Node
  | 0 => throw exhausted
  | fuel + 1 => do
    let t ← peek
    match t.kind with
    | .value =>
      pop
      part block loose ends t.stop fuel
    | _ => return .absent t.start

end

/-! ## Documents -/

/-- The handles that every document knows. -/
def commonHandles : List (String × String) := [("!", "!"), ("!!", coreTag "")]

/-- Reads the instructions before a document. -/
def instructions : Nat → Bool → List (String × String) → Building Unit
  | 0, _, _ => throw exhausted
  | fuel + 1, versioned, handles => do
    let t ← peek
    match t.kind with
    | .version major =>
      pop
      if versioned then failAt none .duplicateVersion t.start
      if major ≠ 1 then failAt none .incompatibleVersion t.start
      instructions fuel true handles
    | .handle name front =>
      pop
      if (handles.lookup name).isSome then failAt none (.duplicateHandle name) t.start
      instructions fuel versioned ((name, front) :: handles)
    | .instruction =>
      pop
      instructions fuel versioned handles
    | _ => modify fun s => { s with handles := handles ++ commonHandles }

/-- Passes marks of the end of a document. -/
def skipEnds : Nat → Building Unit
  | 0 => return ()
  | fuel + 1 => do
    match (← peek).kind with
    | .documentEnd =>
      pop
      skipEnds fuel
    | _ => return ()

/-- Reads the beginning of a document, if there is one more. -/
def nextDocument (fuel : Nat) : Building (Option Mark) := do
  skipEnds fuel
  let t ← peek
  match t.kind with
  | .streamEnd => return none
  | _ =>
    instructions fuel false []
    let mark ← peek
    match mark.kind with
    | .documentStart =>
      pop
      return some t.start
    | _ => unexpected none "'<document start>'" "found" mark

/-- The tokens that follow a document. -/
def endsDocument : TokenKind → Bool
  | .version _ => true
  | .handle .. => true
  | .instruction => true
  | .documentStart => true
  | .documentEnd => true
  | .streamEnd => true
  | _ => false

/-- Whether the first document begins with a mark or an instruction, or there is none. -/
def isAnnounced : TokenKind → Bool
  | .documentEnd => false
  | k => endsDocument k

/-- Reads the content of a document that was announced. -/
def announced (fuel : Nat) : Building Node := do
  let t ← peek
  if endsDocument t.kind then return .absent t.start
  node true false fuel

/-- Reads the only document. -/
def single (fuel : Nat) : Building (Option Node) := do
  let content ← if isAnnounced (← peek).kind then do
      match ← nextDocument fuel with
      | none => return none
      | some _ => announced fuel
    else node true false fuel
  match ← nextDocument fuel with
  | none => return some content
  | some m =>
    throw (.marked .references (some (.singleDocument, content.mark)) .anotherDocument m)

/-- The node of the only document, from its characters. -/
def document (cs : List Char) : Except Fault (Option Node) := do
  checkCharacters 0 cs
  let (ts, fault) := Yaml.tokens cs
  let (n, _) ← (single (4 * ts.length + 8)).run ⟨ts, fault, [], commonHandles⟩
  return n

end Nodes

end ConfigAudit.Yaml
