/-
# Text rules

A text rule asks that the configuration data of a device holds, or does not hold, a text.  The
configuration can be cut into blocks first: a block is a line that a pattern is found in, with
the lines behind it that are blank or indented deeper.

* `namingNote` : a note that names a rule and a device, if both can be named;
* `TextRule.blocksFrom` : cuts lines into blocks;
* `TextRule.found` : whether the text is found in a block;
* `TextRule.evaluate` : the verdict on a device, with a note in the journal;
* `TextRule.defect?` : why a definition is not acceptable.
-/
import ConfigAudit.Device
import ConfigAudit.Journal
import ConfigAudit.Pattern.Match
import ConfigAudit.Pattern.Reader

namespace ConfigAudit

/-! ## Notes -/

/-- Whether the names of a rule and of a device can be written. -/
def areNamed (name : Value) (d : Device) : Bool := name.isSpellable && d.name.isSpellable

/-- A note that names a rule and a device. -/
def namingNote (name : Value) (d : Device) (note : String → String → Note) :
    Except ValueFault Note := do
  let rule ← name.spell
  let device ← d.name.spell
  return note rule device

section Naming

variable {name : Value} {d : Device}

/-- Names that can be written are written into notes. -/
theorem namingNote_of_areNamed (h : areNamed name d = true) (note : String → String → Note) :
    namingNote name d note = .ok (note name.plain d.name.plain) := by
  obtain ⟨hn, hd⟩ := Bool.and_eq_true_iff.1 h
  simp [namingNote, Value.spell_of_isSpellable hn, Value.spell_of_isSpellable hd]
  rfl

/-- Without names that can be written there is no note. -/
theorem namingNote_of_not_areNamed (h : areNamed name d = false) (note : String → String → Note) :
    namingNote name d note = .error .integerSize := by
  cases hn : name.isSpellable with
  | false => simp [namingNote, Value.spell_of_not_isSpellable hn]; rfl
  | true =>
    have hd : d.name.isSpellable = false := by simpa [areNamed, hn] using h
    simp [namingNote, Value.spell_of_isSpellable hn, Value.spell_of_not_isSpellable hd]
    rfl

end Naming

/-! ## Text rules -/

/-- The definition of a text rule, as it was written. -/
structure TextRule where
  /-- The configuration attribute to look into. -/
  field : Value
  /-- What to look for. -/
  text : Value
  /-- Whether the text is a regular expression. -/
  regexp : Value
  /-- The text must not be found if this is set. -/
  invert : Value
  /-- Whether the text has to cover the whole block. -/
  matchAll : Value
  /-- The pattern of the first line of a block, if there are blocks. -/
  context : Value
  /-- Whether one block is enough. -/
  anyBlock : Value
  /-- Whether lines are stripped and blank ones dropped. -/
  normalize : Value
  /-- The driver of the devices that are concerned, if not all are. -/
  driver : Value

namespace TextRule

/-! ## Patterns -/

/-- A pattern that is ready to be looked for. -/
inductive Ready where
  /-- A pattern for texts. -/
  | node (n : Pattern.Node)
  /-- A pattern for bytes, which no text can be matched against. -/
  | bytes

/-- Reads a value as a pattern. -/
def readPattern (flags : Pattern.Flags) (v : Value) : Except Fault Ready := do
  let v ← v.asKey
  match v.asText?, v with
  | some s, _ => match Pattern.read flags s with
    | .ok n => return .node n
    | .error f => throw (.pattern f)
  | none, .bytes bs =>
    match Pattern.read flags (String.ofList (bs.map fun b => Char.ofNat b.toNat)) with
    | .ok _ => return .bytes
    | .error f => throw (.pattern f)
  | none, _ => throw .patternKind

/-- Whether a pattern is found in a text; `whole` asks that it covers the text. -/
def Ready.found (whole : Bool) (s : String) : Ready → Except Fault Bool
  | node n => .ok (if whole then Pattern.matchesWhole n s else Pattern.search n s)
  | bytes => .error .bytesPattern

/-! ## Blocks -/

/-- A block of lines under its first one. -/
structure Block where
  /-- The first line, stripped; empty for a whole configuration. -/
  header : String
  /-- The lines. -/
  lines : List String
  deriving DecidableEq, Repr

/-- The text of a block. -/
def Block.text (b : Block) : String := Text.joinLines b.lines

/-- Whether a line belongs to the block of a line of the given indentation. -/
def isInside (depth : Nat) (line : String) : Bool :=
  Text.isBlankText line || decide (depth < Text.indentation line)

/-- A block that is being read: the indentation of its first line, and its lines in reverse. -/
structure OpenBlock where
  /-- The indentation of the first line. -/
  depth : Nat
  /-- The first line, stripped. -/
  header : String
  /-- The lines so far, the latest first. -/
  lines : List String

/-- The finished block. -/
def OpenBlock.close (b : OpenBlock) : Block := ⟨b.header, b.lines.reverse⟩

/-- The block that a line opens, if it is a first line. -/
def openAt (isFirst : String → Bool) (line : String) : Option OpenBlock :=
  if isFirst line then some ⟨Text.indentation line, Text.strip line, [line]⟩ else none

/-- Cuts lines into the blocks whose first lines are chosen. -/
def blocksFrom (isFirst : String → Bool) : Option OpenBlock → List String → List Block
  | none, [] => []
  | some b, [] => [b.close]
  | none, line :: rest => blocksFrom isFirst (openAt isFirst line) rest
  | some b, line :: rest =>
    if isInside b.depth line then blocksFrom isFirst (some { b with lines := line :: b.lines }) rest
    else b.close :: blocksFrom isFirst (openAt isFirst line) rest

/-- The blocks of a configuration: one unnamed block if the rule has no context. -/
def blocks (r : TextRule) (configuration : String) : Except Fault (List Block) := do
  let lines := Text.splitLines configuration
  if !r.context.truthy then return [⟨"", lines⟩]
  match ← readPattern {} r.context with
  | .node n => return blocksFrom (Pattern.search n) none lines
  | .bytes => if lines.isEmpty then return [] else throw .bytesPattern

/-! ## Finding -/

/-- Strips the lines of a text and drops the blank ones. -/
def stripLines (s : String) : String :=
  Text.joinLines (((Text.splitLines s).filter fun l => !Text.isBlankText l).map Text.strip)

/-- Whether the text of the rule is found in a text. -/
def found (r : TextRule) (s : String) : Except Fault Bool := do
  let s := if r.normalize.truthy then stripLines s else s
  let whole := r.matchAll.truthy
  if r.regexp.truthy then
    (← readPattern { multiline := true, dotAll := whole } r.text).found whole s
  else if whole then return Value.equal (.text s) r.text
  else match r.text.asText? with
    | some t => return Text.occursIn t s
    | none => throw (.value (.bytesContainment r.text.fullKind))

/-- Whether a text fails the rule. -/
def fails (r : TextRule) (s : String) : Except Fault Bool := do
  return Value.equal (.flag (← r.found s)) r.invert

/-! ## Verdicts -/

/-- How many failing blocks a comment names. -/
def shownBlocks : Nat := 5

/-- The names of failing blocks. -/
def describeBlocks (headers : List String) : String :=
  let shown := (headers.take shownBlocks).map fun h => "'" ++ h ++ "'"
  Text.join ", " shown ++
    (if headers.length > shownBlocks then " and " ++ toString (headers.length - shownBlocks) ++ " more"
     else "")

/-- What the rule finds wrong, for a text that must be found or must not be. -/
def complaint (r : TextRule) (forbidden : Bool) : String :=
  let what := if r.regexp.truthy then "pattern" else "text"
  if forbidden then "Forbidden " ++ what ++ " '" ++ r.text.plain ++ "' found in " ++ r.field.plain
  else "Expected " ++ what ++ " '" ++ r.text.plain ++ "' not found in " ++ r.field.plain

/-- What is wrong with the failing blocks. -/
def description (r : TextRule) (headers : List String) : String :=
  r.complaint r.invert.truthy ++
    (if r.context.truthy then " (block(s): " ++ describeBlocks headers ++ ")" else "")

/-- Says what is wrong with the failing blocks, if the text and the field can be written. -/
def describe (r : TextRule) (headers : List String) : Except ValueFault String :=
  if r.text.isSpellable && r.field.isSpellable then .ok (r.description headers)
  else .error .integerSize

/-- The verdict on blocks of which some fail. -/
def judge (r : TextRule) (blocks : List Block) : Except Fault Value := do
  let failing ← blocks.filterM fun b => r.fails b.text
  let conforming :=
    if r.anyBlock.truthy then decide (failing.length < blocks.length) else failing.isEmpty
  if conforming then return .pair (.outcome .conforming) .null
  return .pair (.outcome .nonConforming) (.text (← r.describe (failing.map (·.header))))

/-- The configuration that the rule looks into. -/
def configuration (r : TextRule) (d : Device) : Except Fault String := do
  let v ← d.configuration r.field
  v.spellText

/-- The note that blocks are looked into. -/
def checkingNote (name : Value) (count : Nat) (d : Device) : Except ValueFault Note :=
  namingNote name d fun rule device =>
    .debug ("Rule '" ++ rule ++ "': checking " ++ toString count ++ " block(s) of " ++ device)

/-- The verdict on a device, with what is noted; `name` is the name of the rule. -/
def evaluate (r : TextRule) (name : Value) (d : Device) : Journal × Except Fault Value :=
  match r.configuration d >>= r.blocks with
  | .error f => ([], .error f)
  | .ok [] => ([], do
      return .pair (.outcome .nonConforming)
        (.text ("No configuration block matches context '" ++ (← r.context.spell) ++ "'")))
  | .ok blocks => match checkingNote name blocks.length d with
    | .error f => ([], .error (.value f))
    | .ok note => ([note], r.judge blocks)

/-- Whether the rule concerns a device. -/
def concerns (r : TextRule) (d : Device) : Bool :=
  !r.driver.truthy || Value.equal d.driver r.driver

/-! ## Definitions -/

/-- Why a field of the definition is no text, if it is none. -/
def kindDefect? (label : String) (optional : Bool) (v : Value) : Option RuleDefect :=
  if v matches .null then (if optional then none else some (.fieldKind label v.kind))
  else if v.isText then none
  else some (.fieldKind label v.kind)

/-- Why a field is no regular expression, if it is none. -/
def checkPattern (label : String) (name v : Value) : Except Fault Unit :=
  match v.asText? with
  | none => .ok ()
  | some s => match Pattern.read {} s with
    | .ok _ => .ok ()
    | .error (.illFormed cause place) =>
      .error (.rule (.illFormed label v.plain (.illFormed cause place)) name)
    | .error f => .error (.pattern f)

/-- Checks the definition; `name` is the name of the rule. -/
def validate (r : TextRule) (name : Value) : Except Fault Unit := do
  let kinds := [kindDefect? "field" false r.field, kindDefect? "text" false r.text,
    kindDefect? "context" true r.context, kindDefect? "driver" true r.driver]
  match kinds.findSome? id with
  | some defect => throw (.rule defect name)
  | none =>
    if !r.field.truthy then throw (.rule .missingField name)
    if !r.text.truthy then throw (.rule .missingText name)
    checkPattern "context" name r.context
    if r.regexp.truthy then checkPattern "text" name r.text

end TextRule

end ConfigAudit
