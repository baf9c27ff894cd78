/-
# Kinds of rules

A document names the kind of a rule by a tag.  The known kinds are kept in a table, which is
filled at the start and then frozen, so that a tag always selects the same kind.  A table can hold
whatever has a tag and builds rules, also several kinds that have the same tag.

* `Kind` : the kinds, with their fields;
* `Kind.build` : a rule of a kind from a document;
* `RuleKind` : what can be put into a table;
* `KindTable` : the kinds under their tags.
-/
import ConfigAudit.Rule.Check

namespace ConfigAudit

/-- A kind of rules. -/
inductive Kind where
  /-- Rules without logic. -/
  | generic
  /-- Text rules. -/
  | text
  /-- Script rules. -/
  | script (language : Language)
  /-- Stand-ins. -/
  | standIn
  /-- Probes with a fixed verdict. -/
  | fixed
  /-- Probes that fail. -/
  | failing
  /-- Probes that cannot be asked. -/
  | crashing
  /-- Probes that do not return. -/
  | blocking
  /-- Probes that cancel. -/
  | cancelling
  deriving Repr, DecidableEq

namespace Kind

/-- All kinds. -/
def all : List Kind :=
  [generic, text, script .python, script .javascript, standIn, fixed, failing, crashing, blocking,
   cancelling]

/-- The fields of a kind, with their defaults. -/
def fields : Kind → List (String × Value)
  | text => [("field", .text "running_config"), ("text", .text ""), ("regexp", .flag false),
      ("invert", .flag false), ("match_all", .flag false), ("context", .null),
      ("any_block", .flag false), ("normalize", .flag false), ("driver", .null)]
  | script _ => [("script", .text "")]
  | fixed => [("verdict", .outcome .conforming), ("comment", .null), ("applicable", .flag true)]
  | _ => []

/-- A value that counts as none if it is not set. -/
def orNothing (v : Value) : Value := if v.truthy then v else .null

/-- The body of a rule of a kind, from what gives the values of its fields. -/
def body (k : Kind) (field : String → Value) : Body :=
  match k with
  | generic => .generic
  | text => .text ⟨field "field", field "text", field "regexp", field "invert", field "match_all",
      orNothing (field "context"), field "any_block", field "normalize",
      orNothing (field "driver")⟩
  | script l => .script l (field "script")
  | standIn => .standIn (.text "")
  | fixed => .probe (.fixed (field "verdict") (field "comment") (field "applicable"))
  | failing => .probe .failing
  | crashing => .probe .crashing
  | blocking => .probe .blocking
  | cancelling => .probe .cancelling

/-- A body of the kind with its defaults. -/
def defaultBody (k : Kind) : Body := k.body fun name => (k.fields.lookup name).getD .null

/-- The tag of a kind. -/
def tag (k : Kind) : String := k.defaultBody.tag

/-- The name of a kind, as it is shown to developers. -/
def title (k : Kind) : String := k.defaultBody.title

/-- The kind of a tag. -/
def ofTag? (tag : String) : Option Kind := all.find? (·.tag == tag)

/-- The fields that every rule has. -/
def commonFields : List String := ["type", "id", "name", "enabled"]

/-- Whether a key is a field of the kind. -/
def knows (k : Kind) (key : Value) : Bool :=
  (commonFields ++ k.fields.map Prod.fst).any fun name => Value.equal (.text name) key

/-- Refuses documents with fields that the kind does not know. -/
def checkFields (k : Kind) (data : Value) : Except Fault Unit := do
  let unknown ← Value.sorted ((← data.memberSet).filter fun key => !k.knows key)
  if unknown.isEmpty then return ()
  let names ← Value.joinTexts ", " unknown
  throw (.rule (.unknownFields k.tag names) (← data.get "name"))

/-- A rule of a kind from a document. -/
def build (k : Kind) (data : Value) : Except Fault Rule := do
  k.checkFields data
  let name ← data.getOr "name" (.text "")
  let enabled ← data.getOr "enabled" (.flag false)
  let id ← data.get "id"
  let id ← if id.truthy then id.toInteger else pure 0
  let field (name : String) : Value :=
    (data.field? name).getD ((k.fields.lookup name).getD .null)
  return ⟨.int id, name, .flag enabled.truthy, k.body field⟩

end Kind

/-! ## Tables of kinds -/

/-- What can be put into a table: kinds that have a tag and build rules from documents, of which
every audit knows some. -/
class RuleKind (κ : Type) where
  /-- The tag of a kind. -/
  tag : κ → String
  /-- A rule of a kind from a document. -/
  build : κ → Value → Except Fault Rule
  /-- The kinds that every audit knows. -/
  builtins : List κ

/-- The kinds under their tags, in the order in which the tags came in. -/
structure KindTable (κ : Type := Kind) where
  /-- The kinds. -/
  kinds : List (String × κ)
  /-- Whether the table can no longer change. -/
  frozen : Bool

namespace KindTable

/-- The kinds that every audit knows. -/
def builtins : List Kind := [.text, .script .python, .script .javascript]

instance : RuleKind Kind := ⟨Kind.tag, Kind.build, builtins⟩

variable {κ : Type}

/-- The table without kinds. -/
def empty : KindTable κ := ⟨[], false⟩

/-- Forbids further changes. -/
def freeze (t : KindTable κ) : KindTable κ := { t with frozen := true }

/-- The kind under a tag. -/
def lookup? (t : KindTable κ) (tag : Value) : Option κ :=
  (t.kinds.find? fun e => Value.equal (.text e.1) tag).map Prod.snd

/-- Whether there is a kind under a tag. -/
def contains (t : KindTable κ) (tag : Value) : Bool := (t.lookup? tag).isSome

/-- The kind under a tag that can be a key. -/
def find? (t : KindTable κ) (tag : Value) : Except ValueFault (Option κ) := do
  return t.lookup? (← tag.asKey)

/-- The kind under a tag, which has to be there. -/
def get (t : KindTable κ) (tag : Value) : Except Fault κ := do
  match ← t.find? tag with
  | some k => return k
  | none => throw (Fault.unknownKind tag).worded

/-- The tags in order. -/
def tags (t : KindTable κ) : List String :=
  (t.kinds.map Prod.fst).mergeSort (fun a b => decide (a ≤ b))

variable [RuleKind κ]

/-- Puts a kind under its tag, in the place of the one that is there. -/
def put (k : κ) : List (String × κ) → List (String × κ)
  | [] => [(RuleKind.tag k, k)]
  | (t, x) :: rest => if t == RuleKind.tag k then (t, k) :: rest else (t, x) :: put k rest

/-- Registers a kind under its tag. -/
def register (t : KindTable κ) (k : κ) : Except Fault (KindTable κ) :=
  if t.frozen then .error (.frozenKinds (RuleKind.tag k)) else .ok { t with kinds := put k t.kinds }

/-- Adds the kinds that every audit knows, where their tags are free, and freezes the table. -/
def withBuiltins (t : KindTable κ) : KindTable κ :=
  if t.frozen then t
  else
    let kinds := RuleKind.builtins.foldl
      (fun es k => if es.any (·.1 == RuleKind.tag k) then es else put k es) t.kinds
    ⟨kinds, true⟩

/-- The table of every audit. -/
def standard : KindTable := empty.withBuiltins

/-- A frozen table is not changed by adding kinds. -/
theorem withBuiltins_of_frozen (t : KindTable κ) (h : t.frozen = true) : t.withBuiltins = t := by
  simp [withBuiltins, h]

/-- Builds a rule from a document, whose type selects the kind. -/
def ruleOf (t : KindTable κ) (data : Value) : Except Fault Rule := do
  let tag ← data.get "type"
  if !tag.truthy then throw (.rule .missingType (← data.get "name"))
  RuleKind.build (← t.get tag) data

end KindTable

end ConfigAudit
