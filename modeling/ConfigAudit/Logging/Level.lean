/-
# Levels of messages

Five levels of importance have names.  A level is asked for by its name, in any case of letters.

* `Level.number` : the place of a level on the scale of all messages;
* `Level.ofValue` : the level that a value asks for.
-/
import ConfigAudit.Fault

namespace ConfigAudit

/-- A level of importance that has a name. -/
inductive Level where
  /-- For authors of rules. -/
  | debug
  /-- Ordinary events. -/
  | info
  /-- Unusual events. -/
  | warning
  /-- Failures. -/
  | error
  /-- Failures that end an audit. -/
  | critical
  deriving Repr, DecidableEq

namespace Level

/-- All levels, from the least to the most important one. -/
def all : List Level := [debug, info, warning, error, critical]

/-- The name of a level. -/
def name : Level → String
  | debug => "DEBUG"
  | info => "INFO"
  | warning => "WARNING"
  | error => "ERROR"
  | critical => "CRITICAL"

/-- The place of a level on the scale of all messages. -/
def number : Level → Int
  | debug => 10
  | info => 20
  | warning => 30
  | error => 40
  | critical => 50

/-- The level of a name, in any case of letters. -/
def ofName? (s : String) : Option Level := all.find? (·.name == Text.upperName s)

/-- The level that a value asks for. -/
def ofValue (v : Value) : Except Fault Level :=
  match v.asText?, v with
  | some s, _ => match ofName? s with
    | some l => .ok l
    | none => .error (.config (.level v.plain))
  | none, .bytes _ => .error (.config (.level v.plain))
  | none, v => .error (.value (.noOperation v.fullKind "upper"))

/-- Levels have different names. -/
theorem name_injective {a b : Level} (h : a.name = b.name) : a = b := by
  cases a <;> cases b <;> first | rfl | simp [name] at h

end Level

end ConfigAudit
