/-
# Rules

A rule has an id, a name and a switch, and a body that says what it asks of a device.  The body
belongs to one of the kinds of rules: texts, scripts, rules without logic, stand-ins for rules
that could not be rebuilt, and probes, whose behaviour is fixed.

* `Rule`, `Body`, `Probe` : the kinds of rules;
* `Body.fields` : the fields of a definition;
* `Rule.record` : the document form.
-/
import ConfigAudit.Rule.Text
import ConfigAudit.Script.Sandbox

namespace ConfigAudit

/-- A rule whose behaviour is fixed, for trying out policies and audits. -/
inductive Probe where
  /-- It reports a fixed verdict with a fixed comment, if it is applicable. -/
  | fixed (verdict comment applicable : Value)
  /-- It always fails. -/
  | failing
  /-- It cannot even be asked. -/
  | crashing
  /-- It does not return while an audit lasts. -/
  | blocking
  /-- It cancels the audit that asks it. -/
  | cancelling

/-- What a rule asks of a device. -/
inductive Body where
  /-- Nothing. -/
  | generic
  /-- A text in its configuration. -/
  | text (definition : TextRule)
  /-- The verdict of a script. -/
  | script (language : Language) (script : Value)
  /-- The rule could not be rebuilt. -/
  | standIn (reason : Value)
  /-- A fixed behaviour. -/
  | probe (p : Probe)

namespace Body

/-- The tag of a kind of rules. -/
def tag : Body → String
  | generic => "generic"
  | text _ => "text"
  | script l _ => l.name
  | standIn _ => "invalid"
  | probe (.fixed ..) => "static"
  | probe .failing => "failing"
  | probe .crashing => "crashing"
  | probe .blocking => "blocking"
  | probe .cancelling => "cancelling"

/-- The name of a kind of rules, as it is shown to developers. -/
def title : Body → String
  | generic => "Rule"
  | text _ => "TextRule"
  | script .python _ => "PythonRule"
  | script .javascript _ => "JavaScriptRule"
  | standIn _ => "InvalidRule"
  | probe (.fixed ..) => "StaticRule"
  | probe .failing => "FailingRule"
  | probe .crashing => "CrashingRule"
  | probe .blocking => "BlockingRule"
  | probe .cancelling => "CancellingRule"

/-- The fields of a definition. -/
def fields : Body → List (String × Value)
  | text r => [("field", r.field), ("text", r.text), ("regexp", r.regexp), ("invert", r.invert),
      ("match_all", r.matchAll), ("context", r.context), ("any_block", r.anyBlock),
      ("normalize", r.normalize), ("driver", r.driver)]
  | script _ s => [("script", s)]
  | probe (.fixed v c a) => [("verdict", v), ("comment", c), ("applicable", a)]
  | _ => []

end Body

/-- A rule. -/
structure Rule where
  /-- Its id. -/
  id : Value
  /-- Its name. -/
  name : Value
  /-- Whether it is switched on. -/
  enabled : Value
  /-- What it asks. -/
  body : Body

namespace Rule

/-- The definition of a rule as a document. -/
def definition (r : Rule) : Value := .record r.body.fields

/-- The document form of a rule. -/
def record (r : Rule) : Value :=
  .record ([("type", .text r.body.tag), ("id", r.id), ("name", r.name), ("enabled", r.enabled)] ++
    r.body.fields)

/-- A rule as it is shown to developers. -/
def quoted (r : Rule) : String :=
  "<" ++ r.body.title ++ " id=" ++ r.id.plain ++ " name=" ++ r.name.quoted ++ ">"

/-- A rule as it is shown to users. -/
def text (r : Rule) : String :=
  "Compliance rule " ++ r.id.plain ++ " (name '" ++ r.name.plain ++ "')"

/-- Whether two rules count as the same: they are of one kind and have the same id. -/
def same (a b : Rule) : Bool := a.body.title == b.body.title && Value.equal a.id b.id

/-! ## Changes -/

/-- Gives a field of a text rule another value. -/
def setText (t : TextRule) (name : String) (v : Value) : TextRule :=
  match name with
  | "field" => { t with field := v }
  | "text" => { t with text := v }
  | "regexp" => { t with regexp := v }
  | "invert" => { t with invert := v }
  | "match_all" => { t with matchAll := v }
  | "context" => { t with context := v }
  | "any_block" => { t with anyBlock := v }
  | "normalize" => { t with normalize := v }
  | "driver" => { t with driver := v }
  | _ => t

/-- Gives a field of a definition another value. -/
def setBody (b : Body) (name : String) (v : Value) : Body :=
  match b with
  | .text t => .text (setText t name v)
  | .script l s => .script l (if name = "script" then v else s)
  | .standIn reason => .standIn (if name = "reason" then v else reason)
  | .probe (.fixed verdict comment applicable) => match name with
    | "verdict" => .probe (.fixed v comment applicable)
    | "comment" => .probe (.fixed verdict v applicable)
    | "applicable" => .probe (.fixed verdict comment v)
    | _ => b
  | b => b

/-- Gives a field of a rule another value; other names have no effect. -/
def set (r : Rule) (name : String) (v : Value) : Rule :=
  match name with
  | "id" => { r with id := v }
  | "name" => { r with name := v }
  | "enabled" => { r with enabled := v }
  | name => { r with body := setBody r.body name v }

end Rule

end ConfigAudit
