/-
# Checking rules

The order in which a rule is decided: a rule that is switched off comes first, then an exemption
of the device, and only then the logic of the rule, whose failures become results.  Such a failure
is noted under the names of the rule and the device; if they cannot be written, the check itself
fails.

* `Logic` : what a kind of rules adds;
* `acceptVerdict` : what of it is a verdict;
* `contract` : the order of decisions, for any logic;
* `Rule.check` : the result of a rule on a device, with the notes left on the way.
-/
import ConfigAudit.Rule.Basic

namespace ConfigAudit

/-! ## The contract -/

/-- What identifies a rule. -/
structure Header where
  /-- The id. -/
  id : Value
  /-- The name. -/
  name : Value
  /-- Whether it is switched on. -/
  enabled : Value

/-- What a kind of rules adds: which devices it concerns, and a verdict on them, which may be any
value.  Both may fail, and the verdict may leave notes. -/
structure Logic where
  /-- The tag of the kind. -/
  tag : String
  /-- Whether a device is concerned. -/
  concerns : Device → Except Fault Value
  /-- The verdict on a device. -/
  evaluate : Device → Journal × Except Fault Value

/-- Notes, and what comes of a check. -/
abbrev Checked := Journal × Except Fault CheckResult

/-- The result of a rule on a device. -/
def Header.result (h : Header) (d : Device) (o : Outcome) (comment : Value) : CheckResult :=
  ⟨h.id, h.name, .int d.id, d.name, o, comment, false⟩

/-- The comment on a failure. -/
def failureComment (f : Fault) : String := "Evaluation error: " ++ f.message

/-- The note on a failure. -/
def failureNote (h : Header) (d : Device) (f : Fault) : Except ValueFault Note :=
  namingNote h.name d fun rule device =>
    .error ("Error while checking rule '" ++ rule ++ "' on device " ++ device ++ ": " ++ f.message)

/-- Takes a verdict apart into an outcome and a comment. -/
def verdictParts (v : Value) : Except Fault (Value × Value) :=
  match v.members with
  | .error _ => .error (.verdictShape none v.fullKind)
  | .ok [a, b] => .ok (a, b)
  | .ok xs => .error (.verdictShape (some xs.length) v.fullKind)

/-- What logic reports: an outcome, or the text that one is written as. -/
structure Verdict where
  /-- The outcome. -/
  outcome : Outcome
  /-- Whether it is only given by its text. -/
  spelled : Bool := false
  deriving DecidableEq

/-- The outcomes that logic may report. -/
def verdicts : List Outcome := Outcome.all.filter Outcome.isVerdict

/-- The verdict among the outcomes that logic may report, if the value is equal to one of them: a
text is equal to the outcome that is written like it. -/
def verdict? (v : Value) : Option Verdict :=
  (verdicts.find? fun o => Value.equal (.outcome o) v).map fun o =>
    ⟨o, !(v matches .outcome _)⟩

/-- Accepts an outcome that logic may report; anything else is refused, and values that cannot be
keys, other than sets, are refused as such. -/
def acceptVerdict (tag : String) (v : Value) : Except Fault Verdict := do
  unless v matches .set _ do discard v.asKey
  match verdict? v with
  | some verdict => return verdict
  | none => throw (Fault.invalidVerdict tag v).worded

/-- What the logic of a rule says: nothing if the device is not concerned, or a verdict. -/
def Logic.judge (l : Logic) (d : Device) : Journal × Except Fault (Verdict × Value) :=
  match l.concerns d with
  | .error f => ([], .error f)
  | .ok c =>
    if !c.truthy then ([], .ok (⟨.notApplicable, false⟩, .null))
    else match l.evaluate d with
      | (notes, .error f) => (notes, .error f)
      | (notes, .ok v) => (notes, do
          let (verdict, comment) ← verdictParts v
          return (← acceptVerdict l.tag verdict, comment))

/-- Decides a rule on a device: switched off, exempted, or as its logic says. -/
def contract (h : Header) (l : Logic) (s : Subject) (now : Moment) : Checked :=
  if !h.enabled.truthy then ([], .ok (h.result s.device .disabled .null))
  else match s.isExempted h.id now with
    | .error f => ([], .error (.value f))
    | .ok true => ([], .ok (h.result s.device .exempted .null))
    | .ok false => match l.judge s.device with
      | (notes, .ok (v, comment)) =>
        (notes, .ok { h.result s.device v.outcome comment with spelled := v.spelled })
      | (notes, .error f) => match failureNote h s.device f with
        | .ok note =>
          (notes ++ [note], .ok (h.result s.device .error (.text (failureComment f))))
        | .error g => (notes, .error (.value g))

/-- A rule that is switched off is never asked. -/
theorem contract_of_disabled (h : Header) (l : Logic) (s : Subject) (now : Moment)
    (off : h.enabled.truthy = false) :
    contract h l s now = ([], .ok (h.result s.device .disabled .null)) := by
  simp [contract, off]

/-! ## Rules -/

/-- What a check depends on besides the rule and the device. -/
structure Setting where
  /-- The instant at which exemptions are judged. -/
  now : Moment
  /-- The sandboxes of the languages. -/
  sandbox : Language → Sandbox
  /-- What runs the calls of the sandboxes. -/
  interpreter : Interpreter

/-- The note of a message that a script leaves. -/
def scriptNote (name : Value) (d : Device) (m : String) : Except ValueFault Note :=
  namingNote name d fun rule device => .debug ("Rule '" ++ rule ++ "' on " ++ device ++ ": " ++ m)

/-- The verdict of a script on a device. -/
def evaluateScript (g : Setting) (l : Language) (script name : Value) (d : Device) :
    Journal × Except Fault Value :=
  match (show Except Fault _ from do
      (g.sandbox l).check g.interpreter script (← d.payload)) with
  | .error f => ([], .error f)
  | .ok (result, messages) => match messages.mapM (scriptNote name d) with
    | .ok notes => (notes, Sandbox.interpret result)
    | .error f => ([], .error (.value f))

/-- The logic of a probe. -/
def Probe.evaluate (p : Probe) (name : Value) : Journal × Except Fault Value :=
  match p with
  | .fixed verdict comment _ => ([], .ok (.pair verdict comment))
  | .failing => match name.spell with
    | .ok s => ([.warning ("about to fail " ++ s)], .error (.evaluation (.boom s)))
    | .error f => ([], .error (.value f))
  | _ => ([], .ok (.pair (.outcome .conforming) .null))

namespace Rule

/-- What identifies a rule. -/
def header (r : Rule) : Header := ⟨r.id, r.name, r.enabled⟩

/-- Which devices a rule concerns. -/
def concerns (r : Rule) (d : Device) : Value :=
  match r.body with
  | .text t => .flag (t.concerns d)
  | .probe (.fixed _ _ applicable) => applicable
  | _ => .flag true

/-- The verdict of a rule's own logic. -/
def evaluate (g : Setting) (r : Rule) (d : Device) : Journal × Except Fault Value :=
  match r.body with
  | .generic => ([], .ok (.pair (.outcome .notApplicable) .null))
  | .text t => t.evaluate r.name d
  | .script l s => evaluateScript g l s r.name d
  | .standIn reason => ([], do throw (.evaluation (.unusable (← reason.spell))))
  | .probe p => p.evaluate r.name

/-- The logic of a rule. -/
def logic (g : Setting) (r : Rule) : Logic :=
  ⟨r.body.tag, fun d => .ok (r.concerns d), r.evaluate g⟩

/-- The result of a rule on a device, with the notes left on the way. -/
def check (g : Setting) (r : Rule) (s : Subject) : Checked :=
  match r.body with
  | .probe .crashing => ([], .error (.crash "crashed outside the rule contract"))
  | _ => contract r.header (r.logic g) s g.now

/-- The result for a rule that could not be asked. -/
def crashResult (r : Rule) (d : Device) (f : Fault) : CheckResult :=
  r.header.result d .error (.text (failureComment f))

/-- The result of a rule on a device, whatever happens. -/
def checkSafely (g : Setting) (r : Rule) (s : Subject) : Journal × CheckResult :=
  match r.check g s with
  | (notes, .ok result) => (notes, result)
  | (notes, .error f) => (notes, r.crashResult s.device f)

/-- Whether the check of a rule gets as far as the logic of the rule. -/
def reachesLogic (g : Setting) (r : Rule) (s : Subject) : Bool :=
  r.enabled.truthy && match s.isExempted r.id g.now with
    | .ok exempted => !exempted
    | .error _ => false

/-- The calls of interpreters that a check makes. -/
def calls (g : Setting) (r : Rule) (s : Subject) : List Invocation :=
  match r.body with
  | .script l script =>
    if r.reachesLogic g s then
      match (show Except ValueFault _ from do
          (g.sandbox l).checkCall script (← s.device.payload)) with
      | .ok i => [i]
      | .error _ => []
    else []
  | _ => []

end Rule

end ConfigAudit
