/-
# Results of checks

A result ties the outcome of checking one rule on one device to the identities of both.  The date
of the check is kept for documents and has no part in comparisons.  The outcome may be given by the
text that it is written as; such a result is the same as one with the outcome, and counts among the
problems like it, but it cannot be written.

* `CheckResult.text`, `CheckResult.line` : the line of a report, and the line if there is one;
* `DatedResult.record`, `DatedResult.ofValue` : the document form.
-/
import ConfigAudit.Fault
import ConfigAudit.Value.Convert

namespace ConfigAudit

/-- The outcome that a value names: an outcome, or the text of one. -/
def Outcome.ofValue (v : Value) : Except ValueFault Outcome :=
  match v with
  | .outcome o => .ok o
  | .text s => match Outcome.ofText? s with
    | some o => .ok o
    | none => .error (.unknownOutcome v)
  | v => .error (if v.isSpellable then .unknownOutcome v else .integerSize)

/-- The result of checking one rule on one device. -/
structure CheckResult where
  /-- The id of the rule. -/
  ruleId : Value
  /-- The name of the rule. -/
  ruleName : Value
  /-- The id of the device. -/
  deviceId : Value
  /-- The name of the device. -/
  deviceName : Value
  /-- The outcome. -/
  outcome : Outcome
  /-- What else is to be said. -/
  comment : Value
  /-- Whether the outcome is only given by the text that it is written as. -/
  spelled : Bool := false

namespace CheckResult

/-- Whether the result is to be reported as a problem. -/
def isFailure (r : CheckResult) : Bool := r.outcome.isFailure

/-- A part of the outcome; a text that stands for an outcome has no parts. -/
def part (r : CheckResult) (name : String) (f : Outcome → String) : Except ValueFault String :=
  if r.spelled then .error (.noOperation "str" name) else .ok (f r.outcome)

/-- What the line of a report says. -/
def text (r : CheckResult) : String :=
  r.deviceName.plain ++ " / " ++ r.ruleName.plain ++ ": " ++ r.outcome.name ++
    (if r.comment.truthy then " (" ++ r.comment.plain ++ ")" else "")

/-- The line of a report, if everything that it says can be written. -/
def line (r : CheckResult) : Except ValueFault String := do
  let device ← r.deviceName.spell
  let rule ← r.ruleName.spell
  let outcome ← r.part "name" Outcome.name
  let comment ← if r.comment.truthy then do pure (" (" ++ (← r.comment.spell) ++ ")") else pure ""
  return device ++ " / " ++ rule ++ ": " ++ outcome ++ comment

/-- The fields of the document form, but for the date. -/
def fields (r : CheckResult) : Except ValueFault (List (String × Value)) := do
  let outcome ← r.part "value" Outcome.text
  return [("rule_id", r.ruleId), ("rule_name", r.ruleName), ("device_id", r.deviceId),
    ("device_name", r.deviceName), ("result", .text outcome), ("comment", r.comment)]

/-- Whether two results agree in all but their dates. -/
def same (a b : CheckResult) : Bool :=
  Value.equal a.ruleId b.ruleId && Value.equal a.ruleName b.ruleName &&
    Value.equal a.deviceId b.deviceId && Value.equal a.deviceName b.deviceName &&
    a.outcome == b.outcome && Value.equal a.comment b.comment

end CheckResult

/-- A result with the date of the check. -/
structure DatedResult where
  /-- The result. -/
  result : CheckResult
  /-- When the check was made. -/
  date : Moment

namespace DatedResult

/-- The document form. -/
def record (d : DatedResult) : Except ValueFault Value := do
  return .record ((← d.result.fields) ++ [("check_date", .text d.date.text)])

/-- Reads the date of a check; `now` stands for a missing one. -/
def readDate (now : Moment) (v : Value) : Except Fault Moment :=
  if v.truthy then
    match v with
    | .text s => match readMoment s with
      | .ok m => .ok m
      | .error f => .error (.moment s f)
    | .outcome o => match readMoment o.text with
      | .ok m => .ok m
      | .error f => .error (.moment o.text f)
    | _ => .error (.value .dateKind)
  else .ok now

/-- Reads the document form; `now` stands for a missing date. -/
def ofValue (now : Moment) (data : Value) : Except Fault DatedResult := do
  let date ← data.get "check_date"
  let ruleId ← data.index "rule_id"
  let ruleName ← data.index "rule_name"
  let deviceId ← data.index "device_id"
  let deviceName ← data.index "device_name"
  let outcome ← Outcome.ofValue (← data.index "result")
  let comment ← data.get "comment"
  let date ← readDate now date
  return ⟨⟨ruleId, ruleName, deviceId, deviceName, outcome, comment, false⟩, date⟩

end DatedResult

end ConfigAudit
