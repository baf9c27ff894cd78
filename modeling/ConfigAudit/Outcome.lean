/-
# Outcomes of a check

The closed set of outcomes a check can have.  Three are decided before the logic of a rule is
asked, three are reported by it or stand for its failure.

* `Outcome.isVerdict` : what the logic of a rule may report itself;
* `Outcome.isFailure` : what is reported as a problem;
* `Outcome.ofText?` : the spellings that name an outcome.
-/
import ConfigAudit.Text.Lines

namespace ConfigAudit

/-- The outcome of checking one rule on one device. -/
inductive Outcome where
  /-- The rule is switched off. -/
  | disabled
  /-- The device is excused from the rule. -/
  | exempted
  /-- The rule does not concern the device. -/
  | notApplicable
  /-- The device complies. -/
  | conforming
  /-- The device does not comply. -/
  | nonConforming
  /-- The rule could not be evaluated. -/
  | error
  deriving Repr, DecidableEq, Inhabited

namespace Outcome

/-! ## Names -/

/-- All outcomes, in the order of summaries. -/
def all : List Outcome := [disabled, exempted, notApplicable, conforming, nonConforming, error]

/-- The name in capital letters. -/
def name : Outcome → String
  | disabled => "DISABLED"
  | exempted => "EXEMPTED"
  | notApplicable => "NOT_APPLICABLE"
  | conforming => "CONFORMING"
  | nonConforming => "NON_CONFORMING"
  | error => "ERROR"

/-- The written form in documents. -/
def text : Outcome → String
  | disabled => "disabled"
  | exempted => "exempted"
  | notApplicable => "not_applicable"
  | conforming => "conforming"
  | nonConforming => "non_conforming"
  | error => "error"

/-- Every outcome is listed. -/
theorem mem_all (o : Outcome) : o ∈ all := by cases o <;> decide

/-- Different outcomes are written differently. -/
theorem text_inj {a b : Outcome} : a.text = b.text ↔ a = b := by
  cases a <;> cases b <;> decide

/-- Different outcomes have different names. -/
theorem name_injective {a b : Outcome} (h : a.name = b.name) : a = b := by
  revert h; cases a <;> cases b <;> decide

/-! ## Classes -/

/-- Outcomes that the logic of a rule may report as its own verdict. -/
def isVerdict : Outcome → Bool
  | notApplicable | conforming | nonConforming => true
  | _ => false

/-- Outcomes that are reported as a compliance problem. -/
def isFailure : Outcome → Bool
  | nonConforming | error => true
  | _ => false

/-! ## Reading -/

/-- The outcome with a given name. -/
def ofName? (s : String) : Option Outcome := all.find? (·.name == s)

/-- The outcome with a given written form. -/
def ofWritten? (s : String) : Option Outcome := all.find? (·.text == s)

/-- Reads an outcome: a name or written form, in any case, with blanks around it, and with dashes
for underscores in a name. -/
def ofText? (s : String) : Option Outcome :=
  let bare := Text.strip s
  let key := String.ofList ((Text.upperName bare).toList.map fun c => if c == '-' then '_' else c)
  match ofName? key with
  | some o => some o
  | none => ofWritten? (Text.lowerName bare)

/-- Every name is read as its outcome. -/
theorem ofName?_name (o : Outcome) : ofName? o.name = some o := by cases o <;> decide

end Outcome

end ConfigAudit
