/-
# Checks on their way

One check of a plan is put into a queue, taken by a worker, started and finished, unless it is
cancelled or refused on the way.  Beside it the coordinator keeps whether it still waits for the
check and what it has recorded for it.  What is recorded names the rule and the device, so both are
taken to have names that can be written; over another name the audit ends without a report, when the
check fails or is given up.

* `Phase` : how far a check is;
* `Slot` : a check with what the coordinator knows of it;
* `Job.collected`, `Job.givenUp` : what is recorded for a check.
-/
import ConfigAudit.Run.Plan

namespace ConfigAudit

/-! ## Phases -/

/-- How far a check is. -/
inductive Phase where
  /-- It waits in the queue. -/
  | waiting
  /-- It was cancelled and is still in the queue. -/
  | withdrawn
  /-- It was cancelled and has left the queue. -/
  | discarded
  /-- A worker has taken it. -/
  | taken
  /-- It is going on: the notes still to be left, and what will come of it. -/
  | started (notes : Journal) (answer : Except Fault CheckResult)
  /-- The worker returned without checking. -/
  | refused
  /-- It has come to its end. -/
  | finished (answer : Except Fault CheckResult)

namespace Phase

/-- Whether a check is in the queue. -/
def isQueued : Phase → Bool
  | waiting | withdrawn => true
  | _ => false

/-- Whether a check keeps a worker busy. -/
def isHeld : Phase → Bool
  | taken | started .. => true
  | _ => false

/-- Whether a check has ever been started. -/
def hasStarted : Phase → Bool
  | started .. | finished _ => true
  | _ => false

/-- Whether the coordinator can collect the check. -/
def isDone : Phase → Bool
  | discarded | refused | finished _ => true
  | _ => false

/-- Whether a check was stopped before it was started. -/
def isStopped : Phase → Bool
  | withdrawn | discarded | refused => true
  | _ => false

/-- The phase after the coordinator has tried to cancel the check. -/
def cancel : Phase → Phase
  | waiting => withdrawn
  | p => p

/-- Cancelling does not undo a start. -/
@[simp] theorem hasStarted_cancel (p : Phase) : p.cancel.hasStarted = p.hasStarted := by
  cases p <;> rfl

/-- Cancelling brings no check to its end. -/
@[simp] theorem isDone_cancel (p : Phase) : p.cancel.isDone = p.isDone := by
  cases p <;> rfl

/-- Cancelling frees no worker. -/
@[simp] theorem isHeld_cancel (p : Phase) : p.cancel.isHeld = p.isHeld := by
  cases p <;> rfl

/-- A cancelled check waits no more. -/
theorem cancel_ne_waiting (p : Phase) : p.cancel ≠ waiting := by
  cases p <;> simp [cancel]

end Phase

/-! ## Slots -/

/-- One check of the plan. -/
structure Slot where
  /-- The check. -/
  job : Job
  /-- How far it is. -/
  phase : Phase
  /-- Whether the coordinator still waits for it. -/
  pending : Bool
  /-- Whether it was given up while it was going on. -/
  stuck : Bool
  /-- Whether it was given up before it was started. -/
  skipped : Bool
  /-- The result that is recorded for it. -/
  result : Option CheckResult

/-- A check that has just been put into the queue. -/
def Slot.ofJob (j : Job) : Slot := ⟨j, .waiting, true, false, false, none⟩

/-- Whether the coordinator can collect a check that it waits for. -/
def Slot.isReady (s : Slot) : Bool := s.pending && s.phase.isDone

/-- Whether a check was given up and still keeps its worker. -/
def Slot.isStuck (s : Slot) : Bool := s.stuck && !s.phase.isDone

/-! ## What is recorded -/

/-- The result for a check that was given up. -/
def Job.givenUp (j : Job) (why : String) : CheckResult :=
  j.rule.header.result j.subject.device .error (.text why)

/-- The note on a check that was given up. -/
def Job.givenUpNote (j : Job) (why : String) : Note :=
  .error ("Rule '" ++ j.rule.name.plain ++ "' on device " ++ j.subject.device.name.plain ++ ": " ++
    why)

/-- The result for a check that a worker has carried out; one that failed altogether becomes an
error. -/
def Job.collected (j : Job) : Except Fault CheckResult → CheckResult
  | .ok result => result
  | .error f => j.givenUp (failureComment f)

/-- Why a check was given up that no worker could take. -/
def saturatedText (stuck : Nat) : String :=
  "No worker available: " ++ toString stuck ++ " timed-out evaluation(s) still running"

end ConfigAudit
