/-
# Carrying out audits

A machine says what an audit can do; a schedule says what it does.  Here workers take checks in
order and carry each out at once, except those that do not return, and the coordinator gives up
a check only when nothing else is left to happen.

* `Runner` : the workers, their time limit, and whether a cancellation is asked for;
* `Runner.run` : carries out an audit.
-/
import ConfigAudit.Run.Machine
import ConfigAudit.Decimal.Shortest

namespace ConfigAudit

/-! ## Schedules -/

/-- Whether a check that is going on comes to its end while the audit lasts. -/
def returns (g : Setting) (j : Job) : Bool :=
  match j.rule.body with
  | .probe .blocking => !j.rule.reachesLogic g j.subject
  | _ => true

/-- Whether a check asks for the cancellation of the audit. -/
def cancels (g : Setting) (j : Job) : Bool :=
  match j.rule.body with
  | .probe .cancelling => j.rule.reachesLogic g j.subject
  | _ => false

/-- The events in which a check that is going on comes to its end. -/
def endEvents (g : Setting) (i : Nat) (s : Slot) : List Event :=
  match s.phase with
  | .started notes _ =>
    if returns g s.job then
      (if cancels g s.job then [.cancel] else []) ++ List.replicate notes.length (.note i) ++
        [.finish i]
    else []
  | _ => []

/-- A free worker deals with one check, if it is in the queue. -/
def workOn (g : Setting) (t : Terms) (m : Machine) (i : Nat) : Machine :=
  let m := m.steps t [.take i, .start i]
  match m.slots[i]? with
  | some s => m.steps t (endEvents g i s)
  | none => m

/-- The workers deal with the queue as far as they can. -/
def workAll (g : Setting) (t : Terms) (m : Machine) : Machine :=
  (List.range m.slots.length).foldl (workOn g t) m

/-- One round of the coordinator when nothing else is left to happen: it collects what has been
returned, gives up what still goes on, and, if no worker is left, what has not been started. -/
def coordinate (g : Setting) (t : Terms) (m : Machine) : Machine :=
  let all := List.range m.slots.length
  let m := m.steps t (.look :: all.map .withdraw)
  let m := workAll g t m
  m.steps t (.poll all :: all.map .collect ++ all.map .expire ++ .survey :: all.map .skip)

/-- Carries out an audit to its end. -/
def settle (g : Setting) (t : Terms) (m : Machine) : Machine :=
  (coordinate g t (workAll g t m)).steps t [.look, .read, .clear]

/-! ## Runners -/

/-- What carries out audits, one after the other. -/
structure Runner where
  /-- The number of workers. -/
  workers : Nat
  /-- The time limit of a check in seconds. -/
  timeout : Float
  /-- The time between two looks of the coordinator in seconds. -/
  poll : Float
  /-- Whether a cancellation is asked for. -/
  cancelRequested : Bool

namespace Runner

/-- The lesser of two numbers; the first one if they have no order. -/
def lesser (a b : Float) : Float := if b < a then b else a

/-- The time between two looks, unless it is given. -/
def defaultPoll : Float := 0.05

/-- A runner; at least one worker is needed. -/
def make (workers : Int) (timeout poll : Float) : Except Fault Runner :=
  if workers < 1 then .error (.value .tooFewWorkers)
  else .ok ⟨workers.toNat, timeout, lesser poll timeout, false⟩

/-- Asks for the cancellation of the audit in progress, or of the next one. -/
def cancel (r : Runner) : Runner := { r with cancelRequested := true }

/-- The terms of an audit. -/
def terms (r : Runner) (g : Setting) : Terms :=
  ⟨Rule.check g, r.workers, Decimal.sixDigits r.timeout⟩

/-- The longest time in seconds that can be waited for; it is counted in nanoseconds of 64 bits. -/
def longestWait : Float := 9223372036.854775

/-- Whether the time between two looks is too long to be waited for. -/
def cannotWait (r : Runner) : Bool := decide (longestWait < r.poll)

/-- Carries out an audit; a cancellation that was asked for is used up by it.  The audit breaks off
if it has to wait and cannot. -/
def run (r : Runner) (g : Setting) (policies : List Policy) (subjects : List Subject) :
    Runner × Journal × Except Fault Report :=
  match plan policies subjects with
  | .error f => (r, [], .error (.value f))
  | .ok jobs =>
    let begun := workAll g (r.terms g) (Machine.start jobs r.cancelRequested)
    if r.cannotWait && begun.slots.any fun s => !s.phase.isDone then
      ({ r with cancelRequested := false }, begun.journal, .error (.value .timeRange))
    else
      let m := settle g (r.terms g) (Machine.start jobs r.cancelRequested)
      ({ r with cancelRequested := m.cancelRequested }, m.journal, .ok m.answer)

end Runner

end ConfigAudit
