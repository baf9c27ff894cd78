/-
# Audits as machines

An audit is carried out by workers that take checks from a queue, and by a coordinator that
collects what they return.  The machine takes one step for each event, in whatever order the
events come: a worker takes, starts or finishes a check, the audit is cancelled, the coordinator
goes on in its loop.

* `Stage` : where the coordinator is;
* `Event` : what can happen next;
* `Machine.step?` : the effect of an event, if it can happen;
* `Machine.steps` : the effect of events in a row.
-/
import ConfigAudit.Run.Report
import ConfigAudit.Run.Slot

namespace ConfigAudit

/-- What an audit depends on besides its plan. -/
structure Terms where
  /-- What comes of checking a rule on a device, with the notes that it leaves. -/
  check : Rule → Subject → Checked
  /-- The number of workers. -/
  workers : Nat
  /-- The time limit of a check as text. -/
  limit : String

/-- Why a check was given up that took too long. -/
def Terms.lateText (t : Terms) : String := "Evaluation timed out after " ++ t.limit ++ "s"

/-! ## The coordinator -/

/-- Where the coordinator is.  It goes round in a loop as long as it waits for some check, and
then answers. -/
inductive Stage where
  /-- It is about to look whether the audit goes on. -/
  | looking
  /-- It withdraws checks of a cancelled audit one by one. -/
  | withdrawing (todo : List Nat)
  /-- It waits for checks to be done, but not longer than until its next look; these were done
  when it began to wait. -/
  | waiting (done : List Nat)
  /-- It records what workers have returned. -/
  | collecting (todo : List Nat)
  /-- It gives up checks that have taken too long. -/
  | expiring
  /-- It goes through the checks that no worker may be left for. -/
  | skipping (stuck : Nat) (todo : List Nat)
  /-- It waits for no check any more; so many were given up and still go on. -/
  | left (abandoned : Nat)
  /-- It has written the report. -/
  | reported (report : Report)
  /-- It has used up a cancellation and has answered. -/
  | returned (report : Report)

namespace Stage

/-- Withdrawing, or waiting if nothing is left to withdraw. -/
def withdrawingAll (done : List Nat) : List Nat → Stage
  | [] => waiting done
  | todo => withdrawing todo

/-- Collecting, or expiring if nothing is left to collect. -/
def collectingAll : List Nat → Stage
  | [] => expiring
  | todo => collecting todo

/-- Skipping, or the next look if nothing is left to go through. -/
def skippingAll (stuck : Nat) : List Nat → Stage
  | [] => looking
  | todo => skipping stuck todo

end Stage

/-! ## Machines -/

/-- An audit on its way. -/
structure Machine where
  /-- The checks of the plan, in order. -/
  slots : List Slot
  /-- Where the coordinator is. -/
  stage : Stage
  /-- Whether the coordinator has dealt with a cancellation. -/
  handled : Bool
  /-- Whether the audit has been cancelled. -/
  cancelRequested : Bool
  /-- The places of the checks whose rules were asked, in order. -/
  asked : List Nat
  /-- The notes left so far. -/
  journal : Journal

/-- What can happen next; checks are meant by their place in the plan. -/
inductive Event where
  /-- A free worker takes the first check off the queue. -/
  | take (i : Nat)
  /-- A worker starts a check, unless it must not. -/
  | start (i : Nat)
  /-- A check leaves its next note. -/
  | note (i : Nat)
  /-- A check comes to its end. -/
  | finish (i : Nat)
  /-- The audit is cancelled. -/
  | cancel
  /-- The coordinator looks whether the audit goes on, and whether it has been cancelled. -/
  | look
  /-- The coordinator withdraws a check of a cancelled audit. -/
  | withdraw (i : Nat)
  /-- The coordinator stops waiting and sees what was done when it began to wait, or else some of
  what has been done since. -/
  | poll (seen : List Nat)
  /-- The coordinator records what a worker has returned. -/
  | collect (i : Nat)
  /-- The coordinator gives up a check that has taken too long. -/
  | expire (i : Nat)
  /-- The coordinator looks whether all workers are stuck. -/
  | survey
  /-- The coordinator gives up a check that no worker can take, unless it has been started. -/
  | skip (i : Nat)
  /-- The coordinator writes the report. -/
  | read
  /-- The coordinator uses up a cancellation and answers. -/
  | clear
  deriving Repr, DecidableEq

namespace Machine

/-- The audit of a plan before its first event. -/
def start (jobs : List Job) (cancelRequested : Bool) : Machine :=
  ⟨jobs.map Slot.ofJob, .looking, false, cancelRequested, [], []⟩

/-- Changes one slot. -/
def update (m : Machine) (i : Nat) (s : Slot) : Machine := { m with slots := m.slots.set i s }

/-- Leaves one more note. -/
def write (m : Machine) (n : Note) : Machine := { m with journal := m.journal ++ [n] }

/-- How many workers are busy. -/
def busy (m : Machine) : Nat := m.slots.countP (·.phase.isHeld)

/-- How many checks were given up and still keep a worker. -/
def stuckCount (m : Machine) : Nat := m.slots.countP (·.isStuck)

/-- Whether a check is the first in the queue. -/
def isFirst (m : Machine) (i : Nat) : Bool := (m.slots.take i).all fun s => !s.phase.isQueued

/-- Whether the coordinator waits for nothing any more. -/
def isOver (m : Machine) : Bool := m.slots.all fun s => !s.pending

/-- The places of the checks with a property. -/
def places (m : Machine) (p : Slot → Bool) : List Nat :=
  (List.range m.slots.length).filter fun i => (m.slots[i]?).any p

/-- The result that is recorded for a check. -/
def resultAt (m : Machine) (i : Nat) : Option CheckResult := (m.slots[i]?).bind (·.result)

/-- The report of an audit that leaves some checks behind. -/
def report (m : Machine) (abandoned : Nat) : Report :=
  ⟨m.slots.filterMap (·.result), m.cancelRequested, abandoned⟩

/-- The report that was written; before that, the one that would be written now. -/
def answer (m : Machine) : Report :=
  match m.stage with
  | .reported report | .returned report => report
  | _ => m.report m.stuckCount

/-! ## Steps -/

/-- A worker takes a check off the queue; one that was cancelled is dropped. -/
def take? (m : Machine) (i : Nat) (s : Slot) : Option Machine :=
  match s.phase with
  | .waiting => some (m.update i { s with phase := .taken })
  | .withdrawn => some (m.update i { s with phase := .discarded })
  | _ => none

/-- A worker that has taken a check asks its rule, unless the audit was cancelled or the check
was given up. -/
def start? (t : Terms) (m : Machine) (i : Nat) (s : Slot) : Option Machine :=
  match s.phase with
  | .taken =>
    if m.cancelRequested || s.skipped then some (m.update i { s with phase := .refused })
    else
      let (notes, answer) := t.check s.job.rule s.job.subject
      some { m.update i { s with phase := .started notes answer } with asked := m.asked ++ [i] }
  | _ => none

/-- A check that is going on leaves its next note. -/
def note? (m : Machine) (i : Nat) (s : Slot) : Option Machine :=
  match s.phase with
  | .started (n :: rest) answer =>
    some ((m.update i { s with phase := .started rest answer }).write n)
  | _ => none

/-- A check that has left its notes comes to its end. -/
def finish? (m : Machine) (i : Nat) (s : Slot) : Option Machine :=
  match s.phase with
  | .started [] answer => some (m.update i { s with phase := .finished answer })
  | _ => none

/-- The coordinator goes on to another stage. -/
def goTo (m : Machine) (g : Stage) : Machine := { m with stage := g }

/-- The coordinator begins to wait, once it has withdrawn the given checks. -/
def waitFor (m : Machine) (todo : List Nat) : Machine :=
  m.goTo (.withdrawingAll (m.places (·.isReady)) todo)

/-- The coordinator enters the next round of its loop, or leaves it. -/
def look (m : Machine) : Machine :=
  if m.isOver then m.goTo (.left m.stuckCount)
  else if m.cancelRequested && !m.handled then
    waitFor { m with handled := true } (m.places (·.pending))
  else m.waitFor []

/-- What the coordinator sees to be done when it stops waiting. -/
def batch (m : Machine) (seen : List Nat) : List Nat → List Nat
  | [] => (m.places (·.isReady)).filter fun i => i ∈ seen
  | done => done

/-- The coordinator records what came of a check; one that was dropped or refused leaves
nothing. -/
def collect? (m : Machine) (i : Nat) (s : Slot) : Option Machine :=
  if s.pending then
    match s.phase with
    | .discarded | .refused => some (m.update i { s with pending := false })
    | .finished answer =>
      some (m.update i { s with pending := false, result := some (s.job.collected answer) })
    | _ => none
  else none

/-- The coordinator gives up a check that is going on, or has just come to its end. -/
def expire? (t : Terms) (m : Machine) (i : Nat) (s : Slot) : Option Machine :=
  if s.pending && s.phase.hasStarted then
    some ((m.update i { s with pending := false, stuck := true,
                               result := some (s.job.givenUp t.lateText) }).write
      (s.job.givenUpNote t.lateText))
  else none

/-- The coordinator gives up a check that was never started, and passes one that was. -/
def skip (m : Machine) (stuck i : Nat) (s : Slot) : Machine :=
  if s.pending && !s.phase.hasStarted then
    let why := saturatedText stuck
    (m.update i { s with pending := false, skipped := true, phase := s.phase.cancel,
                         result := some (s.job.givenUp why) }).write (s.job.givenUpNote why)
  else m

/-- The effect of an event, if it can happen. -/
def step? (t : Terms) (m : Machine) : Event → Option Machine
  | .take i => (m.slots[i]?).bind fun s =>
    if m.isFirst i && decide (m.busy < t.workers) then m.take? i s else none
  | .start i => (m.slots[i]?).bind (m.start? t i)
  | .note i => (m.slots[i]?).bind (m.note? i)
  | .finish i => (m.slots[i]?).bind (m.finish? i)
  | .cancel => some { m with cancelRequested := true }
  | .look => match m.stage with
    | .looking => some m.look
    | _ => none
  | .withdraw i => match m.stage with
    | .withdrawing todo => if i ∈ todo then
        (m.slots[i]?).map fun s =>
          (m.update i { s with phase := s.phase.cancel }).waitFor (todo.erase i)
      else none
    | _ => none
  | .poll seen => match m.stage with
    | .waiting done => some (m.goTo (.collectingAll (m.batch seen done)))
    | _ => none
  | .collect i => match m.stage with
    | .collecting todo =>
      ((m.slots[i]?).bind (m.collect? i)).map (·.goTo (.collectingAll (todo.erase i)))
    | _ => none
  | .expire i => match m.stage with
    | .expiring => (m.slots[i]?).bind (m.expire? t i)
    | _ => none
  | .survey => match m.stage with
    | .expiring => some (m.goTo (if t.workers ≤ m.stuckCount then
        .skippingAll m.stuckCount (m.places (·.pending)) else .looking))
    | _ => none
  | .skip i => match m.stage with
    | .skipping stuck todo => if i ∈ todo then
        (m.slots[i]?).map fun s => (m.skip stuck i s).goTo (.skippingAll stuck (todo.erase i))
      else none
    | _ => none
  | .read => match m.stage with
    | .left abandoned => some (m.goTo (.reported (m.report abandoned)))
    | _ => none
  | .clear => match m.stage with
    | .reported report => some { m with stage := .returned report, cancelRequested := false }
    | _ => none

/-- The effect of an event; one that cannot happen has none. -/
def next (t : Terms) (m : Machine) (e : Event) : Machine := (m.step? t e).getD m

/-- The effect of events in a row. -/
def steps (t : Terms) (m : Machine) (es : List Event) : Machine := es.foldl (next t) m

end Machine

end ConfigAudit
