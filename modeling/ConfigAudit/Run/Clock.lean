/-
# Audits by the clock

The machine of an audit may give up any check that has been started.  A runner is held to its time
limit by the clock: a worker enters the time at which it starts a check, and the coordinator gives
up the check only at a time that is late for it.  Here events come with the readings that they go
by.

* `Runner.isLate` : whether a check has taken too long;
* `Timed.step?` : the effect of an event at a reading of the clock, if it can happen;
* `Timed.run` : an audit of a runner under events in a row.
-/
import ConfigAudit.Run.Schedule

namespace ConfigAudit

/-- Whether a check that was started at one reading of the clock has taken too long at another
one. -/
def Runner.isLate (r : Runner) (begun now : Float) : Bool := !decide (now - begun ≤ r.timeout)

/-- A check is late unless the time that has gone by is at most the time limit. -/
theorem Runner.isLate_iff {r : Runner} {begun now : Float} :
    r.isLate begun now = true ↔ ¬ now - begun ≤ r.timeout := by
  rw [isLate, Bool.not_eq_true', decide_eq_false_iff_not]

/-- An event with the reading of the clock, in seconds, that it goes by. -/
structure Tick where
  /-- The event. -/
  event : Event
  /-- The reading. -/
  reading : Float

/-- An audit on its way, and when its checks were started. -/
structure Timed where
  /-- The audit. -/
  machine : Machine
  /-- The readings at which checks were started. -/
  begun : Nat → Option Float

namespace Timed

/-- The audit of a plan before its first event. -/
def start (jobs : List Job) (cancelRequested : Bool) : Timed :=
  ⟨Machine.start jobs cancelRequested, fun _ => none⟩

/-- Whether an event may happen at a reading: a check that is given up has to be late. -/
def permits (r : Runner) (a : Timed) (k : Tick) : Bool :=
  match k.event with
  | .expire i => (a.begun i).any fun begun => r.isLate begun k.reading
  | _ => true

/-- When checks were started, after an event that has led to a machine. -/
def entered (a : Timed) (k : Tick) (m : Machine) (i : Nat) : Option Float :=
  if k.event = .start i ∧ i ∈ m.asked then some k.reading else a.begun i

/-- The effect of an event at a reading, if it can happen. -/
def step? (r : Runner) (g : Setting) (a : Timed) (k : Tick) : Option Timed :=
  if a.permits r k then
    (a.machine.step? (r.terms g) k.event).map fun m => ⟨m, a.entered k m⟩
  else none

/-- The effect of an event; one that cannot happen has none. -/
def next (r : Runner) (g : Setting) (a : Timed) (k : Tick) : Timed := (a.step? r g k).getD a

/-- The effect of events in a row. -/
def steps (r : Runner) (g : Setting) (a : Timed) (ks : List Tick) : Timed := ks.foldl (next r g) a

/-- An audit of a runner under events in a row. -/
def run (r : Runner) (g : Setting) (jobs : List Job) (ks : List Tick) : Timed :=
  (start jobs r.cancelRequested).steps r g ks

end Timed

end ConfigAudit
