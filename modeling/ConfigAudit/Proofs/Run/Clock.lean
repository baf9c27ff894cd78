/-
# Checks that take too long

A check is reported as late only if the clock was read when it was started and again when it was
given up, and the time between the two readings was not at most the time limit.  Under a positive
limit the second reading is the later one.  A limit that is not a number is exceeded at once, by
every check that is going on.

* `Timed.Kept` : what the readings of an audit say of the checks that were given up;
* `Timed.kept_run` : every run keeps it;
* `Runner.Patient` : no check is reported as late before some time has gone by;
* `RunnerConfig.patient_iff` : when a configured runner is patient.
-/
import ConfigAudit.Config.Basic
import ConfigAudit.Proofs.Run.Elapsed
import ConfigAudit.Proofs.Run.Schedule
import ConfigAudit.Proofs.Run.Settled
import ConfigAudit.Run.Clock

namespace ConfigAudit

/-- A check is given up as late only in the event that says so. -/
theorem Machine.Step.stuck_cases {t : Terms} {m m' : Machine} {e : Event}
    (h : Machine.Step t m e m') :
    m'.slots.map (·.stuck) = m.slots.map (·.stuck) ∨
      ∃ i, e = .expire i ∧ m'.slots.map (·.stuck) = (m.slots.map (·.stuck)).set i true := by
  cases h with
  | expire st hs pend ph => exact Or.inr ⟨_, rfl, List.map_set⟩
  | take hs first free ph | discard hs first free ph | refuse hs ph stop
  | start hs ph going kept told | note hs ph | finish hs ph | withdraw st mem hs
  | strike st hs pend ph | collect st hs pend ph | skip st mem hs pend ph =>
      exact Or.inl (map_set_slot _ hs rfl)
  | _ => exact Or.inl rfl

namespace Timed

variable {r : Runner} {g : Setting} {a a' : Timed} {k : Tick} {ks : List Tick} {jobs : List Job}

/-! ## Steps and runs -/

/-- An event happens if the machine can take it and the clock permits it. -/
theorem step?_eq_some_iff :
    a.step? r g k = some a' ↔ a.permits r k = true ∧
      ∃ m, Machine.Step (r.terms g) a.machine k.event m ∧ a' = ⟨m, a.entered k m⟩ := by
  unfold step?
  constructor
  · intro h
    split at h
    · rename_i hp
      obtain ⟨m, hm, rfl⟩ := Option.map_eq_some_iff.1 h
      exact ⟨hp, m, Machine.step_of_step? hm, rfl⟩
    · cases h
  · rintro ⟨hp, m, hm, rfl⟩
    rw [if_pos hp, Machine.step?_of_step hm]
    rfl

/-- An event changes nothing, or it happens. -/
theorem next_cases (r : Runner) (g : Setting) (a : Timed) (k : Tick) :
    a.next r g k = a ∨ a.permits r k = true ∧
      ∃ m, Machine.Step (r.terms g) a.machine k.event m ∧ a.next r g k = ⟨m, a.entered k m⟩ := by
  unfold next
  cases h : a.step? r g k with
  | none => exact Or.inl rfl
  | some a' => exact Or.inr (step?_eq_some_iff.1 h)

/-- A run without events stays where it is. -/
@[simp] theorem steps_nil : a.steps r g [] = a := rfl

/-- A run takes its first event and goes on. -/
@[simp] theorem steps_cons : a.steps r g (k :: ks) = (a.next r g k).steps r g ks := rfl

/-- Apart from its readings, a run is a run of the machine. -/
theorem runs_machine (a : Timed) (ks : List Tick) :
    Machine.Runs (r.terms g) a.machine (a.steps r g ks).machine := by
  induction ks generalizing a with
  | nil => exact .refl _ _
  | cons k ks ih =>
      rw [steps_cons]
      refine Machine.Runs.trans ?_ (ih _)
      rcases next_cases r g a k with h | ⟨_, m, hm, h⟩
      · rw [h]
        exact .refl _ _
      · rw [h]
        refine ⟨[k.event], ?_⟩
        rw [Machine.steps_cons, Machine.next_of_step hm, Machine.steps_nil]

/-- The machine of a run is in good standing. -/
theorem sound_run (r : Runner) (g : Setting) (jobs : List Job) (ks : List Tick) :
    (run r g jobs ks).machine.Sound (r.terms g) jobs := by
  obtain ⟨es, hes⟩ := runs_machine (r := r) (g := g) (start jobs r.cancelRequested) ks
  rw [run, hes]
  exact Machine.sound_steps _ jobs r.cancelRequested es

/-! ## Checks that are given up -/

/-- Whether a check was given up as late. -/
def timedOut (a : Timed) (i : Nat) : Bool := (a.machine.slots[i]?).any (·.stuck)

/-- A check that was given up as late has a place in the plan. -/
theorem timedOut_iff {i : Nat} :
    a.timedOut i = true ↔ (a.machine.slots.map (·.stuck))[i]? = some true := by
  rw [timedOut, Option.any_eq_true, List.getElem?_map, Option.map_eq_some_iff]

/-- **What is recorded for a check that was given up as late** is an error with the time limit. -/
theorem resultAt_of_timedOut {i : Nat} (h : (run r g jobs ks).timedOut i = true) :
    ∃ j, jobs[i]? = some j ∧
      (run r g jobs ks).machine.resultAt i = some (j.givenUp (r.terms g).lateText) := by
  obtain ⟨s, hs, hstuck⟩ := (Option.any_eq_true ..).1 h
  have sound := sound_run r g jobs ks
  refine ⟨s.job, ?_, ?_⟩
  · rw [← sound.jobs_eq, List.getElem?_map, hs]
    rfl
  · rw [Machine.resultAt_of_slot hs]
    cases sound.slots s (List.mem_of_getElem? hs) with
    | late pend held kept ph res => exact res
    | awaited _ free | collected _ free | struck _ free | skipped _ free =>
        rw [hstuck] at free
        cases free

/-- A check was started at one reading of the clock, and given up later on at a reading that was
late for it. -/
def LateBy (r : Runner) (ks : List Tick) (i : Nat) : Prop :=
  ∃ begun now, List.Sublist [⟨.start i, begun⟩, ⟨.expire i, now⟩] ks ∧ r.isLate begun now = true

/-- What the events so far tell of the readings that were entered, and of the checks that were
given up. -/
structure Kept (r : Runner) (ks : List Tick) (a : Timed) : Prop where
  /-- A reading was entered when its check was started. -/
  begun : ∀ i x, a.begun i = some x → ⟨.start i, x⟩ ∈ ks
  /-- A check that was given up was late. -/
  late : ∀ i, a.timedOut i = true → LateBy r ks i

/-- Before the first event nothing has been entered or given up. -/
theorem kept_start (r : Runner) (jobs : List Job) (c : Bool) : (start jobs c).Kept r [] where
  begun i x h := by cases h
  late i h := by
    obtain ⟨s, hs, hstuck⟩ := (Option.any_eq_true ..).1 h
    obtain ⟨j, _, rfl⟩ := List.mem_map.1 (List.mem_of_getElem? hs)
    cases hstuck

/-- An event enters the reading at which it starts a check, and gives up a check that is late. -/
theorem Kept.next (h : a.Kept r ks) (k : Tick) : (a.next r g k).Kept r (ks ++ [k]) := by
  have hold : a.Kept r (ks ++ [k]) := by
    refine ⟨fun i x hx => List.mem_append_left _ (h.begun i x hx), fun i hi => ?_⟩
    obtain ⟨x, y, hsub, hlate⟩ := h.late i hi
    exact ⟨x, y, hsub.trans (List.sublist_append_left ks [k]), hlate⟩
  rcases next_cases r g a k with heq | ⟨permitted, m, hstep, heq⟩
  · rw [heq]
    exact hold
  · rw [heq]
    constructor
    · intro i x hx
      simp only [entered] at hx
      split at hx
      · rename_i hstart
        cases hx
        rw [← hstart.1]
        exact List.mem_append_right _ List.mem_cons_self
      · exact hold.begun i x hx
    · intro i hi
      rw [timedOut_iff] at hi
      rcases hstep.stuck_cases with hsame | ⟨i', hexpire, hset⟩
      · rw [hsame] at hi
        exact hold.late i (timedOut_iff.2 hi)
      · by_cases hplace : i' = i
        · -- the check that is given up by this event
          subst hplace
          rw [permits, hexpire] at permitted
          obtain ⟨x, hx, hlate⟩ := (Option.any_eq_true ..).1 permitted
          refine ⟨x, k.reading, ?_, hlate⟩
          have hlast : k = ⟨.expire i', k.reading⟩ := by rw [← hexpire]
          rw [← hlast]
          exact (List.singleton_sublist.2 (h.begun i' x hx)).append (List.Sublist.refl [k])
        · rw [hset, List.getElem?_set_ne hplace] at hi
          exact hold.late i (timedOut_iff.2 hi)

/-- Events in a row go on to tell what they told. -/
theorem Kept.steps (h : a.Kept r ks) (ls : List Tick) : (a.steps r g ls).Kept r (ks ++ ls) := by
  induction ls generalizing a ks with
  | nil => rwa [List.append_nil]
  | cons l ls ih =>
      rw [steps_cons, List.append_cons]
      exact ih (h.next l)

/-- **Every run** gives up only checks that are late by readings of its own. -/
theorem kept_run (r : Runner) (g : Setting) (jobs : List Job) (ks : List Tick) :
    (run r g jobs ks).Kept r ks :=
  (kept_start r jobs r.cancelRequested).steps ks

/-! ## The time that has gone by -/

/-- **Under a positive limit** a check is reported as late only if more time than the limit has gone
by since it was started, and then the clock has gone on. -/
theorem elapsed_of_timedOut (positive : 0.0 < r.timeout)
    (finite : ∀ k ∈ ks, k.reading.isFinite = true) {i : Nat}
    (h : (run r g jobs ks).timedOut i = true) :
    ∃ begun now, List.Sublist [⟨.start i, begun⟩, ⟨.expire i, now⟩] ks ∧
      r.timeout < now - begun ∧ begun < now := by
  obtain ⟨x, y, hsub, hlate⟩ := (kept_run r g jobs ks).late i h
  have hx : x.isFinite = true := finite ⟨.start i, x⟩ (hsub.subset (by simp))
  have hy : y.isFinite = true := finite ⟨.expire i, y⟩ (hsub.subset (by simp))
  exact ⟨x, y, hsub, Seconds.elapsed_of_late hx hy positive (Runner.isLate_iff.1 hlate)⟩

end Timed

/-! ## Audits of runners -/

/-- A rule is asked only in the event that starts its check. -/
theorem Machine.Step.mem_asked {t : Terms} {m m' : Machine} {e : Event} {i : Nat}
    (h : Machine.Step t m e m') (hi : i ∈ m'.asked) : i ∈ m.asked ∨ e = .start i := by
  cases h with
  | start hs ph going kept told =>
      rcases List.mem_append.1 hi with hi | hi
      · exact Or.inl hi
      · rw [List.mem_singleton] at hi
        exact Or.inr (by rw [hi])
  | _ => exact Or.inl hi

/-- An event by a clock at which every check is started at one reading, and the coordinator acts at
another one. -/
def Event.tick (begun now : Float) (e : Event) : Tick :=
  ⟨e, match e with
    | .start _ => begun
    | _ => now⟩

namespace Timed

variable {r : Runner} {g : Setting} {a : Timed} {jobs : List Job} {begun now : Float}

/-- All checks were started at one reading. -/
structure BegunAt (r : Runner) (g : Setting) (jobs : List Job) (begun : Float) (a : Timed) :
    Prop where
  /-- The audit is in good standing. -/
  sound : a.machine.Sound (r.terms g) jobs
  /-- The reading was entered for each check that was started. -/
  entered : ∀ i ∈ a.machine.asked, a.begun i = some begun

/-- If the other reading is late, then the clock permits what the machine can do. -/
theorem BegunAt.permits {e : Event} {m : Machine} (h : a.BegunAt r g jobs begun)
    (late : r.isLate begun now = true) (hstep : Machine.Step (r.terms g) a.machine e m) :
    a.permits r (e.tick begun now) = true := by
  cases hstep with
  | @expire i s st hs pend ph =>
      have hasked : i ∈ a.machine.asked := by
        rw [h.sound.asked, List.getElem?_map, hs, Option.map_some, ph]
      have htick : (Event.expire i).tick begun now = ⟨.expire i, now⟩ := rfl
      rw [htick, Timed.permits]
      simp only [h.entered i hasked, Option.any_some, late]
  | _ => rfl

/-- An event keeps the reading at which checks are started. -/
theorem BegunAt.step {e : Event} {m : Machine} (h : a.BegunAt r g jobs begun)
    (hstep : Machine.Step (r.terms g) a.machine e m) :
    BegunAt r g jobs begun ⟨m, a.entered (e.tick begun now) m⟩ where
  sound := h.sound.step hstep
  entered i hi := by
    simp only [Timed.entered]
    split
    · rename_i hstart
      have he : e = .start i := hstart.1
      rw [he]
      rfl
    · rename_i hother
      rcases hstep.mem_asked hi with hasked | he
      · exact h.entered i hasked
      · exact absurd ⟨he, hi⟩ hother

/-- Every run of the machine is a run by a clock that goes from one reading to one that is late for
it. -/
theorem BegunAt.machine_steps (h : a.BegunAt r g jobs begun) (late : r.isLate begun now = true)
    (es : List Event) :
    (a.steps r g (es.map (·.tick begun now))).machine = a.machine.steps (r.terms g) es := by
  induction es generalizing a with
  | nil => rfl
  | cons e es ih =>
      rw [List.map_cons, steps_cons, Machine.steps_cons]
      cases hstep : a.machine.step? (r.terms g) e with
      | none =>
          have hnone : a.step? r g (e.tick begun now) = none := by
            have hevent : (e.tick begun now).event = e := rfl
            rw [step?, hevent, hstep, Option.map_none, ite_self]
          rw [Timed.next, hnone, Machine.next, hstep]
          exact ih h
      | some m =>
          have hm := Machine.step_of_step? hstep
          have hsome : a.step? r g (e.tick begun now) = some ⟨m, a.entered (e.tick begun now) m⟩ :=
            step?_eq_some_iff.2 ⟨h.permits late hm, m, hm, rfl⟩
          rw [Timed.next, hsome, Machine.next, hstep]
          exact ih (h.step hm)

/-- Audits by such a clock are those of the machine. -/
theorem machine_run (late : r.isLate begun now = true) (g : Setting) (jobs : List Job)
    (es : List Event) :
    (run r g jobs (es.map (·.tick begun now))).machine =
      (Machine.start jobs r.cancelRequested).steps (r.terms g) es := by
  have fresh : (start jobs r.cancelRequested).BegunAt r g jobs begun :=
    ⟨Machine.sound_start _ jobs _, fun i hi => nomatch hi⟩
  exact fresh.machine_steps late es

end Timed

/-- **What a runner does** under a limit that is not beyond all bounds is what happens by some
clock: an audit in which every check that is given up is late. -/
theorem Runner.run_timed {r : Runner} (limited : r.timeout.isInf = false) (g : Setting)
    (policies : List Policy) (subjects : List Subject) {jobs : List Job}
    (planned : plan policies subjects = .ok jobs) :
    ∃ ks : List Tick, (∀ k ∈ ks, k.reading.isFinite = true) ∧
      let m := (Timed.run r g jobs ks).machine
      r.run g policies subjects =
          ({ r with cancelRequested := m.cancelRequested }, m.journal, .ok m.answer) ∨
        r.cannotWait = true ∧ r.run g policies subjects =
          ({ r with cancelRequested := false }, m.journal, .error (.value .timeRange)) := by
  have late : r.isLate Seconds.earliest Seconds.latest = true :=
    isLate_iff.2 (Seconds.late_of_not_isInf limited)
  obtain ⟨es, hes⟩ := r.run_eq g policies subjects planned
  refine ⟨es.map (·.tick Seconds.earliest Seconds.latest), ?_, ?_⟩
  · intro k hk
    obtain ⟨e, _, rfl⟩ := List.mem_map.1 hk
    cases e with
    | start i => exact Seconds.isFinite_ends.1
    | _ => exact Seconds.isFinite_ends.2
  · rw [Timed.machine_run late]
    exact hes

/-! ## Patient runners -/

/-- A runner is patient in the audits of a plan if it reports a check as late only when the clock
has gone on since the check was started. -/
def Runner.Patient (r : Runner) (g : Setting) (jobs : List Job) : Prop :=
  ∀ ks : List Tick, (∀ k ∈ ks, k.reading.isFinite = true) →
    ∀ i, (Timed.run r g jobs ks).timedOut i = true →
      ∃ begun now, List.Sublist [⟨.start i, begun⟩, ⟨.expire i, now⟩] ks ∧ begun < now

/-- **Under a positive limit** a runner is patient. -/
theorem Runner.patient_of_positive {r : Runner} (positive : 0.0 < r.timeout) (g : Setting)
    (jobs : List Job) : r.Patient g jobs := by
  intro ks finite i h
  obtain ⟨begun, now, hsub, _, hlt⟩ := Timed.elapsed_of_timedOut positive finite h
  exact ⟨begun, now, hsub, hlt⟩

namespace Machine

variable {t : Terms} {jobs : List Job}

/-- In a new audit every check waits in the queue. -/
theorem eq_ofJob_of_mem_start {c : Bool} {s : Slot} (hs : s ∈ (start jobs c).slots) :
    ∃ j, s = Slot.ofJob j := by
  obtain ⟨j, _, rfl⟩ := List.mem_map.1 hs
  exact ⟨j, rfl⟩

/-- In a new audit the coordinator finds nothing to be done, and is soon about to give up late
checks. -/
theorem steps_look_poll (t : Terms) (j : Job) (jobs : List Job) :
    (start (j :: jobs) false).steps t [.look, .poll []] =
      (start (j :: jobs) false).goTo .expiring := by
  have hready : (start (j :: jobs) false).places (·.isReady) = [] := by
    rw [places, List.filter_eq_nil_iff]
    intro i _ hready
    obtain ⟨s, hs, hdone⟩ := (Option.any_eq_true ..).1 hready
    obtain ⟨j, rfl⟩ := eq_ofJob_of_mem_start (List.mem_of_getElem? hs)
    cases hdone
  have hbatch : ((start (j :: jobs) false).goTo (.waiting [])).batch [] [] = [] :=
    List.filter_eq_nil_iff.2 fun _ _ => by simp
  have hlook := Step.wait (t := t) (m := start (j :: jobs) false) rfl rfl (Or.inl rfl)
  rw [waitFor, hready] at hlook
  rw [steps_cons, next_of_step hlook, steps_cons, next_of_step (.poll rfl), steps_nil,
    Stage.withdrawingAll, hbatch]
  rfl

/-- A slot that is changed holds what it is changed to. -/
theorem getElem?_update {m : Machine} {i : Nat} {s : Slot} (hs : m.slots[i]? = some s) (s' : Slot) :
    (m.update i s').slots[i]? = some s' := by
  rw [update, List.getElem?_set_self (List.getElem?_eq_some_iff.1 hs).1]

/-- While the coordinator looks for late checks, the first check can be given up as soon as a free
worker has started it. -/
theorem stuck_of_started {m : Machine} {s : Slot} (st : m.stage = .expiring)
    (hs : m.slots[0]? = some s) (ph : s.phase = .waiting) (pend : s.pending = true)
    (kept : s.skipped = false) (free : m.busy < t.workers) (going : m.cancelRequested = false) :
    ((m.steps t [.take 0, .start 0, .expire 0]).slots[0]?).any (·.stuck) = true := by
  obtain ⟨taken, hm⟩ : ∃ m', m' = m.update 0 { s with phase := .taken } := ⟨_, rfl⟩
  have htake := next_of_step (.take hs rfl free ph)
  have htaken := getElem?_update hs { s with phase := .taken }
  rw [← hm] at htake htaken
  cases htold : t.check s.job.rule s.job.subject with
  | mk notes answer =>
      have hstart := next_of_step (.start htaken rfl (by rw [hm]; exact going) kept htold)
      have hstarted := getElem?_update htaken { s with phase := .started notes answer }
      have hexpire := next_of_step (t := t)
        (.expire (m := { taken.update 0 { s with phase := .started notes answer } with
          asked := taken.asked ++ [0] }) (by rw [hm]; exact st) hstarted pend rfl)
      rw [steps_cons, htake, steps_cons, hstart, steps_cons, hexpire, steps_nil]
      simp only [write, update] at hstarted ⊢
      rw [List.getElem?_set_self (List.getElem?_eq_some_iff.1 hstarted).1]
      rfl

/-- The events in which the first check of a plan is started and given up. -/
def giveUpFirst : List Event := [.look, .poll []] ++ [.take 0, .start 0, .expire 0]

/-- The first check of a plan can be given up as soon as it has been started. -/
theorem stuck_giveUpFirst (hw : 1 ≤ t.workers) (j : Job) (jobs : List Job) :
    (((start (j :: jobs) false).steps t giveUpFirst).slots[0]?).any (·.stuck) = true := by
  have hbusy : ((start (j :: jobs) false).goTo .expiring).busy = 0 := by
    rw [busy, List.countP_eq_zero]
    intro s hs hheld
    obtain ⟨j, rfl⟩ := eq_ofJob_of_mem_start (c := false) hs
    cases hheld
  rw [giveUpFirst, steps_append, steps_look_poll]
  refine stuck_of_started (s := Slot.ofJob j) rfl rfl rfl rfl rfl ?_ rfl
  rw [hbusy]
  exact hw

end Machine

namespace Runner

variable {r : Runner}

/-- A plan without checks has none to be given up. -/
theorem patient_nil (r : Runner) (g : Setting) : r.Patient g [] := by
  intro ks _ i h
  obtain ⟨j, hj, _⟩ := Timed.resultAt_of_timedOut h
  cases hj

/-- **Under a limit that is not a number** no runner is patient: it can give up a check at the very
reading at which the check was started. -/
theorem not_patient_of_isNaN (hnan : r.timeout.isNaN = true) (hw : 1 ≤ r.workers)
    (going : r.cancelRequested = false) (g : Setting) (j : Job) (jobs : List Job) :
    ¬ r.Patient g (j :: jobs) := by
  intro patient
  have late : r.isLate 0.0 0.0 = true := isLate_iff.2 (Seconds.late_of_isNaN hnan 0.0 0.0)
  -- a clock that stands still
  have still : ∀ k ∈ Machine.giveUpFirst.map (·.tick 0.0 0.0), k.reading = 0.0 := by
    intro k hk
    obtain ⟨e, _, rfl⟩ := List.mem_map.1 hk
    cases e <;> rfl
  have hgiven : (Timed.run r g (j :: jobs) (Machine.giveUpFirst.map (·.tick 0.0 0.0))).timedOut 0 =
      true := by
    rw [Timed.timedOut, Timed.machine_run late, going]
    exact Machine.stuck_giveUpFirst hw j jobs
  obtain ⟨begun, now, hsub, hlt⟩ := patient _ (fun k hk => by rw [still k hk]; rfl) 0 hgiven
  have hbegun : begun = 0.0 := still ⟨.start 0, begun⟩ (hsub.subset (by simp))
  have hnow : now = 0.0 := still ⟨.expire 0, now⟩ (hsub.subset (by simp))
  rw [hbegun, hnow] at hlt
  exact Seconds.zero_lt_iff.1 hlt

/-- A runner is made of any number of workers, and keeps the limit. -/
theorem exists_make {workers : Int} (hw : 1 ≤ workers) (timeout poll : Float) :
    ∃ r, make workers timeout poll = .ok r ∧ r.timeout = timeout := by
  rw [make, if_neg (Int.not_lt.2 hw)]
  exact ⟨_, rfl, rfl⟩

end Runner

/-! ## Configured runners -/

namespace RunnerConfig

/-- **What an accepted configuration comes to.**  It has a worker, so that a runner is made of it.
Its limit is more than zero, and the runner is patient, unless the limit is not a number: then the
runner is patient only where there is nothing to be checked. -/
theorem patient_iff {data : Value} {c : RunnerConfig} (read : ofValue data = .ok c) :
    1 ≤ c.workers ∧ (0.0 < c.timeout ↔ c.timeout.isNaN = false) ∧
      ∃ r, Runner.make c.workers c.timeout Runner.defaultPoll = .ok r ∧
        ∀ g jobs, r.Patient g jobs ↔ jobs = [] ∨ c.timeout.isNaN = false := by
  obtain ⟨hworkers, hlimit⟩ := accepted_of_ofValue read
  have hpositive := Seconds.zero_lt_iff_of_not_le hlimit
  obtain ⟨r, hmade, htimeout⟩ := Runner.exists_make hworkers c.timeout Runner.defaultPoll
  refine ⟨hworkers, hpositive, r, hmade, fun g jobs => ⟨fun patient => ?_, ?_⟩⟩
  · cases jobs with
    | nil => exact Or.inl rfl
    | cons j jobs =>
        right
        rw [← Bool.not_eq_true, ← htimeout]
        intro hnan
        obtain ⟨hw, going⟩ := Runner.make_eq_ok hmade
        exact Runner.not_patient_of_isNaN hnan hw going g j jobs patient
  · rintro (rfl | hnumber)
    · exact Runner.patient_nil r g
    · rw [← hpositive, ← htimeout] at hnumber
      exact Runner.patient_of_positive hnumber g jobs

/-- A section is read as a configuration if it is seen to be. -/
theorem ofValue_eq_ok {data : Value} {n : Int} {x : Float}
    (h : (ofValue data).toOption.map (fun c => (c.workers, c.timeout)) = some (n, x)) :
    ofValue data = .ok ⟨n, x⟩ := by
  obtain ⟨c, hc, he⟩ := Option.map_eq_some_iff.1 h
  cases he
  exact eq_ok_of_toOption hc

/-- A section that asks for two workers and for half a second. -/
def briefSection : Value :=
  .table [(.text "max_workers", .text "2"), (.text "evaluation_timeout", .text " 0.5 ")]

/-- The runner of a brief section is patient. -/
theorem patient_of_briefSection :
    ofValue briefSection = .ok ⟨2, 0.5⟩ ∧ 0.0 < (0.5 : Float) ∧
      ∃ r, Runner.make 2 0.5 Runner.defaultPoll = .ok r ∧ ∀ g jobs, r.Patient g jobs := by
  have read : ofValue briefSection = .ok ⟨2, 0.5⟩ := ofValue_eq_ok (by decide +kernel)
  have hnumber : (0.5 : Float).isNaN = false := rfl
  obtain ⟨_, hpositive, r, hmade, hpatient⟩ := patient_iff read
  exact ⟨read, hpositive.2 hnumber, r, hmade, fun g jobs => (hpatient g jobs).2 (Or.inr hnumber)⟩

/-- A section with a limit that is not a number. -/
def limitlessSection : Value := .table [(.text "evaluation_timeout", .float Float.nan)]

/-- A section can be read although its limit is not more than zero, and then its runner is patient
in no audit that checks anything. -/
theorem not_patient_of_limitlessSection :
    ofValue limitlessSection = .ok ⟨4, Float.nan⟩ ∧ ¬ 0.0 < Float.nan ∧
      ∃ r, Runner.make 4 Float.nan Runner.defaultPoll = .ok r ∧
        ∀ g j jobs, ¬ r.Patient g (j :: jobs) := by
  have hnan : Float.nan.isNaN = true := by decide +kernel
  have read : ofValue limitlessSection = .ok ⟨4, Float.nan⟩ := ofValue_eq_ok (by decide +kernel)
  refine ⟨read, by decide +kernel, ?_⟩
  have hfour : (1 : Int) ≤ 4 := by decide
  obtain ⟨r, hmade, htimeout⟩ := Runner.exists_make hfour Float.nan Runner.defaultPoll
  obtain ⟨hw, going⟩ := Runner.make_eq_ok hmade
  exact ⟨r, hmade, Runner.not_patient_of_isNaN (by rw [htimeout]; exact hnan) hw going⟩

end RunnerConfig

end ConfigAudit
