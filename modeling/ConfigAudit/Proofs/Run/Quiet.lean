/-
# Quiet audits

An audit is quiet if it is not cancelled and no check takes too long.  Then no check is stopped or
given up, whatever the workers do and in whatever order, and what is recorded and noted is what
the checks say when they are carried out one after the other.

* `Interleaves` : a list that is made up of others, each in its order;
* `Machine.QuietStep` : what can happen in a quiet audit;
* `Machine.Quiet` : the invariant of quiet audits;
* `quiet_steps`, `Quiet.answer` : every quiet run keeps it, and what it answers;
* `answer_of_quiet` : both in one.
-/
import Mathlib.Data.List.Basic
import ConfigAudit.Proofs.Run.Sound

namespace ConfigAudit

/-! ## Interleavings -/

/-- A list that is made up of the elements of several lists, those of each list in their order. -/
inductive Interleaves {α : Type} : List (List α) → List α → Prop where
  /-- Nothing is left in any list. -/
  | nil {ls : List (List α)} (done : ∀ l ∈ ls, l = []) : Interleaves ls []
  /-- The next element is the first one that is left in some list. -/
  | cons {ls : List (List α)} {i : Nat} {a : α} {l rest : List α} (head : ls[i]? = some (a :: l))
      (tail : Interleaves (ls.set i l) rest) : Interleaves ls (a :: rest)

/-! ## Quiet steps -/

/-- Whether an event can happen in a quiet audit: neither is the audit cancelled, nor is a check
found to take too long. -/
def Event.isQuiet : Event → Bool
  | cancel | expire _ => false
  | _ => true

/-- Nothing has kept a check from its course. -/
structure Slot.Undisturbed (s : Slot) : Prop where
  /-- It was not given up while it was going on. -/
  free : s.stuck = false
  /-- It was not given up before it was started. -/
  kept : s.skipped = false
  /-- It was not stopped. -/
  course : s.phase.isStopped = false

/-- The notes that a check has still to leave. -/
def Slot.unwritten (t : Terms) (s : Slot) : Journal :=
  match s.phase with
  | .started notes _ => notes
  | .finished _ => []
  | _ => t.notes s.job

/-- The places where the coordinator of a quiet audit can be. -/
def Stage.IsQuiet : Stage → Prop
  | withdrawing _ | skipping .. => False
  | left abandoned => abandoned = 0
  | reported r | returned r => r.cancelled = false ∧ r.abandoned = 0
  | _ => True

namespace Machine

variable {t : Terms} {jobs : List Job} {m m' : Machine} {e : Event}

/-- What can happen in a quiet audit. -/
inductive QuietStep (t : Terms) (m : Machine) : Event → Machine → Prop where
  /-- A free worker takes the first check of the queue. -/
  | take {i : Nat} {s : Slot} (hs : m.slots[i]? = some s) (ph : s.phase = .waiting) :
      QuietStep t m (.take i) (m.update i { s with phase := .taken })
  /-- A worker asks the rule of its check. -/
  | start {i : Nat} {s : Slot} {answer : Except Fault CheckResult} (hs : m.slots[i]? = some s)
      (ph : s.phase = .taken) :
      QuietStep t m (.start i)
        { m.update i { s with phase := .started (t.notes s.job) answer } with
          asked := m.asked ++ [i] }
  /-- A check leaves a note. -/
  | note {i : Nat} {s : Slot} {n : Note} {rest : Journal} {answer : Except Fault CheckResult}
      (hs : m.slots[i]? = some s) (ph : s.phase = .started (n :: rest) answer) :
      QuietStep t m (.note i) ((m.update i { s with phase := .started rest answer }).write n)
  /-- A check comes to its end. -/
  | finish {i : Nat} {s : Slot} {answer : Except Fault CheckResult} (hs : m.slots[i]? = some s)
      (ph : s.phase = .started [] answer) :
      QuietStep t m (.finish i) (m.update i { s with phase := .finished answer })
  /-- The coordinator leaves its loop. -/
  | leave (st : m.stage = .looking) (settled : m.isOver = true) :
      QuietStep t m .look (m.goTo (.left 0))
  /-- The coordinator has nothing to do but to wait. -/
  | wait (st : m.stage = .looking) (going : m.isOver = false) :
      QuietStep t m .look (m.goTo (.waiting (m.places (·.isReady))))
  /-- The coordinator sees what is done. -/
  | poll {seen done : List Nat} (st : m.stage = .waiting done) :
      QuietStep t m (.poll seen) (m.goTo (.collectingAll (m.batch seen done)))
  /-- The coordinator records what came of a check. -/
  | collect {i : Nat} {s : Slot} {todo : List Nat} {answer : Except Fault CheckResult}
      (st : m.stage = .collecting todo) (hs : m.slots[i]? = some s) (pend : s.pending = true)
      (ph : s.phase = .finished answer) :
      QuietStep t m (.collect i)
        ((m.update i { s with pending := false, result := some (s.job.collected answer) }).goTo
          (.collectingAll (todo.erase i)))
  /-- The coordinator finds a worker that is not stuck. -/
  | spare (st : m.stage = .expiring) : QuietStep t m .survey (m.goTo .looking)
  /-- The coordinator writes the report. -/
  | read (st : m.stage = .left 0) : QuietStep t m .read (m.goTo (.reported (m.report 0)))
  /-- The coordinator answers. -/
  | clear {report : Report} (st : m.stage = .reported report) :
      QuietStep t m .clear { m with stage := .returned report, cancelRequested := false }

/-! ## The invariant of quiet audits -/

/-- The invariant of quiet audits. -/
structure Quiet (t : Terms) (jobs : List Job) (m : Machine) : Prop where
  /-- The audit is in good standing. -/
  sound : m.Sound t jobs
  /-- The audit was not cancelled. -/
  going : m.cancelRequested = false
  /-- No check was kept from its course. -/
  undisturbed : ∀ s ∈ m.slots, s.Undisturbed
  /-- The coordinator neither withdraws nor gives up anything. -/
  stage : m.stage.IsQuiet
  /-- The notes left so far and those still to come are those of the checks, each in their
  order. -/
  notes : ∀ rest, Interleaves (m.slots.map (·.unwritten t)) rest →
    Interleaves (jobs.map t.notes) (m.journal ++ rest)

/-- An audit begins quietly. -/
theorem quiet_start (t : Terms) (jobs : List Job) : (start jobs false).Quiet t jobs where
  sound := sound_start t jobs false
  going := rfl
  undisturbed := by
    intro s hs
    obtain ⟨j, _, rfl⟩ := List.mem_map.1 hs
    exact ⟨rfl, rfl, rfl⟩
  stage := trivial
  notes := by
    intro rest h
    have hall : (start jobs false).slots.map (·.unwritten t) = jobs.map t.notes := by
      rw [start, List.map_map]
      apply List.map_congr_left
      intro j _
      rfl
    rw [hall] at h
    exact h

namespace Quiet

/-- In a quiet audit no check is stuck. -/
theorem stuckCount_eq (h : m.Quiet t jobs) : m.stuckCount = 0 := by
  rw [stuckCount, List.countP_eq_zero]
  intro s hs
  simp [Slot.isStuck, (h.undisturbed s hs).free]

/-- A check at some place was not kept from its course. -/
theorem undisturbed_at {i : Nat} {s : Slot} (h : m.Quiet t jobs) (hs : m.slots[i]? = some s) :
    s.Undisturbed := h.undisturbed s (List.mem_of_getElem? hs)

/-- What happens in a quiet audit is one of a few things, if there is any worker at all. -/
theorem quietStep (h : m.Quiet t jobs) (hw : 1 ≤ t.workers) (he : e.isQuiet = true)
    (hstep : Step t m e m') : QuietStep t m e m' := by
  have hgoing := h.going
  have hstage := h.stage
  have hstuck := h.stuckCount_eq
  cases hstep with
  | take hs first free ph => exact .take hs ph
  | @start i s notes answer hs ph going kept told =>
      obtain rfl : t.notes s.job = notes := congrArg Prod.fst told
      exact .start hs ph
  | note hs ph => exact .note hs ph
  | finish hs ph => exact .finish hs ph
  | leave st settled =>
      rw [hstuck]
      exact .leave st settled
  | wait st going calm => exact .wait st going
  | poll st => exact .poll st
  | collect st hs pend ph => exact .collect st hs pend ph
  | spare st free => exact .spare st
  | read st =>
      rw [st] at hstage
      subst hstage
      exact .read st
  | clear st => exact .clear st
  -- the rest cannot happen: nothing was stopped, cancelled, withdrawn or given up
  | discard hs first free ph => simpa [ph, Phase.isStopped] using (h.undisturbed_at hs).course
  | refuse hs ph stop => simp [hgoing, (h.undisturbed_at hs).kept] at stop
  | revoke st going asked fresh => simp [hgoing] at asked
  | strike st hs pend ph =>
      rcases ph with ph | ph <;> simpa [ph, Phase.isStopped] using (h.undisturbed_at hs).course
  | saturated st full => omega
  | withdraw st | pass st | skip st =>
      rw [st] at hstage
      exact hstage.elim
  | cancel | expire => cases he

/-- Checks that leave no note in a step keep all their notes to come. -/
theorem notes_congr (h : m.Quiet t jobs)
    (hu : m'.slots.map (·.unwritten t) = m.slots.map (·.unwritten t))
    (hj : m'.journal = m.journal) :
    ∀ rest, Interleaves (m'.slots.map (·.unwritten t)) rest →
      Interleaves (jobs.map t.notes) (m'.journal ++ rest) := by
  rw [hu, hj]
  exact h.notes

/-- A check that leaves a note leaves the first one of those still to come. -/
theorem notes_of_note {i : Nat} {s s' : Slot} {n : Note} (h : m.Quiet t jobs)
    (hs : m.slots[i]? = some s) (hu : s.unwritten t = n :: s'.unwritten t)
    (hm : m'.slots = m.slots.set i s') (hj : m'.journal = m.journal ++ [n]) :
    ∀ rest, Interleaves (m'.slots.map (·.unwritten t)) rest →
      Interleaves (jobs.map t.notes) (m'.journal ++ rest) := by
  intro rest hrest
  rw [hj, List.append_assoc, List.singleton_append]
  apply h.notes
  have hhead : (m.slots.map (·.unwritten t))[i]? = some (n :: s'.unwritten t) := by
    rw [List.getElem?_map, hs, Option.map_some, hu]
  refine .cons hhead ?_
  rw [hm, List.map_set] at hrest
  exact hrest

/-- The coordinator of a quiet audit goes on collecting or comes to the end of it. -/
theorem isQuiet_collectingAll (todo : List Nat) : (Stage.collectingAll todo).IsQuiet := by
  cases todo <;> trivial

/-- Every step of a quiet audit keeps the invariant. -/
theorem step (h : m.Quiet t jobs) (hw : 1 ≤ t.workers) (he : e.isQuiet = true)
    (hstep : Step t m e m') : m'.Quiet t jobs where
  sound := h.sound.step hstep
  going := by
    have hgoing := h.going
    cases h.quietStep hw he hstep with
    | clear => rfl
    | _ => exact hgoing
  undisturbed := by
    have hall := h.undisturbed
    cases h.quietStep hw he hstep with
    | take hs | start hs | note hs | finish hs =>
        exact forall_mem_set hall ⟨(h.undisturbed_at hs).free, (h.undisturbed_at hs).kept, rfl⟩
    | collect st hs =>
        have hund := h.undisturbed_at hs
        exact forall_mem_set hall ⟨hund.free, hund.kept, hund.course⟩
    | _ => exact hall
  stage := by
    have hstage := h.stage
    cases h.quietStep hw he hstep with
    | take | start | note | finish => exact hstage
    | leave => rfl
    | wait | spare => trivial
    | poll | collect => exact isQuiet_collectingAll _
    | read => exact ⟨h.going, rfl⟩
    | clear st =>
        rw [st] at hstage
        exact hstage
  notes := by
    cases h.quietStep hw he hstep with
    | take hs ph | start hs ph | finish hs ph | collect st hs pend ph =>
        refine h.notes_congr (map_set_slot _ hs ?_) rfl
        simp [Slot.unwritten, ph]
    | note hs ph =>
        refine h.notes_of_note hs ?_ rfl rfl
        simp [Slot.unwritten, ph]
    | _ => exact h.notes_congr rfl rfl

end Quiet

/-- **Every quiet run keeps the invariant.** -/
theorem quiet_steps (hw : 1 ≤ t.workers) (hm : m.Quiet t jobs) (es : List Event)
    (hes : ∀ e ∈ es, e.isQuiet = true) : (m.steps t es).Quiet t jobs := by
  induction es generalizing m with
  | nil => exact hm
  | cons e es ih =>
      rw [steps_cons]
      apply ih
      · rcases next_cases t m e with he | he
        · rw [he]
          exact hm
        · exact hm.step hw (hes e List.mem_cons_self) he
      · intro x hx
        exact hes x (List.mem_cons_of_mem _ hx)

/-! ## What a quiet audit answers -/

namespace Quiet

/-- A check that a quiet audit no longer waits for has come to its end, and what came of it is
recorded. -/
theorem collected {s : Slot} (h : m.Quiet t jobs) (hs : s ∈ m.slots) (pend : s.pending = false) :
    s.phase = .finished (t.answer s.job) ∧ s.result = some (s.job.collected (t.answer s.job)) := by
  have hund := h.undisturbed s hs
  cases h.sound.slots s hs with
  | awaited pend' => simp [pend] at pend'
  | collected _ _ _ ph res => exact ⟨ph, res⟩
  | struck _ _ _ ph =>
      have hcourse := hund.course
      rcases ph with ph | ph <;> simp [ph, Phase.isStopped] at hcourse
  | late _ held => simp [hund.free] at held
  | skipped _ _ gone => simp [hund.kept] at gone

/-- When a quiet audit has answered, all checks have come to their end, and what came of them is
recorded. -/
theorem finished_of_answer {r : Report} (h : m.Quiet t jobs) (st : m.stage = .returned r) :
    ∀ s ∈ m.slots, s.phase = .finished (t.answer s.job) ∧
      s.result = some (s.job.collected (t.answer s.job)) := by
  have hclosed := h.sound.fits
  rw [st] at hclosed
  intro s hs
  exact h.collected hs (hclosed.settled s hs)

/-- **A quiet audit that has answered** has reported the sequential results, and its notes are
made up of those of the checks, each in their order. -/
theorem answer {r : Report} (h : m.Quiet t jobs) (st : m.stage = .returned r) :
    r = ⟨t.sequential jobs, false, 0⟩ ∧ Interleaves (jobs.map t.notes) m.journal := by
  have hclosed : m.Closed r := by
    have hf := h.sound.fits
    rw [st] at hf
    exact hf
  have hflags : r.cancelled = false ∧ r.abandoned = 0 := by
    have hstage := h.stage
    rw [st] at hstage
    exact hstage
  have hslots := h.finished_of_answer st
  constructor
  · have hresults : r.results = t.sequential jobs := by
      rw [hclosed.results, Terms.sequential, ← h.sound.jobs_eq, List.map_map]
      apply List.filterMap_eq_map_iff_forall_eq_some.2
      intro s hs
      exact (hslots s hs).2
    obtain ⟨results, cancelled, abandoned⟩ := r
    simp only at hresults hflags
    rw [hresults, hflags.1, hflags.2]
  · rw [← List.append_nil m.journal]
    apply h.notes
    refine .nil ?_
    intro l hl
    obtain ⟨s, hs, rfl⟩ := List.mem_map.1 hl
    simp [Slot.unwritten, (hslots s hs).1]

/-- When a quiet audit has answered, every rule of the plan has been asked exactly once. -/
theorem asked_of_answer {r : Report} (h : m.Quiet t jobs) (st : m.stage = .returned r) :
    m.asked.Nodup ∧ ∀ i, i ∈ m.asked ↔ i < jobs.length := by
  refine ⟨h.sound.once, ?_⟩
  intro i
  rw [h.sound.asked i, List.getElem?_map, ← h.sound.jobs_eq, List.length_map]
  constructor
  · intro hstarted
    obtain ⟨s, hs, _⟩ := Option.map_eq_some_iff.1 hstarted
    obtain ⟨hi, _⟩ := List.getElem?_eq_some_iff.1 hs
    exact hi
  · intro hi
    have hphase := (h.finished_of_answer st _ (List.getElem_mem hi)).1
    rw [List.getElem?_eq_getElem hi, Option.map_some, hphase]
    rfl

end Quiet

/-- A quiet run that has answered has reported the sequential results, and it has asked every rule
of the plan exactly once. -/
theorem answer_of_quiet (hw : 1 ≤ t.workers) {es : List Event} (quiet : ∀ e ∈ es, e.isQuiet = true)
    {r : Report} (answered : ((start jobs false).steps t es).stage = .returned r) :
    r = ⟨t.sequential jobs, false, 0⟩ ∧ ((start jobs false).steps t es).asked.Nodup ∧
      ∀ i, i ∈ ((start jobs false).steps t es).asked ↔ i < jobs.length := by
  have hquiet := quiet_steps hw (quiet_start t jobs) es quiet
  exact ⟨(hquiet.answer answered).1, hquiet.asked_of_answer answered⟩

end Machine

end ConfigAudit
