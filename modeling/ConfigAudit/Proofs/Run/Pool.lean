/-
# Audits do not wait in vain

A check that is given up keeps its worker until its rule answers, if ever.  When all workers are
kept in this way, the coordinator gives up every check that none of them has started, so whenever
it waits, some worker is left for the checks in the queue, or there are none that it waits for.

* `Attended` : nothing is awaited in vain;
* `Attending` : the invariant of a run, stage by stage;
* `busy_le_workers` : checks keep no more workers than there are;
* `Departed` : where the number of abandoned checks comes from;
* `attended_and_abandoned` : what this means for runs and reports.
-/
import Mathlib.Data.List.Induction
import ConfigAudit.Proofs.Run.Cancel

namespace ConfigAudit

namespace Terms

/-- Whether a result says that its check took too long. -/
def isLate (t : Terms) (x : CheckResult) : Bool :=
  x.outcome == .error && Value.equal x.comment (.text t.lateText)

/-- The result of a check that is given up says so. -/
theorem isLate_givenUp (t : Terms) (j : Job) : t.isLate (j.givenUp t.lateText) = true := by
  simp [isLate, Job.givenUp, Header.result]

end Terms

namespace Machine

variable {t : Terms} {jobs : List Job} {m m' : Machine} {e : Event} {i : Nat} {s s' : Slot}

/-! ## Counting checks -/

/-- How a count changes when a check moves. -/
theorem countP_set_add {l : List Slot} (p : Slot → Bool) (hs : l[i]? = some s) (s' : Slot) :
    (l.set i s').countP p + (if p s = true then 1 else 0) =
      l.countP p + (if p s' = true then 1 else 0) := by
  obtain ⟨hi, heq⟩ := List.getElem?_eq_some_iff.1 hs
  have hpos : p s = true → 0 < l.countP p := fun h =>
    List.countP_pos_iff.2 ⟨s, List.mem_of_getElem? hs, h⟩
  rw [List.countP_set hi, heq]
  by_cases hp : p s = true
  · have := hpos hp
    simp only [hp, if_true]
    omega
  · simp [hp]

/-- A check that moves and does not come to have a property raises no count. -/
theorem countP_set_le {l : List Slot} (p : Slot → Bool) (hs : l[i]? = some s)
    (hp : p s' = true → p s = true) : (l.set i s').countP p ≤ l.countP p := by
  have hcount := countP_set_add p hs s'
  by_cases h : p s' = true
  · rw [if_pos h, if_pos (hp h)] at hcount
    omega
  · rw [if_neg h] at hcount
    omega

/-- A check that moves and does not lose a property lowers no count. -/
theorem countP_le_set {l : List Slot} (p : Slot → Bool) (hs : l[i]? = some s)
    (hp : p s = true → p s' = true) : l.countP p ≤ (l.set i s').countP p := by
  have hcount := countP_set_add p hs s'
  by_cases h : p s = true
  · rw [if_pos h, if_pos (hp h)] at hcount
    omega
  · rw [if_neg h] at hcount
    omega

/-! ## Attended audits -/

/-- Nothing is awaited in vain: nothing is awaited at all, or some worker is not kept by a check
that was given up, or all checks that are awaited have been started. -/
def Attended (t : Terms) (m : Machine) : Prop :=
  m.isOver = true ∨ m.stuckCount < t.workers ∨
    ∀ s ∈ m.slots, s.pending = true → s.phase.hasStarted = true

/-- What carries this through a run: it holds whenever a round of the coordinator is over and until
it stops waiting again, and while it gives up checks for want of a worker, those that it has still
to go through are all that are awaited and have not been started. -/
def Attending (t : Terms) (m : Machine) : Prop :=
  match m.stage with
  | .looking | .withdrawing _ | .waiting _ => m.Attended t
  | .skipping _ todo => ∀ i s, m.slots[i]? = some s → s.pending = true →
      s.phase.hasStarted = false → i ∈ todo
  | _ => True

/-- A check moves without the coordinator: it is awaited as before, a start is not undone, and it
does not begin to keep a worker after it was given up. -/
structure Unattended (s s' : Slot) : Prop where
  /-- It is awaited as before. -/
  pending : s'.pending = s.pending
  /-- A start is not undone. -/
  started : s.phase.hasStarted = true → s'.phase.hasStarted = true
  /-- It does not begin to be stuck. -/
  stuck : s'.isStuck = true → s.isStuck = true

/-- Nothing is awaited in vain after a check has moved without the coordinator. -/
theorem Attended.set (h : m.Attended t) (hs : m.slots[i]? = some s)
    (hm : m'.slots = m.slots.set i s') (move : Unattended s s') : m'.Attended t := by
  rcases h with settled | free | started
  · left
    rw [isOver, hm, List.all_eq_true]
    refine forall_mem_set (List.all_eq_true.1 settled) ?_
    rw [move.pending]
    exact List.all_eq_true.1 settled s (List.mem_of_getElem? hs)
  · right; left
    rw [stuckCount, hm]
    exact Nat.lt_of_le_of_lt (countP_set_le _ hs move.stuck) free
  · right; right
    rw [hm]
    refine forall_mem_set started fun pend => move.started ?_
    exact started s (List.mem_of_getElem? hs) (move.pending ▸ pend)

/-- A check moves without the coordinator, which stays where it is. -/
theorem Attending.set (h : m.Attending t) (hs : m.slots[i]? = some s)
    (hm : m'.slots = m.slots.set i s') (hg : m'.stage = m.stage) (move : Unattended s s') :
    m'.Attending t := by
  unfold Attending at h ⊢
  rw [hg]
  cases hst : m.stage with
  | looking | withdrawing _ | waiting _ =>
      rw [hst] at h
      exact Attended.set h hs hm move
  | skipping n todo =>
      rw [hst] at h
      intro k x hx pend idle
      rw [hm, List.getElem?_set] at hx
      split at hx
      · rename_i hik
        subst hik
        split at hx
        · cases hx
          refine h i s hs (move.pending ▸ pend) ?_
          exact Bool.eq_false_iff.2 fun hstart => by simp [move.started hstart] at idle
        · cases hx
      · exact h k x hx pend idle
  | _ => trivial

/-- The coordinator begins to wait only when a round is over. -/
theorem Attended.waitFor (h : m.Attended t) (todo : List Nat) : (m.waitFor todo).Attending t := by
  cases todo with
  | nil => exact h
  | cons i rest => exact h

/-- When the coordinator has gone through all checks, those that are awaited have been started. -/
theorem attending_skippingAll {n : Nat} {todo : List Nat} (hg : m.stage = .skippingAll n todo)
    (h : ∀ i s, m.slots[i]? = some s → s.pending = true → s.phase.hasStarted = false → i ∈ todo) :
    m.Attending t := by
  unfold Attending
  rw [hg]
  cases todo with
  | cons k rest => exact h
  | nil =>
      refine Or.inr (Or.inr fun s hs pend => ?_)
      obtain ⟨i, hi⟩ := List.getElem?_of_mem hs
      cases hstart : s.phase.hasStarted with
      | true => rfl
      | false => exact absurd (h i s hi pend hstart) List.not_mem_nil

/-- While it collects and gives up what took too long, nothing is said. -/
theorem attending_collectingAll (todo : List Nat) (hg : m.stage = .collectingAll todo) :
    m.Attending t := by
  unfold Attending
  rw [hg]
  cases todo <;> trivial

/-- **One step.** -/
theorem Step.attending (hm : m.Attending t) (h : Step t m e m') : m'.Attending t := by
  cases h with
  | take hs first free ph | discard hs first free ph | refuse hs ph stop
  | start hs ph going kept told | note hs ph | finish hs ph =>
      refine hm.set hs rfl rfl ⟨rfl, ?_, ?_⟩ <;>
        simp [ph, Phase.hasStarted, Slot.isStuck, Phase.isDone]
  | cancel => exact hm
  | leave st settled => trivial
  | revoke st going asked fresh =>
      have h : m.Attended t := by simpa only [Attending, st] using hm
      exact Attended.waitFor (m := { m with handled := true }) h _
  | wait st going calm =>
      have h : m.Attended t := by simpa only [Attending, st] using hm
      exact h.waitFor []
  | @withdraw i s todo st mem hs =>
      have h : m.Attended t := by simpa only [Attending, st] using hm
      have hset : (m.update i { s with phase := s.phase.cancel }).Attended t := by
        refine h.set hs rfl ⟨rfl, ?_, ?_⟩ <;> simp [Slot.isStuck]
      exact hset.waitFor _
  | poll st => exact attending_collectingAll _ rfl
  | strike st hs pend ph | collect st hs pend ph => exact attending_collectingAll _ rfl
  | expire st hs pend ph => exact attending_collectingAll [] st
  | saturated st full =>
      refine attending_skippingAll rfl fun i s hs pend _ => ?_
      rw [places, List.mem_filter, List.mem_range]
      have hs' : m.slots[i]? = some s := hs
      exact ⟨(List.getElem?_eq_some_iff.1 hs').1, by simp [hs', pend]⟩
  | spare st free => exact Or.inr (Or.inl free)
  | @pass i s n todo st mem hs kept =>
      have h : ∀ k x, m.slots[k]? = some x → x.pending = true → x.phase.hasStarted = false →
          k ∈ todo := by simpa only [Attending, st] using hm
      refine attending_skippingAll rfl fun k x hx pend idle => ?_
      refine (List.mem_erase_of_ne ?_).2 (h k x hx pend idle)
      rintro rfl
      -- the check that is passed is not one of those
      obtain rfl : s = x := Option.some.inj (hs.symm.trans hx)
      rcases kept with gone | started
      · simp [pend] at gone
      · simp [idle] at started
  | @skip i s n todo st mem hs pend ph =>
      have h : ∀ k x, m.slots[k]? = some x → x.pending = true → x.phase.hasStarted = false →
          k ∈ todo := by simpa only [Attending, st] using hm
      refine attending_skippingAll rfl fun k x hx pend' idle => ?_
      have hx' : (m.slots.set i _)[k]? = some x := hx
      rw [List.getElem?_set] at hx'
      split at hx'
      · -- the check that is given up is not awaited any more
        split at hx' <;> cases hx'
        cases pend'
      · rename_i hne
        exact (List.mem_erase_of_ne (Ne.symm hne)).2 (h k x hx' pend' idle)
  | read st => trivial
  | clear st => trivial

/-- **All steps.** -/
theorem attending_steps (workers : 1 ≤ t.workers) (jobs : List Job) (requested : Bool)
    (es : List Event) : ((start jobs requested).steps t es).Attending t := by
  refine steps_induction (fun _ _ _ hm h => h.attending hm) es (Or.inr (Or.inl ?_))
  have hnone : (start jobs requested).stuckCount = 0 := by
    rw [stuckCount, List.countP_eq_zero]
    intro s hs
    obtain ⟨j, _, rfl⟩ := List.mem_map.1 hs
    simp [Slot.ofJob, Slot.isStuck]
  rw [hnone]
  exact workers

/-! ## Workers that are kept -/

/-- A check that was given up and has not come to its end keeps a worker. -/
theorem Sound.isHeld_of_isStuck (hm : m.Sound t jobs) (hs : s ∈ m.slots) (h : s.isStuck = true) :
    s.phase.isHeld = true := by
  have hstuck : s.stuck = true ∧ s.phase.isDone = false := by simpa [Slot.isStuck] using h
  cases hm.slots s hs with
  | awaited _ free | collected _ free | struck _ free | skipped _ free => simp [free] at hstuck
  | late _ _ _ ph _ =>
      cases hp : s.phase with
      | started notes answer => rfl
      | finished answer => simp [hp, Phase.isDone] at hstuck
      | _ => simp [hp, Phase.hasStarted] at ph

/-- Checks keep no more workers than there are. -/
theorem Step.busy_le (hm : m.busy ≤ t.workers) (h : Step t m e m') : m'.busy ≤ t.workers := by
  cases h with
  | @take i s hs first free ph =>
      have hcount := countP_set_add (·.phase.isHeld) hs { s with phase := .taken }
      simp only [ph, show Phase.isHeld .waiting = false from rfl, show Phase.isHeld .taken = true
        from rfl, Bool.false_eq_true, if_false, if_true, Nat.add_zero] at hcount
      exact Nat.le_trans (Nat.le_of_eq hcount) free
  | discard hs first free ph | refuse hs ph stop | start hs ph going kept told | note hs ph
  | finish hs ph =>
      refine Nat.le_trans (countP_set_le _ hs ?_) hm
      simp [ph, Phase.isHeld]
  | withdraw st mem hs | skip st mem hs pend ph =>
      refine Nat.le_trans (countP_set_le _ hs ?_) hm
      simp
  | strike st hs pend ph | collect st hs pend ph | expire st hs pend ph =>
      exact Nat.le_trans (countP_set_le _ hs id) hm
  | _ => exact hm

/-- Checks never keep more workers than there are. -/
theorem busy_le_workers (t : Terms) (jobs : List Job) (requested : Bool) (es : List Event) :
    ((start jobs requested).steps t es).busy ≤ t.workers := by
  refine steps_induction (fun _ _ _ hm h => h.busy_le hm) es ?_
  have hnone : (start jobs requested).busy = 0 := by
    rw [busy, List.countP_eq_zero]
    intro s hs
    obtain ⟨j, _, rfl⟩ := List.mem_map.1 hs
    simp [Slot.ofJob, Phase.isHeld]
  rw [hnone]
  exact Nat.zero_le _

/-- Checks that were given up keep no more workers than there are. -/
theorem stuckCount_le_workers (t : Terms) (jobs : List Job) (requested : Bool) (es : List Event) :
    ((start jobs requested).steps t es).stuckCount ≤ t.workers := by
  have hm := sound_steps t jobs requested es
  exact Nat.le_trans (List.countP_mono_left fun s hs => hm.isHeld_of_isStuck hs)
    (busy_le_workers t jobs requested es)

/-! ## Abandoned checks -/

/-- How many results say that a check took too long. -/
def lateCount (t : Terms) (m : Machine) : Nat := m.slots.countP fun s => s.result.any t.isLate

/-- What is recorded stays recorded, so the number of late results never falls. -/
theorem Step.lateCount_le (hm : m.Sound t jobs) (h : Step t m e m') :
    m.lateCount t ≤ m'.lateCount t := by
  rcases h.slots_eq Or.inl hm.halted_of_withdrawing with heq | ⟨i, s, s', hs, move, heq⟩
  · exact Nat.le_of_eq (by rw [lateCount, lateCount, heq])
  · rw [lateCount, lateCount, heq]
    refine countP_le_set _ hs fun late => ?_
    obtain ⟨x, hx, hlate⟩ := (Option.any_eq_true ..).1 late
    rw [move.result_eq (hm.slots s (List.mem_of_getElem? hs)) hx]
    exact hlate

/-- Every check that was given up while it was going on has a late result. -/
theorem Sound.stuckCount_le (hm : m.Sound t jobs) : m.stuckCount ≤ m.lateCount t := by
  refine List.countP_mono_left fun s hs h => ?_
  have hstuck : s.stuck = true := (Bool.and_eq_true_iff.1 h).1
  cases hm.slots s hs with
  | awaited _ free | collected _ free | struck _ free | skipped _ free => simp [free] at hstuck
  | late _ _ _ _ res =>
      rw [res]
      exact t.isLate_givenUp s.job

/-- How many checks have been given up and were going on when the coordinator left its loop. -/
def abandoned? : Stage → Option Nat
  | .left n => some n
  | .reported r | .returned r => some r.abandoned
  | _ => none

/-- The number of abandoned checks is taken when the coordinator leaves its loop, and stays as it
is. -/
theorem Step.abandoned_cases (h : Step t m e m') :
    abandoned? m'.stage = abandoned? m.stage ∨ (e = .look ∧ m.stage = .looking ∧
      m.isOver = true ∧ abandoned? m'.stage = some m.stuckCount) := by
  have hcollect : ∀ todo, abandoned? (.collectingAll todo) = none := by
    intro todo
    cases todo <;> rfl
  have hskip : ∀ n todo, abandoned? (.skippingAll n todo) = none := by
    intro n todo
    cases todo <;> rfl
  have hwait : ∀ (k : Machine) todo, abandoned? (k.waitFor todo).stage = none := by
    intro k todo
    cases todo <;> rfl
  cases h with
  | take | discard | refuse | start | note | finish | cancel => exact Or.inl rfl
  | leave st settled => exact Or.inr ⟨rfl, st, settled, rfl⟩
  | revoke st | wait st | withdraw st =>
      left
      rw [st]
      exact hwait _ _
  | poll st | strike st | collect st =>
      left
      rw [st]
      exact hcollect _
  | expire st => exact Or.inl rfl
  | saturated st | pass st | skip st =>
      left
      rw [st]
      exact hskip _ _
  | spare st | read st | clear st =>
      left
      rw [st]
      rfl

/-- A run has left the loop of the coordinator at some time, with so many checks that were given
up and still going on. -/
def Departed (t : Terms) (m : Machine) (es : List Event) (n : Nat) : Prop :=
  ∃ before behind, es = before ++ .look :: behind ∧ (m.steps t before).stage = .looking ∧
    (m.steps t before).isOver = true ∧ n = (m.steps t before).stuckCount

/-- The number of abandoned checks was taken when the run left the loop. -/
theorem departed_of_abandoned (begins : abandoned? m.stage = none) {es : List Event} {n : Nat}
    (h : abandoned? (m.steps t es).stage = some n) : Departed t m es n := by
  induction es using List.reverseRecOn with
  | nil => cases begins.symm.trans h
  | append_singleton es e ih =>
      have hlater : abandoned? (m.steps t es).stage = some n → Departed t m (es ++ [e]) n := by
        intro hn
        obtain ⟨before, behind, rfl, hst, hover, hcount⟩ := ih hn
        exact ⟨before, behind ++ [e], by simp, hst, hover, hcount⟩
      rw [steps_append] at h
      rcases next_cases t (m.steps t es) e with heq | hstep
      · rw [steps_cons, heq] at h
        exact hlater h
      · rcases hstep.abandoned_cases with heq | ⟨rfl, hst, hover, htaken⟩
        · exact hlater (heq ▸ h)
        · exact ⟨es, [], rfl, hst, hover, Option.some.inj (h.symm.trans htaken)⟩

/-- No more checks are abandoned than there are late results. -/
theorem abandoned_le_lateCount (t : Terms) (jobs : List Job) (requested : Bool) (es : List Event)
    {n : Nat} (h : abandoned? ((start jobs requested).steps t es).stage = some n) :
    n ≤ ((start jobs requested).steps t es).lateCount t := by
  have hall := steps_induction (t := t) (m := start jobs requested)
    (P := fun m => m.Sound t jobs ∧ ∀ n, abandoned? m.stage = some n → n ≤ m.lateCount t)
    (fun m m' e hm hstep => ⟨hm.1.step hstep, fun n hn => by
      rcases hstep.abandoned_cases with heq | ⟨_, _, _, htaken⟩
      · exact Nat.le_trans (hm.2 n (heq ▸ hn)) (hstep.lateCount_le hm.1)
      · cases htaken.symm.trans hn
        exact Nat.le_trans hm.1.stuckCount_le (hstep.lateCount_le hm.1)⟩) es
    ⟨sound_start t jobs requested, nofun⟩
  exact hall.2 n h

/-- **Audits do not wait in vain.**  Take any plan, any number of workers but 0, and any order of
events.  Whenever a round of the coordinator is over and until it stops waiting again, nothing is
awaited at all, or some worker is not kept by a check that was given up and still goes on, or all
checks that are awaited have been started.  And the number of abandoned checks that is reported is
that of the checks that had been given up and still went on when the coordinator left its loop; it
is at most the number of workers, and at most the number of results that say that a check took too
long. -/
theorem attended_and_abandoned (t : Terms) (jobs : List Job) (requested : Bool)
    (workers : 1 ≤ t.workers) (es : List Event) :
    let m := (start jobs requested).steps t es
    (m.stage = .looking ∨ (∃ todo, m.stage = .withdrawing todo) ∨ (∃ done, m.stage = .waiting done) →
      m.Attended t) ∧
    ∀ r, m.stage = .reported r ∨ m.stage = .returned r →
      Departed t (start jobs requested) es r.abandoned ∧ r.abandoned ≤ t.workers ∧
        r.abandoned ≤ r.results.countP t.isLate := by
  intro m
  have hm : m.Sound t jobs := sound_steps t jobs requested es
  have hattending : m.Attending t := attending_steps workers jobs requested es
  refine ⟨?_, fun r hr => ?_⟩
  · rintro (st | ⟨todo, st⟩ | ⟨done, st⟩) <;> simpa only [Attending, st] using hattending
  · have hclosed : m.Closed r ∧ abandoned? m.stage = some r.abandoned := by
      have hf := hm.fits
      rcases hr with st | st <;> rw [st] at hf ⊢ <;> exact ⟨hf, rfl⟩
    have hdeparted := departed_of_abandoned rfl hclosed.2
    refine ⟨hdeparted, ?_, ?_⟩
    · obtain ⟨before, _, _, _, _, hcount⟩ := hdeparted
      rw [hcount]
      exact stuckCount_le_workers t jobs requested before
    · have hlate := abandoned_le_lateCount t jobs requested es hclosed.2
      rw [hclosed.1.results, List.countP_filterMap]
      refine Nat.le_trans hlate (Nat.le_of_eq (List.countP_congr fun s _ => ?_))
      cases s.result <;> simp

/-- In a pool whose only worker is stuck nothing is awaited after the first round, and the check
that keeps the worker is reported as abandoned. -/
theorem attended_of_stuckPool :
    1 ≤ oneWorker.workers ∧
    ((start twoChecks false).steps oneWorker (stuckPool.take 7)).Attended oneWorker ∧
    Departed oneWorker (start twoChecks false) stuckPool 1 := by
  refine ⟨Nat.le_refl 1, ?_, ?_⟩
  · exact (attended_and_abandoned oneWorker twoChecks false (Nat.le_refl 1) _).1 (Or.inl rfl)
  · exact ((attended_and_abandoned oneWorker twoChecks false (Nat.le_refl 1) stuckPool).2
      ⟨twoChecks.zipWith Job.givenUp [oneWorker.lateText, saturatedText 1], false, 1⟩
      (Or.inr rfl)).1

end Machine

end ConfigAudit
