/-
# Cancelled audits

Once an audit is cancelled no rule is asked any more.  A check that was neither started nor given
a result by then stays out of the report, with one exception: when all workers are stuck, the
coordinator goes through the checks it still waits for, and gives up those it has withdrawn as if
they had wanted a worker.

* `Machine.OpenAt` : nothing has happened to a check yet;
* `Step.openAt_or_skipped` : what a step of a cancelled audit does to such a check;
* `reported_after_cancel_iff` : when such a check is reported.
-/
import ConfigAudit.Proofs.Run.Account

namespace ConfigAudit

/-- The coordinator goes on skipping as long as it has something listed. -/
theorem Stage.skippingAll_of_mem {todo : List Nat} {i : Nat} (h : i ∈ todo) (n : Nat) :
    skippingAll n todo = skipping n todo := by
  cases todo with
  | nil => cases h
  | cons k rest => rfl

/-- What is recorded for a check is never recorded anew. -/
theorem Slot.Moves.result_eq {t : Terms} {stop : Prop} {s s' : Slot} {x : CheckResult}
    (h : s.Moves t stop s') (hs : s.Sound t stop) (hx : s.result = some x) :
    s'.result = some x := by
  have settled : ¬ s.pending = true := by
    intro pend
    have hres := (hs.of_pending pend).2.2.1
    simp [hx] at hres
  cases h with
  | take | discard | refuse | start | note | finish | withdraw | strike => exact hx
  | collect pend | expire pend | skip pend => exact absurd pend settled

namespace Machine

variable {t : Terms} {jobs : List Job} {m m' : Machine} {e : Event} {i : Nat}

/-! ## Cancelled audits ask no rule -/

/-- A worker that has taken a check and may start it belongs to an audit that goes on. -/
theorem Sound.pending_of_taken (h : m.Sound t jobs) {s : Slot} (hs : m.slots[i]? = some s)
    (ph : s.phase = .taken) (kept : s.skipped = false) : s.pending = true := by
  rcases (h.slots s (List.mem_of_getElem? hs)).of_untouched (by simp [ph, Phase.hasStarted])
    (by simp [ph, Phase.isDone]) with ⟨pend, _⟩ | ⟨_, _, gone, _⟩
  · exact pend
  · simp [kept] at gone

/-- **A cancelled audit asks no rule any more**, also not when it has answered. -/
theorem Step.asked_eq_of_halted (hm : m.Sound t jobs) (halted : m.Halted) (h : Step t m e m') :
    m'.asked = m.asked ∧
      m'.slots.map (·.phase.hasStarted) = m.slots.map (·.phase.hasStarted) := by
  rcases h.asked_cases with heq | ⟨k, ha, _, _⟩
  · exact heq
  · -- the step asks a rule: neither a cancellation nor an answer can have come before
    exfalso
    cases h with
    | start hs ph going kept told =>
        rcases halted with hc | ⟨r, hr⟩
        · simp [going] at hc
        · have hf := hm.fits
          rw [hr] at hf
          have hpend := hm.pending_of_taken hs ph kept
          simp [hf.settled _ (List.mem_of_getElem? hs)] at hpend
    | _ => exact List.cons_ne_nil _ _ (List.self_eq_append_right.1 ha)

/-! ## Checks that nothing has happened to -/

/-- A check was neither started nor given a result. -/
def OpenAt (m : Machine) (i : Nat) : Prop :=
  ∃ s, m.slots[i]? = some s ∧ s.phase.hasStarted = false ∧ s.result = none

/-- A check that nothing has happened to has no result. -/
theorem OpenAt.resultAt_eq (h : m.OpenAt i) : m.resultAt i = none := by
  obtain ⟨s, hs, _, hres⟩ := h
  rw [resultAt_of_slot hs, hres]

/-- Nothing has happened to a check if no check has moved. -/
theorem OpenAt.congr (h : m.OpenAt i) (hm : m'.slots = m.slots) : m'.OpenAt i := by
  obtain ⟨s, hs, hopen⟩ := h
  exact ⟨s, hm ▸ hs, hopen⟩

/-- Nothing has happened to a check if one has moved that stays as it was in this respect. -/
theorem OpenAt.set {k : Nat} {s s' : Slot} (h : m.OpenAt i) (hs : m.slots[k]? = some s)
    (hm : m'.slots = m.slots.set k s')
    (hs' : s.phase.hasStarted = false → s.result = none →
      s'.phase.hasStarted = false ∧ s'.result = none) : m'.OpenAt i := by
  obtain ⟨x, hx, hidle, hres⟩ := h
  by_cases hk : k = i
  · subst hk
    obtain rfl : s = x := Option.some.inj (hs.symm.trans hx)
    have hlt : k < m.slots.length := (List.getElem?_eq_some_iff.1 hs).1
    refine ⟨s', ?_, hs' hidle hres⟩
    rw [hm, List.getElem?_set_self hlt]
  · refine ⟨x, ?_, hidle, hres⟩
    rw [hm, List.getElem?_set_ne hk]
    exact hx

/-- The coordinator is about to give up a check for want of a worker. -/
def GivesUp (m : Machine) (i : Nat) : Prop := ∃ n todo, m.stage = .skipping n todo ∧ i ∈ todo

/-- The result of a check says that no worker could take it. -/
def GivenUpAt (m : Machine) (i : Nat) : Prop :=
  ∃ s n, m.slots[i]? = some s ∧ s.result = some (s.job.givenUp (saturatedText n))

/-- In a cancelled audit nothing happens to a check that nothing has happened to, unless it is
given up for want of a worker. -/
theorem Step.openAt_or_skipped (hm : m.Sound t jobs) (halted : m.Halted) (hopen : m.OpenAt i)
    (h : Step t m e m') : m'.OpenAt i ∨ (e = .skip i ∧ m.GivesUp i ∧ m'.GivenUpAt i) := by
  have hnone := (h.asked_eq_of_halted hm halted).1
  cases h with
  | start hs ph going kept told =>
      exact absurd (List.self_eq_append_right.1 hnone.symm) (List.cons_ne_nil _ _)
  | take hs first free ph | discard hs first free ph | refuse hs ph stop =>
      exact Or.inl (hopen.set hs rfl fun _ hres => ⟨rfl, hres⟩)
  | note hs ph | finish hs ph =>
      refine Or.inl (hopen.set hs rfl fun idle _ => ?_)
      simp [ph, Phase.hasStarted] at idle
  | withdraw st mem hs =>
      exact Or.inl (hopen.set hs rfl fun idle hres => ⟨by simpa using idle, hres⟩)
  | strike st hs pend ph => exact Or.inl (hopen.set hs rfl fun idle hres => ⟨idle, hres⟩)
  | collect st hs pend ph =>
      refine Or.inl (hopen.set hs rfl fun idle _ => ?_)
      simp [ph, Phase.hasStarted] at idle
  | expire st hs pend ph =>
      refine Or.inl (hopen.set hs rfl fun idle _ => ?_)
      simp [ph] at idle
  | @skip k s stuck todo st mem hs pend ph =>
      by_cases hk : k = i
      · subst hk
        have hlt : k < m.slots.length := (List.getElem?_eq_some_iff.1 hs).1
        refine Or.inr ⟨rfl, ⟨stuck, todo, st, mem⟩, ?_⟩
        exact ⟨_, stuck, List.getElem?_set_self hlt, rfl⟩
      · obtain ⟨x, hx, hidle, hres⟩ := hopen
        refine Or.inl ⟨x, ?_, hidle, hres⟩
        exact (List.getElem?_set_ne hk).trans hx
  | _ => exact Or.inl (hopen.congr rfl)

/-- The coordinator gives up a check that it is about to give up, or still is. -/
theorem Step.givesUp_or_skipped (hm : m.Sound t jobs) (halted : m.Halted) (hopen : m.OpenAt i)
    (hg : m.GivesUp i) (h : Step t m e m') :
    (m'.OpenAt i ∧ m'.GivesUp i) ∨ m'.GivenUpAt i := by
  rcases h.openAt_or_skipped hm halted hopen with hopen' | ⟨_, _, hdone⟩
  · left
    refine ⟨hopen', ?_⟩
    obtain ⟨n, todo, hst, hmem⟩ := hg
    have hf := hm.fits
    rw [hst] at hf
    cases h with
    | take | discard | refuse | start | note | finish | cancel => exact ⟨n, todo, hst, hmem⟩
    | leave st | revoke st | wait st | withdraw st | poll st | strike st | collect st | expire st
    | saturated st | spare st | read st | clear st => simp [hst] at st
    | @pass k s stuck todo' st mem hs kept =>
        obtain ⟨rfl, rfl⟩ : n = stuck ∧ todo = todo' := by simpa [hst] using st
        -- the check that is passed was started, so it is another one
        have hne : i ≠ k := by
          rintro rfl
          obtain ⟨x, hx, hpend⟩ := hf.has i hmem
          obtain ⟨y, hy, hidle, _⟩ := hopen
          obtain rfl : s = x := Option.some.inj (hs.symm.trans hx)
          obtain rfl : s = y := Option.some.inj (hs.symm.trans hy)
          simp [hpend, hidle] at kept
        have hmem' : i ∈ todo.erase k := (List.mem_erase_of_ne hne).2 hmem
        exact ⟨n, todo.erase k, Stage.skippingAll_of_mem hmem' n, hmem'⟩
    | @skip k s stuck todo' st mem hs pend ph =>
        obtain ⟨rfl, rfl⟩ : n = stuck ∧ todo = todo' := by simpa [hst] using st
        -- the check that is given up has a result now, so it is another one
        have hne : i ≠ k := by
          rintro rfl
          have hlt : i < m.slots.length := (List.getElem?_eq_some_iff.1 hs).1
          obtain ⟨x, hx, _, hres⟩ := hopen'
          have hx' : (m.slots.set i _)[i]? = some x := hx
          rw [List.getElem?_set_self hlt, Option.some.injEq] at hx'
          rw [← hx'] at hres
          cases hres
        have hmem' : i ∈ todo.erase k := (List.mem_erase_of_ne hne).2 hmem
        exact ⟨n, todo.erase k, Stage.skippingAll_of_mem hmem' n, hmem'⟩
  · exact Or.inr hdone

/-- A check that was given up stays so. -/
theorem Step.givenUpAt (hm : m.Sound t jobs) (hg : m.GivenUpAt i) (h : Step t m e m') :
    m'.GivenUpAt i := by
  obtain ⟨s, n, hs, hres⟩ := hg
  rcases h.slots_eq Or.inl hm.halted_of_withdrawing with heq | ⟨k, x, x', hx, hmove, heq⟩
  · exact ⟨s, n, heq ▸ hs, hres⟩
  · by_cases hk : k = i
    · subst hk
      obtain rfl : s = x := Option.some.inj (hs.symm.trans hx)
      have hlt : k < m.slots.length := (List.getElem?_eq_some_iff.1 hs).1
      refine ⟨x', n, ?_, ?_⟩
      · rw [heq, List.getElem?_set_self hlt]
      · rw [hmove.result_eq (hm.slots s (List.mem_of_getElem? hs)) hres, hmove.job_eq]
    · refine ⟨s, n, ?_, hres⟩
      rw [heq, List.getElem?_set_ne hk]
      exact hs

/-! ## Runs of cancelled audits -/

/-- A check that was given up stays so in every run. -/
theorem givenUpAt_steps (hm : m.Sound t jobs) (hg : m.GivenUpAt i) (es : List Event) :
    (m.steps t es).GivenUpAt i := by
  have keep : ∀ m m' e, m.Sound t jobs ∧ m.GivenUpAt i → Step t m e m' →
      m'.Sound t jobs ∧ m'.GivenUpAt i := by
    rintro m m' e ⟨hm, hg⟩ h
    exact ⟨hm.step h, h.givenUpAt hm hg⟩
  exact (steps_induction keep es ⟨hm, hg⟩).2

/-- No rule is asked in a run of a cancelled audit. -/
theorem asked_steps_of_halted (hm : m.Sound t jobs) (halted : m.Halted) (es : List Event) :
    (m.steps t es).asked = m.asked := by
  have keep : ∀ x x' e, x.Sound t jobs ∧ x.Halted ∧ x.asked = m.asked → Step t x e x' →
      x'.Sound t jobs ∧ x'.Halted ∧ x'.asked = m.asked := by
    rintro x x' e ⟨hx, hhalt, hasked⟩ h
    exact ⟨hx.step h, h.halted hhalt, (h.asked_eq_of_halted hx hhalt).1.trans hasked⟩
  exact (steps_induction keep es ⟨hm, halted, rfl⟩).2.2

/-- In a cancelled audit that answers, a check that the coordinator is about to give up is given
up. -/
theorem givenUpAt_of_givesUp {r : Report} (hm : m.Sound t jobs) (halted : m.Halted)
    (hopen : m.OpenAt i) (hg : m.GivesUp i) (es : List Event)
    (answered : (m.steps t es).stage = .returned r) : (m.steps t es).GivenUpAt i := by
  induction es generalizing m with
  | nil =>
      obtain ⟨n, todo, hst, _⟩ := hg
      rw [steps_nil, hst] at answered
      cases answered
  | cons e es ih =>
      rw [steps_cons] at answered ⊢
      rcases next_cases t m e with he | he
      · rw [he] at answered ⊢
        exact ih hm halted hopen hg answered
      · rcases he.givesUp_or_skipped hm halted hopen hg with ⟨hopen', hg'⟩ | hdone
        · exact ih (hm.step he) (he.halted halted) hopen' hg' answered
        · exact givenUpAt_steps (hm.step he) hdone es

/-- A cancelled audit that answers has given up a check that nothing had happened to exactly if
it was at some point about to do so; otherwise nothing has happened to the check since. -/
theorem givenUpAt_or_openAt {r : Report} (hm : m.Sound t jobs) (halted : m.Halted)
    (hopen : m.OpenAt i) (es : List Event) (answered : (m.steps t es).stage = .returned r) :
    ((m.steps t es).GivenUpAt i ∧ ∃ fs, fs <+: es ∧ (m.steps t fs).GivesUp i) ∨
      ((m.steps t es).OpenAt i ∧ ∀ fs, fs <+: es → ¬ (m.steps t fs).GivesUp i) := by
  induction es generalizing m with
  | nil =>
      right
      refine ⟨hopen, ?_⟩
      rintro fs hfs ⟨n, todo, hst, _⟩
      rw [List.prefix_nil.1 hfs] at hst
      rw [hst] at answered
      cases answered
  | cons e es ih =>
      by_cases hg : m.GivesUp i
      · left
        exact ⟨givenUpAt_of_givesUp hm halted hopen hg _ answered, [], List.nil_prefix, hg⟩
      · have hnext : (m.next t e).Sound t jobs ∧ (m.next t e).Halted ∧ (m.next t e).OpenAt i := by
          rcases next_cases t m e with he | he
          · rw [he]
            exact ⟨hm, halted, hopen⟩
          · rcases he.openAt_or_skipped hm halted hopen with hopen' | ⟨_, hg', _⟩
            · exact ⟨hm.step he, he.halted halted, hopen'⟩
            · exact absurd hg' hg
        obtain ⟨hm', halted', hopen'⟩ := hnext
        rcases ih hm' halted' hopen' answered with ⟨hdone, fs, hfs, hg'⟩ | ⟨hstill, hnever⟩
        · exact Or.inl ⟨hdone, e :: fs, List.cons_prefix_cons.2 ⟨rfl, hfs⟩, hg'⟩
        · right
          refine ⟨hstill, ?_⟩
          intro fs hfs
          rcases List.prefix_cons_iff.1 hfs with rfl | ⟨fs', rfl, hfs'⟩
          · exact hg
          · exact hnever fs' hfs'

/-- **What a cancelled audit reports.**  Take a check that was neither started nor given a result
when the audit was cancelled.  Its rule is never asked.  It is reported exactly if the coordinator
comes, after the cancellation, to go through it because all workers are stuck; and then the report
says that no worker could take it. -/
theorem reported_after_cancel_iff (t : Terms) (jobs : List Job) (requested : Bool)
    (before after : List Event) (r : Report)
    (answered : ((start jobs requested).steps t (before ++ .cancel :: after)).stage =
      .returned r) :
    let m := (start jobs requested).steps t (before ++ [.cancel])
    let m' := (start jobs requested).steps t (before ++ .cancel :: after)
    ∀ i j, jobs[i]? = some j → m.OpenAt i →
      i ∉ m'.asked ∧
      ((m'.resultAt i).isSome = true ↔
        ∃ fs n todo, fs <+: after ∧ (m.steps t fs).stage = .skipping n todo ∧ i ∈ todo) ∧
      ∀ x, m'.resultAt i = some x → ∃ n, x = j.givenUp (saturatedText n) := by
  intro m m' i j hj hopen
  have hm : m.Sound t jobs := sound_steps t jobs requested _
  have hm' : m'.Sound t jobs := sound_steps t jobs requested _
  have halted : m.Halted := by
    left
    simp only [m, steps_append, steps_cons, steps_nil, next_of_step Step.cancel]
  have hsteps : m' = m.steps t after := by
    simp only [m', m, ← steps_append, List.append_assoc, List.singleton_append]
  have hst : (m.steps t after).stage = .returned r := by
    rw [← hsteps]
    exact answered
  have hasked : i ∉ m'.asked := by
    rw [hsteps, asked_steps_of_halted hm halted]
    intro hi
    obtain ⟨s, hs, hstart⟩ := hm.started_of_asked hi
    obtain ⟨x, hx, hidle, _⟩ := hopen
    obtain rfl : s = x := Option.some.inj (hs.symm.trans hx)
    simp [hstart] at hidle
  refine ⟨hasked, ?_⟩
  rcases givenUpAt_or_openAt hm halted hopen after hst with ⟨hdone, hgive⟩ | ⟨hstill, hnever⟩
  · obtain ⟨fs, hfs, n, todo, hstage, hmem⟩ := hgive
    obtain ⟨s, k, hs, hres⟩ := hdone
    obtain ⟨s', hs', rfl⟩ := hm'.slot_of_job hj
    rw [← hsteps] at hs
    obtain rfl : s = s' := Option.some.inj (hs.symm.trans hs')
    rw [resultAt_of_slot hs, hres]
    refine ⟨iff_of_true rfl ⟨fs, n, todo, hfs, hstage, hmem⟩, ?_⟩
    intro x hx
    exact ⟨k, (Option.some.inj hx).symm⟩
  · rw [hsteps, hstill.resultAt_eq]
    refine ⟨iff_of_false (by simp) ?_, ?_⟩
    · rintro ⟨fs, n, todo, hfs, hstage, hmem⟩
      exact hnever fs hfs ⟨n, todo, hstage, hmem⟩
    · intro x hx
      cases hx

/-- The only worker is stuck with the first check when the audit is cancelled. -/
def stuckBeforeCancel : List Event := [.look, .take 0, .start 0]

/-- The coordinator withdraws both checks, gives up the first one as late, and then the second one,
which has been withdrawn, for want of a worker. -/
def stuckAfterCancel : List Event :=
  [.poll [], .survey, .look, .withdraw 0, .withdraw 1, .poll [], .expire 0, .survey, .skip 1, .look,
    .read, .clear]

/-- The second check of a stuck pool is reported, although it was withdrawn before. -/
theorem reported_of_stuckPool :
    ((start twoChecks false).steps oneWorker
      (stuckBeforeCancel ++ .cancel :: stuckAfterCancel)).stage =
        .returned ⟨twoChecks.zipWith Job.givenUp [oneWorker.lateText, saturatedText 1], true, 1⟩ ∧
    (((start twoChecks false).steps oneWorker
      (stuckBeforeCancel ++ .cancel :: stuckAfterCancel)).resultAt 1).isSome = true := by
  refine ⟨rfl, ?_⟩
  have hall := reported_after_cancel_iff oneWorker twoChecks false stuckBeforeCancel
    stuckAfterCancel _ rfl
  obtain ⟨_, hiff, _⟩ := hall 1 _ rfl ⟨_, rfl, rfl, rfl⟩
  exact hiff.2 ⟨stuckAfterCancel.take 8, 1, [1], List.take_prefix _ _, rfl, List.mem_singleton_self 1⟩

/-- So it is not true that a check which was neither started nor given a result by the time of a
cancellation always stays out of the report. -/
theorem not_absent_after_cancel :
    ¬ ∀ (t : Terms) (jobs : List Job) (before after : List Event) (r : Report) (i : Nat),
      ((start jobs false).steps t (before ++ .cancel :: after)).stage = .returned r →
      ((start jobs false).steps t (before ++ [.cancel])).OpenAt i →
      ((start jobs false).steps t (before ++ .cancel :: after)).resultAt i = none := by
  intro absent
  have hnone := absent oneWorker twoChecks stuckBeforeCancel stuckAfterCancel _ 1 rfl
    ⟨_, rfl, rfl, rfl⟩
  cases hnone

end Machine

end ConfigAudit
