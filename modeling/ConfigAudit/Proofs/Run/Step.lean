/-
# What an event can do

The step function of an audit is a table of guards and effects.  Here the table is written out
as a relation with one case for each way in which an event can happen, and later proofs open a
step by its cases only.

* `Machine.Step` : the ways in which events happen;
* `step?_eq_some_iff` : the relation is the step function;
* `Slot.Moves`, `Step.slots_eq` : a step leaves all checks alone, or moves one of them.
-/
import ConfigAudit.Run.Machine

namespace ConfigAudit

namespace Machine

/-! ## The table of steps -/

/-- The ways in which an event happens. -/
inductive Step (t : Terms) (m : Machine) : Event → Machine → Prop where
  /-- A free worker takes the first check of the queue. -/
  | take {i : Nat} {s : Slot} (hs : m.slots[i]? = some s) (first : m.isFirst i = true)
      (free : m.busy < t.workers) (ph : s.phase = .waiting) :
      Step t m (.take i) (m.update i { s with phase := .taken })
  /-- A free worker drops a check that was cancelled. -/
  | discard {i : Nat} {s : Slot} (hs : m.slots[i]? = some s) (first : m.isFirst i = true)
      (free : m.busy < t.workers) (ph : s.phase = .withdrawn) :
      Step t m (.take i) (m.update i { s with phase := .discarded })
  /-- A worker must not start its check. -/
  | refuse {i : Nat} {s : Slot} (hs : m.slots[i]? = some s) (ph : s.phase = .taken)
      (stop : m.cancelRequested = true ∨ s.skipped = true) :
      Step t m (.start i) (m.update i { s with phase := .refused })
  /-- A worker asks the rule of its check. -/
  | start {i : Nat} {s : Slot} {notes : Journal} {answer : Except Fault CheckResult}
      (hs : m.slots[i]? = some s) (ph : s.phase = .taken) (going : m.cancelRequested = false)
      (kept : s.skipped = false) (told : t.check s.job.rule s.job.subject = (notes, answer)) :
      Step t m (.start i)
        { m.update i { s with phase := .started notes answer } with asked := m.asked ++ [i] }
  /-- A check leaves a note. -/
  | note {i : Nat} {s : Slot} {n : Note} {rest : Journal} {answer : Except Fault CheckResult}
      (hs : m.slots[i]? = some s) (ph : s.phase = .started (n :: rest) answer) :
      Step t m (.note i) ((m.update i { s with phase := .started rest answer }).write n)
  /-- A check comes to its end. -/
  | finish {i : Nat} {s : Slot} {answer : Except Fault CheckResult}
      (hs : m.slots[i]? = some s) (ph : s.phase = .started [] answer) :
      Step t m (.finish i) (m.update i { s with phase := .finished answer })
  /-- The audit is cancelled. -/
  | cancel : Step t m .cancel { m with cancelRequested := true }
  /-- The coordinator leaves its loop. -/
  | leave (st : m.stage = .looking) (settled : m.isOver = true) :
      Step t m .look (m.goTo (.left m.stuckCount))
  /-- The coordinator sees a cancellation for the first time. -/
  | revoke (st : m.stage = .looking) (going : m.isOver = false)
      (asked : m.cancelRequested = true) (fresh : m.handled = false) :
      Step t m .look (waitFor { m with handled := true } (m.places (·.pending)))
  /-- The coordinator has nothing to do but to wait. -/
  | wait (st : m.stage = .looking) (going : m.isOver = false)
      (calm : m.cancelRequested = false ∨ m.handled = true) :
      Step t m .look (m.waitFor [])
  /-- The coordinator withdraws a check. -/
  | withdraw {i : Nat} {s : Slot} {todo : List Nat} (st : m.stage = .withdrawing todo)
      (mem : i ∈ todo) (hs : m.slots[i]? = some s) :
      Step t m (.withdraw i)
        ((m.update i { s with phase := s.phase.cancel }).waitFor (todo.erase i))
  /-- The coordinator sees what is done. -/
  | poll {seen done : List Nat} (st : m.stage = .waiting done) :
      Step t m (.poll seen) (m.goTo (.collectingAll (m.batch seen done)))
  /-- The coordinator strikes out a check that was dropped or refused. -/
  | strike {i : Nat} {s : Slot} {todo : List Nat} (st : m.stage = .collecting todo)
      (hs : m.slots[i]? = some s) (pend : s.pending = true)
      (ph : s.phase = .discarded ∨ s.phase = .refused) :
      Step t m (.collect i)
        ((m.update i { s with pending := false }).goTo (.collectingAll (todo.erase i)))
  /-- The coordinator records what came of a check. -/
  | collect {i : Nat} {s : Slot} {todo : List Nat} {answer : Except Fault CheckResult}
      (st : m.stage = .collecting todo) (hs : m.slots[i]? = some s) (pend : s.pending = true)
      (ph : s.phase = .finished answer) :
      Step t m (.collect i)
        ((m.update i { s with pending := false, result := some (s.job.collected answer) }).goTo
          (.collectingAll (todo.erase i)))
  /-- The coordinator gives up a check that has taken too long. -/
  | expire {i : Nat} {s : Slot} (st : m.stage = .expiring) (hs : m.slots[i]? = some s)
      (pend : s.pending = true) (ph : s.phase.hasStarted = true) :
      Step t m (.expire i)
        ((m.update i { s with pending := false, stuck := true,
                              result := some (s.job.givenUp t.lateText) }).write
          (s.job.givenUpNote t.lateText))
  /-- The coordinator finds all workers stuck. -/
  | saturated (st : m.stage = .expiring) (full : t.workers ≤ m.stuckCount) :
      Step t m .survey (m.goTo (.skippingAll m.stuckCount (m.places (·.pending))))
  /-- The coordinator finds a worker that is not stuck. -/
  | spare (st : m.stage = .expiring) (free : m.stuckCount < t.workers) :
      Step t m .survey (m.goTo .looking)
  /-- The coordinator passes a check that was started. -/
  | pass {i : Nat} {s : Slot} {stuck : Nat} {todo : List Nat} (st : m.stage = .skipping stuck todo)
      (mem : i ∈ todo) (hs : m.slots[i]? = some s)
      (kept : s.pending = false ∨ s.phase.hasStarted = true) :
      Step t m (.skip i) (m.goTo (.skippingAll stuck (todo.erase i)))
  /-- The coordinator gives up a check that no worker can take. -/
  | skip {i : Nat} {s : Slot} {stuck : Nat} {todo : List Nat} (st : m.stage = .skipping stuck todo)
      (mem : i ∈ todo) (hs : m.slots[i]? = some s) (pend : s.pending = true)
      (ph : s.phase.hasStarted = false) :
      Step t m (.skip i)
        (((m.update i { s with pending := false, skipped := true, phase := s.phase.cancel,
                               result := some (s.job.givenUp (saturatedText stuck)) }).write
          (s.job.givenUpNote (saturatedText stuck))).goTo (.skippingAll stuck (todo.erase i)))
  /-- The coordinator writes the report. -/
  | read {abandoned : Nat} (st : m.stage = .left abandoned) :
      Step t m .read (m.goTo (.reported (m.report abandoned)))
  /-- The coordinator answers. -/
  | clear {report : Report} (st : m.stage = .reported report) :
      Step t m .clear { m with stage := .returned report, cancelRequested := false }

/-! ## The step function is the table -/

variable {t : Terms} {m m' : Machine} {i : Nat} {s : Slot}

/-- A worker takes or drops a check. -/
theorem step_of_take? (hs : m.slots[i]? = some s) (first : m.isFirst i = true)
    (free : m.busy < t.workers) (h : m.take? i s = some m') : Step t m (.take i) m' := by
  unfold take? at h
  split at h
  · rename_i ph
    cases h
    exact .take hs first free ph
  · rename_i ph
    cases h
    exact .discard hs first free ph
  · cases h

/-- A worker starts a check or refuses it. -/
theorem step_of_start? (hs : m.slots[i]? = some s) (h : m.start? t i s = some m') :
    Step t m (.start i) m' := by
  unfold start? at h
  split at h
  · rename_i ph
    split at h
    · rename_i stop
      cases h
      exact .refuse hs ph (by simpa using stop)
    · rename_i go
      cases h
      have hgo : m.cancelRequested = false ∧ s.skipped = false := by simpa using go
      exact .start hs ph hgo.1 hgo.2 rfl
  · cases h

/-- A check leaves a note. -/
theorem step_of_note? (hs : m.slots[i]? = some s) (h : m.note? i s = some m') :
    Step t m (.note i) m' := by
  unfold note? at h
  split at h
  · rename_i ph
    cases h
    exact .note hs ph
  · cases h

/-- A check comes to its end. -/
theorem step_of_finish? (hs : m.slots[i]? = some s) (h : m.finish? i s = some m') :
    Step t m (.finish i) m' := by
  unfold finish? at h
  split at h
  · rename_i ph
    cases h
    exact .finish hs ph
  · cases h

/-- The coordinator looks, and leaves, withdraws or waits. -/
theorem step_look (st : m.stage = .looking) : Step t m .look m.look := by
  unfold look
  split
  · rename_i settled
    exact .leave st settled
  · rename_i going
    rw [Bool.not_eq_true] at going
    split
    · rename_i c
      have hc : m.cancelRequested = true ∧ m.handled = false := by simpa using c
      exact .revoke st going hc.1 hc.2
    · rename_i c
      refine .wait st going ?_
      rcases Bool.eq_false_or_eq_true m.cancelRequested with hc | hc
      · right
        simpa [hc] using c
      · exact Or.inl hc

/-- The coordinator strikes out a check or records what came of it. -/
theorem step_of_collect? {todo : List Nat} (st : m.stage = .collecting todo)
    (hs : m.slots[i]? = some s) (h : m.collect? i s = some m') :
    Step t m (.collect i) (m'.goTo (.collectingAll (todo.erase i))) := by
  unfold collect? at h
  split at h
  · rename_i pend
    split at h
    · rename_i ph
      cases h
      exact .strike st hs pend (Or.inl ph)
    · rename_i ph
      cases h
      exact .strike st hs pend (Or.inr ph)
    · rename_i ph
      cases h
      exact .collect st hs pend ph
    · cases h
  · cases h

/-- The coordinator gives up a check that has taken too long. -/
theorem step_of_expire? (st : m.stage = .expiring) (hs : m.slots[i]? = some s)
    (h : m.expire? t i s = some m') : Step t m (.expire i) m' := by
  unfold expire? at h
  split at h
  · rename_i c
    have hc : s.pending = true ∧ s.phase.hasStarted = true := by simpa using c
    cases h
    exact .expire st hs hc.1 hc.2
  · cases h

/-- The coordinator gives up a check or passes it. -/
theorem step_skip {stuck : Nat} {todo : List Nat} (st : m.stage = .skipping stuck todo)
    (mem : i ∈ todo) (hs : m.slots[i]? = some s) :
    Step t m (.skip i) ((m.skip stuck i s).goTo (.skippingAll stuck (todo.erase i))) := by
  unfold skip
  split
  · rename_i c
    have hc : s.pending = true ∧ s.phase.hasStarted = false := by simpa using c
    exact .skip st mem hs hc.1 hc.2
  · rename_i c
    refine .pass st mem hs ?_
    rcases Bool.eq_false_or_eq_true s.pending with hp | hp
    · right
      simpa [hp] using c
    · exact Or.inl hp

/-- Every effect of an event stands in the table. -/
theorem step_of_step? {e : Event} (h : m.step? t e = some m') : Step t m e m' := by
  cases e with
  | take i =>
      obtain ⟨s, hs, h⟩ := Option.bind_eq_some_iff.1 h
      split at h
      · rename_i c
        have hc : m.isFirst i = true ∧ m.busy < t.workers := by simpa using c
        exact step_of_take? hs hc.1 hc.2 h
      · cases h
  | start i =>
      obtain ⟨s, hs, h⟩ := Option.bind_eq_some_iff.1 h
      exact step_of_start? hs h
  | note i =>
      obtain ⟨s, hs, h⟩ := Option.bind_eq_some_iff.1 h
      exact step_of_note? hs h
  | finish i =>
      obtain ⟨s, hs, h⟩ := Option.bind_eq_some_iff.1 h
      exact step_of_finish? hs h
  | cancel =>
      cases h
      exact .cancel
  | look =>
      simp only [step?] at h
      split at h
      · rename_i st
        cases h
        exact step_look st
      · cases h
  | withdraw i =>
      simp only [step?] at h
      split at h
      · rename_i todo st
        split at h
        · rename_i mem
          obtain ⟨s, hs, rfl⟩ := Option.map_eq_some_iff.1 h
          exact .withdraw st mem hs
        · cases h
      · cases h
  | poll seen =>
      simp only [step?] at h
      split at h
      · rename_i st
        cases h
        exact .poll st
      · cases h
  | collect i =>
      simp only [step?] at h
      split at h
      · rename_i todo st
        obtain ⟨c, hc, rfl⟩ := Option.map_eq_some_iff.1 h
        obtain ⟨s, hs, hc⟩ := Option.bind_eq_some_iff.1 hc
        exact step_of_collect? st hs hc
      · cases h
  | expire i =>
      simp only [step?] at h
      split at h
      · rename_i st
        obtain ⟨s, hs, h⟩ := Option.bind_eq_some_iff.1 h
        exact step_of_expire? st hs h
      · cases h
  | survey =>
      simp only [step?] at h
      split at h
      · rename_i st
        cases h
        split
        · rename_i full
          exact .saturated st full
        · rename_i free
          exact .spare st (by omega)
      · cases h
  | skip i =>
      simp only [step?] at h
      split at h
      · rename_i stuck todo st
        split at h
        · rename_i mem
          obtain ⟨s, hs, rfl⟩ := Option.map_eq_some_iff.1 h
          exact step_skip st mem hs
        · cases h
      · cases h
  | read =>
      simp only [step?] at h
      split at h
      · rename_i abandoned st
        cases h
        exact .read st
      · cases h
  | clear =>
      simp only [step?] at h
      split at h
      · rename_i report st
        cases h
        exact .clear st
      · cases h

/-- Every line of the table is an effect of its event. -/
theorem step?_of_step {e : Event} (h : Step t m e m') : m.step? t e = some m' := by
  cases h with
  | take hs first free ph => simp [step?, hs, first, free, take?, ph]
  | discard hs first free ph => simp [step?, hs, first, free, take?, ph]
  | refuse hs ph stop =>
      have hstop : (m.cancelRequested || _) = true := (Bool.or_eq_true ..).symm ▸ stop
      simp [step?, hs, start?, ph, hstop]
  | start hs ph going kept told => simp [step?, hs, start?, ph, going, kept, told]
  | note hs ph => simp [step?, hs, note?, ph]
  | finish hs ph => simp [step?, hs, finish?, ph]
  | cancel => rfl
  | leave st settled => simp [step?, st, look, settled]
  | revoke st going asked fresh => simp [step?, st, look, going, asked, fresh]
  | wait st going calm => rcases calm with c | c <;> simp [step?, st, look, going, c]
  | withdraw st mem hs => simp [step?, st, mem, hs]
  | poll st => simp [step?, st]
  | strike st hs pend ph => rcases ph with ph | ph <;> simp [step?, st, hs, collect?, pend, ph]
  | collect st hs pend ph => simp [step?, st, hs, collect?, pend, ph]
  | expire st hs pend ph => simp [step?, st, hs, expire?, pend, ph]
  | saturated st full => simp [step?, st, full]
  | spare st free =>
      have hfree : ¬ t.workers ≤ m.stuckCount := by omega
      simp [step?, st, hfree]
  | pass st mem hs kept => rcases kept with c | c <;> simp [step?, st, mem, hs, skip, c]
  | skip st mem hs pend ph => simp [step?, st, mem, hs, skip, pend, ph]
  | read st => simp [step?, st]
  | clear st => simp [step?, st]

/-- The step function does exactly what the table says. -/
theorem step?_eq_some_iff {e : Event} : m.step? t e = some m' ↔ Step t m e m' :=
  ⟨step_of_step?, step?_of_step⟩

end Machine

/-! ## Moves of one check -/

/-- What can happen to a check in one step; `stop` says whether the audit may stop it. -/
inductive Slot.Moves (t : Terms) (stop : Prop) (s : Slot) : Slot → Prop where
  /-- A worker takes it. -/
  | take (ph : s.phase = .waiting) : Moves t stop s { s with phase := .taken }
  /-- A worker drops it. -/
  | discard (ph : s.phase = .withdrawn) : Moves t stop s { s with phase := .discarded }
  /-- A worker refuses it. -/
  | refuse (ph : s.phase = .taken) (why : stop ∨ s.skipped = true) :
      Moves t stop s { s with phase := .refused }
  /-- A worker asks its rule. -/
  | start {notes : Journal} {answer : Except Fault CheckResult} (ph : s.phase = .taken)
      (kept : s.skipped = false) (told : t.check s.job.rule s.job.subject = (notes, answer)) :
      Moves t stop s { s with phase := .started notes answer }
  /-- It leaves a note. -/
  | note {n : Note} {rest : Journal} {answer : Except Fault CheckResult}
      (ph : s.phase = .started (n :: rest) answer) :
      Moves t stop s { s with phase := .started rest answer }
  /-- It comes to its end. -/
  | finish {answer : Except Fault CheckResult} (ph : s.phase = .started [] answer) :
      Moves t stop s { s with phase := .finished answer }
  /-- It is withdrawn. -/
  | withdraw (why : stop) : Moves t stop s { s with phase := s.phase.cancel }
  /-- It is struck out. -/
  | strike (pend : s.pending = true) (ph : s.phase = .discarded ∨ s.phase = .refused) :
      Moves t stop s { s with pending := false }
  /-- What came of it is recorded. -/
  | collect {answer : Except Fault CheckResult} (pend : s.pending = true)
      (ph : s.phase = .finished answer) :
      Moves t stop s { s with pending := false, result := some (s.job.collected answer) }
  /-- It is given up as late. -/
  | expire (pend : s.pending = true) (ph : s.phase.hasStarted = true) :
      Moves t stop s
        { s with pending := false, stuck := true, result := some (s.job.givenUp t.lateText) }
  /-- It is given up as no worker can take it. -/
  | skip {stuck : Nat} (pend : s.pending = true) (ph : s.phase.hasStarted = false) :
      Moves t stop s
        { s with pending := false, skipped := true, phase := s.phase.cancel,
                 result := some (s.job.givenUp (saturatedText stuck)) }

namespace Slot.Moves

variable {t : Terms} {stop : Prop} {s s' : Slot}

/-- A check stays the same check. -/
theorem job_eq (h : s.Moves t stop s') : s'.job = s.job := by
  cases h <;> rfl

end Slot.Moves

namespace Machine

variable {t : Terms} {m m' : Machine} {e : Event}

/-- A step leaves all checks alone or moves one of them; `stop` is why it may stop one. -/
theorem Step.slots_eq {stop : Prop} (h : Step t m e m') (hc : m.cancelRequested = true → stop)
    (hw : ∀ todo, m.stage = .withdrawing todo → stop) :
    m'.slots = m.slots ∨ ∃ i s s', m.slots[i]? = some s ∧ s.Moves t stop s' ∧
      m'.slots = m.slots.set i s' := by
  cases h with
  | take hs first free ph => exact Or.inr ⟨_, _, _, hs, .take ph, rfl⟩
  | discard hs first free ph => exact Or.inr ⟨_, _, _, hs, .discard ph, rfl⟩
  | refuse hs ph why => exact Or.inr ⟨_, _, _, hs, .refuse ph (why.imp_left hc), rfl⟩
  | start hs ph going kept told => exact Or.inr ⟨_, _, _, hs, .start ph kept told, rfl⟩
  | note hs ph => exact Or.inr ⟨_, _, _, hs, .note ph, rfl⟩
  | finish hs ph => exact Or.inr ⟨_, _, _, hs, .finish ph, rfl⟩
  | withdraw st mem hs => exact Or.inr ⟨_, _, _, hs, .withdraw (hw _ st), rfl⟩
  | strike st hs pend ph => exact Or.inr ⟨_, _, _, hs, .strike pend ph, rfl⟩
  | collect st hs pend ph => exact Or.inr ⟨_, _, _, hs, .collect pend ph, rfl⟩
  | expire st hs pend ph => exact Or.inr ⟨_, _, _, hs, .expire pend ph, rfl⟩
  | skip st mem hs pend ph => exact Or.inr ⟨_, _, _, hs, .skip pend ph, rfl⟩
  | _ => exact Or.inl rfl

/-! ## Runs -/

/-- An event that happens makes a step. -/
theorem next_of_step (h : Step t m e m') : m.next t e = m' := by
  rw [next, step?_of_step h]
  rfl

/-- An event changes nothing, or makes a step. -/
theorem next_cases (t : Terms) (m : Machine) (e : Event) :
    m.next t e = m ∨ Step t m e (m.next t e) := by
  unfold next
  cases h : m.step? t e with
  | none => exact Or.inl rfl
  | some m' => exact Or.inr (step_of_step? h)

/-- A run without events stays where it is. -/
@[simp] theorem steps_nil : m.steps t [] = m := rfl

/-- A run takes its first event and goes on. -/
@[simp] theorem steps_cons (es : List Event) : m.steps t (e :: es) = (m.next t e).steps t es := rfl

/-- A run of events in two parts. -/
theorem steps_append (es fs : List Event) : m.steps t (es ++ fs) = (m.steps t es).steps t fs :=
  List.foldl_append

/-- What every step keeps, every run keeps. -/
theorem steps_induction {P : Machine → Prop} (step : ∀ m m' e, P m → Step t m e m' → P m')
    (es : List Event) (h : P m) : P (m.steps t es) := by
  induction es generalizing m with
  | nil => exact h
  | cons e es ih =>
      rw [steps_cons]
      apply ih
      rcases next_cases t m e with he | he
      · rw [he]
        exact h
      · exact step _ _ _ h he

end Machine

end ConfigAudit
