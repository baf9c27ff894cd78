/-
# Every check is accounted for

When an audit has answered, each check of its plan has a result that belongs to it, or was stopped
before its rule was asked.  No rule is asked twice, and none is asked for a check that was given up
for want of a worker.

* `Terms.MayReport` : what can be recorded for a check;
* `report_accounts_for_every_check` : the account of an audit.
-/
import ConfigAudit.Proofs.Run.Sound

namespace ConfigAudit

/-! ## What can be recorded for a check -/

/-- What can be recorded for a check. -/
inductive Terms.MayReport (t : Terms) (j : Job) : CheckResult → Prop where
  /-- What came of it. -/
  | collected : MayReport t j (j.collected (t.answer j))
  /-- It took too long. -/
  | late : MayReport t j (j.givenUp t.lateText)
  /-- No worker could take it. -/
  | skipped (stuck : Nat) : MayReport t j (j.givenUp (saturatedText stuck))

/-- A check that was given up says why. -/
theorem Job.givenUp_inj {j : Job} {a b : String} (h : j.givenUp a = j.givenUp b) : a = b := by
  have hc : Value.text a = Value.text b := congrArg CheckResult.comment h
  exact Value.text.inj hc

/-- Two texts that begin with different letters are different. -/
theorem append_ne_append_of_head {a b : String} {c d : Char} {as bs : List Char}
    (ha : a.toList = c :: as) (hb : b.toList = d :: bs) (hne : c ≠ d) (x y : String) :
    a ++ x ≠ b ++ y := by
  intro h
  have hl : (a ++ x).toList = (b ++ y).toList := congrArg String.toList h
  rw [String.toList_append, String.toList_append, ha, hb, List.cons_append, List.cons_append] at hl
  exact hne (List.cons.inj hl).1

/-- A check that no worker could take did not fail. -/
theorem failureComment_ne_saturatedText (f : Fault) (n : Nat) :
    failureComment f ≠ saturatedText n := by
  unfold failureComment saturatedText
  rw [String.append_assoc]
  exact append_ne_append_of_head rfl rfl (by decide) _ _

/-- A check that no worker could take did not take too long. -/
theorem lateText_ne_saturatedText (t : Terms) (n : Nat) : t.lateText ≠ saturatedText n := by
  unfold Terms.lateText saturatedText
  rw [String.append_assoc, String.append_assoc]
  exact append_ne_append_of_head rfl rfl (by decide) _ _

namespace Slot.Sound

variable {t : Terms} {stop : Prop} {s : Slot}

/-- What is recorded for a check can be recorded for it. -/
theorem mayReport (h : s.Sound t stop) {x : CheckResult} (hx : s.result = some x) :
    t.MayReport s.job x := by
  cases h with
  | awaited _ _ _ res | struck _ _ _ _ _ res => simp [res] at hx
  | collected _ _ _ _ res =>
      rw [res, Option.some.injEq] at hx
      exact hx ▸ .collected
  | late _ _ _ _ res =>
      rw [res, Option.some.injEq] at hx
      exact hx ▸ .late
  | skipped _ _ _ _ _ res =>
      rw [res, Option.some.injEq] at hx
      exact hx ▸ .skipped _

/-- A check that was started and is no longer awaited has a result. -/
theorem result_of_started (h : s.Sound t stop) (pend : s.pending = false)
    (ph : s.phase.hasStarted = true) : s.result.isSome = true := by
  cases h with
  | awaited pend' => simp [pend] at pend'
  | collected _ _ _ _ res | late _ _ _ _ res | skipped _ _ _ _ _ res => simp [res]
  | struck _ _ _ ph' => rcases ph' with ph' | ph' <;> simp [ph', Phase.hasStarted] at ph

/-- A check that is reported as one that no worker could take was never started, unless its own
rule says so. -/
theorem not_started_of_saturatedText (h : s.Sound t stop) {n : Nat}
    (hx : s.result = some (s.job.givenUp (saturatedText n)))
    (own : t.answer s.job ≠ .ok (s.job.givenUp (saturatedText n))) :
    s.phase.hasStarted = false := by
  cases h with
  | awaited _ _ _ res | struck _ _ _ _ _ res => simp [res] at hx
  | skipped _ _ _ ph => exact ph
  | late _ _ _ _ res =>
      rw [res, Option.some.injEq] at hx
      exact absurd (Job.givenUp_inj hx) (lateText_ne_saturatedText t n)
  | collected _ _ _ _ res =>
      rw [res, Option.some.injEq] at hx
      cases ha : t.answer s.job with
      | ok r =>
          rw [ha] at hx own
          exact absurd (congrArg Except.ok hx) own
      | error f =>
          rw [ha] at hx
          exact absurd (Job.givenUp_inj hx) (failureComment_ne_saturatedText f n)

end Slot.Sound

/-! ## The account of an audit -/

namespace Machine

variable {t : Terms} {jobs : List Job} {m : Machine}

/-- What is kept of a list is what is kept place by place. -/
theorem filterMap_eq_range {α β : Type} (l : List α) (f : α → Option β) :
    l.filterMap f = (List.range l.length).filterMap fun i => (l[i]?).bind f := by
  induction l with
  | nil => rfl
  | cons a l ih =>
      rw [List.length_cons, List.range_succ_eq_map, List.filterMap_cons, List.filterMap_cons,
        List.filterMap_map, ih]
      rfl

/-- **The account of an audit.**  Whatever happened, and in whatever order, when an audit has
answered: its report lists, in the order of the plan, what is recorded for each check, and that
belongs to the check; no rule was asked twice for a check; a check whose rule was asked has a
result; the rule of a check without a result, or with the result that no worker could take it (and
a rule that does not itself give that result), was never asked, also not after the answer; and no
result is missing unless the audit was cancelled. -/
theorem report_accounts_for_every_check (t : Terms) (jobs : List Job) (requested : Bool)
    (es : List Event) (r : Report)
    (answered : ((start jobs requested).steps t es).stage = .returned r) :
    let m := (start jobs requested).steps t es
    r.results = (List.range jobs.length).filterMap m.resultAt ∧
    (∀ i x, m.resultAt i = some x → ∃ j, jobs[i]? = some j ∧ t.MayReport j x) ∧
    m.asked.Nodup ∧
    (∀ i ∈ m.asked, (m.resultAt i).isSome = true) ∧
    (∀ i j, jobs[i]? = some j →
      (m.resultAt i = none ∨ ∃ n, m.resultAt i = some (j.givenUp (saturatedText n)) ∧
        t.answer j ≠ .ok (j.givenUp (saturatedText n))) → i ∉ m.asked) ∧
    (r.cancelled = false → ∀ i < jobs.length, (m.resultAt i).isSome = true) := by
  intro m
  have hm : m.Sound t jobs := sound_steps t jobs requested es
  have hst : m.stage = .returned r := answered
  have hclosed : m.Closed r := by
    have hf := hm.fits
    rw [hst] at hf
    exact hf
  refine ⟨?_, ?_, hm.once, ?_, ?_, ?_⟩
  · rw [hclosed.results, filterMap_eq_range, hm.length_eq]
    rfl
  · intro i x hx
    obtain ⟨s, hs, hres⟩ := Option.bind_eq_some_iff.1 hx
    refine ⟨s.job, ?_, (hm.slots s (List.mem_of_getElem? hs)).mayReport hres⟩
    rw [← hm.jobs_eq, List.getElem?_map, hs]
    rfl
  · intro i hi
    obtain ⟨s, hs, hstart⟩ := hm.started_of_asked hi
    have hmem := List.mem_of_getElem? hs
    rw [resultAt_of_slot hs]
    exact (hm.slots s hmem).result_of_started (hclosed.settled s hmem) hstart
  · intro i j hj hwhy hi
    obtain ⟨s, hs, rfl⟩ := hm.slot_of_job hj
    obtain ⟨s', hs', hstart⟩ := hm.started_of_asked hi
    obtain rfl : s = s' := Option.some.inj (hs.symm.trans hs')
    have hmem := List.mem_of_getElem? hs
    rw [resultAt_of_slot hs] at hwhy
    rcases hwhy with hnone | ⟨n, hres, own⟩
    · have hsome := (hm.slots s hmem).result_of_started (hclosed.settled s hmem) hstart
      simp [hnone] at hsome
    · have hnot := (hm.slots s hmem).not_started_of_saturatedText hres own
      simp [hnot] at hstart
  · intro hr i hi
    rw [← hm.length_eq] at hi
    have hs : m.slots[i]? = some m.slots[i] := List.getElem?_eq_getElem hi
    rw [resultAt_of_slot hs]
    exact hclosed.full hr _ (List.getElem_mem hi)

/-- A plan of two checks. -/
def twoChecks : List Job :=
  [1, 2].map fun n => ⟨⟨⟨7, .text "edge", .text "", .text "", [], []⟩, none⟩,
    ⟨.int n, .text "rule", .flag true, .generic⟩⟩

/-- Terms with one worker, under which every device complies. -/
def oneWorker : Terms :=
  ⟨fun r s => ([], .ok (r.header.result s.device .conforming .null)), 1, "5"⟩

/-- The only worker is stuck with the first check, so that the second one is given up; the worker
comes back after the answer. -/
def stuckPool : List Event :=
  [.look, .take 0, .start 0, .poll [], .expire 0, .survey, .skip 1, .look, .read, .clear, .finish 0,
    .take 1, .start 1]

/-- The second check of a stuck pool is never asked, although the worker takes it at last. -/
theorem not_asked_of_stuckPool :
    ((start twoChecks false).steps oneWorker stuckPool).stage =
      .returned ⟨twoChecks.zipWith Job.givenUp [oneWorker.lateText, saturatedText 1], false, 1⟩ ∧
    1 ∉ ((start twoChecks false).steps oneWorker stuckPool).asked := by
  refine ⟨rfl, ?_⟩
  obtain ⟨_, _, _, _, never, _⟩ :=
    report_accounts_for_every_check oneWorker twoChecks false stuckPool _ rfl
  refine never 1 _ rfl (Or.inr ⟨1, rfl, ?_⟩)
  intro own
  exact Outcome.noConfusion (congrArg CheckResult.outcome (Except.ok.inj own))

end Machine

end ConfigAudit
