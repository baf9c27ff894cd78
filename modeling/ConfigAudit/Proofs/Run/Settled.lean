/-
# Audits that runners settle

A runner carries out an audit by one schedule.  If every check returns and none cancels the audit,
the schedule comes to its end in one round: the workers carry out the checks in the order of the
plan, and then the coordinator records what has come of them.

* `Machine.carriedTo`, `Machine.collectedTo` : the audit while workers and coordinator go through
  the plan;
* `settle_eq` : how the audit ends;
* `Runner.run_settled` : what the runner answers;
* `Runner.run_regular` : what it answers for rules of documents and stores;
* `Runner.QuietlyReports.eq_sequential` : whatever the schedule, it would have been the same.
-/
import Mathlib.Data.List.Basic
import ConfigAudit.Proofs.Rule.Regular
import ConfigAudit.Proofs.Run.Quiet
import ConfigAudit.Proofs.Run.Schedule

namespace ConfigAudit

/-- A check that a worker has carried out. -/
def Slot.carriedOut (t : Terms) (j : Job) : Slot :=
  ⟨j, .finished (t.answer j), true, false, false, none⟩

/-- A check that has been carried out, with its result. -/
def Slot.recorded (t : Terms) (j : Job) : Slot :=
  ⟨j, .finished (t.answer j), false, false, false, some (j.collected (t.answer j))⟩

namespace Machine

variable {g : Setting} {t : Terms} {m : Machine}

/-! ## Events without effect -/

/-- Events that cannot happen change nothing. -/
theorem steps_idle {es : List Event} (idle : ∀ e ∈ es, m.step? t e = none) : m.steps t es = m := by
  induction es with
  | nil => rfl
  | cons e es ih =>
      obtain ⟨he, hes⟩ := List.forall_mem_cons.1 idle
      rw [steps_cons, next, he]
      exact ih hes

/-- Workers have nothing to do with checks that have come to their end. -/
theorem workAll_idle (finished : ∀ s ∈ m.slots, ∃ a, s.phase = .finished a) :
    workAll g t m = m := by
  have hwork : ∀ i, workOn g t m i = m := by
    intro i
    have hidle : m.steps t [.take i, .start i] = m := by
      refine steps_idle ?_
      intro e he
      cases hs : m.slots[i]? with
      | none => rcases List.mem_pair.1 he with rfl | rfl <;> simp [step?, hs]
      | some s =>
          obtain ⟨a, ph⟩ := finished s (List.mem_of_getElem? hs)
          rcases List.mem_pair.1 he with rfl | rfl <;> simp [step?, hs, take?, start?, ph]
    unfold workOn
    simp only [hidle]
    split
    · rename_i s hs
      obtain ⟨a, ph⟩ := finished s (List.mem_of_getElem? hs)
      rw [endEvents, ph]
      rfl
    · rfl
  unfold workAll
  generalize List.range m.slots.length = is
  induction is with
  | nil => rfl
  | cons i is ih => rw [List.foldl_cons, hwork, ih]

/-! ## Workers -/

/-- A check that is going on leaves all its notes. -/
theorem steps_notes {i : Nat} {s : Slot} {answer : Except Fault CheckResult} (notes : Journal)
    (hs : m.slots[i]? = some { s with phase := .started notes answer }) :
    m.steps t (List.replicate notes.length (.note i)) =
      { m with slots := m.slots.set i { s with phase := .started [] answer },
               journal := m.journal ++ notes } := by
  induction notes generalizing m with
  | nil =>
      obtain ⟨hi, hs⟩ := List.getElem?_eq_some_iff.1 hs
      rw [← hs, List.set_getElem_self, List.append_nil]
      rfl
  | cons n notes ih =>
      obtain ⟨hi, _⟩ := List.getElem?_eq_some_iff.1 hs
      rw [List.length_cons, List.replicate_succ, steps_cons, next_of_step (.note hs rfl), ih]
      · simp [update, write]
      · simp [update, write, hi]

/-- The audit after workers have carried out the checks in front. -/
def carriedTo (t : Terms) (front back : List Job) : Machine :=
  ⟨front.map (Slot.carriedOut t) ++ back.map Slot.ofJob, .looking, false, false,
    List.range front.length, front.flatMap t.notes⟩

/-- A worker carries out the next check. -/
theorem workOn_carriedTo (hw : 1 ≤ t.workers) {front back : List Job} {j : Job}
    (ends : returns g j = true) (going : cancels g j = false) :
    workOn g t (carriedTo t front (j :: back)) front.length = carriedTo t (front ++ [j]) back := by
  have hs : (carriedTo t front (j :: back)).slots[front.length]? = some (Slot.ofJob j) := by
    simp [carriedTo]
  have hi : front.length < (carriedTo t front (j :: back)).slots.length := by
    simp [carriedTo]
  have first : (carriedTo t front (j :: back)).isFirst front.length = true := by
    simp [carriedTo, isFirst, Slot.carriedOut, Phase.isQueued]
  have free : (carriedTo t front (j :: back)).busy < t.workers := by
    have hbusy : (carriedTo t front (j :: back)).busy = 0 := by
      simp [carriedTo, busy, List.countP_map, Slot.carriedOut, Slot.ofJob, Phase.isHeld,
        Function.comp_def]
    omega
  -- the check is taken and started
  have hbegin : (carriedTo t front (j :: back)).steps t [.take front.length, .start front.length] =
      { (carriedTo t front (j :: back)).update front.length
          { Slot.ofJob j with phase := .started (t.notes j) (t.answer j) } with
        asked := List.range front.length ++ [front.length] } := by
    have told : t.check j.rule j.subject = (t.notes j, t.answer j) := rfl
    rw [steps_cons, next_of_step (.take hs first free rfl), steps_cons,
      next_of_step (.start (s := { Slot.ofJob j with phase := .taken }) (by simp [update, hi]) rfl rfl
        rfl told)]
    simp [update, carriedTo]
  have hstarted : ((carriedTo t front (j :: back)).slots.set front.length
      { Slot.ofJob j with phase := .started (t.notes j) (t.answer j) })[front.length]? =
        some { Slot.ofJob j with phase := .started (t.notes j) (t.answer j) } :=
    List.getElem?_set_self hi
  -- it leaves its notes and comes to its end
  rw [workOn]
  simp only [hbegin, update, hstarted]
  have hend : endEvents g front.length
      { Slot.ofJob j with phase := .started (t.notes j) (t.answer j) } =
        List.replicate (t.notes j).length (.note front.length) ++ [.finish front.length] := by
    have hreturns : returns g (Slot.ofJob j).job = true := ends
    have hcancels : cancels g (Slot.ofJob j).job = false := going
    simp [endEvents, hreturns, hcancels]
  rw [hend, steps_append, steps_notes (s := Slot.ofJob j) (t.notes j) hstarted, steps_cons,
    next_of_step (.finish (List.getElem?_set_self (by simp [hi])) rfl)]
  simp [update, carriedTo, Slot.carriedOut, Slot.ofJob, List.range_succ]

/-- Workers carry out all checks. -/
theorem workAll_start (hw : 1 ≤ t.workers) {jobs : List Job}
    (calm : ∀ j ∈ jobs, returns g j = true ∧ cancels g j = false) :
    workAll g t (start jobs false) = carriedTo t jobs [] := by
  have hall : ∀ back front, (∀ j ∈ back, returns g j = true ∧ cancels g j = false) →
      (List.range' front.length back.length).foldl (workOn g t) (carriedTo t front back) =
        carriedTo t (front ++ back) [] := by
    intro back
    induction back with
    | nil =>
        intro front _
        rw [List.append_nil]
        rfl
    | cons j back ih =>
        intro front calm
        obtain ⟨hj, calm⟩ := List.forall_mem_cons.1 calm
        have hrest := ih (front ++ [j]) calm
        rw [List.length_append, List.length_singleton, List.append_assoc,
          List.singleton_append] at hrest
        rw [List.length_cons, List.range'_succ, List.foldl_cons, workOn_carriedTo hw hj.1 hj.2]
        exact hrest
  have hstart : start jobs false = carriedTo t [] jobs := rfl
  have hlength : (start jobs false).slots.length = jobs.length := List.length_map ..
  rw [workAll, hlength, List.range_eq_range', hstart]
  exact hall jobs [] calm

/-! ## The coordinator -/

/-- The audit after the coordinator has recorded the checks in front. -/
def collectedTo (t : Terms) (front back : List Job) : Machine :=
  ⟨front.map (Slot.recorded t) ++ back.map (Slot.carriedOut t),
    .collectingAll (List.range' front.length back.length), false, false,
    List.range (front ++ back).length, (front ++ back).flatMap t.notes⟩

/-- The coordinator records what came of the next check. -/
theorem next_collectedTo {front back : List Job} {j : Job} :
    (collectedTo t front (j :: back)).next t (.collect front.length) =
      collectedTo t (front ++ [j]) back := by
  have hs : (collectedTo t front (j :: back)).slots[front.length]? =
      some (Slot.carriedOut t j) := by
    simp [collectedTo]
  have st : (collectedTo t front (j :: back)).stage =
      .collecting (List.range' front.length (j :: back).length) := rfl
  rw [next_of_step (.collect st hs rfl rfl)]
  simp [collectedTo, update, goTo, Slot.recorded, Slot.carriedOut, List.range'_succ]

/-- The coordinator records what came of all checks. -/
theorem steps_collectedTo (back front : List Job) :
    (collectedTo t front back).steps t
        ((List.range' front.length back.length).map Event.collect) =
      collectedTo t (front ++ back) [] := by
  induction back generalizing front with
  | nil => rw [List.append_nil]; rfl
  | cons j back ih =>
      have hrest := ih (front ++ [j])
      rw [List.length_append, List.length_singleton, List.append_assoc,
        List.singleton_append] at hrest
      rw [List.length_cons, List.range'_succ, List.map_cons, steps_cons, next_collectedTo]
      exact hrest

/-- Then it waits for nothing, and has given up nothing. -/
theorem settled_collectedTo {jobs : List Job} :
    ∀ s ∈ (collectedTo t jobs []).slots, s.pending = false ∧ s.stuck = false := by
  intro s hs
  rw [collectedTo, List.map_nil, List.append_nil] at hs
  obtain ⟨j, _, rfl⟩ := List.mem_map.1 hs
  exact ⟨rfl, rfl⟩

/-- Then no worker is stuck. -/
theorem stuckCount_collectedTo {jobs : List Job} : (collectedTo t jobs []).stuckCount = 0 := by
  rw [stuckCount, List.countP_eq_zero]
  intro s hs
  simp [Slot.isStuck, (settled_collectedTo s hs).2]

/-- In one round the coordinator records what came of all checks. -/
theorem coordinate_carriedTo (hw : 1 ≤ t.workers) {jobs : List Job} (hjobs : jobs ≠ []) :
    coordinate g t (carriedTo t jobs []) = (collectedTo t jobs []).goTo .looking := by
  have hslots : (carriedTo t jobs []).slots = jobs.map (Slot.carriedOut t) := List.append_nil _
  have hlength : (carriedTo t jobs []).slots.length = jobs.length := by
    rw [hslots, List.length_map]
  have going : (carriedTo t jobs []).isOver = false := by
    rw [isOver, hslots]
    obtain ⟨j, rest, rfl⟩ := List.exists_cons_of_ne_nil hjobs
    rfl
  have ready : (carriedTo t jobs []).places (·.isReady) = List.range jobs.length := by
    rw [places, hlength, List.filter_eq_self]
    intro i hi
    have hi : i < jobs.length := List.mem_range.1 hi
    rw [hslots, List.getElem?_map, List.getElem?_eq_getElem hi]
    rfl
  -- the coordinator waits, with all checks done
  have hlook : (carriedTo t jobs []).steps t
      (.look :: (List.range jobs.length).map Event.withdraw) =
        (carriedTo t jobs []).goTo (.waiting (List.range jobs.length)) := by
    rw [steps_cons, next_of_step (.wait rfl going (Or.inl rfl)), waitFor, ready]
    refine steps_idle ?_
    intro e he
    obtain ⟨i, _, rfl⟩ := List.mem_map.1 he
    rfl
  have hwork : workAll g t ((carriedTo t jobs []).goTo (.waiting (List.range jobs.length))) =
      (carriedTo t jobs []).goTo (.waiting (List.range jobs.length)) := by
    refine workAll_idle ?_
    intro s hs
    obtain ⟨j, _, rfl⟩ := List.mem_map.1 (hslots ▸ hs)
    exact ⟨_, rfl⟩
  have hpoll : ((carriedTo t jobs []).goTo (.waiting (List.range jobs.length))).next t
      (.poll (List.range jobs.length)) = collectedTo t [] jobs := by
    rw [next_of_step (.poll rfl)]
    obtain ⟨j, rest, rfl⟩ := List.exists_cons_of_ne_nil hjobs
    simp [carriedTo, collectedTo, goTo, batch, List.range_eq_range', List.range'_succ]
  have hcollect : (collectedTo t [] jobs).steps t ((List.range jobs.length).map Event.collect) =
      collectedTo t jobs [] := by
    rw [List.range_eq_range']
    exact steps_collectedTo jobs []
  -- there is nothing to give up
  have hexpire : (collectedTo t jobs []).steps t ((List.range jobs.length).map Event.expire) =
      collectedTo t jobs [] := by
    refine steps_idle ?_
    intro e he
    obtain ⟨i, _, rfl⟩ := List.mem_map.1 he
    have hstage : (collectedTo t jobs []).stage = .expiring := rfl
    cases hs : (collectedTo t jobs []).slots[i]? with
    | none => simp [step?, hstage, hs]
    | some s =>
        have hpending := (settled_collectedTo s (List.mem_of_getElem? hs)).1
        simp [step?, hstage, hs, expire?, hpending]
  have hsurvey : (collectedTo t jobs []).next t .survey = (collectedTo t jobs []).goTo .looking :=
    next_of_step (.spare rfl (by rw [stuckCount_collectedTo]; omega))
  have hskip : ((collectedTo t jobs []).goTo .looking).steps t
      ((List.range jobs.length).map Event.skip) = (collectedTo t jobs []).goTo .looking := by
    refine steps_idle ?_
    intro e he
    obtain ⟨i, _, rfl⟩ := List.mem_map.1 he
    rfl
  rw [coordinate]
  simp only [hlength]
  rw [hlook, hwork, steps_append, steps_append]
  simp only [steps_cons, hpoll, hcollect, hexpire, hsurvey, hskip]

/-- **How an audit is settled.**  If every check returns and none cancels the audit, all checks are
carried out in the order of the plan, and what comes of them is recorded. -/
theorem settle_eq (hw : 1 ≤ t.workers) {jobs : List Job}
    (calm : ∀ j ∈ jobs, returns g j = true ∧ cancels g j = false) :
    settle g t (start jobs false) =
      ⟨jobs.map (Slot.recorded t), .returned ⟨t.sequential jobs, false, 0⟩, false, false,
        List.range jobs.length, jobs.flatMap t.notes⟩ := by
  by_cases hjobs : jobs = []
  · subst hjobs
    rfl
  · have settled : ((collectedTo t jobs []).goTo .looking).isOver = true := by
      rw [isOver, List.all_eq_true]
      intro s hs
      rw [(settled_collectedTo s hs).1]
      rfl
    have hstuck : ((collectedTo t jobs []).goTo .looking).stuckCount = 0 := stuckCount_collectedTo
    rw [settle, workAll_start hw calm, coordinate_carriedTo hw hjobs, steps_cons,
      next_of_step (.leave rfl settled), steps_cons, next_of_step (.read rfl), steps_cons,
      next_of_step (.clear rfl), hstuck]
    have hresults : (jobs.map (Slot.recorded t)).filterMap (·.result) = t.sequential jobs := by
      rw [List.filterMap_map, Terms.sequential]
      exact List.filterMap_eq_map_iff_forall_eq_some.2 fun j _ => rfl
    simp [collectedTo, goTo, report, hresults]

end Machine

/-- **What a runner answers.**  If every check of the plan returns and none cancels the audit, the
runner reports the results of carrying out the checks one after the other, with their notes in the
order of the plan. -/
theorem Runner.run_settled {r : Runner} {g : Setting} {policies : List Policy}
    {subjects : List Subject} {jobs : List Job} (planned : plan policies subjects = .ok jobs)
    (hw : 1 ≤ r.workers) (going : r.cancelRequested = false)
    (calm : ∀ j ∈ jobs, returns g j = true ∧ cancels g j = false) :
    r.run g policies subjects =
      (r, jobs.flatMap (r.terms g).notes, .ok ⟨(r.terms g).sequential jobs, false, 0⟩) := by
  obtain ⟨workers, timeout, poll, cancelRequested⟩ := r
  subst going
  -- the workers have carried out all checks, so that nothing has to be waited for
  have hdone : ((workAll g ((Runner.mk workers timeout poll false).terms g)
      (Machine.start jobs false)).slots.any fun s => !s.phase.isDone) = false := by
    rw [Machine.workAll_start (t := (Runner.mk workers timeout poll false).terms g) hw calm,
      Machine.carriedTo, List.map_nil, List.append_nil, List.any_eq_false]
    intro s hs
    obtain ⟨j, _, rfl⟩ := List.mem_map.1 hs
    simp [Slot.carriedOut, Phase.isDone]
  rw [run, planned]
  simp only [hdone, Bool.and_false, Bool.false_eq_true, if_false,
    Machine.settle_eq (t := (Runner.mk workers timeout poll false).terms g) hw calm]
  rfl

/-- An audit that is not cancelled, and in which no check takes too long, may answer a report:
workers and coordinator take turns in some order. -/
def Runner.QuietlyReports (r : Runner) (g : Setting) (policies : List Policy)
    (subjects : List Subject) (report : Report) : Prop :=
  ∃ jobs es, plan policies subjects = .ok jobs ∧ (∀ e ∈ es, Event.isQuiet e = true) ∧
    ((Machine.start jobs false).steps (r.terms g) es).stage = .returned report

/-! ## Regular rules -/

/-- A runner that is made has a worker, and nobody asks it for a cancellation. -/
theorem Runner.make_eq_ok {workers : Int} {timeout poll : Float} {r : Runner}
    (h : make workers timeout poll = .ok r) : 1 ≤ r.workers ∧ r.cancelRequested = false := by
  unfold make at h
  split at h
  · cases h
  · rename_i hworkers
    cases h
    have hpositive : 1 ≤ workers.toNat := by omega
    exact ⟨hpositive, rfl⟩

/-- All rules of policies are regular. -/
def RegularRules (policies : List Policy) : Prop := ∀ p ∈ policies, ∀ r ∈ p.rules, r.Regular

section Regular

variable {r : Runner} {g : Setting} {policies : List Policy}

/-- The ids of regular rules can be keys. -/
theorem RegularRules.keyed (regular : RegularRules policies) : KeyedRules policies :=
  fun p hp r hr => (regular p hp r hr).keyed

/-- **Regular rules are audited one after the other.**  The runner reports the results of carrying
out the checks of the plan in its order. -/
theorem Runner.run_regular (regular : RegularRules policies) (subjects : List Subject)
    (hw : 1 ≤ r.workers) (going : r.cancelRequested = false) :
    r.run g policies subjects =
      (r, (jobsFor policies subjects).flatMap (r.terms g).notes,
        .ok ⟨(r.terms g).sequential (jobsFor policies subjects), false, 0⟩) := by
  refine run_settled (plan_eq regular.keyed subjects) hw going ?_
  intro j hj
  obtain ⟨s, _, hj⟩ := List.mem_flatMap.1 hj
  obtain ⟨rule, hrule, rfl⟩ := List.mem_map.1 hj
  obtain ⟨p, hp, hr⟩ := exists_of_mem_distinctRules hrule
  exact (regular p hp rule hr).calm g s

/-- **Schedules make no difference.**  What a quiet audit may answer are these results. -/
theorem Runner.QuietlyReports.eq_sequential (regular : RegularRules policies)
    {subjects : List Subject} (hw : 1 ≤ r.workers) {report : Report}
    (h : r.QuietlyReports g policies subjects report) :
    report = ⟨(r.terms g).sequential (jobsFor policies subjects), false, 0⟩ := by
  obtain ⟨jobs, es, planned, quiet, answered⟩ := h
  cases (plan_eq regular.keyed subjects).symm.trans planned
  exact (Machine.answer_of_quiet hw quiet answered).1

/-- The results are those of the rules of the checks. -/
theorem Runner.sequential_eq (r : Runner) (g : Setting) (jobs : List Job) :
    (r.terms g).sequential jobs = jobs.map fun j => (j.rule.checkSafely g j.subject).2 := by
  rw [Terms.sequential]
  refine List.map_congr_left ?_
  intro j _
  exact collected_check g j.subject j.rule

/-- Results are listed device by device. -/
theorem Terms.sequential_devices (t : Terms) (ds : List Device) (register : Register) :
    t.sequential (jobsFor policies (ds.map fun d => ⟨d, some register⟩)) =
      ds.flatMap fun d => t.sequential (jobsFor policies [⟨d, some register⟩]) := by
  rw [sequential, jobsFor, List.flatMap_map, List.map_flatMap]
  refine List.flatMap_congr ?_
  intro d _
  rw [sequential, jobsFor, List.flatMap_singleton]

/-- The results of a device are the same with registers that say the same about it, each at its own
instant. -/
theorem Terms.sequential_congr (regular : RegularRules policies) (r : Runner) {d : Device}
    {a b : Register} {now : Moment}
    (agree : ∀ n : Int, a.isExempted (.int n) (.int d.id) g.now =
      b.isExempted (.int n) (.int d.id) now) :
    (r.terms g).sequential (jobsFor policies [⟨d, some a⟩]) =
      (r.terms { g with now := now }).sequential (jobsFor policies [⟨d, some b⟩]) := by
  rw [sequential, sequential, jobsFor, jobsFor, List.flatMap_singleton, List.flatMap_singleton,
    List.map_map, List.map_map]
  refine List.map_congr_left ?_
  intro rule hrule
  obtain ⟨p, hp, hr⟩ := exists_of_mem_distinctRules hrule
  have hregular := regular p hp rule hr
  obtain ⟨n, hn⟩ := hregular.numbered
  have hcheck := hregular.check_congr g d (hn ▸ agree n)
  have hanswer : (r.terms g).answer ⟨⟨d, some a⟩, rule⟩ =
      (r.terms { g with now := now }).answer ⟨⟨d, some b⟩, rule⟩ := congrArg Prod.snd hcheck
  rw [Function.comp_apply, Function.comp_apply, hanswer]
  -- what is recorded otherwise names only the rule and the device
  cases (r.terms { g with now := now }).answer ⟨⟨d, some b⟩, rule⟩ <;> rfl

end Regular

end ConfigAudit
