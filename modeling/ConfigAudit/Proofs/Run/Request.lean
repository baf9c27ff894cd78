/-
# What becomes of a request

An audit can be cancelled at any moment.  The coordinator copies the request into its report and
uses it up later, in a step of its own, and between the two steps a new request goes unnoticed.  All
other requests are told by the report, or are left for the next audit.

* `Noted`, `Kept` : what an audit has of the requests so far;
* `heard_iff` : which requests a run has, if each step has those of its event;
* `request_kept_iff` : which requests are told or left.
-/
import ConfigAudit.Proofs.Run.Account
import ConfigAudit.Proofs.Run.Schedule

namespace ConfigAudit

namespace Machine

variable {t : Terms} {m m' : Machine} {e : Event}

/-! ## What an audit has of requests -/

/-- The coordinator has not yet written the report. -/
def Unwritten : Stage → Prop
  | .reported _ | .returned _ => False
  | _ => True

/-- The coordinator is not between writing the report and using up a request. -/
def Settled : Stage → Prop
  | .reported _ => False
  | _ => True

/-- The report tells of a request, or would do so if it were written now. -/
def Noted (m : Machine) : Prop :=
  match m.stage with
  | .reported r | .returned r => r.cancelled = true
  | _ => m.cancelRequested = true

/-- The report tells of a request or would do so, or a request is left when the audit has answered. -/
def Kept (m : Machine) : Prop :=
  match m.stage with
  | .reported r => r.cancelled = true
  | .returned r => r.cancelled = true ∨ m.cancelRequested = true
  | _ => m.cancelRequested = true

/-- Where the report has not been written, it is about the requests so far. -/
theorem noted_of_unwritten (h : Unwritten m.stage) :
    (m.Noted ↔ m.cancelRequested = true) ∧ (m.Kept ↔ m.cancelRequested = true) := by
  unfold Noted Kept
  cases hst : m.stage with
  | reported r | returned r => simp [hst, Unwritten] at h
  | _ => exact ⟨Iff.rfl, Iff.rfl⟩

/-- As long as the report is not written, a step that leaves the requests alone leaves what an audit
has of them. -/
theorem noted_iff_of_unwritten (h : Unwritten m.stage) (h' : Unwritten m'.stage)
    (same : m'.cancelRequested = m.cancelRequested) :
    (m'.Noted ↔ m.Noted) ∧ (m'.Kept ↔ m.Kept) := by
  obtain ⟨hnoted, hkept⟩ := noted_of_unwritten h
  obtain ⟨hnoted', hkept'⟩ := noted_of_unwritten h'
  rw [hnoted, hkept, hnoted', hkept', same]
  exact ⟨Iff.rfl, Iff.rfl⟩

/-- A step other than a cancellation leaves what an audit has of requests. -/
theorem Step.noted_iff (h : Step t m e m') (calm : e ≠ .cancel) :
    (m'.Noted ↔ m.Noted) ∧ (m'.Kept ↔ m.Kept) := by
  have hwait : ∀ (k : Machine) todo, Unwritten (k.waitFor todo).stage := by
    intro k todo
    cases todo <;> trivial
  have hcollect : ∀ todo, Unwritten (.collectingAll todo) := by
    intro todo
    cases todo <;> trivial
  have hskip : ∀ n todo, Unwritten (.skippingAll n todo) := by
    intro n todo
    cases todo <;> trivial
  cases h with
  | take | discard | refuse | start | note | finish => exact ⟨Iff.rfl, Iff.rfl⟩
  | cancel => exact absurd rfl calm
  | leave st => exact noted_iff_of_unwritten (st ▸ trivial) trivial rfl
  | revoke st | wait st | withdraw st =>
      exact noted_iff_of_unwritten (st ▸ trivial) (hwait _ _) rfl
  | poll st | strike st | collect st =>
      exact noted_iff_of_unwritten (st ▸ trivial) (hcollect _) rfl
  | expire st =>
      have hm : Unwritten m.stage := st ▸ trivial
      exact noted_iff_of_unwritten hm hm rfl
  | saturated st | pass st | skip st =>
      exact noted_iff_of_unwritten (st ▸ trivial) (hskip _ _) rfl
  | spare st => exact noted_iff_of_unwritten (st ▸ trivial) trivial rfl
  | read st =>
      -- the report tells of the requests so far
      obtain ⟨hnoted, hkept⟩ := noted_of_unwritten (m := m) (st ▸ trivial)
      rw [hnoted, hkept]
      exact ⟨Iff.rfl, Iff.rfl⟩
  | clear st =>
      unfold Noted Kept
      rw [st]
      simp

/-- A cancellation is noted as long as the report is not written. -/
theorem noted_cancel : ({ m with cancelRequested := true } : Machine).Noted ↔
    m.Noted ∨ Unwritten m.stage := by
  unfold Noted
  cases m.stage <;> simp [Unwritten]

/-- A cancellation is kept unless the report is written and the request has not been used up. -/
theorem kept_cancel : ({ m with cancelRequested := true } : Machine).Kept ↔
    m.Kept ∨ Settled m.stage := by
  unfold Kept
  cases m.stage <;> simp [Settled]

/-! ## Runs with requests -/

/-- A cancellation comes in a run when the coordinator is at a stage of some kind. -/
def CancelledAt (t : Terms) (m : Machine) (es : List Event) (stages : Stage → Prop) : Prop :=
  ∃ before behind, es = before ++ .cancel :: behind ∧ stages (m.steps t before).stage

/-- A cancellation comes now or later. -/
theorem cancelledAt_cons {es : List Event} {stages : Stage → Prop} :
    CancelledAt t m (e :: es) stages ↔
      (e = .cancel ∧ stages m.stage) ∨ CancelledAt t (m.next t e) es stages := by
  constructor
  · rintro ⟨before, behind, heq, hst⟩
    cases before with
    | nil =>
        cases heq
        exact Or.inl ⟨rfl, hst⟩
    | cons first before =>
        cases heq
        exact Or.inr ⟨before, behind, rfl, hst⟩
  · rintro (⟨rfl, hst⟩ | ⟨before, behind, rfl, hst⟩)
    · exact ⟨[], es, rfl, hst⟩
    · exact ⟨e :: before, behind, rfl, hst⟩

/-- If an audit has of the requests what it had before and, at some stages, that of its event, a run
has those of all its cancellations at these stages. -/
theorem heard_iff {has : Machine → Prop} {stages : Stage → Prop}
    (calm : ∀ m m' e, Step t m e m' → e ≠ .cancel → (has m' ↔ has m))
    (heard : ∀ m : Machine, has { m with cancelRequested := true } ↔ has m ∨ stages m.stage)
    (es : List Event) : has (m.steps t es) ↔ has m ∨ CancelledAt t m es stages := by
  induction es generalizing m with
  | nil =>
      have hnone : ¬ CancelledAt t m [] stages := by
        rintro ⟨before, behind, heq, _⟩
        exact List.append_ne_nil_of_right_ne_nil before (List.cons_ne_nil _ _) heq.symm
      simp [hnone]
  | cons e es ih =>
      have hnext : has (m.next t e) ↔ has m ∨ (e = .cancel ∧ stages m.stage) := by
        by_cases he : e = .cancel
        · subst he
          rw [next_of_step .cancel, heard]
          simp
        · rcases next_cases t m e with heq | hstep
          · simp [heq, he]
          · simp [calm _ _ _ hstep he, he]
      rw [steps_cons, ih, hnext, cancelledAt_cons, or_assoc]

/-- **What becomes of a request.**  Take any run of an audit that has answered.  Its report tells of
a cancellation exactly if one had been asked for before the run or was asked for before the report
was written.  A request is told by the report or left for the next audit exactly if one had been
asked for before the run, or was asked for at any other moment than between writing the report and
using up a request.  And a request that is left is told by the report of the next audit. -/
theorem request_kept_iff (t : Terms) (jobs : List Job) (requested : Bool) (es : List Event)
    (r : Report) (answered : ((start jobs requested).steps t es).stage = .returned r) :
    let m := (start jobs requested).steps t es
    (r.cancelled = true ↔ requested = true ∨ CancelledAt t (start jobs requested) es Unwritten) ∧
    (r.cancelled = true ∨ m.cancelRequested = true ↔
      requested = true ∨ CancelledAt t (start jobs requested) es Settled) ∧
    (m.cancelRequested = true → ∀ (t' : Terms) (jobs' : List Job) (es' : List Event) (r' : Report),
      ((start jobs' m.cancelRequested).steps t' es').stage = .returned r' → r'.cancelled = true) := by
  have hnoted : ∀ (t : Terms) (jobs : List Job) (c : Bool) (es : List Event) (r : Report),
      ((start jobs c).steps t es).stage = .returned r →
      (r.cancelled = true ↔ c = true ∨ CancelledAt t (start jobs c) es Unwritten) := by
    intro t jobs c es r hst
    have hall := heard_iff (t := t) (m := start jobs c) (fun _ _ _ h calm => (h.noted_iff calm).1)
      (fun _ => noted_cancel) es
    unfold Noted at hall
    rw [hst] at hall
    exact hall
  intro m
  refine ⟨hnoted t jobs requested es r answered, ?_, ?_⟩
  · have hall := heard_iff (t := t) (m := start jobs requested)
      (fun _ _ _ h calm => (h.noted_iff calm).2) (fun _ => kept_cancel) es
    unfold Kept at hall
    rw [answered] at hall
    exact hall
  · intro left t' jobs' es' r' hst
    exact (hnoted t' jobs' _ es' r' hst).2 (Or.inl left)

/-- A cancellation that comes last is left for the next audit, and one that comes while the report
is written is told by it. -/
theorem kept_of_lateRequest :
    (∃ r, ((start twoChecks false).steps oneWorker (stuckPool ++ [.cancel])).stage = .returned r ∧
      r.cancelled = false) ∧
    CancelledAt oneWorker (start twoChecks false) (stuckPool ++ [.cancel]) Settled ∧
    ∀ es r, ((start [] true).steps oneWorker es).stage = .returned r → r.cancelled = true := by
  obtain ⟨_, hkept, hleft⟩ := request_kept_iff oneWorker twoChecks false (stuckPool ++ [.cancel]) _ rfl
  refine ⟨⟨_, rfl, rfl⟩, (hkept.1 (Or.inr rfl)).resolve_left Bool.false_ne_true, ?_⟩
  intro es r hst
  exact hleft rfl oneWorker [] es r hst

end Machine

/-- A runner with two workers that should wait for ever. -/
def patientRunner : Runner := ⟨2, 1.0 / 0.0, 1.0 / 0.0, false⟩

/-- A rule that does not answer, and one that cancels the audit. -/
def cancellingRules : List Rule :=
  [⟨.int 1, .text "slow", .flag true, .probe .blocking⟩,
    ⟨.int 2, .text "stop", .flag true, .probe .cancelling⟩]

/-- A device without a register. -/
def edgeSubject : Subject := ⟨⟨7, .text "edge", .text "", .text "", [], []⟩, none⟩

namespace Machine

/-- So it is not true that every request is told or left: one that comes between writing the report
and using up a request is neither, and nor is one that was made in an audit that breaks off. -/
theorem requests_lost :
    (∃ r, ((start [] false).steps oneWorker [.look, .read, .cancel, .clear]).stage = .returned r ∧
      r.cancelled = false ∧
      ((start [] false).steps oneWorker [.look, .read, .cancel, .clear]).cancelRequested = false) ∧
    ∀ g : Setting,
      (workAll g (patientRunner.terms g)
        (start (cancellingRules.map (Job.mk edgeSubject)) false)).cancelRequested = true ∧
      patientRunner.run g [⟨.int 0, .text "baseline", [], cancellingRules⟩] [edgeSubject] =
        (patientRunner, [], .error (.value .timeRange)) := by
  refine ⟨⟨_, rfl, rfl, rfl⟩, fun g => ⟨?_, ?_⟩⟩
  · rfl
  · rfl

end Machine

end ConfigAudit
