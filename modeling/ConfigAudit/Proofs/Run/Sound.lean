/-
# How audits stand

Whatever the workers and the coordinator do, and in whatever order, an audit keeps one invariant:
each check is still awaited, or it has left the audit in one of four ways, and which way it was
can be read off its slot.

* `Slot.Sound` : the ways in which a check can stand;
* `Machine.Sound` : the invariant of an audit;
* `sound_steps` : every run keeps it.
-/
import ConfigAudit.Proofs.Run.Plan
import ConfigAudit.Proofs.Run.Step

namespace ConfigAudit

/-! ## How a check can stand -/

/-- A check that has been started goes by what its rule says. -/
def Phase.Says (a : Except Fault CheckResult) : Phase → Prop
  | started _ b => b = a
  | finished b => b = a
  | _ => True

/-- The ways in which a check can stand; `stop` says whether the audit may stop it. -/
inductive Slot.Sound (t : Terms) (stop : Prop) (s : Slot) : Prop where
  /-- The coordinator waits for it. -/
  | awaited (pend : s.pending = true) (free : s.stuck = false) (kept : s.skipped = false)
      (res : s.result = none) (why : s.phase.isStopped = true → stop)
      (told : s.phase.Says (t.answer s.job))
  /-- What came of it was recorded. -/
  | collected (pend : s.pending = false) (free : s.stuck = false) (kept : s.skipped = false)
      (ph : s.phase = .finished (t.answer s.job))
      (res : s.result = some (s.job.collected (t.answer s.job)))
  /-- It was stopped before it was started. -/
  | struck (pend : s.pending = false) (free : s.stuck = false) (kept : s.skipped = false)
      (ph : s.phase = .discarded ∨ s.phase = .refused) (why : stop) (res : s.result = none)
  /-- It was given up while it was going on. -/
  | late (pend : s.pending = false) (held : s.stuck = true) (kept : s.skipped = false)
      (ph : s.phase.hasStarted = true) (res : s.result = some (s.job.givenUp t.lateText))
  /-- It was given up before it was started. -/
  | skipped {stuck : Nat} (pend : s.pending = false) (free : s.stuck = false)
      (gone : s.skipped = true) (ph : s.phase.hasStarted = false) (out : s.phase ≠ .waiting)
      (res : s.result = some (s.job.givenUp (saturatedText stuck)))

namespace Slot.Sound

variable {t : Terms} {stop : Prop} {s s' : Slot}

/-- A check that was just put into the queue is awaited. -/
theorem ofJob (t : Terms) (stop : Prop) (j : Job) : (Slot.ofJob j).Sound t stop :=
  .awaited rfl rfl rfl rfl (fun h => nomatch h) trivial

/-- What an audit may stop, it may stop with more reason. -/
theorem mono {stop' : Prop} (h : s.Sound t stop) (le : stop → stop') : s.Sound t stop' := by
  cases h with
  | awaited pend free kept res why told => exact .awaited pend free kept res (le ∘ why) told
  | collected pend free kept ph res => exact .collected pend free kept ph res
  | struck pend free kept ph why res => exact .struck pend free kept ph (le why) res
  | late pend held kept ph res => exact .late pend held kept ph res
  | skipped pend free gone ph out res => exact .skipped pend free gone ph out res

/-- A check that the coordinator waits for has no result and was not given up. -/
theorem of_pending (h : s.Sound t stop) (pend : s.pending = true) :
    s.stuck = false ∧ s.skipped = false ∧ s.result = none ∧
      (s.phase.isStopped = true → stop) ∧ s.phase.Says (t.answer s.job) := by
  cases h with
  | awaited _ free kept res why told => exact ⟨free, kept, res, why, told⟩
  | collected pend' | struck pend' | late pend' | skipped pend' => simp [pend'] at pend

/-- Cancelling a check in the queue leaves it in good standing. -/
theorem cancel (h : s.Sound t stop) (why : stop) :
    Slot.Sound t stop { s with phase := s.phase.cancel } := by
  have hw : s.phase.cancel = s.phase ∨ s.phase = .waiting := by
    cases s.phase <;> simp [Phase.cancel]
  rcases hw with hw | hw
  · simp only [hw]
    exact h
  · -- only an awaited check can be in the queue
    cases h with
    | awaited pend free kept res _ _ =>
        refine .awaited pend free kept res (fun _ => why) ?_
        simp [hw, Phase.cancel, Phase.Says]
    | collected _ _ _ ph _ => simp [hw] at ph
    | struck _ _ _ ph _ _ => simp [hw] at ph
    | late _ _ _ ph _ => simp [hw, Phase.hasStarted] at ph
    | skipped _ _ _ _ out _ => exact absurd hw out

/-- A check that no worker has dealt with is awaited or was skipped. -/
theorem of_untouched (h : s.Sound t stop) (idle : s.phase.hasStarted = false)
    (todo : s.phase.isDone = false) :
    (s.pending = true ∧ s.stuck = false ∧ s.skipped = false ∧ s.result = none ∧
      (s.phase.isStopped = true → stop)) ∨
    (s.pending = false ∧ s.stuck = false ∧ s.skipped = true ∧ s.phase ≠ .waiting ∧
      ∃ n, s.result = some (s.job.givenUp (saturatedText n))) := by
  cases h with
  | awaited pend free kept res why _ => exact Or.inl ⟨pend, free, kept, res, why⟩
  | collected _ _ _ ph _ => simp [ph, Phase.hasStarted] at idle
  | struck _ _ _ ph _ _ => rcases ph with ph | ph <;> simp [ph, Phase.isDone] at todo
  | late _ _ _ ph _ => simp [ph] at idle
  | skipped pend free gone _ out res => exact Or.inr ⟨pend, free, gone, out, _, res⟩

/-- A check that is going on is awaited or late. -/
theorem of_going (h : s.Sound t stop) (going : s.phase.hasStarted = true)
    (todo : s.phase.isDone = false) :
    (s.pending = true ∧ s.stuck = false ∧ s.skipped = false ∧ s.result = none ∧
      s.phase.Says (t.answer s.job)) ∨
    (s.pending = false ∧ s.stuck = true ∧ s.skipped = false ∧
      s.result = some (s.job.givenUp t.lateText)) := by
  cases h with
  | awaited pend free kept res _ told => exact Or.inl ⟨pend, free, kept, res, told⟩
  | collected _ _ _ ph _ => simp [ph, Phase.isDone] at todo
  | struck _ _ _ ph _ _ => rcases ph with ph | ph <;> simp [ph, Phase.isDone] at todo
  | late pend held kept _ res => exact Or.inr ⟨pend, held, kept, res⟩
  | skipped _ _ _ ph _ _ => simp [ph] at going

/-- Every move leaves a check in good standing. -/
theorem moves (h : s.Sound t stop) (hm : s.Moves t stop s') : s'.Sound t stop := by
  cases hm with
  | take ph =>
      rcases h.of_untouched (by simp [ph, Phase.hasStarted]) (by simp [ph, Phase.isDone]) with
        ⟨pend, free, kept, res, _⟩ | ⟨_, _, _, out, _⟩
      · exact .awaited pend free kept res (fun h => nomatch h) trivial
      · exact absurd ph out
  | discard ph =>
      rcases h.of_untouched (by simp [ph, Phase.hasStarted]) (by simp [ph, Phase.isDone]) with
        ⟨pend, free, kept, res, why⟩ | ⟨pend, free, gone, _, _, res⟩
      · exact .awaited pend free kept res (fun _ => why (by simp [ph, Phase.isStopped])) trivial
      · exact .skipped pend free gone rfl (by simp) res
  | refuse ph why =>
      rcases h.of_untouched (by simp [ph, Phase.hasStarted]) (by simp [ph, Phase.isDone]) with
        ⟨pend, free, kept, res, _⟩ | ⟨pend, free, gone, _, _, res⟩
      · refine .awaited pend free kept res (fun _ => why.resolve_right ?_) trivial
        simp [kept]
      · exact .skipped pend free gone rfl (by simp) res
  | start ph kept told =>
      rcases h.of_untouched (by simp [ph, Phase.hasStarted]) (by simp [ph, Phase.isDone]) with
        ⟨pend, free, _, res, _⟩ | ⟨_, _, gone, _, _⟩
      · refine .awaited pend free kept res (fun h => nomatch h) ?_
        simp [Phase.Says, Terms.answer, told]
      · simp [kept] at gone
  | note ph =>
      rcases h.of_going (by simp [ph, Phase.hasStarted]) (by simp [ph, Phase.isDone]) with
        ⟨pend, free, kept, res, told⟩ | ⟨pend, held, kept, res⟩
      · rw [ph] at told
        exact .awaited pend free kept res (fun h => nomatch h) told
      · exact .late pend held kept rfl res
  | finish ph =>
      rcases h.of_going (by simp [ph, Phase.hasStarted]) (by simp [ph, Phase.isDone]) with
        ⟨pend, free, kept, res, told⟩ | ⟨pend, held, kept, res⟩
      · rw [ph] at told
        exact .awaited pend free kept res (fun h => nomatch h) told
      · exact .late pend held kept rfl res
  | withdraw why => exact h.cancel why
  | strike pend ph =>
      obtain ⟨free, kept, res, why, _⟩ := h.of_pending pend
      refine .struck rfl free kept ph (why ?_) res
      rcases ph with ph | ph <;> simp [ph, Phase.isStopped]
  | collect pend ph =>
      obtain ⟨free, kept, _, _, told⟩ := h.of_pending pend
      rw [ph] at told
      subst told
      exact .collected rfl free kept ph rfl
  | expire pend ph =>
      obtain ⟨_, kept, _, _, _⟩ := h.of_pending pend
      exact .late rfl rfl kept ph rfl
  | skip pend ph =>
      obtain ⟨free, _, _, _, _⟩ := h.of_pending pend
      exact .skipped rfl free rfl (by simpa using ph) (Phase.cancel_ne_waiting _) rfl

end Slot.Sound

/-! ## Views of the list of checks -/

section Views

variable {α : Type} {l : List Slot} {i : Nat} {s s' : Slot}

/-- A view that a move leaves alone is the same before and after. -/
theorem map_set_slot (f : Slot → α) (hs : l[i]? = some s) (hf : f s' = f s) :
    (l.set i s').map f = l.map f := by
  rw [List.map_set, hf]
  apply List.ext_getElem?
  intro k
  rw [List.getElem?_set]
  split
  · rename_i hk
    subst hk
    rw [List.length_map, List.getElem?_map, hs]
    have hi : i < l.length := (List.getElem?_eq_some_iff.1 hs).1
    simp [hi]
  · rfl

/-- What all checks have, they have after one of them has moved. -/
theorem forall_mem_set {p : Slot → Prop} (h : ∀ x ∈ l, p x) (hs' : p s') :
    ∀ x ∈ l.set i s', p x := by
  intro x hx
  rcases List.mem_or_eq_of_mem_set hx with hx | rfl
  · exact h x hx
  · exact hs'

/-- What the coordinator knows of a check. -/
def Slot.known (s : Slot) : Bool × Option CheckResult := (s.pending, s.result)

/-- Of two lists that the coordinator cannot tell apart, each has what the other has. -/
theorem exists_known_eq {l' : List Slot} (h : l'.map Slot.known = l.map Slot.known)
    (hs : s ∈ l') : ∃ x ∈ l, x.pending = s.pending ∧ x.result = s.result := by
  have hmem : s.known ∈ l.map Slot.known := h ▸ List.mem_map_of_mem hs
  obtain ⟨x, hx, heq⟩ := List.mem_map.1 hmem
  exact ⟨x, hx, congrArg Prod.fst heq, congrArg Prod.snd heq⟩

/-- Two lists that the coordinator cannot tell apart have the same results. -/
theorem results_eq_of_known {l' : List Slot} (h : l'.map Slot.known = l.map Slot.known) :
    l'.filterMap (·.result) = l.filterMap (·.result) := by
  have key : ∀ x : List Slot, x.filterMap (·.result) = (x.map Slot.known).filterMap Prod.snd := by
    intro x
    rw [List.filterMap_map]
    rfl
  rw [key l', key l, h]

end Views

namespace Machine

variable {t : Terms} {jobs : List Job} {m m' : Machine} {e : Event}

/-! ## The invariant of an audit -/

/-- A report says what is recorded, and an audit that was not cancelled has recorded something
for every check. -/
structure Closed (m : Machine) (r : Report) : Prop where
  /-- Nothing is awaited. -/
  settled : ∀ s ∈ m.slots, s.pending = false
  /-- The report lists what is recorded. -/
  results : r.results = m.slots.filterMap (·.result)
  /-- Nothing is missing unless the audit was cancelled. -/
  full : r.cancelled = false → ∀ s ∈ m.slots, s.result.isSome = true

/-- Whether the audit has stopped checks, or would stop them now. -/
def Halted (m : Machine) : Prop := m.cancelRequested = true ∨ ∃ r, m.stage = .returned r

/-- Places of different checks that all have a property. -/
structure Listed (m : Machine) (p : Slot → Bool) (todo : List Nat) : Prop where
  /-- The places are different. -/
  nodup : todo.Nodup
  /-- Their checks have the property. -/
  has : ∀ k ∈ todo, ∃ s, m.slots[k]? = some s ∧ p s = true

/-- What holds where the coordinator is. -/
def Fits (m : Machine) : Stage → Prop
  | .withdrawing _ => m.cancelRequested = true
  | .waiting done => m.Listed Slot.isReady done
  | .collecting todo => todo ≠ [] ∧ m.Listed Slot.isReady todo
  | .skipping _ todo => m.Listed Slot.pending todo
  | .left _ => ∀ s ∈ m.slots, s.pending = false
  | .reported r => m.Closed r
  | .returned r => m.Closed r
  | _ => True

/-- The invariant of an audit. -/
structure Sound (t : Terms) (jobs : List Job) (m : Machine) : Prop where
  /-- The checks are those of the plan. -/
  jobs_eq : m.slots.map (·.job) = jobs
  /-- Every check stands in one of the possible ways. -/
  slots : ∀ s ∈ m.slots, s.Sound t m.Halted
  /-- The checks whose rules were asked are those that were started. -/
  asked : ∀ i, i ∈ m.asked ↔ (m.slots.map (·.phase.hasStarted))[i]? = some true
  /-- No rule was asked twice for one check. -/
  once : m.asked.Nodup
  /-- The coordinator is where it may be. -/
  fits : m.Fits m.stage

/-- An audit begins in good standing. -/
theorem sound_start (t : Terms) (jobs : List Job) (c : Bool) : (start jobs c).Sound t jobs where
  jobs_eq := by simp [start, Slot.ofJob, Function.comp_def]
  slots := by
    intro s hs
    obtain ⟨j, _, rfl⟩ := List.mem_map.1 hs
    exact .ofJob t _ j
  asked := by
    intro i
    constructor
    · intro h
      exact absurd h List.not_mem_nil
    · intro h
      rw [List.getElem?_map] at h
      obtain ⟨s, hs, hstart⟩ := Option.map_eq_some_iff.1 h
      obtain ⟨j, _, rfl⟩ := List.mem_map.1 (List.mem_of_getElem? hs)
      cases hstart
  once := List.nodup_nil
  fits := trivial

/-! ## Lists of places -/

section Places

variable {p : Slot → Bool} {todo : List Nat} {i : Nat} {s s' : Slot}

/-- The places of the checks with a property. -/
theorem listed_places (m : Machine) (p : Slot → Bool) : m.Listed p (m.places p) where
  nodup := List.nodup_range.filter _
  has := by
    intro k hk
    rw [places, List.mem_filter] at hk
    exact (Option.any_eq_true _ _).1 hk.2

/-- What is listed stays listed if a check moves and keeps the property. -/
theorem Listed.set (h : m.Listed p todo) (hs : m.slots[i]? = some s)
    (hp : p s = true → p s' = true) (hm : m'.slots = m.slots.set i s') : m'.Listed p todo where
  nodup := h.nodup
  has := by
    intro k hk
    obtain ⟨x, hx, hpx⟩ := h.has k hk
    rw [hm, List.getElem?_set]
    by_cases hik : i = k
    · subst hik
      have hi : i < m.slots.length := (List.getElem?_eq_some_iff.1 hs).1
      obtain rfl : s = x := Option.some.inj (hs.symm.trans hx)
      exact ⟨s', by simp [hi], hp hpx⟩
    · exact ⟨x, by simp [hik, hx], hpx⟩

/-- What is listed stays listed but for the check that moves. -/
theorem Listed.erase (h : m.Listed p todo) (hm : m'.slots = m.slots.set i s') :
    m'.Listed p (todo.erase i) where
  nodup := h.nodup.erase i
  has := by
    intro k hk
    obtain ⟨hne, hk⟩ := (h.nodup.mem_erase_iff).1 hk
    obtain ⟨x, hx, hpx⟩ := h.has k hk
    rw [hm, List.getElem?_set_ne hne.symm]
    exact ⟨x, hx, hpx⟩

/-- What is listed stays listed if no check moves. -/
theorem Listed.congr (h : m.Listed p todo) (hm : m'.slots = m.slots) : m'.Listed p todo where
  nodup := h.nodup
  has := by
    rw [hm]
    exact h.has

/-- A check that a worker still has to deal with is not ready to be collected. -/
theorem not_isReady_of_not_isDone (h : s.phase.isDone = false) : s.isReady = false := by
  rw [Slot.isReady, h, Bool.and_false]

end Places

/-! ## Steps keep the invariant -/

/-- What an audit may stop, it may stop after a step. -/
theorem Step.halted (h : Step t m e m') (hm : m.Halted) : m'.Halted := by
  rcases hm with hc | ⟨r, hr⟩
  · cases h with
    | cancel => exact Or.inl rfl
    | clear st => exact Or.inr ⟨_, rfl⟩
    | _ => exact Or.inl hc
  · cases h with
    | cancel => exact Or.inl rfl
    | take | discard | refuse | start | note | finish => exact Or.inr ⟨r, hr⟩
    | leave st | revoke st | wait st | withdraw st | poll st | strike st | collect st | expire st
    | saturated st | spare st | pass st | skip st | read st | clear st => simp [hr] at st

/-- A step keeps the checks of the plan. -/
theorem Step.jobs_eq (h : Step t m e m') : m'.slots.map (·.job) = m.slots.map (·.job) := by
  rcases h.slots_eq (fun _ => trivial) (fun _ _ => trivial) with
    heq | ⟨i, s, s', hs, hmove, heq⟩
  · rw [heq]
  · rw [heq]
    exact map_set_slot _ hs hmove.job_eq

/-- A step that asks no rule starts nothing; one that asks a rule starts its check. -/
theorem Step.asked_cases (h : Step t m e m') :
    (m'.asked = m.asked ∧
      m'.slots.map (·.phase.hasStarted) = m.slots.map (·.phase.hasStarted)) ∨
    ∃ i, m'.asked = m.asked ++ [i] ∧ (m.slots.map (·.phase.hasStarted))[i]? = some false ∧
      m'.slots.map (·.phase.hasStarted) = (m.slots.map (·.phase.hasStarted)).set i true := by
  cases h with
  | start hs ph going kept told =>
      refine Or.inr ⟨_, rfl, ?_, ?_⟩
      · rw [List.getElem?_map, hs]
        simp [ph, Phase.hasStarted]
      · exact List.map_set
  | take hs first free ph | discard hs first free ph | refuse hs ph stop | note hs ph
  | finish hs ph =>
      refine Or.inl ⟨rfl, map_set_slot _ hs ?_⟩
      simp [ph, Phase.hasStarted]
  | withdraw st mem hs | skip st mem hs pend ph =>
      exact Or.inl ⟨rfl, map_set_slot _ hs (Phase.hasStarted_cancel _)⟩
  | strike st hs pend ph | collect st hs pend ph | expire st hs pend ph =>
      exact Or.inl ⟨rfl, map_set_slot _ hs rfl⟩
  | _ => exact Or.inl ⟨rfl, rfl⟩

/-- The coordinator goes on with the checks that it has listed. -/
theorem fits_skippingAll {todo : List Nat} {n : Nat} (h : m.Listed Slot.pending todo) :
    m.Fits (.skippingAll n todo) := by
  cases todo with
  | nil => trivial
  | cons i rest => exact h

/-- As `fits_skippingAll`, for collecting. -/
theorem fits_collectingAll {todo : List Nat} (h : m.Listed Slot.isReady todo) :
    m.Fits (.collectingAll todo) := by
  cases todo with
  | nil => trivial
  | cons i rest => exact ⟨List.cons_ne_nil _ _, h⟩

/-- Only a cancelled audit withdraws checks before it begins to wait. -/
theorem fits_waitFor {todo : List Nat} (h : todo = [] ∨ m.cancelRequested = true) :
    (m.waitFor todo).Fits (m.waitFor todo).stage := by
  cases todo with
  | nil => exact (listed_places m _).congr rfl
  | cons i rest => exact h.resolve_left (List.cons_ne_nil i rest)

/-- What the coordinator sees to be done is done. -/
theorem listed_batch {done : List Nat} (h : m.Listed Slot.isReady done) (seen : List Nat) :
    m.Listed Slot.isReady (m.batch seen done) := by
  cases done with
  | nil =>
      refine ⟨(listed_places m _).nodup.filter _, ?_⟩
      intro k hk
      exact (listed_places m _).has k (List.mem_filter.1 hk).1
  | cons i rest => exact h

/-- A report stays right as long as the coordinator learns nothing. -/
theorem Closed.congr {r : Report} (h : m.Closed r)
    (hk : m'.slots.map Slot.known = m.slots.map Slot.known) : m'.Closed r where
  settled := by
    intro s hs
    obtain ⟨x, hx, hp, _⟩ := exists_known_eq hk hs
    rw [← hp]
    exact h.settled x hx
  results := by
    rw [results_eq_of_known hk]
    exact h.results
  full := by
    intro hr s hs
    obtain ⟨x, hx, _, hres⟩ := exists_known_eq hk hs
    rw [← hres]
    exact h.full hr x hx

/-- The coordinator stays where it may be as long as it learns nothing and lists keep. -/
theorem Fits.congr {g : Stage} (h : m.Fits g)
    (hk : m'.slots.map Slot.known = m.slots.map Slot.known)
    (hc : m.cancelRequested = true → m'.cancelRequested = true)
    (hp : ∀ todo, m.Listed Slot.pending todo → m'.Listed Slot.pending todo)
    (hr : ∀ todo, m.Listed Slot.isReady todo → m'.Listed Slot.isReady todo) : m'.Fits g := by
  cases g with
  | withdrawing todo => exact hc h
  | waiting done => exact hr done h
  | collecting todo => exact ⟨h.1, hr todo h.2⟩
  | skipping n todo => exact hp todo h
  | left abandoned =>
      intro s hs
      obtain ⟨x, hx, hp, _⟩ := exists_known_eq hk hs
      rw [← hp]
      exact h x hx
  | reported r | returned r => exact Closed.congr h hk
  | looking | expiring => trivial

/-- The coordinator stays where it may be as long as no check moves. -/
theorem Fits.of_slots_eq {g : Stage} (h : m.Fits g) (hm : m'.slots = m.slots)
    (hc : m.cancelRequested = true → m'.cancelRequested = true) : m'.Fits g :=
  h.congr (by rw [hm]) hc (fun _ hl => hl.congr hm) (fun _ hl => hl.congr hm)

/-- The coordinator stays where it may be when a worker deals with a check. -/
theorem Fits.of_worker {g : Stage} {i : Nat} {s s' : Slot} (h : m.Fits g)
    (hs : m.slots[i]? = some s) (todo : s.phase.isDone = false)
    (hm : m'.slots = m.slots.set i s') (hknown : s'.known = s.known)
    (hc : m'.cancelRequested = m.cancelRequested) :
    m'.Fits g := by
  refine h.congr ?_ ?_ ?_ ?_
  · rw [hm]
    exact map_set_slot Slot.known hs hknown
  · rw [hc]
    exact id
  · intro l hl
    refine hl.set hs ?_ hm
    rw [show s'.pending = s.pending from congrArg Prod.fst hknown]
    exact id
  · intro l hl
    refine hl.set hs ?_ hm
    rw [not_isReady_of_not_isDone todo]
    intro hf
    cases hf

/-- An audit that has left its loop has a result for every check, unless it was cancelled. -/
theorem Sound.closed {abandoned : Nat} (h : m.Sound t jobs) (st : m.stage = .left abandoned) :
    m.Closed (m.report abandoned) where
  settled := by
    have hf := h.fits
    rw [st] at hf
    exact hf
  results := rfl
  full := by
    intro hr s hs
    have going : ¬ m.Halted := by
      rintro (hc | ⟨r, hst⟩)
      · have hr' : m.cancelRequested = false := hr
        simp [hc] at hr'
      · simp [st] at hst
    have hp : s.pending = false := by
      have hf := h.fits
      rw [st] at hf
      exact hf s hs
    cases h.slots s hs with
    | awaited pend => simp [hp] at pend
    | collected _ _ _ _ res | late _ _ _ _ res | skipped _ _ _ _ _ res => simp [res]
    | struck _ _ _ _ why _ => exact absurd why going

/-- A step leaves the coordinator where it may be. -/
theorem Step.fits (hm : m.Sound t jobs) (h : Step t m e m') : m'.Fits m'.stage := by
  have hf := hm.fits
  cases h with
  | take hs first free ph | discard hs first free ph | refuse hs ph stop
  | start hs ph going kept told | note hs ph | finish hs ph =>
      exact hf.of_worker hs (by simp [ph, Phase.isDone]) rfl rfl rfl
  | cancel => exact hf.of_slots_eq rfl (fun _ => rfl)
  | leave st settled =>
      intro s hs
      have hs' := List.all_eq_true.1 settled s hs
      simpa using hs'
  | revoke st going asked fresh => exact fits_waitFor (Or.inr asked)
  | wait => exact fits_waitFor (Or.inl rfl)
  | withdraw st mem hs =>
      rw [st] at hf
      exact fits_waitFor (Or.inr hf)
  | poll st =>
      rw [st] at hf
      exact fits_collectingAll ((listed_batch hf _).congr rfl)
  | strike st hs | collect st hs =>
      rw [st] at hf
      exact fits_collectingAll (hf.2.erase rfl)
  | expire st hs =>
      change Fits _ m.stage
      rw [st]
      trivial
  | saturated st full => exact fits_skippingAll ((listed_places m _).congr rfl)
  | spare => trivial
  | pass st mem hs kept =>
      rw [st] at hf
      refine fits_skippingAll ⟨hf.nodup.erase _, ?_⟩
      intro k hk
      exact hf.has k (List.mem_of_mem_erase hk)
  | skip st mem hs =>
      rw [st] at hf
      exact fits_skippingAll (hf.erase rfl)
  | read st => exact (hm.closed st).congr rfl
  | clear st =>
      rw [st] at hf
      exact Closed.congr hf rfl

/-- Only a cancelled audit withdraws checks. -/
theorem Sound.halted_of_withdrawing (hm : m.Sound t jobs) (todo : List Nat)
    (st : m.stage = .withdrawing todo) : m.Halted := by
  have hf := hm.fits
  rw [st] at hf
  exact Or.inl hf

/-- Every step keeps the invariant. -/
theorem Sound.step (hm : m.Sound t jobs) (h : Step t m e m') : m'.Sound t jobs where
  jobs_eq := by
    rw [h.jobs_eq]
    exact hm.jobs_eq
  slots := by
    have hmono : ∀ s ∈ m.slots, s.Sound t m'.Halted := fun s hs => (hm.slots s hs).mono h.halted
    rcases h.slots_eq Or.inl hm.halted_of_withdrawing with heq | ⟨i, s, s', hs, hmove, heq⟩
    · rw [heq]
      exact hmono
    · rw [heq]
      apply forall_mem_set hmono
      exact ((hm.slots s (List.mem_of_getElem? hs)).moves hmove).mono h.halted
  asked := by
    intro k
    rcases h.asked_cases with ⟨ha, hv⟩ | ⟨i, ha, hi, hv⟩
    · rw [ha, hv]
      exact hm.asked k
    · rw [ha, hv, List.mem_append, hm.asked k, List.mem_singleton, List.getElem?_set]
      have hlt : i < (m.slots.map (·.phase.hasStarted)).length := (List.getElem?_eq_some_iff.1 hi).1
      by_cases hk : i = k
      · subst hk
        simpa using hlt
      · have hk' : ¬ k = i := fun h => hk h.symm
        simp [hk, hk']
  once := by
    rcases h.asked_cases with ⟨ha, _⟩ | ⟨i, ha, hi, _⟩
    · rw [ha]
      exact hm.once
    · rw [ha]
      have hnew : i ∉ m.asked := by
        intro hmem
        rw [hm.asked i, hi] at hmem
        cases hmem
      refine List.nodup_append.2 ⟨hm.once, List.nodup_cons.2 ⟨List.not_mem_nil, List.nodup_nil⟩, ?_⟩
      intro a ha b hb hab
      rw [List.mem_singleton] at hb
      rw [hab, hb] at ha
      exact hnew ha
  fits := h.fits hm

/-- **Every run keeps the invariant.** -/
theorem sound_steps (t : Terms) (jobs : List Job) (c : Bool) (es : List Event) :
    ((start jobs c).steps t es).Sound t jobs :=
  steps_induction (fun _ _ _ hm h => hm.step h) es (sound_start t jobs c)

/-! ## What the invariant tells -/

/-- The checks of an audit are as many as those of its plan. -/
theorem Sound.length_eq (h : m.Sound t jobs) : m.slots.length = jobs.length := by
  rw [← h.jobs_eq, List.length_map]

/-- The check at a place of the plan. -/
theorem Sound.slot_of_job (h : m.Sound t jobs) {i : Nat} {j : Job} (hj : jobs[i]? = some j) :
    ∃ s, m.slots[i]? = some s ∧ s.job = j := by
  rw [← h.jobs_eq, List.getElem?_map] at hj
  exact Option.map_eq_some_iff.1 hj

/-- A check has a result if something is recorded in its slot. -/
theorem resultAt_of_slot {i : Nat} {s : Slot} (hs : m.slots[i]? = some s) :
    m.resultAt i = s.result := by
  rw [resultAt, hs]
  rfl

/-- A check whose rule was asked was started. -/
theorem Sound.started_of_asked (h : m.Sound t jobs) {i : Nat} (hi : i ∈ m.asked) :
    ∃ s, m.slots[i]? = some s ∧ s.phase.hasStarted = true := by
  rw [h.asked i, List.getElem?_map] at hi
  exact Option.map_eq_some_iff.1 hi

end Machine

end ConfigAudit
