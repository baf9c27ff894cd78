/-
# Fair runs come to an answer

The workers and the coordinator of an audit go on in any order, but none of them is left out for
ever.  Then a quiet audit answers: there is always one event that brings it nearer to its answer
and stays at hand until it happens.

* `Fair` : schedules in which every event comes up again and again;
* `Machine.rank` : how far a quiet audit is from its answer;
* `Machine.helper` : the event that brings it nearer;
* `exists_answer` : every fair quiet run comes to an answer.
-/
import Mathlib.Algebra.Ring.Nat
import Mathlib.Data.List.GetD
import ConfigAudit.Proofs.Run.Quiet

namespace ConfigAudit

/-! ## Fair schedules -/

/-- The events of the workers and the coordinator in an audit of so many checks. -/
def Event.due (n : Nat) : List Event :=
  [look, poll [], survey, read, clear] ++
    (List.range n).flatMap fun i => [take i, start i, note i, finish i, collect i]

/-- An event without what the coordinator happens to see in it. -/
def Event.turn : Event → Event
  | poll _ => poll []
  | e => e

/-- Each of the events of an audit comes up again and again, whatever the coordinator happens to
see. -/
def Fair (n : Nat) (f : Nat → Event) : Prop :=
  ∀ e ∈ Event.due n, ∀ k, ∃ d, (f (k + d)).turn = e

/-- The schedule in which all events take turns. -/
def roundRobin (n : Nat) (k : Nat) : Event :=
  (Event.due n).getD (k % (Event.due n).length) .look

/-- The coordinator has always some event. -/
theorem Event.length_due_pos (n : Nat) : 0 < (Event.due n).length := by
  rw [due, List.length_append]
  exact Nat.add_pos_left (by decide) _

/-- The events of workers and coordinator are quiet and, as they are listed, say nothing of what
the coordinator sees. -/
theorem Event.isQuiet_and_turn_of_mem_due {n : Nat} {e : Event} (he : e ∈ Event.due n) :
    e.isQuiet = true ∧ e.turn = e := by
  rw [due, List.mem_append, List.mem_flatMap] at he
  rcases he with he | ⟨i, _, he⟩
  · simp only [List.mem_cons, List.not_mem_nil, or_false] at he
    rcases he with rfl | rfl | rfl | rfl | rfl <;> exact ⟨rfl, rfl⟩
  · simp only [List.mem_cons, List.not_mem_nil, or_false] at he
    rcases he with rfl | rfl | rfl | rfl | rfl <;> exact ⟨rfl, rfl⟩

/-- Events in which the coordinator sees nothing are the same if they are the same turn. -/
theorem Event.eq_of_turn_eq {e e' : Event} (h : e.turn = e') (blind : e' ≠ poll []) : e = e' := by
  cases e with
  | poll seen => exact absurd h.symm blind
  | _ => exact h

/-- Taking turns is fair. -/
theorem fair_roundRobin (n : Nat) : Fair n (roundRobin n) := by
  intro e he k
  obtain ⟨i, hi, rfl⟩ := List.mem_iff_getElem.1 he
  have hpos := Event.length_due_pos n
  -- the next turn of the event after `k`
  refine ⟨(Event.due n).length * (k + 1) + i - k, ?_⟩
  have hk : k ≤ (Event.due n).length * (k + 1) := by
    calc k ≤ k + 1 := Nat.le_succ k
      _ = 1 * (k + 1) := (Nat.one_mul _).symm
      _ ≤ (Event.due n).length * (k + 1) := Nat.mul_le_mul_right _ hpos
  have hsum : k + ((Event.due n).length * (k + 1) + i - k) =
      (Event.due n).length * (k + 1) + i := by omega
  rw [roundRobin, hsum, Nat.mul_add_mod, Nat.mod_eq_of_lt hi, List.getD_eq_getElem _ _ hi]
  exact (Event.isQuiet_and_turn_of_mem_due he).2

/-- Taking turns is quiet. -/
theorem isQuiet_roundRobin (n k : Nat) : (roundRobin n k).isQuiet = true := by
  have hlt : k % (Event.due n).length < (Event.due n).length :=
    Nat.mod_lt _ (Event.length_due_pos n)
  rw [roundRobin, List.getD_eq_getElem _ _ hlt]
  exact (Event.isQuiet_and_turn_of_mem_due (List.getElem_mem hlt)).1

namespace Machine

variable {t : Terms} {jobs : List Job} {m m' : Machine} {e : Event}

/-- An audit after the first events of a schedule. -/
def after (t : Terms) (m : Machine) (f : Nat → Event) (k : Nat) : Machine :=
  m.steps t ((List.range k).map f)

/-- A schedule takes one event after the other. -/
theorem after_succ (m : Machine) (f : Nat → Event) (k : Nat) :
    m.after t f (k + 1) = (m.after t f k).next t (f k) := by
  rw [after, List.range_succ, List.map_append, steps_append]
  rfl

/-- A rule of progress.  A rank never grows; as long as it is positive, some event makes it fall,
and stays the one that does until the rank falls.  Then a fair schedule brings it down to zero. -/
theorem exists_rank_eq_zero {n : Nat} {f : Nat → Event} (fair : Fair n f) (P : Machine → Prop)
    (rank : Machine → Nat) (helper : Machine → Event)
    (keep : ∀ k, P (m.after t f k))
    (due : ∀ x, P x → 0 < rank x → helper x ∈ Event.due n)
    (fall : ∀ x k, P x → 0 < rank x → (f k).turn = helper x → rank (x.next t (f k)) < rank x)
    (stay : ∀ x k, P x → rank (x.next t (f k)) < rank x ∨
      (rank (x.next t (f k)) = rank x ∧ helper (x.next t (f k)) = helper x)) :
    ∃ k, rank (m.after t f k) = 0 := by
  -- induction on the rank: from any point on it falls until it is zero
  have descend : ∀ r k, rank (m.after t f k) = r → ∃ k', rank (m.after t f k') = 0 := by
    intro r
    induction r using Nat.strongRecOn with
    | ind r ih =>
        intro k hk
        rcases Nat.eq_zero_or_pos r with hr | hr
        · exact ⟨k, hk.trans hr⟩
        · have hdue := due _ (keep k) (by omega)
          obtain ⟨d, hd⟩ := fair _ hdue k
          -- up to the turn of the helping event the rank has fallen, or nothing has changed
          have wait : ∀ c, c ≤ d → (∃ k', rank (m.after t f k') < r) ∨
              (rank (m.after t f (k + c)) = r ∧
                helper (m.after t f (k + c)) = helper (m.after t f k)) := by
            intro c
            induction c with
            | zero => exact fun _ => Or.inr ⟨hk, rfl⟩
            | succ c ihc =>
                intro hc
                rcases ihc (by omega) with hfall | ⟨hrank, hhelp⟩
                · exact Or.inl hfall
                · have hsucc : m.after t f (k + (c + 1)) =
                      (m.after t f (k + c)).next t (f (k + c)) := after_succ m f (k + c)
                  rcases stay _ (k + c) (keep (k + c)) with hlt | ⟨heq, hsame⟩
                  · rw [← hsucc, hrank] at hlt
                    exact Or.inl ⟨_, hlt⟩
                  · rw [← hsucc] at heq hsame
                    exact Or.inr ⟨heq.trans hrank, hsame.trans hhelp⟩
          rcases wait d (Nat.le_refl d) with ⟨k', hlt⟩ | ⟨hrank, hhelp⟩
          · exact ih _ hlt k' rfl
          · have hlt := fall _ (k + d) (keep (k + d)) (by omega) (hd.trans hhelp.symm)
            rw [← after_succ, hrank] at hlt
            exact ih _ hlt _ rfl
  exact descend _ 0 rfl

end Machine

/-! ## How far an audit is from its answer -/

/-- How many events a check is from being recorded. -/
def Slot.way (t : Terms) (s : Slot) : Nat :=
  (match s.phase with
    | .waiting => (t.notes s.job).length + 3
    | .taken => (t.notes s.job).length + 2
    | .started notes _ => notes.length + 1
    | _ => 0) + (if s.pending then 1 else 0)

namespace Stage

/-- How many events the coordinator is from collecting, if there is something to collect; when it
began to wait before that, it may go round once more. -/
def toCollect : Stage → Nat
  | waiting (_ :: _) => 1
  | looking => 2
  | expiring => 3
  | waiting [] => 4
  | _ => 0

/-- How many events the coordinator is from its answer, if it waits for nothing any more. -/
def toAnswer : Stage → Nat
  | reported _ => 1
  | left _ => 2
  | looking => 3
  | expiring => 4
  | waiting _ => 5
  | _ => 0

/-- A coordinator that has waited has not far to go. -/
theorem toCollect_collectingAll_lt (todo : List Nat) : (collectingAll todo).toCollect < 4 := by
  cases todo with
  | nil => exact Nat.lt_succ_self 3
  | cons i rest => exact Nat.zero_lt_succ 3

/-- The event in which the coordinator of a quiet audit goes on. -/
def nextEvent : Stage → Event
  | waiting _ => .poll []
  | collecting todo => .collect (todo.headD 0)
  | expiring => .survey
  | left _ => .read
  | reported _ => .clear
  | _ => .look

end Stage

/-- The event in which a worker goes on with a check. -/
def Phase.nextEvent (i : Nat) : Phase → Event
  | taken => .start i
  | started [] _ => .finish i
  | started (_ :: _) _ => .note i
  | _ => .take i

namespace Machine

/-- How many events all checks together are from being recorded. -/
def way (t : Terms) (m : Machine) : Nat := (m.slots.map (·.way t)).sum

/-- Whether there is something to collect. -/
def hasReady (m : Machine) : Bool := m.slots.any (·.isReady)

/-- How many events the coordinator is from where it has to go next, if it has to go anywhere. -/
def distance (m : Machine) (g : Stage) : Nat :=
  if m.isOver then g.toAnswer else if m.hasReady then g.toCollect else 0

/-- How far a quiet audit is from its answer.  An event of a check counts for more than the whole
loop of the coordinator. -/
def rank (t : Terms) (m : Machine) : Nat := 8 * m.way t + m.distance m.stage

/-- The event in which a worker goes on: with the first check that keeps a worker busy, or else
with the first one in the queue. -/
def nextWork (m : Machine) : Event :=
  let i := m.slots.findIdx (·.phase.isHeld)
  match m.slots[i]? with
  | some s => s.phase.nextEvent i
  | none => .take (m.slots.findIdx (·.phase.isQueued))

/-- The event that brings a quiet audit nearer to its answer: the next one of the coordinator if
there is something to collect or nothing to wait for, and otherwise the next one of a worker. -/
def helper (m : Machine) : Event :=
  if m.isOver || m.hasReady then m.stage.nextEvent else m.nextWork

variable {t : Terms} {jobs : List Job} {m m' : Machine} {e : Event}

/-- The coordinator is never far from where it has to go. -/
theorem distance_lt (m : Machine) (g : Stage) : m.distance g < 8 := by
  unfold distance
  split
  · cases g <;> simp [Stage.toAnswer]
  · split
    · unfold Stage.toCollect
      split <;> decide
    · decide

/-- An audit comes nearer to its answer if its checks come nearer to being recorded. -/
theorem rank_lt_of_way_lt (h : m'.way t < m.way t) : m'.rank t < m.rank t := by
  have hd := m'.distance_lt m'.stage
  unfold rank
  omega

/-- An audit comes nearer to its answer if its coordinator does. -/
theorem rank_goTo_lt {g : Stage} (h : m.distance g < m.distance m.stage) :
    (m.goTo g).rank t < m.rank t := by
  have hrank : (m.goTo g).rank t = 8 * m.way t + m.distance g := rfl
  rw [hrank, rank]
  omega

/-- A sum gets less if one of its terms does. -/
theorem sum_map_set_lt {α : Type} {w : α → Nat} {l : List α} {i : Nat} {a b : α}
    (hi : l[i]? = some a) (h : w b < w a) : ((l.set i b).map w).sum < (l.map w).sum := by
  induction l generalizing i with
  | nil => cases hi
  | cons x l ih =>
      cases i with
      | zero =>
          obtain rfl : x = a := Option.some.inj hi
          simp only [List.set_cons_zero, List.map_cons, List.sum_cons]
          omega
      | succ i =>
          have hrec := ih hi
          simp only [List.set_cons_succ, List.map_cons, List.sum_cons]
          omega

/-- Checks come nearer to being recorded if one of them does. -/
theorem way_lt_of_set {i : Nat} {s s' : Slot} (hs : m.slots[i]? = some s)
    (hm : m'.slots = m.slots.set i s') (h : s'.way t < s.way t) : m'.way t < m.way t := by
  unfold way
  rw [hm]
  exact sum_map_set_lt hs h

/-- Nothing is to be collected when nothing is awaited. -/
theorem hasReady_of_isOver (settled : m.isOver = true) : m.hasReady = false := by
  rw [hasReady, List.any_eq_false]
  intro s hs
  have hp := List.all_eq_true.1 settled s hs
  simp only [Bool.not_eq_true'] at hp
  simp [Slot.isReady, hp]

/-- The coordinator sees nothing to be done if there is nothing to collect. -/
theorem batch_eq_nil {seen done : List Nat} (h : m.hasReady = false)
    (hdone : m.Listed Slot.isReady done) : m.batch seen done = [] := by
  rw [List.eq_nil_iff_forall_not_mem]
  intro i hi
  obtain ⟨s, hs, hr⟩ := (listed_batch hdone seen).has i hi
  rw [hasReady, List.any_eq_false] at h
  exact h s (List.mem_of_getElem? hs) hr

/-- The coordinator finds something to be done if there is something to collect. -/
theorem places_isReady_ne_nil (h : m.hasReady = true) : m.places (·.isReady) ≠ [] := by
  rw [hasReady, List.any_eq_true] at h
  obtain ⟨s, hs, hr⟩ := h
  obtain ⟨i, hi, rfl⟩ := List.mem_iff_getElem.1 hs
  apply List.ne_nil_of_mem
  rw [places, List.mem_filter, List.mem_range]
  refine ⟨hi, ?_⟩
  rw [List.getElem?_eq_getElem hi]
  exact hr

/-- Nothing is awaited once the coordinator has left its loop. -/
theorem Sound.isOver_of {g : Stage} (hm : m.Sound t jobs) (st : m.stage = g)
    (hg : m.Fits g → ∀ s ∈ m.slots, s.pending = false) : m.isOver = true := by
  rw [isOver, List.all_eq_true]
  intro s hs
  have hf := hm.fits
  rw [st] at hf
  simp [hg hf s hs]

/-- A coordinator that goes on brings the audit nearer to its answer, or has nothing to do there. -/
theorem rank_goTo_lt_or {g : Stage} (answer : m.isOver = true → g.toAnswer < m.stage.toAnswer)
    (collect : m.hasReady = true → g.toCollect < m.stage.toCollect) :
    (m.goTo g).rank t < m.rank t ∨
      ((m.goTo g).slots = m.slots ∧ m.isOver = false ∧ m.hasReady = false) := by
  cases settled : m.isOver with
  | true =>
      left
      apply rank_goTo_lt
      simp only [distance, settled, if_true]
      exact answer settled
  | false =>
      cases ready : m.hasReady with
      | true =>
          left
          apply rank_goTo_lt
          simp only [distance, settled, ready, if_true, Bool.false_eq_true, if_false]
          exact collect ready
      | false => exact Or.inr ⟨rfl, rfl, rfl⟩

/-- Every event of a quiet audit brings it nearer to its answer, or leaves its checks alone while
there is nothing to collect. -/
theorem QuietStep.rank_lt_or (hm : m.Quiet t jobs) (h : QuietStep t m e m') :
    m'.rank t < m.rank t ∨
      (m'.slots = m.slots ∧ m.isOver = false ∧ m.hasReady = false) := by
  cases h with
  | take hs ph | start hs ph | note hs ph | finish hs ph =>
      refine Or.inl (rank_lt_of_way_lt (way_lt_of_set hs rfl ?_))
      simp [Slot.way, ph]
  | collect st hs pend ph =>
      refine Or.inl (rank_lt_of_way_lt (way_lt_of_set hs rfl ?_))
      simp [Slot.way, ph, pend]
  | leave st settled =>
      apply rank_goTo_lt_or
      · intro _
        rw [st]
        decide
      · intro ready
        simp [hasReady_of_isOver settled] at ready
  | wait st going =>
      apply rank_goTo_lt_or
      · intro settled
        simp [going] at settled
      · intro ready
        rw [st]
        cases hp : m.places (·.isReady) with
        | nil => exact absurd hp (places_isReady_ne_nil ready)
        | cons i rest => exact Nat.one_lt_two
  | @poll seen done st =>
      have hdone : m.Listed Slot.isReady done := by
        have hf := hm.sound.fits
        rw [st] at hf
        exact hf
      apply rank_goTo_lt_or
      · intro settled
        rw [st, batch_eq_nil (hasReady_of_isOver settled) hdone]
        exact Nat.lt_succ_self 4
      · intro ready
        rw [st]
        cases done with
        | nil => exact Stage.toCollect_collectingAll_lt _
        | cons i rest => exact Nat.zero_lt_one
  | spare st =>
      apply rank_goTo_lt_or
      · intro _
        rw [st]
        decide
      · intro _
        rw [st]
        decide
  | read st =>
      have settled : m.isOver = true := hm.sound.isOver_of st id
      apply rank_goTo_lt_or
      · intro _
        rw [st]
        exact Nat.one_lt_two
      · intro ready
        simp [hasReady_of_isOver settled] at ready
  | @clear report st =>
      have settled : m.isOver = true := hm.sound.isOver_of st fun hf => hf.settled
      left
      have hrank : ({ m with stage := .returned report, cancelRequested := false } : Machine).rank t =
          8 * m.way t + m.distance (.returned report) := rfl
      rw [hrank, rank, st, distance, distance, settled]
      simp [Stage.toAnswer]

/-! ## The helping event -/

/-- The events of a check are among those of its audit. -/
theorem mem_due_of_lt {n i : Nat} (hi : i < n)
    (he : e ∈ [Event.take i, .start i, .note i, .finish i, .collect i]) : e ∈ Event.due n := by
  rw [Event.due, List.mem_append, List.mem_flatMap]
  exact Or.inr ⟨i, List.mem_range.2 hi, he⟩

namespace Quiet

/-- A quiet audit that lists something to collect has brought a check to its end. -/
theorem exists_of_collecting {todo : List Nat} (hm : m.Quiet t jobs)
    (st : m.stage = .collecting todo) :
    ∃ s answer, m.slots[todo.headD 0]? = some s ∧ s.pending = true ∧
      s.phase = .finished answer := by
  have hf := hm.sound.fits
  rw [st] at hf
  obtain ⟨hne, hlisted⟩ := hf
  cases todo with
  | nil => exact absurd rfl hne
  | cons i rest =>
      obtain ⟨s, hs, hready⟩ := hlisted.has i List.mem_cons_self
      rw [Slot.isReady, Bool.and_eq_true] at hready
      obtain ⟨pend, done⟩ := hready
      have hcourse := (hm.undisturbed_at hs).course
      cases ph : s.phase with
      | finished answer => exact ⟨s, answer, hs, pend, ph⟩
      | discarded | refused => simp [ph, Phase.isStopped] at hcourse
      | waiting | withdrawn | taken | started => simp [ph, Phase.isDone] at done

/-- Until it has answered, the coordinator of a quiet audit can go on, whatever it sees. -/
theorem exists_coordinator_step (hm : m.Quiet t jobs) (hw : 1 ≤ t.workers)
    (going : ∀ r, m.stage ≠ .returned r) :
    m.stage.nextEvent ∈ Event.due jobs.length ∧
      ∀ e, e.turn = m.stage.nextEvent → ∃ m', Step t m e m' := by
  have hstage := hm.stage
  have hstuck := hm.stuckCount_eq
  -- an event in which the coordinator sees nothing is told by its turn
  have blind : ∀ {e' m'}, Step t m e' m' → e' ≠ .poll [] →
      ∀ e, e.turn = e' → ∃ m', Step t m e m' := by
    intro e' m' hstep hne e he
    rw [Event.eq_of_turn_eq he hne]
    exact ⟨m', hstep⟩
  cases st : m.stage with
  | waiting done =>
      refine ⟨by simp [Stage.nextEvent, Event.due], ?_⟩
      intro e he
      cases e with
      | poll seen => exact ⟨_, .poll st⟩
      | _ => cases he
  | collecting todo =>
      obtain ⟨s, answer, hs, pend, ph⟩ := hm.exists_of_collecting st
      have hlt : todo.headD 0 < m.slots.length := (List.getElem?_eq_some_iff.1 hs).1
      rw [hm.sound.length_eq] at hlt
      refine ⟨mem_due_of_lt hlt (by simp [Stage.nextEvent]), ?_⟩
      exact blind (.collect st hs pend ph) Event.noConfusion
  | looking =>
      exact ⟨by simp [Stage.nextEvent, Event.due], blind (step_look st) Event.noConfusion⟩
  | expiring =>
      exact ⟨by simp [Stage.nextEvent, Event.due], blind (.spare st (by omega)) Event.noConfusion⟩
  | left abandoned =>
      exact ⟨by simp [Stage.nextEvent, Event.due], blind (.read st) Event.noConfusion⟩
  | reported r =>
      exact ⟨by simp [Stage.nextEvent, Event.due], blind (.clear st) Event.noConfusion⟩
  | returned r => exact absurd st (going r)
  | withdrawing | skipping =>
      rw [st] at hstage
      exact hstage.elim

/-- A worker that is busy can go on with its check. -/
theorem exists_held_step {i : Nat} {s : Slot} (hm : m.Quiet t jobs) (hs : m.slots[i]? = some s)
    (held : s.phase.isHeld = true) :
    s.phase.nextEvent i ∈ [Event.take i, .start i, .note i, .finish i, .collect i] ∧
      ∃ m', Step t m (s.phase.nextEvent i) m' ∧ m'.way t < m.way t := by
  cases ph : s.phase with
  | taken =>
      have hkept := (hm.undisturbed_at hs).kept
      refine ⟨by simp [Phase.nextEvent], _, .start hs ph hm.going hkept rfl, ?_⟩
      refine way_lt_of_set hs rfl ?_
      simp [Slot.way, ph, Terms.notes]
  | started notes answer =>
      cases notes with
      | nil =>
          refine ⟨by simp [Phase.nextEvent], _, .finish hs ph, ?_⟩
          refine way_lt_of_set hs rfl ?_
          simp [Slot.way, ph]
      | cons n rest =>
          refine ⟨by simp [Phase.nextEvent], _, .note hs ph, ?_⟩
          refine way_lt_of_set hs rfl ?_
          simp [Slot.way, ph]
  | waiting | withdrawn | discarded | refused | finished => simp [ph, Phase.isHeld] at held

/-- A check of a quiet audit that is awaited, not done and keeps no worker busy is in the queue. -/
theorem waiting_of_idle {s : Slot} (hm : m.Quiet t jobs) (hs : s ∈ m.slots)
    (todo : s.phase.isDone = false) (idle : s.phase.isHeld = false) : s.phase = .waiting := by
  have hcourse := (hm.undisturbed s hs).course
  cases ph : s.phase with
  | waiting => rfl
  | withdrawn | discarded | refused => simp [ph, Phase.isStopped] at hcourse
  | taken | started => simp [ph, Phase.isHeld] at idle
  | finished => simp [ph, Phase.isDone] at todo

/-- If no worker is busy, a free worker can take the first check of the queue. -/
theorem exists_take_step (hm : m.Quiet t jobs) (hw : 1 ≤ t.workers)
    (idle : ∀ s ∈ m.slots, s.phase.isHeld = false) (going : m.isOver = false)
    (none : m.hasReady = false) :
    m.slots.findIdx (·.phase.isQueued) < m.slots.length ∧
      ∃ m', Step t m (.take (m.slots.findIdx (·.phase.isQueued))) m' ∧ m'.way t < m.way t := by
  have hfree : m.busy < t.workers := by
    have hbusy : m.busy = 0 := by
      rw [busy, List.countP_eq_zero]
      intro s hs
      simp [idle s hs]
    omega
  -- something is awaited, and as it is not done it is in the queue
  have hqueued : ∃ s ∈ m.slots, s.phase.isQueued = true := by
    rw [isOver, List.all_eq_false] at going
    obtain ⟨s, hs, hp⟩ := going
    rw [hasReady, List.any_eq_false] at none
    have hnot := none s hs
    have pend : s.pending = true := by simpa using hp
    have todo : s.phase.isDone = false := by simpa [Slot.isReady, pend] using hnot
    refine ⟨s, hs, ?_⟩
    rw [hm.waiting_of_idle hs todo (idle s hs)]
    rfl
  have hlt := List.findIdx_lt_length_of_exists hqueued
  have hfirst : m.isFirst (m.slots.findIdx (·.phase.isQueued)) = true := by
    rw [isFirst, List.all_eq_true]
    intro x hx
    obtain ⟨k, hk, rfl⟩ := List.mem_iff_getElem.1 hx
    rw [List.length_take] at hk
    rw [List.getElem_take]
    have hnot := List.not_of_lt_findIdx (Nat.lt_of_lt_of_le hk (Nat.min_le_left _ _))
    simpa using hnot
  have hs : m.slots[m.slots.findIdx (·.phase.isQueued)]? = some _ := List.getElem?_eq_getElem hlt
  have hq := List.findIdx_getElem (w := hlt)
  have ph : (m.slots[m.slots.findIdx (·.phase.isQueued)]).phase = .waiting := by
    have hcourse := (hm.undisturbed_at hs).course
    revert hq hcourse
    cases (m.slots[m.slots.findIdx (·.phase.isQueued)]).phase <;>
      simp [Phase.isQueued, Phase.isStopped]
  refine ⟨hlt, _, .take hs hfirst hfree ph, ?_⟩
  refine way_lt_of_set hs rfl ?_
  simp [Slot.way, ph]

/-- If there is something to wait for and nothing to collect, a worker can go on. -/
theorem exists_work_step (hm : m.Quiet t jobs) (hw : 1 ≤ t.workers) (going : m.isOver = false)
    (none : m.hasReady = false) :
    m.nextWork ∈ Event.due jobs.length ∧ m.nextWork ≠ .poll [] ∧
      ∃ m', Step t m m.nextWork m' ∧ m'.way t < m.way t := by
  unfold nextWork
  simp only
  rw [← hm.sound.length_eq]
  split
  · rename_i s hs
    have hlt := (List.getElem?_eq_some_iff.1 hs).1
    have held : s.phase.isHeld = true := by
      have hp := List.findIdx_getElem (w := hlt)
      rw [(List.getElem?_eq_some_iff.1 hs).2] at hp
      exact hp
    obtain ⟨hmem, hstep⟩ := hm.exists_held_step hs held
    refine ⟨mem_due_of_lt hlt hmem, ?_, hstep⟩
    intro hpoll
    rw [hpoll] at hmem
    simp at hmem
  · rename_i hs
    have idle : ∀ s ∈ m.slots, s.phase.isHeld = false := by
      rw [List.getElem?_eq_none_iff] at hs
      exact List.findIdx_eq_length.1 (Nat.le_antisymm List.findIdx_le_length hs)
    obtain ⟨hlt, hstep⟩ := hm.exists_take_step hw idle going none
    exact ⟨mem_due_of_lt hlt (by simp), Event.noConfusion, hstep⟩

/-- Checks that are all recorded are no event away from it. -/
theorem way_eq_zero (hm : m.Quiet t jobs) (settled : m.isOver = true) : m.way t = 0 := by
  rw [way, List.sum_eq_zero_iff_forall_eq_nat]
  intro w hw
  obtain ⟨s, hs, rfl⟩ := List.mem_map.1 hw
  have pend : s.pending = false := by
    have hp := List.all_eq_true.1 settled s hs
    simpa using hp
  simp [Slot.way, pend, (hm.collected hs pend).1]

/-- A quiet audit has come to its answer exactly if it is no event away from it. -/
theorem rank_eq_zero_iff (hm : m.Quiet t jobs) :
    m.rank t = 0 ↔ ∃ r, m.stage = .returned r := by
  constructor
  · intro hrank
    rw [rank, Nat.add_eq_zero_iff, Nat.mul_eq_zero] at hrank
    obtain ⟨hway, hdist⟩ := hrank
    replace hway : m.way t = 0 := hway.resolve_left (by decide)
    rw [way, List.sum_eq_zero_iff_forall_eq_nat] at hway
    have settled : m.isOver = true := by
      rw [isOver, List.all_eq_true]
      intro s hs
      have hzero : s.way t = 0 := hway _ (List.mem_map_of_mem hs)
      cases pend : s.pending with
      | true => simp [Slot.way, pend] at hzero
      | false => rfl
    rw [distance, settled] at hdist
    have hstage := hm.stage
    cases st : m.stage with
    | returned r => exact ⟨r, rfl⟩
    | collecting todo =>
        obtain ⟨s, answer, hs, pend, _⟩ := hm.exists_of_collecting st
        have hp := List.all_eq_true.1 settled s (List.mem_of_getElem? hs)
        simp [pend] at hp
    | withdrawing | skipping =>
        rw [st] at hstage
        exact hstage.elim
    | looking | waiting | expiring | left | reported => simp [st, Stage.toAnswer] at hdist
  · rintro ⟨r, st⟩
    have settled : m.isOver = true := hm.sound.isOver_of st fun hf => hf.settled
    rw [rank, hm.way_eq_zero settled, distance, settled, st]
    rfl

/-- As long as a quiet audit has not answered, its helping event is one of the workers or the
coordinator, and brings it nearer to its answer. -/
theorem helper_helps (hm : m.Quiet t jobs) (hw : 1 ≤ t.workers) (hrank : 0 < m.rank t) :
    m.helper ∈ Event.due jobs.length ∧
      ∀ e, e.isQuiet = true → e.turn = m.helper → (m.next t e).rank t < m.rank t := by
  have unanswered : ∀ r, m.stage ≠ .returned r := by
    intro r st
    have hzero := hm.rank_eq_zero_iff.2 ⟨r, st⟩
    omega
  unfold helper
  split
  · rename_i busy
    obtain ⟨hdue, hcan⟩ := hm.exists_coordinator_step hw unanswered
    refine ⟨hdue, ?_⟩
    intro e quiet he
    obtain ⟨m', hstep⟩ := hcan e he
    rw [next_of_step hstep]
    rcases (hm.quietStep hw quiet hstep).rank_lt_or hm with hlt | ⟨_, going, none⟩
    · exact hlt
    · simp [going, none] at busy
  · rename_i idle
    have hidle : m.isOver = false ∧ m.hasReady = false := by simpa using idle
    obtain ⟨hdue, blind, m', hstep, hlt⟩ := hm.exists_work_step hw hidle.1 hidle.2
    refine ⟨hdue, ?_⟩
    intro e _ he
    rw [Event.eq_of_turn_eq he blind, next_of_step hstep]
    exact rank_lt_of_way_lt hlt

/-- No quiet event takes a quiet audit away from its answer, and one that brings it no nearer leaves
its helping event as it is. -/
theorem rank_next (hm : m.Quiet t jobs) (hw : 1 ≤ t.workers) (he : e.isQuiet = true) :
    (m.next t e).rank t < m.rank t ∨
      ((m.next t e).rank t = m.rank t ∧ (m.next t e).helper = m.helper) := by
  rcases next_cases t m e with heq | hstep
  · rw [heq]
    exact Or.inr ⟨rfl, rfl⟩
  · rcases (hm.quietStep hw he hstep).rank_lt_or hm with hlt | ⟨hslots, going, none⟩
    · exact Or.inl hlt
    · right
      have going' : (m.next t e).isOver = false := by
        rw [isOver, hslots]
        exact going
      have none' : (m.next t e).hasReady = false := by
        rw [hasReady, hslots]
        exact none
      constructor
      · rw [rank, rank, distance, distance, going, none, going', none', way, way, hslots]
        rfl
      · rw [helper, helper, going, none, going', none', nextWork, nextWork, hslots]
        rfl

end Quiet

/-! ## Answers -/

/-- **Every fair quiet run comes to an answer** and stays with it, if there is any worker. -/
theorem exists_answer (hw : 1 ≤ t.workers) (jobs : List Job) {f : Nat → Event}
    (fair : Fair jobs.length f) (quiet : ∀ k, (f k).isQuiet = true) :
    ∃ n, ∀ d, ∃ r, ((start jobs false).after t f (n + d)).stage = .returned r := by
  have keep : ∀ k, ((start jobs false).after t f k).Quiet t jobs := by
    intro k
    apply quiet_steps hw (quiet_start t jobs)
    intro e he
    obtain ⟨d, _, rfl⟩ := List.mem_map.1 he
    exact quiet d
  obtain ⟨n, hn⟩ := exists_rank_eq_zero fair (fun x => x.Quiet t jobs) (rank t) helper keep
    (fun x hx hpos => (hx.helper_helps hw hpos).1)
    (fun x k hx hpos => (hx.helper_helps hw hpos).2 (f k) (quiet k))
    (fun x k hx => hx.rank_next hw (quiet k))
  refine ⟨n, ?_⟩
  intro d
  apply (keep (n + d)).rank_eq_zero_iff.1
  induction d with
  | zero => exact hn
  | succ d ih =>
      have hsucc : (start jobs false).after t f (n + (d + 1)) =
          ((start jobs false).after t f (n + d)).next t (f (n + d)) := after_succ _ f (n + d)
      rw [hsucc]
      rcases (keep (n + d)).rank_next hw (quiet (n + d)) with hlt | ⟨heq, _⟩
      · omega
      · rw [heq, ih]

end Machine

end ConfigAudit
