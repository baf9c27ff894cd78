/-
# Steps with a session

Operations on a store are sequences of few kinds of steps: calls, answers, changes that are deferred,
and commits.  Here it is said of each kind of step what it comes to, in terms of the rows that the
session reads and of the changes that wait, and operations are then followed step by step.

* `Session.Triple` : what steps with a session come to;
* `Session.Waiting`, `Session.Ready` : sessions in the middle of an operation, and between two;
* `Session.Mendable`, `Session.Undone` : sessions in which steps have failed, before and after a
  rollback;
* `triple_reach`, `triple_commit`, `triple_undoing` : single steps;
* `outcome_loadPolicies`, `outcome_loadExemptions` : what is loaded.
-/
import ConfigAudit.Proofs.Chain
import ConfigAudit.Store.Operation

namespace ConfigAudit

/-- A trouble with a database is no integer that is too large. -/
theorem Trouble.fault_ne (t : Trouble) : t.fault ≠ .integerRange := by
  cases t <;> exact nofun

namespace Session

/-! ## What steps come to -/

section Triples

variable {ε α β : Type} {P : Session → Prop} {E : ε → Session → Prop}

/-- From every session with a property, steps that answer and steps that fail come to sessions
with other properties. -/
def Triple (P : Session → Prop) (p : Work ε α) (Q : α → Session → Prop)
    (E : ε → Session → Prop) : Prop :=
  ∀ s, P s → match p s with
    | .ok a s' => Q a s'
    | .error e s' => E e s'

/-- The first steps answer. -/
theorem bind_of_ok {p : Work ε α} {k : α → Work ε β} {s s' : Session} {a : α}
    (h : p s = .ok a s') : (p >>= k) s = k a s' := by
  change EStateM.bind p k s = _
  unfold EStateM.bind
  rw [h]

/-- The first steps fail. -/
theorem bind_of_error {p : Work ε α} {k : α → Work ε β} {s s' : Session} {e : ε}
    (h : p s = .error e s') : (p >>= k) s = .error e s' := by
  change EStateM.bind p k s = _
  unfold EStateM.bind
  rw [h]

/-- Steps one after the other. -/
theorem Triple.bind {p : Work ε α} {k : α → Work ε β} {R : α → Session → Prop}
    {Q : β → Session → Prop} (hp : Triple P p R E) (hk : ∀ a, Triple (R a) (k a) Q E) :
    Triple P (p >>= k) Q E := by
  intro s hs
  have hfirst := hp s hs
  cases hrun : p s with
  | ok a s' =>
      rw [hrun] at hfirst
      rw [bind_of_ok hrun]
      exact hk a s' hfirst
  | error e s' =>
      rw [hrun] at hfirst
      rw [bind_of_error hrun]
      exact hfirst

/-- An answer without steps. -/
theorem Triple.pure {a : α} {Q : α → Session → Prop} (h : ∀ s, P s → Q a s) :
    Triple P (Pure.pure a : Work ε α) Q E := h

/-- A fault without steps. -/
theorem Triple.throw {e : ε} {Q : α → Session → Prop} (h : ∀ s, P s → E e s) :
    Triple P (MonadExcept.throw e : Work ε α) Q E := h

/-- More may be assumed and less be told. -/
theorem Triple.mono {p : Work ε α} {P' : Session → Prop} {Q Q' : α → Session → Prop}
    {E' : ε → Session → Prop} (h : Triple P p Q E) (hP : ∀ s, P' s → P s)
    (hQ : ∀ a s, Q a s → Q' a s) (hE : ∀ e s, E e s → E' e s) : Triple P' p Q' E' := by
  intro s hs
  have hrun := h s (hP s hs)
  cases hp : p s with
  | ok a s' =>
      rw [hp] at hrun
      exact hQ a s' hrun
  | error e s' =>
      rw [hp] at hrun
      exact hE e s' hrun

/-- Less may be told of answers. -/
theorem Triple.answers {p : Work ε α} {Q Q' : α → Session → Prop} (h : Triple P p Q E)
    (hQ : ∀ a s, Q a s → Q' a s) : Triple P p Q' E :=
  h.mono (fun _ hs => hs) hQ fun _ _ hs => hs

/-- Less may be told of faults. -/
theorem Triple.fails {p : Work ε α} {Q : α → Session → Prop} {E' : ε → Session → Prop}
    (h : Triple P p Q E) (hE : ∀ e s, E e s → E' e s) : Triple P p Q E' :=
  h.mono (fun _ hs => hs) (fun _ _ hs => hs) hE

/-- What is known besides may be used. -/
theorem Triple.of_fact {p : Work ε α} {Q : α → Session → Prop} {fact : Prop}
    (h : fact → Triple P p Q E) : Triple (fun s => P s ∧ fact) p Q E :=
  fun s hs => h hs.2 s hs.1

/-- What is answered may be used. -/
theorem Triple.answering {x : Except ε α} {k : α → Work ε β} {Q : β → Session → Prop}
    (hE : ∀ e s, P s → E e s) (hk : ∀ a, x = .ok a → Triple P (k a) Q E) :
    Triple P (answer x >>= k) Q E := by
  intro s hs
  cases x with
  | ok a => exact hk a rfl s hs
  | error e => exact hE e s hs

end Triples

/-! ## Sessions -/

/-- Nothing has been committed, and the object that was passed is as it was. -/
structure Kept (s₀ s : Session) : Prop where
  /-- The rows of the last commit. -/
  stored_eq : s.stored = s₀.stored
  /-- The object. -/
  passed_eq : s.passed = s₀.passed

/-- Nothing waits to be written, and the session reads what has been committed. -/
structure Settled (s : Session) : Prop where
  /-- The rows. -/
  rows_eq : s.rows = s.stored
  /-- What waits. -/
  pending_eq : s.pending = []

/-- A session in the middle of an operation: nothing has been committed, it reads some rows, and
some changes wait. -/
structure Waiting (s₀ : Session) (rows : Store) (ps : List Pending) (s : Session) : Prop
    extends Kept s₀ s where
  /-- The rows. -/
  rows_eq : s.rows = rows
  /-- What waits. -/
  pending_eq : s.pending = ps
  /-- The session is of use if it was. -/
  usable : s₀.broken = none → s.broken = none

/-- Nothing has been done so far. -/
abbrev Still (s₀ : Session) : Session → Prop := Waiting s₀ s₀.stored []

/-- A session between operations that is of use and reads what is stored. -/
structure Ready (rows : Store) (s : Session) : Prop where
  /-- What is stored. -/
  stored_eq : s.stored = rows
  /-- What is read. -/
  rows_eq : s.rows = rows
  /-- What waits. -/
  pending_eq : s.pending = []
  /-- The session is of use. -/
  usable : s.broken = none

/-- What fails, when a session is used, in a way that a rollback can mend: nothing has been
committed, and if an integer is to blame nothing waits either, and the session is of use if it was,
unless the operation is not sane. -/
def Mendable (sane : Prop) (s₀ : Session) (f : DatabaseFault) (s : Session) : Prop :=
  Kept s₀ s ∧ (f = .integerRange → Settled s ∧ (sane → s₀.broken = none → s.broken = none))

/-- An operation has been undone: nothing has been committed, nothing waits, and the session is of
use if it was, unless the operation is not sane. -/
structure Undone (sane : Prop) (s₀ s : Session) : Prop extends Kept s₀ s, Settled s where
  /-- The session is of use if it was. -/
  usable : sane → s₀.broken = none → s.broken = none

section Sessions

variable {s₀ s : Session} {rows : Store} {ps : List Pending}

/-- In a new session nothing waits. -/
theorem ready_opened (rows : Store) : Ready rows (opened rows) := ⟨rfl, rfl, rfl, rfl⟩

/-- Nothing waits in a session between operations. -/
theorem Ready.settled (h : Ready rows s) : Settled s := ⟨h.rows_eq.trans h.stored_eq.symm, h.pending_eq⟩

/-- A session in which nothing waits, and which is of use, reads what is stored. -/
theorem Settled.ready (h : Settled s) (usable : s.broken = none) : Ready s.stored s :=
  ⟨rfl, h.rows_eq, h.pending_eq, usable⟩

/-- What has not been done does not have to be undone. -/
theorem Waiting.undone (h : Still s₀ s) (sane : Prop) : Undone sane s₀ s :=
  ⟨h.toKept, ⟨h.rows_eq.trans h.stored_eq.symm, h.pending_eq⟩, fun _ => h.usable⟩

/-- What has not been done can be mended. -/
theorem Waiting.mendable (h : Still s₀ s) (sane : Prop) (f : DatabaseFault) :
    Mendable sane s₀ f s :=
  ⟨h.toKept, fun _ => ⟨(h.undone sane).toSettled, fun _ => h.usable⟩⟩

end Sessions

/-! ## Single steps -/

section Steps

variable {ε α : Type} {w : Weather} {s₀ : Session} {rows : Store} {ps : List Pending} {sane : Prop}

/-- A call that is answered finds the session in use; otherwise it is only counted, and does not
complain of integers. -/
theorem reach_cases (w : Weather) (call : DatabaseCall) (s : Session) :
    reach w call s = .ok () { s with calls := s.calls + 1 } ∧ s.broken = none ∨
      ∃ f, reach w call s = .error f { s with calls := s.calls + 1 } ∧ f ≠ .integerRange := by
  unfold reach
  split
  · exact Or.inr ⟨_, rfl, Trouble.fault_ne _⟩
  · exact Or.inr ⟨_, rfl, nofun⟩
  · rename_i hbroken
    exact Or.inl ⟨rfl, hbroken⟩

/-- A call changes nothing. -/
theorem triple_reach {call : DatabaseCall} :
    Triple (Waiting s₀ rows ps) (reach w call) (fun _ s => Waiting s₀ rows ps s ∧ s.broken = none)
      fun f s => Waiting s₀ rows ps s ∧ f ≠ .integerRange := by
  intro s hs
  have hcounted : Waiting s₀ rows ps { s with calls := s.calls + 1 } :=
    ⟨⟨hs.stored_eq, hs.passed_eq⟩, hs.rows_eq, hs.pending_eq, hs.usable⟩
  rcases reach_cases w call s with ⟨hrun, hbroken⟩ | ⟨f, hrun, hne⟩
  · rw [hrun]
    exact ⟨hcounted, hbroken⟩
  · rw [hrun]
    exact ⟨hcounted, hne⟩

/-- A call in the middle of an operation can be mended if it fails. -/
theorem mendable_reach {call : DatabaseCall} :
    Triple (Waiting s₀ rows ps) (reach w call) (fun _ s => Waiting s₀ rows ps s ∧ s.broken = none)
      (Mendable sane s₀) :=
  triple_reach.fails fun _ _ h => ⟨h.1.toKept, fun hinteger => absurd hinteger h.2⟩

/-- What is read may be used. -/
theorem Triple.reading {k : Store → Work ε α} {Q : α → Session → Prop} {E : ε → Session → Prop}
    (h : Triple (Waiting s₀ rows ps) (k rows) Q E) :
    Triple (Waiting s₀ rows ps) (read >>= k) Q E := by
  intro s hs
  have hread : (read : Work ε Store) s = .ok rows s := by rw [← hs.rows_eq]; rfl
  rw [bind_of_ok hread]
  exact h s hs

/-- A change is deferred in any case. -/
theorem bind_defer {ε α : Type} (p : Pending) (k : Unit → Work ε α) (s : Session) :
    (defer p >>= k) s = k () { s with pending := s.pending ++ [p] } := rfl

/-- A change is deferred. -/
theorem Triple.deferring {p : Pending} {k : Unit → Work ε α} {Q : α → Session → Prop}
    {E : ε → Session → Prop} (h : Triple (Waiting s₀ rows (ps ++ [p])) (k ()) Q E) :
    Triple (Waiting s₀ rows ps) (defer p >>= k) Q E := by
  intro s hs
  rw [bind_defer]
  exact h { s with pending := s.pending ++ [p] }
    ⟨⟨hs.stored_eq, hs.passed_eq⟩, hs.rows_eq, congrArg (· ++ [p]) hs.pending_eq, hs.usable⟩

/-- Exemptions are dropped. -/
theorem triple_dropExemptions {rule : Int} :
    Triple (Waiting s₀ rows ps) (dropExemptions w rule)
      (fun n s => Waiting s₀ { rows with exemptions := rows.exemptions.filter (·.rule != rule) } ps s ∧
        n = rows.exemptions.countP (·.rule == rule)) (Mendable sane s₀) := by
  refine mendable_reach.bind fun _ => ?_
  rintro s ⟨⟨hkept, rfl, hpending, husable⟩, _⟩
  exact ⟨⟨⟨hkept.stored_eq, hkept.passed_eq⟩, rfl, hpending, husable⟩, rfl⟩

/-- A commit stores what waits, or can be mended; an integer that is too large is to blame only if
it is to be written. -/
theorem triple_commit (small : sane → ps.foldlM Pending.write rows ≠ .error .integerRange) :
    Triple (Waiting s₀ rows ps) (commit w)
      (fun _ s => s.passed = s₀.passed ∧ Ready s.stored s ∧
        ps.foldlM Pending.write rows = .ok s.stored) (Mendable sane s₀) := by
  refine mendable_reach.bind fun _ => ?_
  refine Triple.bind (R := fun _ s => s.passed = s₀.passed ∧ s.pending = [] ∧ s.broken = none ∧
    ps.foldlM Pending.write rows = .ok s.rows) ?_ fun _ => ?_
  · rintro s ⟨⟨hkept, rfl, rfl, husable⟩, hbroken⟩
    unfold write
    cases hwrite : s.pending.foldlM Pending.write s.rows with
    | ok rows => exact ⟨hkept.passed_eq, rfl, hbroken, rfl⟩
    | error f =>
        refine ⟨⟨hkept.stored_eq, hkept.passed_eq⟩, ?_⟩
        rintro rfl
        exact ⟨⟨rfl, rfl⟩, fun hsane => absurd hwrite (small hsane)⟩
  · exact fun s hs => ⟨hs.1, ⟨rfl, rfl, hs.2.1, hs.2.2.1⟩, hs.2.2.2⟩

/-- Faults that are reported. -/
theorem triple_reporting {report : DatabaseFault → Fault} {p : Work DatabaseFault α}
    {P : Session → Prop} {Q : α → Session → Prop} {E : Fault → Session → Prop}
    (h : Triple P p Q fun f s => E (report f) s) : Triple P (reporting report p) Q E := by
  intro s hs
  have hrun := h s hs
  unfold reporting
  cases hp : p s with
  | ok a s' =>
      rw [hp] at hrun
      exact hrun
  | error f s' =>
      rw [hp] at hrun
      exact hrun

/-- What can be mended is undone. -/
theorem triple_undoing {report : DatabaseFault → Fault} {p : Work DatabaseFault α}
    {P : Session → Prop} {Q : α → Session → Prop} (h : Triple P p Q (Mendable sane s₀)) :
    Triple P (undoing report p) Q fun _ => Undone sane s₀ := by
  intro s hs
  have hrun := h s hs
  unfold undoing
  cases hp : p s with
  | ok a s' =>
      rw [hp] at hrun
      exact hrun
  | error f s' =>
      rw [hp] at hrun
      obtain ⟨hkept, hmended⟩ := hrun
      cases f with
      | integerRange =>
          obtain ⟨hsettled, husable⟩ := hmended rfl
          exact ⟨hkept, hsettled, husable⟩
      | outage | integrity | comparison | unwritable | tooManyValues =>
          exact ⟨⟨hkept.stored_eq, hkept.passed_eq⟩, ⟨rfl, rfl⟩, fun _ _ => rfl⟩

/-- Looking for what a value means changes nothing. -/
theorem triple_key {report : DatabaseFault → Fault} {call : DatabaseCall}
    {x : Except DatabaseFault α} :
    Triple (Still s₀) (reporting report do
      reach w call
      answer x) (fun a s => Still s₀ s ∧ x = .ok a) fun _ => Undone sane s₀ := by
  refine triple_reporting ((triple_reach.fails fun _ _ h => h.1.undone sane).bind fun _ => ?_)
  intro s hs
  cases x with
  | ok a => exact ⟨hs.1, rfl⟩
  | error f => exact hs.1.undone sane

end Steps

/-! ## Steps that are answered -/

section Answered

variable {w : Weather} {s s' : Session} {rows : Store}

/-- A call that is not out of order is answered if the session is of use. -/
theorem reach_of_none {call : DatabaseCall} (calm : w s.calls call = none)
    (usable : s.broken = none) : reach w call s = .ok () { s with calls := s.calls + 1 } := by
  unfold reach
  rw [calm, usable]

/-- So is a commit, if what waits can be written. -/
theorem commit_of_none (calm : w s.calls .commit = none) (usable : s.broken = none)
    (written : s.pending.foldlM Pending.write s.rows = .ok rows) :
    commit w s = .ok () { s with
      stored := rows, rows := rows, pending := [], calls := s.calls + 1 } := by
  have hwrite : write { s with calls := s.calls + 1 } =
      .ok () { s with rows := rows, pending := [], calls := s.calls + 1 } := by
    unfold write
    rw [written]
  exact (bind_of_ok (reach_of_none calm usable)).trans (bind_of_ok hwrite)

/-- Steps that are answered do not have to be taken back. -/
theorem undoing_of_ok {α : Type} {report : DatabaseFault → Fault} {p : Work DatabaseFault α} {a : α}
    (h : p s = .ok a s') : undoing report p s = .ok a s' := by
  unfold undoing
  rw [h]

/-- In calm weather what is looked for is answered, or reported. -/
theorem outcome_key {α β : Type} (usable : s.broken = none) {call : DatabaseCall}
    {report : DatabaseFault → Fault} {x : Except DatabaseFault α} {k : α → Work Fault β} :
    s.outcome (reporting report (do
      reach .calm call
      answer x) >>= k) =
        x.mapError report >>= fun a => { s with calls := s.calls + 1 }.outcome (k a) := by
  have hreach : (do
      reach .calm call
      answer x) s = answer x { s with calls := s.calls + 1 } := bind_of_ok (reach_of_none rfl usable)
  unfold outcome
  cases x with
  | ok a =>
      have hrun : reporting report (do
          reach .calm call
          answer (.ok a)) s = .ok a { s with calls := s.calls + 1 } := by
        unfold reporting
        rw [hreach]
        rfl
      rw [bind_of_ok hrun]
      rfl
  | error f =>
      have hrun : reporting report (do
          reach .calm call
          answer (.error f : Except DatabaseFault α)) s =
            .error (report f) { s with calls := s.calls + 1 } := by
        unfold reporting
        rw [hreach]
        rfl
      rw [bind_of_error hrun]
      rfl

/-- An answer is what steps come to. -/
theorem outcome_answer {ε α : Type} (s : Session) (x : Except ε α) : s.outcome (answer x) = x := by
  cases x <;> rfl

/-- What is loaded are the policies of the rows, unless they cannot be looked for. -/
theorem outcome_loadPolicies (h : Ready rows s) (kinds : KindTable) (limit : Option Nat)
    (ids : Option (List Value)) : s.outcome (loadPolicies .calm kinds limit ids) =
      (Store.restriction limit ids).mapError StoreTask.loadPolicies.report >>=
        rows.policiesOf kinds := by
  refine (outcome_key h.usable).trans (congrArg _ (funext fun ids' => ?_))
  rw [← h.rows_eq]
  exact outcome_answer _ _

/-- What is loaded are the exemptions of the rows, unless they cannot be looked for. -/
theorem outcome_loadExemptions (h : Ready rows s) (limit : Option Nat)
    (devices : Option (List Value)) : s.outcome (loadExemptions .calm limit devices) =
      (Store.restriction limit devices).mapError StoreTask.loadExemptions.report >>= fun ids =>
        .ok (rows.registerOf ids) := by
  refine (outcome_key h.usable).trans (congrArg _ (funext fun ids' => ?_))
  rw [← h.rows_eq]
  rfl

end Answered

end Session

end ConfigAudit
