/-
# Chains of steps that can fail

Readers and plans are chains of steps, each of which can fail.  A chain that comes to its end has
come through every step, and one that fails does so at one of them.

* `bind_eq_ok_iff`, `bind_eq_error_iff` : open the first step of a chain;
* `foldlM_eq_error_iff` : where a chain over a list fails;
* `filterM_eq_ok`, `mapM_eq_ok_iff` : chains that select or map members of a list;
* `FailsOnly`, `Escapes` : chains that fail in no other way than given ones, and chains that do.
-/
import ConfigAudit.Fault

namespace ConfigAudit

variable {ε α β : Type}

/-- A chain comes to its end if its first step does and the rest does from there. -/
theorem bind_eq_ok_iff {x : Except ε α} {f : α → Except ε β} {b : β} :
    (x >>= f) = .ok b ↔ ∃ a, x = .ok a ∧ f a = .ok b := by
  cases x with
  | error e =>
      constructor
      · intro h
        cases h
      · rintro ⟨a, ha, _⟩
        cases ha
  | ok a =>
      constructor
      · intro h
        exact ⟨a, rfl, h⟩
      · rintro ⟨a', ha, hf⟩
        cases ha
        exact hf

/-- A step that is seen to come to its end has an answer. -/
theorem exists_eq_ok_of_isOk {x : Except ε α} (h : x.isOk = true) : ∃ a, x = .ok a := by
  cases x with
  | error e => cases h
  | ok a => exact ⟨a, rfl⟩

/-- A step that is seen to have an answer comes to its end with it. -/
theorem eq_ok_of_toOption {x : Except ε α} {a : α} (h : x.toOption = some a) : x = .ok a := by
  cases x with
  | error e => cases h
  | ok a' => rw [Option.some.inj h]

/-- A step that is lifted into another kind of faults comes to its end if it does by itself. -/
theorem lift_eq_ok_iff {x : Except ValueFault α} {a : α} :
    (liftM x : Except Fault α) = .ok a ↔ x = .ok a := by
  change orValueFault x = .ok a ↔ x = .ok a
  cases x <;> simp [orValueFault]

/-! ## Failures -/

/-- A chain fails at its first step, or comes through it and fails later. -/
theorem bind_eq_error_iff {x : Except ε α} {f : α → Except ε β} {e : ε} :
    (x >>= f) = .error e ↔ x = .error e ∨ ∃ a, x = .ok a ∧ f a = .error e := by
  cases x with
  | error e' =>
      constructor
      · intro h
        exact Or.inl (by cases h; rfl)
      · rintro (h | ⟨a, ha, _⟩)
        · cases h
          rfl
        · cases ha
  | ok a =>
      constructor
      · intro h
        exact Or.inr ⟨a, rfl, h⟩
      · rintro (h | ⟨a', ha, hf⟩)
        · cases h
        · cases ha
          exact hf

/-- A step that is lifted into another kind of faults fails as it does by itself. -/
theorem lift_eq_error_iff {x : Except ValueFault α} {f : Fault} :
    (liftM x : Except Fault α) = .error f ↔ ∃ v, x = .error v ∧ f = .value v := by
  change orValueFault x = .error f ↔ _
  cases x <;> simp [orValueFault, eq_comm]

/-- A chain over a list fails at one of its members, up to which it comes through. -/
theorem foldlM_eq_error_iff {f : β → α → Except ε β} {s : β} {xs : List α} {e : ε} :
    xs.foldlM f s = .error e ↔
      ∃ before x after s', xs = before ++ x :: after ∧ before.foldlM f s = .ok s' ∧
        f s' x = .error e := by
  induction xs generalizing s with
  | nil =>
      constructor
      · intro h
        cases h
      · rintro ⟨before, x, after, s', h, _⟩
        simp at h
  | cons y ys ih =>
      rw [List.foldlM_cons, bind_eq_error_iff]
      constructor
      · rintro (h | ⟨s₁, hs₁, h⟩)
        · exact ⟨[], y, ys, s, rfl, rfl, h⟩
        · obtain ⟨before, x, after, s', rfl, hbefore, hx⟩ := ih.1 h
          exact ⟨y :: before, x, after, s', rfl, bind_eq_ok_iff.2 ⟨s₁, hs₁, hbefore⟩, hx⟩
      · rintro ⟨before, x, after, s', h, hbefore, hx⟩
        cases before with
        | nil =>
            cases h
            cases hbefore
            exact Or.inl hx
        | cons b before =>
            cases h
            obtain ⟨s₁, hs₁, hbefore⟩ := bind_eq_ok_iff.1 hbefore
            exact Or.inr ⟨s₁, hs₁, ih.2 ⟨before, x, after, s', rfl, hbefore, hx⟩⟩

/-- A chain that selects members of a list comes to its end if every question is answered. -/
theorem filterM_eq_ok {f : α → Except ε Bool} {p : α → Bool} {xs : List α}
    (h : ∀ x ∈ xs, f x = .ok (p x)) : xs.filterM f = .ok (xs.filter p) := by
  have haux : ∀ (xs acc : List α), (∀ x ∈ xs, f x = .ok (p x)) →
      xs.filterAuxM f acc = .ok ((xs.filter p).reverse ++ acc) := by
    intro xs
    induction xs with
    | nil => intro acc _; rfl
    | cons x xs ih =>
        intro acc h
        obtain ⟨hx, hxs⟩ := List.forall_mem_cons.1 h
        refine bind_eq_ok_iff.2 ⟨p x, hx, ?_⟩
        cases hp : p x with
        | false =>
            rw [List.filter_cons_of_neg (by simp [hp])]
            exact ih acc hxs
        | true =>
            rw [List.filter_cons_of_pos hp, List.reverse_cons, List.append_assoc]
            exact ih (x :: acc) hxs
  refine bind_eq_ok_iff.2 ⟨_, haux xs [] h, ?_⟩
  rw [List.append_nil, List.reverse_reverse]
  rfl

/-- A chain that maps members of a list comes to its end if each of them is mapped, and then to the
list of what they are mapped to. -/
theorem mapM_eq_ok_iff {f : α → Except ε β} {p : α → Prop} {g : α → β} {xs : List α} {ys : List β}
    (h : ∀ x ∈ xs, ∀ y, f x = .ok y ↔ p x ∧ y = g x) :
    xs.mapM f = .ok ys ↔ (∀ x ∈ xs, p x) ∧ ys = xs.map g := by
  induction xs generalizing ys with
  | nil => exact ⟨fun hys => ⟨by simp, (Except.ok.inj hys).symm⟩, fun ⟨_, hys⟩ => hys ▸ rfl⟩
  | cons x xs ih =>
      obtain ⟨hx, hxs⟩ := List.forall_mem_cons.1 h
      rw [List.mapM_cons, List.forall_mem_cons, List.map_cons]
      constructor
      · intro hys
        obtain ⟨y, hy, hys⟩ := bind_eq_ok_iff.1 hys
        obtain ⟨zs, hzs, hys⟩ := bind_eq_ok_iff.1 hys
        obtain ⟨hpx, rfl⟩ := (hx y).1 hy
        obtain ⟨hpxs, rfl⟩ := (ih hxs).1 hzs
        exact ⟨⟨hpx, hpxs⟩, (Except.ok.inj hys).symm⟩
      · rintro ⟨⟨hpx, hpxs⟩, rfl⟩
        exact bind_eq_ok_iff.2 ⟨_, (hx _).2 ⟨hpx, rfl⟩, bind_eq_ok_iff.2
          ⟨_, (ih hxs).2 ⟨hpxs, rfl⟩, rfl⟩⟩

/-! ## Ways to fail -/

/-- A step fails, if at all, in one of the given ways. -/
def FailsOnly (P : ε → Prop) (x : Except ε α) : Prop := ∀ e, x = .error e → P e

namespace FailsOnly

variable {P Q : ε → Prop}

/-- A step that is done does not fail. -/
theorem ok (a : α) : FailsOnly P (.ok a) := by
  intro e h
  cases h

/-- A step that fails fails in its own way. -/
theorem error {e : ε} (h : P e) : FailsOnly P (.error e : Except ε α) := by
  intro e' he
  cases he
  exact h

/-- A chain fails in the ways of its steps. -/
theorem bind {x : Except ε α} {f : α → Except ε β} (hx : FailsOnly P x)
    (hf : ∀ a, x = .ok a → FailsOnly P (f a)) : FailsOnly P (x >>= f) := by
  intro e h
  rcases bind_eq_error_iff.1 h with h | ⟨a, ha, h⟩
  · exact hx e h
  · exact hf a ha e h

/-- What fails in some ways fails in more. -/
theorem mono {x : Except ε α} (hx : FailsOnly P x) (h : ∀ e, P e → Q e) : FailsOnly Q x :=
  fun e he => h e (hx e he)

/-- A step whose value is not looked at fails in its own ways. -/
theorem discard {x : Except ε α} (hx : FailsOnly P x) : FailsOnly P (discard x) := by
  cases x with
  | ok a => exact .ok _
  | error e => exact .error (hx e rfl)

/-- A chain over a list fails in the ways of its steps. -/
theorem foldlM {f : β → α → Except ε β} {xs : List α} (hf : ∀ s, ∀ x ∈ xs, FailsOnly P (f s x))
    (s : β) : FailsOnly P (xs.foldlM f s) := by
  intro e h
  obtain ⟨before, x, after, s', rfl, _, hx⟩ := foldlM_eq_error_iff.1 h
  exact hf s' x (List.mem_append_right _ List.mem_cons_self) e hx

/-- Steps for the members of a list, one after the other, fail in the ways of the steps. -/
theorem mapM {f : α → Except ε β} {xs : List α} (hf : ∀ x ∈ xs, FailsOnly P (f x)) :
    FailsOnly P (xs.mapM f) := by
  induction xs with
  | nil =>
      rw [List.mapM_nil]
      exact .ok _
  | cons x xs ih =>
      rw [List.mapM_cons]
      refine (hf x List.mem_cons_self).bind fun _ _ => ?_
      exact (ih fun y hy => hf y (List.mem_cons_of_mem x hy)).bind fun _ _ => .ok _

/-- A step that is lifted fails in the same ways. -/
theorem lift {P : Fault → Prop} {x : Except ValueFault α}
    (hx : FailsOnly (fun v => P (.value v)) x) : FailsOnly P (liftM x : Except Fault α) := by
  intro f h
  obtain ⟨v, hv, rfl⟩ := lift_eq_error_iff.1 h
  exact hx v hv

end FailsOnly

/-- A step fails in another than the given ways. -/
def Escapes (P : ε → Prop) (x : Except ε α) : Prop := ∃ e, x = .error e ∧ ¬ P e

section Escapes

variable {P : ε → Prop}

/-- What fails in the given ways only does not escape. -/
theorem FailsOnly.not_escapes {x : Except ε α} (hx : FailsOnly P x) : ¬ Escapes P x := by
  rintro ⟨e, he, hne⟩
  exact hne (hx e he)

/-- A step that fails escapes if its way to fail is none of the given ones. -/
theorem escapes_error_iff {e : ε} : Escapes P (.error e : Except ε α) ↔ ¬ P e := by
  constructor
  · rintro ⟨e', he, hne⟩
    cases he
    exact hne
  · intro hne
    exact ⟨e, rfl, hne⟩

/-- A chain escapes at its first step, or comes through it and escapes later. -/
theorem escapes_bind_iff {x : Except ε α} {f : α → Except ε β} :
    Escapes P (x >>= f) ↔ Escapes P x ∨ ∃ a, x = .ok a ∧ Escapes P (f a) := by
  constructor
  · rintro ⟨e, he, hne⟩
    rcases bind_eq_error_iff.1 he with he | ⟨a, ha, he⟩
    · exact Or.inl ⟨e, he, hne⟩
    · exact Or.inr ⟨a, ha, e, he, hne⟩
  · rintro (⟨e, rfl, hne⟩ | ⟨a, rfl, h⟩)
    · exact ⟨e, rfl, hne⟩
    · exact h

/-- A chain escapes behind a step that fails in the given ways only if the rest does. -/
theorem FailsOnly.escapes_bind_iff {x : Except ε α} {f : α → Except ε β} (hx : FailsOnly P x) :
    Escapes P (x >>= f) ↔ ∃ a, x = .ok a ∧ Escapes P (f a) := by
  rw [ConfigAudit.escapes_bind_iff, or_iff_right hx.not_escapes]

/-- A chain over a list escapes at one of its members, up to which it comes through. -/
theorem escapes_foldlM_iff {f : β → α → Except ε β} {s : β} {xs : List α} :
    Escapes P (xs.foldlM f s) ↔
      ∃ before x after s', xs = before ++ x :: after ∧ before.foldlM f s = .ok s' ∧
        Escapes P (f s' x) := by
  constructor
  · rintro ⟨e, he, hne⟩
    obtain ⟨before, x, after, s', hxs, hbefore, hx⟩ := foldlM_eq_error_iff.1 he
    exact ⟨before, x, after, s', hxs, hbefore, e, hx, hne⟩
  · rintro ⟨before, x, after, s', hxs, hbefore, e, hx, hne⟩
    exact ⟨e, foldlM_eq_error_iff.2 ⟨before, x, after, s', hxs, hbefore, hx⟩, hne⟩

end Escapes

end ConfigAudit
