/-
# Looking up exemptions

A register is asked for one pair of ids at a time, and what it answers for a pair depends on no
other pair.

* `Value.int_eq_of_equal` : no value is the same key as two integers;
* `Register.Elsewhere` : the changes that leave one pair alone;
* `find?_eq_of_elsewhere` : such changes are not seen from that pair.
-/
import Mathlib.Logic.Relation
import ConfigAudit.Exemption.Register

namespace ConfigAudit

/-! ## Integers as keys -/

/-- The exact order of numbers tells integers apart. -/
theorem Decimal.Binary.int_eq_of_compareInt {b : Decimal.Binary} {n k : Int}
    (hn : b.compareInt n = some .eq) (hk : b.compareInt k = some .eq) : n = k := by
  cases b with
  | nan => cases hn
  | infinite negative => cases negative <;> cases hn
  | finite negative m e =>
      unfold compareInt at hn hk
      rw [Option.some.injEq, Int.compare_eq_eq] at hn hk
      have hscale : ((Nat.pow 2 (-e).toNat : Nat) : Int) ≠ 0 :=
        Int.natCast_ne_zero.2 (Nat.ne_of_gt (Nat.two_pow_pos _))
      exact Int.eq_of_mul_eq_mul_right hscale (hn.trans hk.symm)

/-- No value is the same key as two integers. -/
theorem Value.int_eq_of_equal {v : Value} {n k : Int} (hn : Value.equal v (.int n) = true)
    (hk : Value.equal v (.int k) = true) : n = k := by
  cases v with
  | int j =>
      simp only [equal_int, beq_iff_eq] at hn hk
      rw [← hn, ← hk]
  | flag b =>
      simp only [equal, beq_iff_eq] at hn hk
      rw [← hn, ← hk]
  | float x =>
      simp only [equal] at hn hk
      exact Decimal.Binary.int_eq_of_compareInt (beq_iff_eq.1 hn) (beq_iff_eq.1 hk)
  | _ => simp [equal] at hn

/-- An exemption is for one pair of integers only. -/
theorem Exemption.ids_eq_of_isFor {e : Exemption} {n d n' d' : Int}
    (h : e.isFor (.int n) (.int d) = true) (h' : e.isFor (.int n') (.int d') = true) :
    n = n' ∧ d = d' := by
  unfold isFor at h h'
  rw [Bool.and_eq_true] at h h'
  exact ⟨Value.int_eq_of_equal h.1 h'.1, Value.int_eq_of_equal h.2 h'.2⟩

/-- An exemption for one pair of integers is not for another one. -/
theorem Exemption.not_isFor_of_ne {e : Exemption} {n d n' d' : Int}
    (h : e.isFor (.int n) (.int d) = true) (hne : (n, d) ≠ (n', d')) :
    e.isFor (.int n') (.int d') = false := by
  rw [Bool.eq_false_iff]
  intro h'
  obtain ⟨rfl, rfl⟩ := ids_eq_of_isFor h h'
  exact hne rfl

/-- An exemption with integer ids is for the pair of its ids. -/
theorem Exemption.isFor_int (n d n' d' : Int) (expiry : Option Moment) :
    (Exemption.mk (.int n) (.int d) expiry).isFor (.int n') (.int d') = true ↔
      n = n' ∧ d = d' := by
  simp [isFor]

namespace Register

/-! ## Changes elsewhere -/

variable {n d : Int}

/-- Entering an exemption for one pair is not seen from another pair. -/
theorem find?_insert_of_ne {n' d' : Int} (expiry : Option Moment) (es : List Exemption)
    (hne : (n', d') ≠ (n, d)) :
    (insert ⟨.int n', .int d', expiry⟩ es).find? (·.isFor (.int n) (.int d)) =
      es.find? (·.isFor (.int n) (.int d)) := by
  have hnew : (Exemption.mk (.int n') (.int d') expiry).isFor (.int n) (.int d) = false :=
    Exemption.not_isFor_of_ne ((Exemption.isFor_int ..).2 ⟨rfl, rfl⟩) hne
  induction es with
  | nil => rw [insert, List.find?_cons_of_neg (by simp [hnew])]
  | cons x xs ih =>
      rw [insert]
      split
      · rename_i hx
        rw [List.find?_cons_of_neg (by simp [hnew]),
          List.find?_cons_of_neg (by simp [Exemption.not_isFor_of_ne hx hne])]
      · rw [List.find?_cons, List.find?_cons, ih]

/-- Taking out the exemption of one pair is not seen from another pair. -/
theorem find?_erase_of_ne {n' d' : Int} (es : List Exemption) (hne : (n', d') ≠ (n, d)) :
    (erase (.int n') (.int d') es).find? (·.isFor (.int n) (.int d)) =
      es.find? (·.isFor (.int n) (.int d)) := by
  induction es with
  | nil => rfl
  | cons x xs ih =>
      rw [erase]
      split
      · rename_i hx
        rw [List.find?_cons_of_neg (by simp [Exemption.not_isFor_of_ne hx hne])]
      · rw [List.find?_cons, List.find?_cons, ih]

/-- Dropping exemptions of other pairs is not seen from a pair. -/
theorem find?_dropIf_of_spared {rule device : Value} {p : Exemption → Bool} (r : Register)
    (spared : ∀ e ∈ r.entries, e.isFor rule device = true → p e = false) :
    (r.dropIf p).1.find? rule device = r.find? rule device := by
  unfold dropIf find?
  obtain ⟨es⟩ := r
  induction es with
  | nil => rfl
  | cons x xs ih =>
      have hxs := ih fun e he => spared e (List.mem_cons_of_mem _ he)
      cases hp : p x with
      | false => rw [List.filter_cons_of_pos (by simp [hp]), List.find?_cons, List.find?_cons, hxs]
      | true =>
          have hx : ¬ x.isFor rule device = true := by
            intro hx
            simp [spared x List.mem_cons_self hx] at hp
          rw [List.filter_cons_of_neg (by simp [hp]), List.find?_cons_of_neg hx, hxs]

/-- The changes of a register that concern other pairs than one. -/
inductive Elsewhere (n d : Int) (r : Register) : Register → Prop where
  /-- An exemption of another pair is entered, perhaps in the place of one with another end. -/
  | add {n' d' : Int} (expiry : Option Moment) (hne : (n', d') ≠ (n, d)) :
      Elsewhere n d r (r.add ⟨.int n', .int d', expiry⟩)
  /-- The exemption of another pair is removed. -/
  | remove {n' d' : Int} (hne : (n', d') ≠ (n, d)) :
      Elsewhere n d r (r.remove (.int n') (.int d')).1
  /-- Exemptions of other pairs are dropped. -/
  | drop {p : Exemption → Bool}
      (spared : ∀ e ∈ r.entries, e.isFor (.int n) (.int d) = true → p e = false) :
      Elsewhere n d r (r.dropIf p).1

/-- Changes elsewhere are not seen from a pair. -/
theorem find?_eq_of_elsewhere {r r' : Register}
    (h : Relation.ReflTransGen (Elsewhere n d) r r') :
    r'.find? (.int n) (.int d) = r.find? (.int n) (.int d) := by
  induction h with
  | refl => rfl
  | tail _ step ih =>
      rw [← ih]
      cases step with
      | add expiry hne => exact find?_insert_of_ne expiry _ hne
      | remove hne => exact find?_erase_of_ne _ hne
      | drop spared => exact find?_dropIf_of_spared _ spared

end Register

end ConfigAudit
