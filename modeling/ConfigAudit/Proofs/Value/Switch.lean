/-
# Values that equal a truth value

A field of a definition that is meant as a switch may hold any value.  It can be asked whether it
counts as set, and it can be compared with a truth value.  The two agree for truth values and for
the numbers zero and one, of every kind; no other value equals any truth value.

* `Value.truthy_float` : a floating-point number counts as set unless it is zero;
* `Value.IsSwitch` : values that equal a truth value;
* `Value.equal_flag_of_isSwitch` : they equal the one that says whether they count as set.
-/
import ConfigAudit.Proofs.Exemption.Lookup
import ConfigAudit.Value.Basic

namespace ConfigAudit

open Float.Model

/-! ## Zero -/

namespace Decimal.Binary

/-- A finite number is zero if its significand is. -/
theorem compareInt_zero_finite_iff {negative : Bool} {m : Nat} {e : Int} :
    (finite negative m e).compareInt 0 = some .eq ↔ m = 0 := by
  have hscale : Nat.pow 2 e.toNat ≠ 0 := Nat.ne_of_gt (Nat.two_pow_pos _)
  have hzero : ((m * Nat.pow 2 e.toNat : Nat) : Int) = 0 ↔ m = 0 := by
    rw [Int.natCast_eq_zero, Nat.mul_eq_zero, or_iff_left hscale]
  rw [compareInt, Option.some.injEq, Int.compare_eq_eq, Int.zero_mul, eq_comm]
  cases negative with
  | false => exact hzero
  | true => exact Int.neg_eq_zero.trans hzero

/-- The bits of a zero hold neither an exponent nor a fraction. -/
theorem compareInt_zero_iff (bits : UInt64) : (ofBits bits).compareInt 0 = some .eq ↔
    bits.toNat / 0x10000000000000 % 0x800 = 0 ∧ bits.toNat % 0x10000000000000 = 0 := by
  unfold ofBits
  dsimp only
  split
  · rename_i hbiased
    rw [beq_iff_eq] at hbiased
    -- infinities and what is not a number are not zero
    refine iff_of_false ?_ (by omega)
    split
    · intro h
      rw [compareInt] at h
      split at h <;> cases h
    · exact nofun
  · split
    · rename_i hbiased
      rw [compareInt_zero_finite_iff, beq_iff_eq.1 hbiased, and_iff_right rfl]
    · rename_i hbiased
      rw [beq_iff_eq] at hbiased
      rw [compareInt_zero_finite_iff]
      omega

end Decimal.Binary

/-- A floating-point number equals zero if it is a zero of either sign. -/
theorem float_beq_zero_iff (x : Float) : (x == 0.0) = true ↔ ∃ s, x.toModel.unpack = .zero s := by
  have hzero : (0.0 : Float).toModel.unpack = .zero .positive := rfl
  have hbeq : (x == 0.0) = (x.toModel.unpack.compare (.zero .positive) == some .eq) := by
    rw [← hzero]
    rfl
  rw [hbeq, beq_iff_eq]
  constructor
  · intro h
    cases hx : x.toModel.unpack with
    | zero s => exact ⟨s, rfl⟩
    | notANumber =>
        rw [hx] at h
        cases h
    | infinity s | finite s =>
        rw [hx] at h
        cases s <;> cases h
  · rintro ⟨s, hs⟩
    rw [hs]
    rfl

/-- The bits of a zero of either sign hold neither an exponent nor a fraction. -/
theorem exists_unpack_eq_zero_iff (x : Float) : (∃ s, x.toModel.unpack = .zero s) ↔
    x.toBits.toNat / 0x10000000000000 % 0x800 = 0 ∧ x.toBits.toNat % 0x10000000000000 = 0 := by
  have hbits : x.toBits = x.toModel.toBits := rfl
  have hexponent : (@UnpackedFloat.unpackExponent Format.binary64
      x.toModel.toBits.toBitVec).toNat = x.toBits.toNat / 0x10000000000000 % 0x800 := by
    simp [UnpackedFloat.unpackExponent, hbits, Nat.shiftRight_eq_div_pow]
  have hmantissa : (@UnpackedFloat.unpackMantissa Format.binary64
      x.toModel.toBits.toBitVec).toNat = x.toBits.toNat % 0x10000000000000 := by
    simp [UnpackedFloat.unpackMantissa, hbits]
  rw [← hexponent, ← hmantissa]
  unfold unpack UnpackedFloat.unpack
  dsimp only
  constructor
  · rintro ⟨s, h⟩
    by_cases hfull : @UnpackedFloat.unpackExponent Format.binary64 x.toModel.toBits.toBitVec = -1#11
    · rw [if_pos hfull] at h
      split at h <;> cases h
    · rw [if_neg hfull] at h
      by_cases hexp : @UnpackedFloat.unpackExponent Format.binary64 x.toModel.toBits.toBitVec = 0#11
      · rw [if_pos hexp] at h
        by_cases hman :
            @UnpackedFloat.unpackMantissa Format.binary64 x.toModel.toBits.toBitVec = 0#52
        · exact ⟨by rw [hexp]; rfl, by rw [hman]; rfl⟩
        · rw [dif_neg hman] at h
          cases h
      · rw [if_neg hexp] at h
        cases h
  · rintro ⟨hexp, hman⟩
    have hexp' : @UnpackedFloat.unpackExponent Format.binary64
      x.toModel.toBits.toBitVec = 0#11 := BitVec.eq_of_toNat_eq hexp
    have hman' : @UnpackedFloat.unpackMantissa Format.binary64
      x.toModel.toBits.toBitVec = 0#52 := BitVec.eq_of_toNat_eq hman
    rw [hexp', if_neg (by decide), if_pos rfl, dif_pos hman']
    exact ⟨_, rfl⟩

namespace Value

/-- A floating-point number counts as set unless it equals the integer zero. -/
theorem truthy_float (x : Float) : (float x).truthy = !intEqFloat 0 x := by
  have hzero : (x == 0.0) = intEqFloat 0 x := by
    rw [Bool.eq_iff_iff, float_beq_zero_iff, exists_unpack_eq_zero_iff, intEqFloat, beq_iff_eq,
      Decimal.Binary.ofFloat, Decimal.Binary.compareInt_zero_iff]
  rw [truthy, hzero]

/-! ## Switches -/

/-- Whether a value equals a truth value. -/
def IsSwitch (v : Value) : Prop := ∃ b, equal (.flag b) v = true

/-- No value equals both truth values. -/
theorem flag_eq_of_equal {v : Value} {a b : Bool} (ha : equal (.flag a) v = true)
    (hb : equal (.flag b) v = true) : a = b := by
  cases v with
  | flag c =>
      simp only [equal, beq_iff_eq] at ha hb
      rw [ha, hb]
  | int n =>
      simp only [equal, beq_iff_eq] at ha hb
      rw [← hb] at ha
      revert ha
      cases a <;> cases b <;> decide
  | float x =>
      simp only [equal, intEqFloat, beq_iff_eq] at ha hb
      have hsame := Decimal.Binary.int_eq_of_compareInt ha hb
      revert hsame
      cases a <;> cases b <;> decide
  | _ => simp [equal] at ha

/-- A value that equals a truth value counts as set if that does. -/
theorem truthy_of_equal_flag {v : Value} {b : Bool} (h : equal (.flag b) v = true) :
    v.truthy = b := by
  cases v with
  | flag c =>
      simp only [equal, beq_iff_eq] at h
      exact h.symm
  | int n =>
      simp only [equal, beq_iff_eq] at h
      subst h
      cases b <;> rfl
  | float x =>
      rw [truthy_float]
      cases b with
      | false => simpa [equal] using h
      | true =>
          -- what equals one does not equal zero
          rw [Bool.not_eq_true', Bool.eq_false_iff]
          intro hzero
          have hfalse : equal (.flag false) (float x) = true := by
            rw [equal]
            exact hzero
          cases flag_eq_of_equal h hfalse
  | _ => simp [equal] at h

/-- A switch equals the truth value that says whether it counts as set. -/
theorem equal_flag_of_isSwitch {v : Value} (h : v.IsSwitch) (m : Bool) :
    equal (.flag m) v = (m == v.truthy) := by
  obtain ⟨b, hb⟩ := h
  rw [truthy_of_equal_flag hb, Bool.eq_iff_iff, beq_iff_eq]
  constructor
  · exact fun hm => flag_eq_of_equal hm hb
  · rintro rfl
    exact hb

/-- A value that is no switch equals no truth value. -/
theorem equal_flag_of_not_isSwitch {v : Value} (h : ¬ v.IsSwitch) (m : Bool) :
    equal (.flag m) v = false :=
  Bool.eq_false_iff.2 fun hm => h ⟨m, hm⟩

end Value

end ConfigAudit
