/-
# Time that has gone by

The clock is read in seconds as a floating-point number, and the time since an earlier reading is a
rounded difference of two such numbers, which is then compared with a limit.  Rounding can change
how long the time is, but it keeps the sign: if the difference exceeds a positive limit, then the
later reading is the greater one.  The comparison tells nothing if the limit is not a number.

* `Seconds.IsPositive`, `Seconds.Canonical` : unpacked numbers;
* `Seconds.lt_of_isPositive_sub` : a positive difference orders what it is the difference of;
* `Seconds.elapsed_of_late` : what it means to exceed a positive limit;
* `Seconds.late_of_isNaN`, `Seconds.late_of_not_isInf` : limits that are exceeded.
-/
import Mathlib

namespace ConfigAudit

namespace Seconds

open Float.Model
open Float.Model.UnpackedFloat (Sign)

/-! ## Numbers as they are unpacked -/

/-- What the mantissa and the exponent of a finite number can be: only the least exponent goes with
a short mantissa. -/
structure Canonical (m : Nat) (e : Int) : Prop where
  /-- The mantissa has at most 53 bits. -/
  short : m < 2 ^ 53
  /-- The exponent is not below the least one. -/
  least : -1074 ≤ e
  /-- Above the least exponent the mantissa has all of its bits. -/
  full : -1074 < e → 2 ^ 52 ≤ m

/-- An unpacked number that is canonical, if it has a mantissa. -/
def IsCanonical : UnpackedFloat → Prop
  | .finite _ m e _ => Canonical m e
  | _ => True

/-- More than zero, perhaps beyond all bounds. -/
def IsPositive : UnpackedFloat → Prop
  | .finite .positive .. | .infinity .positive => True
  | _ => False

/-- A number that is more than zero is finite or beyond all bounds. -/
theorem eq_of_isPositive {u : UnpackedFloat} (h : IsPositive u) :
    u = .infinity .positive ∨ ∃ m e hm, u = .finite .positive m e hm := by
  cases u with
  | notANumber | zero => exact h.elim
  | infinity s => cases s with
    | positive => exact Or.inl rfl
    | negative => exact h.elim
  | finite s m e hm => cases s with
    | positive => exact Or.inr ⟨m, e, hm, rfl⟩
    | negative => exact h.elim

/-- What is unpacked is canonical. -/
theorem isCanonical_unpack (b : BitVec 64) : IsCanonical (UnpackedFloat.unpack .binary64 b) := by
  unfold UnpackedFloat.unpack
  extract_lets mantissa exponent e signBit sign
  have hmantissa : mantissa.toNat < 2 ^ 52 := mantissa.isLt
  have hbias : e = exponent.toNat - 1075 := rfl
  split
  · split
    · trivial
    · trivial
  · split
    · rename_i hzero
      split
      · trivial
      · -- a subnormal number
        rw [hzero] at hbias
        have he : e = -1075 := hbias
        exact ⟨by omega, by omega, by omega⟩
    · rename_i hnonzero
      -- a normal number, whose leading bit is not stored
      have hpositive : 0 < exponent.toNat := by
        rw [Nat.pos_iff_ne_zero]
        intro h
        exact hnonzero (BitVec.eq_of_toNat_eq h)
      have hfull : (1#1 ++ mantissa).toNat = 2 ^ 52 + mantissa.toNat := by
        rw [BitVec.toNat_append, ← Nat.shiftLeft_add_eq_or_of_lt hmantissa]
        rfl
      exact ⟨by omega, by omega, by omega⟩

/-- The sign of a number that is more than zero. -/
theorem sign_of_isPositive {b : BitVec 64} (h : IsPositive (UnpackedFloat.unpack .binary64 b)) :
    Sign.ofBitVec (@UnpackedFloat.unpackSign .binary64 b) = .positive := by
  unfold UnpackedFloat.unpack at h
  simp only at h
  cases hs : Sign.ofBitVec (@UnpackedFloat.unpackSign .binary64 b) with
  | positive => rfl
  | negative =>
      rw [hs] at h
      split at h
      · split at h <;> exact h.elim
      · split at h
        · split at h <;> exact h.elim
        · exact h.elim

/-- Packing makes no number more than zero. -/
theorem isPositive_of_pack {u : UnpackedFloat}
    (h : IsPositive (UnpackedFloat.unpack .binary64 (UnpackedFloat.pack .binary64 u))) :
    IsPositive u := by
  have hs := sign_of_isPositive h
  cases u with
  | notANumber =>
      rw [UnpackedFloat.pack, UnpackedFloat.unpack_packedNaN] at h
      exact h
  | zero s =>
      rw [UnpackedFloat.pack, UnpackedFloat.unpack_packedZero] at h
      exact h
  | infinity s =>
      rw [UnpackedFloat.pack, UnpackedFloat.packedInfinity,
        UnpackedFloat.unpackSign_packComponents, Sign.ofBitVec_toBitVec] at hs
      rw [hs]
      trivial
  | finite s m e hm =>
      -- all three ways to pack a finite number put its sign in front
      have hsign : s = .positive := by
        rw [UnpackedFloat.pack] at hs
        split at hs
        · rwa [UnpackedFloat.packedInfinity, UnpackedFloat.unpackSign_packComponents,
            Sign.ofBitVec_toBitVec] at hs
        · split at hs
          · rwa [UnpackedFloat.unpackSign_packComponents, Sign.ofBitVec_toBitVec] at hs
          · rwa [UnpackedFloat.unpackSign_packComponents, Sign.ofBitVec_toBitVec] at hs
      rw [hsign]
      trivial

/-- What is packed as a number is unpacked as a number. -/
theorem unpack_pack_ne_notANumber {u : UnpackedFloat} (hu : u ≠ .notANumber) :
    UnpackedFloat.unpack .binary64 (UnpackedFloat.pack .binary64 u) ≠ .notANumber := by
  intro h
  rw [UnpackedFloat.unpack_eq_notANumber_iff_of_valid UnpackedFloat.valid_pack] at h
  have hbits : UnpackedFloat.isNaNBits (UnpackedFloat.pack .binary64 u) = true := by
    rw [h]
    exact UnpackedFloat.isNaNBits_packedNaN
  rw [UnpackedFloat.isNaNBits, decide_eq_true_iff] at hbits
  obtain ⟨hexponent, hmantissa⟩ := hbits
  cases u with
  | notANumber => exact hu rfl
  | infinity s => exact hmantissa UnpackedFloat.unpackMantissa_packComponents
  | zero s => exact hmantissa UnpackedFloat.unpackMantissa_packComponents
  | finite s m e hm =>
      rw [UnpackedFloat.pack] at hexponent hmantissa
      split at hexponent
      · rename_i hover
        rw [if_pos hover] at hmantissa
        exact hmantissa UnpackedFloat.unpackMantissa_packComponents
      · rename_i hfits
        split at hexponent
        · -- an exponent that fits is not the one that is kept for what is no number
          rw [UnpackedFloat.unpackExponent_packComponents] at hexponent
          have htoNat := congrArg BitVec.toNat hexponent
          rw [BitVec.toNat_ofNat, Nat.mod_eq_of_lt (by omega)] at htoNat
          have hones : (-1#11).toNat = 2 ^ 11 - 1 := rfl
          rw [htoNat.trans hones] at hfits
          exact hfits (by decide)
        · rw [UnpackedFloat.unpackExponent_packComponents] at hexponent
          exact absurd hexponent (by decide)

/-! ## Differences -/

/-- Rounding keeps the sign. -/
theorem isPositive_normalize {n e : Int} {s : Sign}
    (h : IsPositive (UnpackedFloat.normalize .binary64 n e s)) : 0 < n := by
  unfold UnpackedFloat.normalize at h
  split at h
  · -- a negative number is rounded to a negative number, or to zero
    unfold UnpackedFloat.round UnpackedFloat.roundWithAccuracy at h
    simp only at h
    split at h <;> exact h.elim
  · exact h.elim
  · rename_i hgt
    exact Int.compare_eq_gt.1 hgt

/-- Rounding gives a number. -/
theorem normalize_ne_notANumber (n e : Int) (s : Sign) :
    UnpackedFloat.normalize .binary64 n e s ≠ .notANumber := by
  have hround : ∀ s n e, UnpackedFloat.round .binary64 s n e ≠ .notANumber := by
    intro s n e
    unfold UnpackedFloat.round UnpackedFloat.roundWithAccuracy
    simp only
    split <;> exact fun h => nomatch h
  unfold UnpackedFloat.normalize
  split
  · exact hround _ _ _
  · exact fun h => nomatch h
  · exact hround _ _ _

/-- Of two canonical numbers over the lesser exponent the smaller one has the lesser exponent, or
the smaller mantissa at the same exponent. -/
theorem compare_of_shiftLeft_lt {m n : Nat} {e f : Int} (hm : Canonical m e) (hn : Canonical n f)
    (h : m <<< (e - min e f).toNat < n <<< (f - min e f).toNat) :
    (compare e f).then (compare m n) = .lt := by
  rw [Ordering.then_eq_lt, Int.compare_eq_lt, Int.compare_eq_eq, Nat.compare_eq_lt]
  rcases Int.lt_trichotomy e f with hlt | heq | hgt
  · exact Or.inl hlt
  · right
    subst heq
    simpa using h
  · -- the mantissa that is shifted is full, and more than twice as long as the other one can be
    exfalso
    have hleast := hn.least
    have hfull : 2 ^ 52 ≤ m := hm.full (by omega)
    obtain ⟨k, hk⟩ : ∃ k, (e - min e f).toNat = k + 1 := ⟨(e - min e f).toNat - 1, by omega⟩
    have hzero : (f - min e f).toNat = 0 := by omega
    rw [hk, hzero, Nat.shiftLeft_zero, Nat.shiftLeft_eq, Nat.pow_succ, ← Nat.mul_assoc] at h
    have hshort := hn.short
    have hle : m ≤ m * 2 ^ k := Nat.le_mul_of_pos_right m (Nat.two_pow_pos k)
    omega

/-- If the difference of two finite numbers other than zero is more than zero, then the second one
is less than the first one. -/
theorem lt_of_isPositive_sub_finite {s s' : Sign} {m n : Nat} {e f : Int} {hm : 0 < m} {hn : 0 < n}
    (hu : Canonical m e) (hv : Canonical n f)
    (h : IsPositive (UnpackedFloat.sub .binary64 (.finite s m e hm) (.finite s' n f hn))) :
    (UnpackedFloat.finite s' n f hn).lt (.finite s m e hm) = true := by
  -- the mantissas over the lesser exponent
  obtain ⟨a, ha⟩ : ∃ a, a = m <<< (e - min e f).toNat := ⟨_, rfl⟩
  obtain ⟨b, hb⟩ : ∃ b, b = n <<< (f - min e f).toNat := ⟨_, rfl⟩
  have hpos : 0 < s.apply a - s'.apply b := by
    rw [ha, hb]
    exact isPositive_normalize h
  cases s with
  | negative => cases s' with
    | negative =>
        have hlt : a < b := by
          have hdiff : 0 < -(a : Int) - -(b : Int) := hpos
          omega
        rw [ha, hb] at hlt
        rw [UnpackedFloat.lt, UnpackedFloat.compare, beq_iff_eq, Option.some_inj,
          Ordering.swap_then, Int.compare_swap, Nat.compare_swap]
        exact compare_of_shiftLeft_lt hu hv hlt
    | positive =>
        have hdiff : 0 < -(a : Int) - (b : Int) := hpos
        omega
  | positive => cases s' with
    | negative => rfl
    | positive =>
        have hlt : b < a := by
          have hdiff : 0 < (a : Int) - (b : Int) := hpos
          omega
        rw [ha, hb, Int.min_comm] at hlt
        rw [UnpackedFloat.lt, UnpackedFloat.compare, beq_iff_eq, Option.some_inj]
        exact compare_of_shiftLeft_lt hv hu hlt

/-- **A positive difference** of two finite numbers shows that the second one is less than the first
one. -/
theorem lt_of_isPositive_sub {u v : UnpackedFloat} (hu : IsCanonical u) (hv : IsCanonical v)
    (fu : u.isFinite = true) (fv : v.isFinite = true)
    (h : IsPositive (UnpackedFloat.sub .binary64 u v)) : v.lt u = true := by
  cases u with
  | notANumber | infinity => cases fu
  | zero s => cases v with
    | notANumber | infinity => cases fv
    | zero s' => cases s <;> cases s' <;> exact h.elim
    | finite s' n f hn => cases s' with
      | positive => exact h.elim
      | negative => rfl
  | finite s m e hm => cases v with
    | notANumber | infinity => cases fv
    | zero s' => cases s with
      | positive => rfl
      | negative => exact h.elim
    | finite s' n f hn => exact lt_of_isPositive_sub_finite hu hv h

/-- The difference of two finite numbers is a number. -/
theorem sub_ne_notANumber {u v : UnpackedFloat} (fu : u.isFinite = true) (fv : v.isFinite = true) :
    UnpackedFloat.sub .binary64 u v ≠ .notANumber := by
  cases u with
  | notANumber | infinity => cases fu
  | zero s => cases v with
    | notANumber | infinity => cases fv
    | zero s' => cases s <;> cases s' <;> exact fun h => nomatch h
    | finite s' n f hn => exact fun h => nomatch h
  | finite s m e hm => cases v with
    | notANumber | infinity => cases fv
    | zero s' => exact fun h => nomatch h
    | finite s' n f hn => exact normalize_ne_notANumber _ _ _

/-! ## Limits -/

/-- A number that exceeds a positive limit is more than zero, and the limit is less than it. -/
theorem lt_of_not_le {u v : UnpackedFloat} (hu : u ≠ .notANumber) (hv : IsPositive v)
    (h : u.le v = false) : IsPositive u ∧ v.lt u = true := by
  rcases eq_of_isPositive hv with rfl | ⟨n, f, hn, rfl⟩
  · -- nothing exceeds a limit beyond all bounds
    cases u with
    | notANumber => exact absurd rfl hu
    | zero => cases h
    | infinity s | finite s => cases s <;> cases h
  · cases u with
    | notANumber => exact absurd rfl hu
    | zero => cases h
    | infinity s => cases s with
      | positive => exact ⟨trivial, rfl⟩
      | negative => cases h
    | finite s m e hm => cases s with
      | negative => cases h
      | positive =>
          refine ⟨trivial, ?_⟩
          have hgt : (compare e f).then (compare m n) = .gt := by
            rwa [UnpackedFloat.le, UnpackedFloat.compare, Option.any_some,
              Ordering.isLE_eq_false] at h
          rw [UnpackedFloat.lt, UnpackedFloat.compare, beq_iff_eq, Option.some_inj,
            ← Int.compare_swap, ← Nat.compare_swap, ← Ordering.swap_then, hgt]
          rfl

variable {begun now limit : Float}

/-- One number is at most another one if it is so unpacked. -/
theorem le_iff {x y : Float} : x ≤ y ↔ x.toModel.unpack.le y.toModel.unpack = true :=
  decide_eq_true_iff

/-- One number is less than another one if it is so unpacked. -/
theorem lt_iff {x y : Float} : x < y ↔ x.toModel.unpack.lt y.toModel.unpack = true :=
  decide_eq_true_iff

/-- A number is more than zero if it is so unpacked. -/
theorem zero_lt_iff {x : Float} : 0.0 < x ↔ IsPositive x.toModel.unpack := by
  have hzero : (0.0 : Float).toModel.unpack = .zero .positive := rfl
  rw [lt_iff, hzero]
  cases x.toModel.unpack with
  | notANumber | zero => exact ⟨(fun h => nomatch h), False.elim⟩
  | infinity s | finite s => cases s with
    | positive => exact ⟨fun _ => trivial, fun _ => rfl⟩
    | negative => exact ⟨(fun h => nomatch h), False.elim⟩

/-- What is not at most zero is more than zero, unless it is not a number. -/
theorem zero_lt_iff_of_not_le {x : Float} (h : ¬ x ≤ 0.0) : 0.0 < x ↔ x.isNaN = false := by
  have hzero : (0.0 : Float).toModel.unpack = .zero .positive := rfl
  have hnan : x.isNaN = x.toModel.unpack.isNaN := rfl
  rw [le_iff, hzero] at h
  rw [zero_lt_iff, hnan]
  cases hx : x.toModel.unpack with
  | notANumber => exact ⟨False.elim, fun h => nomatch h⟩
  | zero s =>
      rw [hx] at h
      exact absurd rfl h
  | infinity s | finite s =>
      rw [hx] at h
      cases s with
      | positive => exact ⟨fun _ => rfl, fun _ => trivial⟩
      | negative => exact absurd rfl h

/-- **To exceed a positive limit** takes a later reading of the clock. -/
theorem elapsed_of_late (hb : begun.isFinite = true) (hn : now.isFinite = true)
    (positive : 0.0 < limit) (late : ¬ now - begun ≤ limit) :
    limit < now - begun ∧ begun < now := by
  rw [le_iff, Bool.not_eq_true] at late
  rw [zero_lt_iff] at positive
  have hnumber : (now - begun).toModel.unpack ≠ .notANumber :=
    unpack_pack_ne_notANumber (sub_ne_notANumber hn hb)
  obtain ⟨hpositive, hlt⟩ := lt_of_not_le hnumber positive late
  refine ⟨lt_iff.2 hlt, lt_iff.2 ?_⟩
  exact lt_of_isPositive_sub (isCanonical_unpack _) (isCanonical_unpack _) hn hb
    (isPositive_of_pack hpositive)

/-- Any time exceeds a limit that is not a number. -/
theorem late_of_isNaN (h : limit.isNaN = true) (begun now : Float) : ¬ now - begun ≤ limit := by
  have hnan : limit.toModel.unpack = .notANumber := UnpackedFloat.isNaN_iff.1 h
  rw [le_iff, hnan, Bool.not_eq_true]
  cases (now - begun).toModel.unpack with
  | notANumber | zero => rfl
  | infinity s | finite s => cases s <;> rfl

/-- The least number of seconds that a clock can read. -/
def earliest : Float := -1.7976931348623157e308

/-- The greatest number of seconds that a clock can read. -/
def latest : Float := 1.7976931348623157e308

/-- The ends of the range of a clock are finite. -/
theorem isFinite_ends : earliest.isFinite = true ∧ latest.isFinite = true := by
  decide +kernel

/-- The whole range of a clock exceeds each limit that is not beyond all bounds. -/
theorem late_of_not_isInf (h : limit.isInf = false) : ¬ latest - earliest ≤ limit := by
  -- the difference is rounded to what is beyond all bounds
  have hsub : latest - earliest = 1.0 / 0.0 := by decide +kernel
  have hinf : (1.0 / 0.0 : Float).toModel.unpack = .infinity .positive := rfl
  have hisInf : limit.isInf = limit.toModel.unpack.isInf := rfl
  rw [hisInf] at h
  rw [hsub, le_iff, hinf, Bool.not_eq_true]
  cases hlimit : limit.toModel.unpack with
  | notANumber | zero => rfl
  | infinity s =>
      rw [hlimit] at h
      cases h
  | finite s => cases s <;> rfl

end Seconds

end ConfigAudit
