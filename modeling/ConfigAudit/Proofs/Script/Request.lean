/-
# When a script can be run

A script is run by a call of its interpreter, which is fed the script, the device and the time
limit in milliseconds.  The call can be made if the script and the device can be written, and if
the limit is a finite number of milliseconds.

* `Json.Writable` : what has a written form;
* `Value.writable_of_integerOfFloat` : the integral part of a number is not too long to be written;
* `Sandbox.exists_checkCall_iff` : when the call can be made.
-/
import Mathlib.Algebra.Order.Group.Nat
import ConfigAudit.Proofs.Chain
import ConfigAudit.Script.Sandbox

namespace ConfigAudit

/-! ## Written forms -/

namespace Json

/-- Whether a value has a written form. -/
def Writable (v : Value) : Prop := ∃ w, write v = .ok w

/-- A list can be written if its members can. -/
theorem writable_list_iff {xs : List Value} : Writable (.list xs) ↔ ∀ x ∈ xs, Writable x := by
  have hall : (∃ ws, writeAll xs = .ok ws) ↔ ∀ x ∈ xs, Writable x := by
    induction xs with
    | nil => exact iff_of_true ⟨[], rfl⟩ nofun
    | cons x xs ih =>
        rw [writeAll, List.forall_mem_cons, ← ih]
        constructor
        · rintro ⟨ws, h⟩
          obtain ⟨w, hw, hrest⟩ := bind_eq_ok_iff.1 h
          obtain ⟨others, hothers, _⟩ := bind_eq_ok_iff.1 hrest
          exact ⟨⟨w, hw⟩, ⟨others, hothers⟩⟩
        · rintro ⟨⟨w, hw⟩, ⟨others, hothers⟩⟩
          exact ⟨_, bind_eq_ok_iff.2 ⟨w, hw, bind_eq_ok_iff.2 ⟨others, hothers, rfl⟩⟩⟩
  rw [← hall]
  constructor
  · rintro ⟨w, h⟩
    rw [write] at h
    obtain ⟨ws, hws, _⟩ := bind_eq_ok_iff.1 h
    exact ⟨ws, hws⟩
  · rintro ⟨ws, hws⟩
    refine ⟨enclose "[" "]" ws, ?_⟩
    rw [write]
    exact bind_eq_ok_iff.2 ⟨ws, hws, rfl⟩

/-- Two values together can be written if both can. -/
theorem writable_pair_iff {a b : Value} : Writable (.pair a b) ↔ Writable a ∧ Writable b := by
  constructor
  · rintro ⟨w, h⟩
    rw [write] at h
    obtain ⟨x, hx, hrest⟩ := bind_eq_ok_iff.1 h
    obtain ⟨y, hy, _⟩ := bind_eq_ok_iff.1 hrest
    exact ⟨⟨x, hx⟩, ⟨y, hy⟩⟩
  · rintro ⟨⟨x, hx⟩, ⟨y, hy⟩⟩
    refine ⟨enclose "[" "]" [x, y], ?_⟩
    rw [write]
    exact bind_eq_ok_iff.2 ⟨x, hx, bind_eq_ok_iff.2 ⟨y, hy, rfl⟩⟩

/-- A table can be written if its keys can be written as keys, and its values as values. -/
theorem writable_table_iff {es : List (Value × Value)} :
    Writable (.table es) ↔ ∀ e ∈ es, (∃ w, writeKey e.1 = .ok w) ∧ Writable e.2 := by
  have hall : (∃ ws, writeEntries es = .ok ws) ↔
      ∀ e ∈ es, (∃ w, writeKey e.1 = .ok w) ∧ Writable e.2 := by
    induction es with
    | nil => exact iff_of_true ⟨[], rfl⟩ nofun
    | cons e es ih =>
        rw [writeEntries, List.forall_mem_cons, ← ih]
        constructor
        · rintro ⟨ws, h⟩
          obtain ⟨key, hkey, hrest⟩ := bind_eq_ok_iff.1 h
          obtain ⟨w, hw, hrest⟩ := bind_eq_ok_iff.1 hrest
          obtain ⟨others, hothers, _⟩ := bind_eq_ok_iff.1 hrest
          exact ⟨⟨⟨key, hkey⟩, ⟨w, hw⟩⟩, ⟨others, hothers⟩⟩
        · rintro ⟨⟨⟨key, hkey⟩, ⟨w, hw⟩⟩, ⟨others, hothers⟩⟩
          exact ⟨_, bind_eq_ok_iff.2 ⟨key, hkey, bind_eq_ok_iff.2 ⟨w, hw,
            bind_eq_ok_iff.2 ⟨others, hothers, rfl⟩⟩⟩⟩
  rw [← hall]
  constructor
  · rintro ⟨w, h⟩
    rw [write] at h
    obtain ⟨ws, hws, _⟩ := bind_eq_ok_iff.1 h
    exact ⟨ws, hws⟩
  · rintro ⟨ws, hws⟩
    refine ⟨enclose "\x7b" "\x7d" ws, ?_⟩
    rw [write]
    exact bind_eq_ok_iff.2 ⟨ws, hws, rfl⟩

/-- A record can be written if its fields can. -/
theorem writable_record_iff (fields : List (String × Value)) :
    Writable (.record fields) ↔ ∀ f ∈ fields, Writable f.2 := by
  rw [Value.record, writable_table_iff, List.forall_mem_map]
  constructor
  · intro h f hf
    exact (h f hf).2
  · intro h f hf
    exact ⟨⟨_, rfl⟩, h f hf⟩

/-- Texts can be written. -/
theorem writable_text (s : String) : Writable (.text s) := ⟨_, rfl⟩

/-- Lists of texts can be written. -/
theorem writable_texts (ss : List String) : Writable (.list (ss.map .text)) := by
  rw [writable_list_iff, List.forall_mem_map]
  exact fun s _ => writable_text s

/-- Integers can be written if they do not have too many digits. -/
theorem writable_int {n : Int} {k : Nat} (bound : n.natAbs < 2 ^ k)
    (small : k ≤ Decimal.digitLimit) : Writable (.int n) := by
  have hlength : (Nat.toDigits 10 n.natAbs).length ≤ Decimal.digitLimit := by
    refine (Nat.length_toDigits_le_iff (by decide) (by decide)).2 ?_
    calc n.natAbs < 2 ^ k := bound
      _ ≤ 10 ^ k := Nat.pow_le_pow_left (by decide) k
      _ ≤ 10 ^ Decimal.digitLimit := Nat.pow_le_pow_right (by decide) small
  refine ⟨toString n, ?_⟩
  rw [write, writeInteger, if_pos (Value.isShort_iff.2 hlength)]

end Json

/-! ## Milliseconds -/

namespace Decimal.Binary

/-- The parts of a finite number are bounded. -/
theorem bounds_of_ofBits {bits : UInt64} {negative : Bool} {m : Nat} {e : Int}
    (h : ofBits bits = .finite negative m e) : m < 2 ^ 53 ∧ e ≤ 971 := by
  unfold ofBits at h
  simp only [beq_iff_eq] at h
  split at h
  · split at h <;> cases h
  · rename_i hinfinite
    split at h
    · cases h
      exact ⟨by omega, by decide⟩
    · cases h
      constructor <;> omega

/-- The integral part of a number is bounded by the parts. -/
theorem magnitudeFloor_lt {m a b : Nat} {e : Int} (hm : m < 2 ^ a) (he : e ≤ b) :
    magnitudeFloor m e < 2 ^ (a + b) := by
  unfold magnitudeFloor
  split
  · have hpow : 2 ^ e.toNat ≤ 2 ^ b := Nat.pow_le_pow_right (by decide) (by omega)
    calc m * 2 ^ e.toNat < 2 ^ a * 2 ^ b := Nat.mul_lt_mul_of_lt_of_le hm hpow (Nat.two_pow_pos b)
      _ = 2 ^ (a + b) := (Nat.pow_add 2 a b).symm
  · calc m / 2 ^ (-e).toNat ≤ m := Nat.div_le_self m _
      _ < 2 ^ a := hm
      _ ≤ 2 ^ (a + b) := Nat.pow_le_pow_right (by decide) (Nat.le_add_right a b)

end Decimal.Binary

namespace Value

variable {x : Float}

/-- Whether a number is finite. -/
def IsFinite (x : Float) : Prop :=
  ∃ negative m e, Decimal.Binary.ofFloat x = .finite negative m e

/-- Finite numbers have an integral part, and no others do. -/
theorem exists_integerOfFloat_iff : (∃ n, integerOfFloat x = .ok n) ↔ IsFinite x := by
  unfold integerOfFloat IsFinite
  cases Decimal.Binary.ofFloat x with
  | nan => simp
  | infinite negative => simp
  | finite negative m e => simp [Decimal.Binary.truncate?]

/-- The integral part of a number can be written. -/
theorem writable_of_integerOfFloat {n : Int} (h : integerOfFloat x = .ok n) :
    Json.Writable (.int n) := by
  obtain ⟨negative, m, e, hx⟩ := exists_integerOfFloat_iff.1 ⟨n, h⟩
  obtain ⟨hm, he⟩ := Decimal.Binary.bounds_of_ofBits hx
  rw [integerOfFloat, hx] at h
  have habs : n.natAbs = Decimal.Binary.magnitudeFloor m e := by
    cases h
    cases negative <;> simp
  have hbound := Decimal.Binary.magnitudeFloor_lt (b := 971) hm he
  rw [← habs] at hbound
  exact Json.writable_int hbound (by decide)

end Value

/-! ## Calls -/

namespace Sandbox

/-- **When a script can be run.**  The call that runs a script on a device can be made if the
script and the device can be written, and the limit is a finite number of milliseconds. -/
theorem exists_checkCall_iff (s : Sandbox) (script device : Value) :
    (∃ i, s.checkCall script device = .ok i) ↔
      Value.IsFinite (s.timeout * 1000) ∧ Json.Writable script ∧ Json.Writable device := by
  have hextra : ∀ f ∈ s.extraFields, Json.Writable f.2 := by
    unfold extraFields
    cases s.language with
    | python =>
        intro f hf
        cases List.mem_singleton.1 hf
        exact Json.writable_texts allowedModules
    | javascript => exact nofun
  -- once there is a limit, only the script and the device can keep the request from being written
  have hrequest : ∀ limit : Int, Value.integerOfFloat (s.timeout * 1000) = .ok limit →
      (Json.Writable (.record ([("mode", .text "check"), ("script", script), ("device", device),
        ("timeout_ms", .int limit)] ++ s.extraFields)) ↔
          Json.Writable script ∧ Json.Writable device) := by
    intro limit hlimit
    rw [Json.writable_record_iff, List.forall_mem_append]
    simp only [List.forall_mem_cons]
    constructor
    · rintro ⟨⟨_, hscript, hdevice, _⟩, _⟩
      exact ⟨hscript, hdevice⟩
    · rintro ⟨hscript, hdevice⟩
      exact ⟨⟨Json.writable_text _, hscript, hdevice, Value.writable_of_integerOfFloat hlimit,
        nofun⟩, hextra⟩
  rw [← Value.exists_integerOfFloat_iff]
  unfold checkCall call
  constructor
  · rintro ⟨i, h⟩
    obtain ⟨limit, hlimit, hcall⟩ := bind_eq_ok_iff.1 h
    obtain ⟨w, hw, _⟩ := bind_eq_ok_iff.1 hcall
    exact ⟨⟨limit, hlimit⟩, (hrequest limit hlimit).1 ⟨w, hw⟩⟩
  · rintro ⟨⟨limit, hlimit⟩, hwritable⟩
    obtain ⟨w, hw⟩ := (hrequest limit hlimit).2 hwritable
    exact ⟨_, bind_eq_ok_iff.2 ⟨limit, hlimit, bind_eq_ok_iff.2 ⟨w, hw, rfl⟩⟩⟩

end Sandbox

end ConfigAudit
