/-
# What can be sorted

Values are sorted by comparing them with each other, and most values can only be compared with
others of their own order: numbers with numbers, texts with texts, days with days.  Values of one
order are always sorted, and of several other values only pairs are.

* `Value.Order`, `Value.order?` : the orders of values;
* `Value.exists_less_iff` : which values can be compared;
* `Value.exists_sorted_iff` : which values can be sorted.
-/
import ConfigAudit.Proofs.Chain
import ConfigAudit.Value.Convert

namespace ConfigAudit

namespace Value

/-! ## Orders -/

/-- The orders of values. -/
inductive Order where
  /-- Numbers and truth values. -/
  | number
  /-- Texts. -/
  | text
  /-- Bytes. -/
  | bytes
  /-- Days. -/
  | date
  /-- Moments whose offset is known. -/
  | instant
  /-- Moments whose offset is not known. -/
  | clock
  deriving DecidableEq

/-- The order that a value belongs to, if there is one. -/
def order? : Value → Option Order
  | flag _ | int _ | float _ => some .number
  | text _ | outcome _ => some .text
  | bytes _ => some .bytes
  | date _ => some .date
  | moment m => some (if m.offset.isSome then .instant else .clock)
  | null | list _ | pair _ _ | set _ | table _ => none

/-- A value consists of two values. -/
def IsPair (v : Value) : Prop := ∃ a b, v = pair a b

/-- Texts are of the order of texts. -/
theorem order?_of_asText? {v : Value} {s : String} (h : v.asText? = some s) :
    v.order? = some .text := by
  cases v with
  | text | outcome => rfl
  | _ => cases h

/-- Integers and truth values are of the order of numbers. -/
theorem order?_of_asInt? {v : Value} {n : Int} (h : v.asInt? = some n) :
    v.order? = some .number := by
  cases v with
  | flag | int => rfl
  | _ => cases h

/-- What the values of an order look like. -/
theorem shape_of_order? {v : Value} {k : Order} (h : v.order? = some k) :
    match k with
    | .number => (∃ n, v.asInt? = some n) ∨ ∃ x, v = float x
    | .text => ∃ s, v.asText? = some s
    | .bytes => ∃ bs, v = bytes bs
    | .date => ∃ d, v = date d
    | .instant | .clock => ∃ m, v = moment m := by
  cases v with
  | flag | int =>
      cases h
      exact Or.inl ⟨_, rfl⟩
  | float x =>
      cases h
      exact Or.inr ⟨x, rfl⟩
  | text | outcome | bytes | date =>
      cases h
      exact ⟨_, rfl⟩
  | moment m =>
      cases ho : m.offset with
      | none =>
          rw [order?, ho] at h
          cases h
          exact ⟨m, rfl⟩
      | some o =>
          rw [order?, ho] at h
          cases h
          exact ⟨m, rfl⟩
  | null | list | pair | set | table => cases h

/-- Moments are of one order if their offsets are both known, or both not. -/
theorem order?_moment_iff {m n : Moment} :
    (∃ k, (moment m).order? = some k ∧ (moment n).order? = some k) ↔
      m.offset.isSome = n.offset.isSome := by
  cases hm : m.offset <;> cases hn : n.offset <;> simp [order?, hm, hn]

/-- Values that are not both pairs can be compared if they are of one order. -/
theorem exists_less_iff {a b : Value} (apart : ¬ (a.IsPair ∧ b.IsPair)) :
    (∃ r, less a b = .ok r) ↔ ∃ k, a.order? = some k ∧ b.order? = some k := by
  fun_cases less a b with
  | case1 | case6 | case7 => exact iff_of_true ⟨_, rfl⟩ ⟨_, rfl, rfl⟩
  | case2 =>
      rename_i n _ hn
      exact iff_of_true ⟨_, rfl⟩ ⟨_, rfl, order?_of_asInt? hn⟩
  | case4 =>
      rename_i n _ hn
      exact iff_of_true ⟨_, rfl⟩ ⟨_, order?_of_asInt? hn, rfl⟩
  | case3 =>
      rename_i hfloat hint
      refine iff_of_false nofun ?_
      rintro ⟨k, ha, hb⟩
      cases ha
      rcases shape_of_order? hb with ⟨n, hn⟩ | ⟨y, hy⟩
      · cases hint.symm.trans hn
      · exact hfloat y hy
  | case5 =>
      rename_i hfloat hint
      refine iff_of_false nofun ?_
      rintro ⟨k, ha, hb⟩
      cases hb
      rcases shape_of_order? ha with ⟨n, hn⟩ | ⟨x, hx⟩
      · cases hint.symm.trans hn
      · exact hfloat x hx
  | case8 =>
      rename_i h
      exact iff_of_true ⟨_, rfl⟩ (order?_moment_iff.2 (beq_iff_eq.1 h))
  | case9 =>
      rename_i h
      exact iff_of_false nofun fun hk => h (beq_iff_eq.2 (order?_moment_iff.1 hk))
  | case10 =>
      refine iff_of_false nofun ?_
      rintro ⟨k, ha, hb⟩
      cases ha
      obtain ⟨d, hd⟩ := shape_of_order? hb
      cases hd
  | case11 =>
      refine iff_of_false nofun ?_
      rintro ⟨k, ha, hb⟩
      cases hb
      obtain ⟨d, hd⟩ := shape_of_order? ha
      cases hd
  | case12 | case13 | case14 => exact absurd ⟨⟨_, _, rfl⟩, ⟨_, _, rfl⟩⟩ apart
  | case15 =>
      rename_i hs _ ht _ _ _ _ _ _ _
      exact iff_of_true ⟨_, rfl⟩ ⟨_, order?_of_asText? hs, order?_of_asText? ht⟩
  | case16 =>
      rename_i hn _ hm _ _ _ _ _ _ _ _
      exact iff_of_true ⟨_, rfl⟩ ⟨_, order?_of_asInt? hn, order?_of_asInt? hm⟩
  | case17 =>
      rename_i hfloat hfloat' _ hbytes hdate hmoment _ _ _ htext hint
      refine iff_of_false nofun ?_
      rintro ⟨k, ha, hb⟩
      have hva := shape_of_order? ha
      have hvb := shape_of_order? hb
      cases k with
      | number =>
          rcases hva with ⟨n, hn⟩ | ⟨x, hx⟩
          · rcases hvb with ⟨m, hm⟩ | ⟨y, hy⟩
            · exact hint n m hn hm
            · exact hfloat' y hy
          · exact hfloat x hx
      | text =>
          obtain ⟨s, hs⟩ := hva
          obtain ⟨t, ht⟩ := hvb
          exact htext s t hs ht
      | bytes =>
          obtain ⟨x, hx⟩ := hva
          obtain ⟨y, hy⟩ := hvb
          exact hbytes x y hx hy
      | date =>
          obtain ⟨x, hx⟩ := hva
          obtain ⟨y, hy⟩ := hvb
          exact hdate x y hx hy
      | instant | clock =>
          obtain ⟨x, hx⟩ := hva
          obtain ⟨y, hy⟩ := hvb
          exact hmoment x y hx hy

/-- Values of an order are no pairs. -/
theorem not_isPair_of_order? {v : Value} {k : Order} (h : v.order? = some k) : ¬ v.IsPair := by
  rintro ⟨a, b, rfl⟩
  cases h

/-- A value can be compared with one of an order exactly if it is of the order, too. -/
theorem exists_less_iff_order? {a b : Value} {k : Order} (hb : b.order? = some k) :
    (∃ r, less a b = .ok r) ↔ a.order? = some k := by
  have hapart : ¬ (a.IsPair ∧ b.IsPair) := fun h => not_isPair_of_order? hb h.2
  rw [exists_less_iff hapart]
  constructor
  · rintro ⟨k', ha, hb'⟩
    cases hb.symm.trans hb'
    exact ha
  · intro ha
    exact ⟨k, ha, hb⟩

/-! ## Sorting -/

section Sorting

variable {x : Value} {xs ys zs : List Value} {k : Order}

/-- Inserting a value keeps it and all others. -/
theorem insertDown_perm (h : insertDown x ys = .ok zs) : zs.Perm (x :: ys) := by
  induction ys generalizing zs with
  | nil =>
      cases h
      exact .refl _
  | cons y ys ih =>
      obtain ⟨b, _, hrest⟩ := bind_eq_ok_iff.1 h
      cases b with
      | false =>
          cases hrest
          exact .refl _
      | true =>
          obtain ⟨others, hothers, hzs⟩ := bind_eq_ok_iff.1 hrest
          cases hzs
          exact ((ih hothers).cons y).trans (.swap x y ys)

/-- A value that is inserted before another one has been compared with it. -/
theorem exists_less_of_insertDown {y : Value} (h : insertDown x (y :: ys) = .ok zs) :
    ∃ r, less x y = .ok r := by
  obtain ⟨b, hb, _⟩ := bind_eq_ok_iff.1 h
  exact ⟨b, hb⟩

/-- All values belong to an order. -/
def Alike (k : Order) (xs : List Value) : Prop := ∀ x ∈ xs, x.order? = some k

/-- A value is inserted among values of its order. -/
theorem exists_insertDown (hx : x.order? = some k) (hys : Alike k ys) :
    ∃ zs, insertDown x ys = .ok zs := by
  induction ys with
  | nil => exact ⟨[x], rfl⟩
  | cons y ys ih =>
      obtain ⟨hy, hrest⟩ := List.forall_mem_cons.1 hys
      obtain ⟨b, hb⟩ := (exists_less_iff_order? hy).2 hx
      cases b with
      | false => exact ⟨_, bind_eq_ok_iff.2 ⟨false, hb, rfl⟩⟩
      | true =>
          obtain ⟨zs, hzs⟩ := ih hrest
          exact ⟨_, bind_eq_ok_iff.2 ⟨true, hb, bind_eq_ok_iff.2 ⟨zs, hzs, rfl⟩⟩⟩

/-- Values are inserted one after the other among values of an order if they are all of it. -/
theorem exists_foldlM_insertDown_iff {acc : List Value} (filled : acc ≠ []) (hacc : Alike k acc) :
    (∃ zs, xs.foldlM (fun acc x => insertDown x acc) acc = .ok zs) ↔ Alike k xs := by
  induction xs generalizing acc with
  | nil => exact iff_of_true ⟨acc, rfl⟩ nofun
  | cons x xs ih =>
      have hstep : ∀ next, insertDown x acc = .ok next → x.order? = some k →
          next ≠ [] ∧ Alike k next := by
        intro next hnext hx
        have hperm := insertDown_perm hnext
        refine ⟨fun hnil => ?_, fun z hz => ?_⟩
        · rw [hnil] at hperm
          cases hperm.symm.eq_nil
        · rcases List.mem_cons.1 (hperm.mem_iff.1 hz) with rfl | hz
          · exact hx
          · exact hacc z hz
      rw [Alike, List.forall_mem_cons]
      constructor
      · rintro ⟨zs, hzs⟩
        obtain ⟨next, hnext, hrest⟩ := bind_eq_ok_iff.1 hzs
        have hx : x.order? = some k := by
          cases acc with
          | nil => exact absurd rfl filled
          | cons y ys =>
              have hy := (List.forall_mem_cons.1 hacc).1
              exact (exists_less_iff_order? hy).1 (exists_less_of_insertDown hnext)
        obtain ⟨hfilled, halike⟩ := hstep next hnext hx
        exact ⟨hx, (ih hfilled halike).1 ⟨zs, hrest⟩⟩
      · rintro ⟨hx, hxs⟩
        obtain ⟨next, hnext⟩ := exists_insertDown hx hacc
        obtain ⟨hfilled, halike⟩ := hstep next hnext hx
        obtain ⟨zs, hzs⟩ := (ih hfilled halike).2 hxs
        exact ⟨zs, bind_eq_ok_iff.2 ⟨next, hnext, hzs⟩⟩

/-- Sorting comes to its end if inserting does. -/
theorem exists_sorted_iff_foldlM :
    (∃ ys, sorted xs = .ok ys) ↔
      ∃ zs, xs.foldlM (fun acc x => insertDown x acc) [] = .ok zs := by
  constructor
  · rintro ⟨ys, hys⟩
    obtain ⟨zs, hzs, _⟩ := bind_eq_ok_iff.1 hys
    exact ⟨zs, hzs⟩
  · rintro ⟨zs, hzs⟩
    exact ⟨zs.reverse, bind_eq_ok_iff.2 ⟨zs, hzs, rfl⟩⟩

/-- Values that can be sorted: at most one of them, values of one order, or pairs among others that
are found to be in order. -/
inductive Orderable (xs : List Value) : Prop
  /-- There is nothing to compare. -/
  | few (few : xs.length ≤ 1)
  /-- They are of one order. -/
  | alike {k : Order} (alike : Alike k xs)
  /-- There is a pair. -/
  | pairs {x : Value} (mem : x ∈ xs) (pair : x.IsPair) (sorted : ∃ ys, sorted xs = .ok ys)

/-- Several values of which the first is of an order are sorted if they all are of it. -/
theorem exists_sorted_cons_iff (hx : x.order? = some k) :
    (∃ ys, sorted (x :: xs) = .ok ys) ↔ Alike k xs := by
  have hfirst : Alike k [x] := by
    intro z hz
    rw [List.mem_singleton.1 hz]
    exact hx
  rw [exists_sorted_iff_foldlM]
  exact exists_foldlM_insertDown_iff (List.cons_ne_nil x []) hfirst

/-- **What can be sorted.**  Values are sorted exactly if there is nothing to compare, if they are
all of one order, or if there are pairs among them and no comparison fails. -/
theorem exists_sorted_iff : (∃ ys, sorted xs = .ok ys) ↔ Orderable xs := by
  constructor
  · intro h
    by_cases hpair : ∃ x ∈ xs, x.IsPair
    · obtain ⟨x, hx, hpair⟩ := hpair
      exact .pairs hx hpair h
    · rcases xs with _ | ⟨x, _ | ⟨y, xs⟩⟩
      · exact .few (Nat.zero_le 1)
      · exact .few (Nat.le_refl 1)
      · -- the second value has been compared with the first one
        obtain ⟨zs, hzs⟩ := exists_sorted_iff_foldlM.1 h
        obtain ⟨next, hnext, _⟩ := bind_eq_ok_iff.1 (show
          (insertDown y [x] >>= fun acc => xs.foldlM (fun acc x => insertDown x acc) acc) = .ok zs
          from hzs)
        have hapart : ¬ (y.IsPair ∧ x.IsPair) :=
          fun hboth => hpair ⟨y, List.mem_cons_of_mem x List.mem_cons_self, hboth.1⟩
        obtain ⟨k, _, hx⟩ := (exists_less_iff hapart).1 (exists_less_of_insertDown hnext)
        exact .alike (List.forall_mem_cons.2 ⟨hx, (exists_sorted_cons_iff hx).1 h⟩)
  · rintro (few | alike | ⟨_, _, sorted⟩)
    · rcases xs with _ | ⟨x, _ | ⟨y, xs⟩⟩
      · exact ⟨[], rfl⟩
      · exact ⟨[x], rfl⟩
      · simp at few
    · cases xs with
      | nil => exact ⟨[], rfl⟩
      | cons x xs =>
          obtain ⟨hx, hxs⟩ := List.forall_mem_cons.1 alike
          exact (exists_sorted_cons_iff hx).2 hxs
    · exact sorted

/-- Values that are inserted one after the other are all kept. -/
theorem foldlM_insertDown_perm {acc : List Value}
    (h : xs.foldlM (fun acc x => insertDown x acc) acc = .ok zs) : zs.Perm (xs ++ acc) := by
  induction xs generalizing acc with
  | nil =>
      cases h
      exact .refl _
  | cons x xs ih =>
      obtain ⟨next, hnext, hrest⟩ := bind_eq_ok_iff.1 h
      have hinsert : (xs ++ next).Perm (xs ++ x :: acc) := (insertDown_perm hnext).append_left xs
      exact ((ih hrest).trans hinsert).trans List.perm_middle

/-- Sorting keeps all values. -/
theorem sorted_perm (h : sorted xs = .ok ys) : ys.Perm xs := by
  obtain ⟨zs, hzs, hys⟩ := bind_eq_ok_iff.1 h
  cases hys
  have hperm := foldlM_insertDown_perm hzs
  rw [List.append_nil] at hperm
  exact zs.reverse_perm.trans hperm

end Sorting

end Value

end ConfigAudit
