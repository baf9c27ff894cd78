/-
# Collections of texts

Texts can be keys, and every two of them can be compared.  So the distinct ones among them can
always be found, and they can always be sorted.

* `Value.lookup_put_text`, `Value.mem_put_text` : tables under texts;
* `Value.memberSet_of_isText`, `Value.memberSet_texts` : sets of texts;
* `Value.sorted_of_isText`, `Value.sorted_texts` : texts in order.
-/
import Mathlib.Data.List.Perm.Basic
import Mathlib.Data.List.Nodup
import ConfigAudit.Proofs.Value.Sorted

namespace ConfigAudit

namespace Value

/-- Values that are texts are a list of texts. -/
theorem exists_map_text {vs : List Value} (h : ∀ v ∈ vs, ∃ t, v = text t) :
    ∃ ts : List String, vs = ts.map text := by
  induction vs with
  | nil => exact ⟨[], rfl⟩
  | cons v vs ih =>
      obtain ⟨⟨t, rfl⟩, hvs⟩ := List.forall_mem_cons.1 h
      obtain ⟨ts, rfl⟩ := ih hvs
      exact ⟨t :: ts, rfl⟩

/-- Plain texts are texts. -/
theorem isText_of_mem_map (ts : List String) : ∀ x ∈ ts.map text, x.isText = true := by
  intro x hx
  obtain ⟨t, _, rfl⟩ := List.mem_map.1 hx
  rfl

/-! ## Tables -/

/-- What has been put under a text is found under it. -/
theorem lookup_put_text (name : String) (v : Value) (es : List (Value × Value)) :
    lookup (text name) (put (text name) v es) = some v := by
  induction es with
  | nil => simp [put, lookup]
  | cons e es ih =>
      rw [put]
      split
      · rename_i hkey
        rw [lookup, if_pos hkey]
      · rename_i hkey
        rw [lookup, if_neg hkey, ih]

/-- What is found under another text stays the same. -/
theorem lookup_put_text_ne {name other : String} (hne : other ≠ name) (v : Value)
    {es : List (Value × Value)} (keys : ∀ e ∈ es, ∃ k, e.1 = text k) :
    lookup (text other) (put (text name) v es) = lookup (text other) es := by
  induction es with
  | nil => simp [put, lookup, hne.symm]
  | cons e es ih =>
      obtain ⟨⟨k, hk⟩, hes⟩ := List.forall_mem_cons.1 keys
      rw [put]
      split
      · rename_i hkey
        rw [hk, equal_text, beq_iff_eq] at hkey
        have hother : ¬ equal e.1 (text other) = true := by
          rw [hk, equal_text, beq_iff_eq, hkey]
          exact hne.symm
        rw [lookup, lookup, if_neg hother, if_neg hother]
      · rw [lookup, lookup, ih hes]

/-- The keys of a table are those that were there and the text that has been put. -/
theorem mem_put_text {name : String} {v : Value} {es : List (Value × Value)}
    (keys : ∀ e ∈ es, ∃ k, e.1 = text k) {x : Value} :
    x ∈ (put (text name) v es).map Prod.fst ↔ x = text name ∨ x ∈ es.map Prod.fst := by
  induction es with
  | nil => simp [put]
  | cons e es ih =>
      obtain ⟨⟨k, hk⟩, hes⟩ := List.forall_mem_cons.1 keys
      rw [put]
      split
      · rename_i hkey
        rw [hk, equal_text, beq_iff_eq] at hkey
        rw [List.map_cons, List.map_cons, List.mem_cons, hk, hkey]
        simp
      · rw [List.map_cons, List.map_cons, List.mem_cons, List.mem_cons, ih hes]
        exact or_left_comm

/-! ## Keys -/

section Keys

variable {x : Value} {xs : List Value}

/-- Texts can be keys. -/
theorem asKey_of_isText (h : x.isText = true) : x.asKey = .ok x := by
  cases x with
  | text | outcome => rfl
  | _ => cases h

/-- Texts of any kind can be written. -/
theorem isSpellable_of_isText (h : x.isText = true) : x.isSpellable = true := by
  cases x with
  | text s => exact isSpellable_text s
  | outcome => rfl
  | _ => cases h

/-- Texts of any kind are equal if they are written alike. -/
theorem equal_iff_of_isText {y : Value} (hx : x.isText = true) (hy : y.isText = true) :
    equal x y = true ↔ x.asText? = y.asText? := by
  cases x with
  | text a =>
      cases y with
      | text b => rw [equal_text, beq_iff_eq, asText?, asText?, Option.some_inj]
      | outcome o => rw [equal, beq_iff_eq, asText?, asText?, Option.some_inj]
      | _ => cases hy
  | outcome a =>
      cases y with
      | text b => rw [equal, beq_iff_eq, asText?, asText?, Option.some_inj, eq_comm]
      | outcome b =>
          rw [equal, beq_iff_eq, asText?, asText?, Option.some_inj, Outcome.text_inj]
      | _ => cases hy
  | _ => cases hx

/-- A text is one of several if one of them is written like it. -/
theorem isIn_iff_of_isText (hx : x.isText = true) (hxs : ∀ y ∈ xs, y.isText = true) :
    x.isIn xs = true ↔ ∃ y ∈ xs, x.asText? = y.asText? := by
  rw [isIn, List.any_eq_true]
  exact exists_congr fun y => and_congr_right fun hy => equal_iff_of_isText hx (hxs y hy)

end Keys

/-! ## Sets -/

section Sets

variable {xs : List Value}

/-- A text that is not among others makes no two of them equal. -/
theorem nodup_append_of_not_isIn {acc : List Value} {x : Value} (hx : x.isText = true)
    (hacc : ∀ y ∈ acc, y.isText = true) (distinct : acc.Nodup) (new : ¬ x.isIn acc = true) :
    (acc ++ [x]).Nodup := by
  rw [List.nodup_append]
  refine ⟨distinct, List.nodup_singleton x, ?_⟩
  rintro a ha b hb rfl
  exact new ((isIn_iff_of_isText hx hacc).2 ⟨x, List.mem_singleton.1 hb ▸ ha, rfl⟩)

/-- Keeping the first of equal texts keeps one of each behind those that have been kept before. -/
theorem foldlM_keep {acc : List Value} (hxs : ∀ x ∈ xs, x.isText = true)
    (hacc : ∀ x ∈ acc, x.isText = true) (distinct : acc.Nodup) :
    ∃ us : List Value, xs.foldlM (fun acc x => do
        let x ← x.asKey
        return if x.isIn acc then acc else acc ++ [x]) acc =
          (Except.ok us : Except ValueFault (List Value)) ∧
      us.Nodup ∧ (∀ u ∈ us, u ∈ acc ∨ u ∈ xs) ∧
        ∀ x, x ∈ acc ∨ x ∈ xs → ∃ u ∈ us, x.asText? = u.asText? := by
  induction xs generalizing acc with
  | nil =>
      exact ⟨acc, rfl, distinct, fun _ => Or.inl, fun x hx => ⟨x, hx.resolve_right (by simp), rfl⟩⟩
  | cons x xs ih =>
      obtain ⟨hx, hrest⟩ := List.forall_mem_cons.1 hxs
      have hstep : (x.asKey >>= fun x => pure (if x.isIn acc then acc else acc ++ [x])) =
          (Except.ok (if x.isIn acc then acc else acc ++ [x]) :
            Except ValueFault (List Value)) := by
        rw [asKey_of_isText hx]
        rfl
      rw [List.foldlM_cons, hstep]
      by_cases hmem : x.isIn acc = true
      · rw [if_pos hmem]
        obtain ⟨us, hus, hnodup, hback, hall⟩ := ih hrest hacc distinct
        refine ⟨us, hus, hnodup, fun u hu => (hback u hu).imp_right (List.mem_cons_of_mem x), ?_⟩
        rintro u (hu | hu)
        · exact hall u (Or.inl hu)
        rcases List.mem_cons.1 hu with rfl | hu
        · -- what is equal to it stays in its place
          obtain ⟨y, hy, hsame⟩ := (isIn_iff_of_isText hx hacc).1 hmem
          obtain ⟨u, hu, hsame'⟩ := hall y (Or.inl hy)
          exact ⟨u, hu, hsame.trans hsame'⟩
        · exact hall u (Or.inr hu)
      · rw [if_neg hmem]
        have htexts : ∀ y ∈ acc ++ [x], y.isText = true :=
          List.forall_mem_append.2 ⟨hacc, List.forall_mem_singleton.2 hx⟩
        have hnew := nodup_append_of_not_isIn hx hacc distinct hmem
        have hsplit : ∀ u, u ∈ acc ++ [x] ∨ u ∈ xs ↔ u ∈ acc ∨ u ∈ x :: xs := by
          intro u
          rw [List.mem_append, List.mem_singleton, List.mem_cons, or_assoc]
        obtain ⟨us, hus, hnodup, hback, hall⟩ := ih hrest htexts hnew
        exact ⟨us, hus, hnodup, fun u hu => (hsplit u).1 (hback u hu),
          fun u hu => hall u ((hsplit u).2 hu)⟩

/-- The set of the members of a value, if these are texts of any kind. -/
theorem memberSet_of_isText {v : Value} (h : v.members = .ok xs)
    (hxs : ∀ x ∈ xs, x.isText = true) :
    ∃ us : List Value, v.memberSet = .ok us ∧ us.Nodup ∧ (∀ u ∈ us, u ∈ xs) ∧
      ∀ x ∈ xs, ∃ u ∈ us, x.asText? = u.asText? := by
  obtain ⟨us, hus, hnodup, hback, hall⟩ := foldlM_keep hxs (List.forall_mem_nil _) List.nodup_nil
  refine ⟨us, ?_, hnodup, by simpa using hback, fun x hx => hall x (Or.inr hx)⟩
  rw [memberSet, h]
  exact hus

/-- The set of the members of a value, if these are plain texts. -/
theorem memberSet_texts {v : Value} {ts : List String} (h : v.members = .ok (ts.map text)) :
    ∃ us : List String, v.memberSet = .ok (us.map text) ∧ us.Nodup ∧ ∀ t, t ∈ us ↔ t ∈ ts := by
  obtain ⟨vs, hvs, hnodup, hback, hall⟩ := memberSet_of_isText h (isText_of_mem_map ts)
  have hplain : ∀ v ∈ vs, ∃ t, v = text t := by
    intro v hv
    obtain ⟨t, _, rfl⟩ := List.mem_map.1 (hback v hv)
    exact ⟨t, rfl⟩
  obtain ⟨us, rfl⟩ := exists_map_text hplain
  have hinjective : Function.Injective text := fun _ _ => text.inj
  refine ⟨us, hvs, hnodup.of_map _, fun t => ⟨fun ht => ?_, fun ht => ?_⟩⟩
  · exact (List.mem_map_of_injective hinjective).1 (hback _ (List.mem_map_of_mem ht))
  · -- plain texts that are written alike are the same
    obtain ⟨_, hu, hsame⟩ := hall (text t) (List.mem_map_of_mem ht)
    obtain ⟨u, hmem, rfl⟩ := List.mem_map.1 hu
    exact Option.some.inj hsame ▸ hmem

/-! ## Order -/

/-- Texts of any kind can be sorted. -/
theorem sorted_of_isText (hxs : ∀ x ∈ xs, x.isText = true) :
    ∃ ys, sorted xs = .ok ys ∧ ys.Perm xs := by
  have halike : Alike .text xs := by
    intro x hx
    obtain ⟨s, hs⟩ := Option.isSome_iff_exists.1 (hxs x hx)
    exact order?_of_asText? hs
  obtain ⟨ys, hys⟩ := exists_sorted_iff.2 (.alike halike)
  exact ⟨ys, hys, sorted_perm hys⟩

/-- Plain texts can be sorted. -/
theorem sorted_texts (ts : List String) :
    ∃ us : List String, sorted (ts.map text) = .ok (us.map text) ∧ us.Perm ts := by
  obtain ⟨ys, hys, hsorted⟩ := sorted_of_isText (isText_of_mem_map ts)
  have hsame : List.Forall₂ (fun v t => v = text t) (ts.map text) ts := by
    rw [List.forall₂_map_left_iff, List.forall₂_same]
    exact fun _ _ => rfl
  -- what is sorted is a list of plain texts again
  obtain ⟨us, hus, hperm⟩ := List.perm_comp_forall₂ hsorted hsame
  have hmap : ys = us.map text := by
    rw [← List.forall₂_eq_eq_eq, List.forall₂_map_right_iff]
    exact hus
  exact ⟨us, hmap ▸ hys, hperm⟩

/-- Texts of any kind can be joined. -/
theorem exists_joinTexts (sep : String) (hxs : ∀ x ∈ xs, x.isText = true) :
    ∃ s, joinTexts sep xs = .ok s := by
  have hjoin : FailsOnly (fun _ => False) (joinTexts sep xs) := by
    refine FailsOnly.bind (FailsOnly.mapM ?_) fun _ _ => .ok _
    rintro ⟨x, i⟩ hx
    obtain ⟨s, hs⟩ := Option.isSome_iff_exists.1 (hxs x (List.fst_mem_of_mem_zipIdx hx))
    simp only [hs]
    exact .ok s
  cases h : joinTexts sep xs with
  | error f => exact (hjoin f h).elim
  | ok s => exact ⟨s, rfl⟩

end Sets

end Value

end ConfigAudit
