/-
# Purging a register

What a purge takes out of a register had run out at the instant of the purge, and what has run out
never holds again.  So a purge is not seen from any later instant, and there is nothing left for an
earlier one to take out.

* `Exemption.isActive_of_earlier` : what holds at an instant has held before;
* `Keyed` : a register has at most one exemption for each pair of integers;
* `Keyed.isExempted_purge` : a purge is not seen from a later instant;
* `purge_unseen` : what purges and the passing of time do to a register.
-/
import ConfigAudit.Proofs.Exemption.History
import ConfigAudit.Proofs.Exemption.Lookup

namespace ConfigAudit

/-! ## Integers as keys -/

namespace Value

variable {a b v : Value} {n m : Int}

/-- A value that is an integer is the same key as that integer. -/
theorem equal_eq_of_asInt? (ha : a.asInt? = some n) : equal a v = equal v (.int n) := by
  cases a with
  | int k =>
      cases ha
      cases v <;> simp [equal, eq_comm]
  | flag c =>
      cases ha
      cases v with
      | flag d => cases c <;> cases d <;> simp [equal]
      | int j => simp [equal, Bool.beq_comm]
      | _ => simp [equal]
  | _ => cases ha

/-- No value is the same key as two integers, however they are given. -/
theorem eq_of_equal (ha : a.asInt? = some n) (hb : b.asInt? = some m)
    (h : equal a v = true) (h' : equal b v = true) : n = m := by
  rw [equal_eq_of_asInt? ha] at h
  rw [equal_eq_of_asInt? hb] at h'
  exact int_eq_of_equal h h'

end Value

namespace Exemption

variable {e e' : Exemption} {rule device : Value} {x y : Int × Int}

/-- Exemptions for the same pair of integers concern the same ids. -/
theorem isFor_congr (he : e.pair? = some x) (he' : e'.pair? = some x) :
    e.isFor rule device = e'.isFor rule device := by
  obtain ⟨hr, hd⟩ := pair?_eq_some_iff.1 he
  obtain ⟨hr', hd'⟩ := pair?_eq_some_iff.1 he'
  rw [isFor, isFor, Value.equal_eq_of_asInt? hr, Value.equal_eq_of_asInt? hd,
    Value.equal_eq_of_asInt? hr', Value.equal_eq_of_asInt? hd']

/-- Exemptions that concern the same ids are for the same pair of integers. -/
theorem pair_eq_of_isFor (he : e.pair? = some x) (he' : e'.pair? = some y)
    (h : e.isFor rule device = true) (h' : e'.isFor rule device = true) : x = y := by
  obtain ⟨hr, hd⟩ := pair?_eq_some_iff.1 he
  obtain ⟨hr', hd'⟩ := pair?_eq_some_iff.1 he'
  obtain ⟨hrule, hdevice⟩ := Bool.and_eq_true_iff.1 h
  obtain ⟨hrule', hdevice'⟩ := Bool.and_eq_true_iff.1 h'
  exact Prod.ext (Value.eq_of_equal hr hr' hrule hrule')
    (Value.eq_of_equal hd hd' hdevice hdevice')

/-! ## The passing of time -/

/-- What holds at an instant has held at every instant that is not after it. -/
theorem isActive_of_earlier {t u : Moment} (order : u.isBefore t = false)
    (active : e.isActive u = true) : e.isActive t = true := by
  rw [isActive_iff] at active ⊢
  intro m hm
  have hend : u.instant < m.instant := active m hm
  have horder : t.instant ≤ u.instant := Int.not_lt.1 (of_decide_eq_false order)
  exact Int.lt_of_le_of_lt horder hend

/-- Moments that are the same are the same instant. -/
theorem instant_eq_of_same {a b : Moment} (h : a.same b = true) : a.instant = b.instant := by
  unfold Moment.same at h
  cases ha : a.offset with
  | none =>
      cases hb : b.offset with
      | none =>
          rw [ha, hb] at h
          rw [Moment.instant, Moment.instant, ha, hb, eq_of_beq h]
      | some q => simp [ha, hb] at h
  | some o =>
      cases hb : b.offset with
      | none => simp [ha, hb] at h
      | some q =>
          rw [ha, hb] at h
          exact eq_of_beq h

/-- An exemption that agrees in all it says with one that holds, holds. -/
theorem isActive_of_same {t : Moment} (agree : e'.same e = true) (active : e.isActive t = true) :
    e'.isActive t = true := by
  obtain ⟨rule, device, expiry⟩ := e
  obtain ⟨rule', device', expiry'⟩ := e'
  unfold same at agree
  have hends := (Bool.and_eq_true_iff.1 agree).2
  cases expiry' with
  | none => rfl
  | some m' =>
      cases expiry with
      | none => cases hends
      | some m =>
          rw [isActive_until, Moment.isBefore] at active ⊢
          rwa [instant_eq_of_same hends]

end Exemption

namespace Register

variable {r : Register} {rule device : Value} {e : Exemption}

/-! ## One exemption for each pair -/

/-- A register has at most one exemption for each pair, and all pairs are pairs of integers. -/
structure Keyed (r : Register) : Prop where
  /-- The ids are integers. -/
  numbered : ∀ e ∈ r.entries, e.pair?.isSome = true
  /-- No pair comes twice. -/
  distinct : r.entries.Pairwise fun e e' => e.pair? ≠ e'.pair?

/-- A register that lists what a history leaves has at most one exemption for each pair. -/
theorem Mirrors.keyed {stands : Int × Int → Option Standing} {clock : Nat}
    {pairs : List (Int × Int)} (h : Mirrors stands clock pairs r) : r.Keyed := by
  constructor
  · intro e he
    obtain ⟨x, _, hpair, _⟩ := exists_pair_of_rows h.rows he
    exact Option.isSome_iff_exists.2 ⟨x, hpair⟩
  · have hnodup := h.nodup
    have hrows := h.rows
    generalize r.entries = entries at hrows
    clear h
    induction hrows with
    | nil => exact .nil
    | @cons e x entries pairs first others ih =>
        obtain ⟨hout, hothers⟩ := List.nodup_cons.1 hnodup
        refine List.pairwise_cons.2 ⟨?_, ih hothers⟩
        intro e' he' heq
        obtain ⟨y, hy, hpair, _⟩ := exists_pair_of_rows others he'
        cases (first.1.symm.trans heq).trans hpair
        exact hout hy

/-- Two exemptions of a register never concern the same ids. -/
theorem Keyed.not_both (h : r.Keyed) (rule device : Value) :
    r.entries.Pairwise fun e e' => ¬ (e.isFor rule device = true ∧ e'.isFor rule device = true) := by
  refine h.distinct.imp_of_mem ?_
  rintro e e' he he' hne ⟨hfor, hfor'⟩
  obtain ⟨x, hx⟩ := Option.isSome_iff_exists.1 (h.numbered e he)
  obtain ⟨y, hy⟩ := Option.isSome_iff_exists.1 (h.numbered e' he')
  rw [hx, hy, Exemption.pair_eq_of_isFor hx hy hfor hfor'] at hne
  exact hne rfl

/-- If at most one exemption of a list has a property, keeping some exemptions keeps this one or
none. -/
theorem find?_filter_of_pairwise {p keep : Exemption → Bool} {es : List Exemption}
    (h : es.Pairwise fun e e' => ¬ (p e = true ∧ p e' = true)) :
    (es.filter keep).find? p = (es.find? p).filter keep := by
  induction es with
  | nil => rfl
  | cons e rest ih =>
      obtain ⟨hfirst, hrest⟩ := List.pairwise_cons.1 h
      rw [List.find?_cons]
      cases hp : p e with
      | false =>
          rw [← ih hrest]
          cases hk : keep e with
          | false => rw [List.filter_cons_of_neg (by simp [hk])]
          | true => rw [List.filter_cons_of_pos hk, List.find?_cons, hp]
      | true =>
          rw [Option.filter_some]
          cases hk : keep e with
          | true => rw [List.filter_cons_of_pos hk, List.find?_cons_of_pos hp, if_pos rfl]
          | false =>
              -- the one with the property goes, and no other one comes to light
              rw [List.filter_cons_of_neg (by simp [hk]), if_neg Bool.false_ne_true,
                List.find?_eq_none]
              intro e' he' hp'
              exact hfirst e' (List.mem_filter.1 he').1 ⟨hp, hp'⟩

/-- What a register finds for some ids it finds for those of an exemption that concerns them. -/
theorem Keyed.find?_own (h : r.Keyed) (he : e.pair?.isSome = true)
    (hfor : e.isFor rule device = true) : r.find? e.rule e.device = r.find? rule device := by
  obtain ⟨x, hx⟩ := Option.isSome_iff_exists.1 he
  obtain ⟨hrule, hdevice⟩ := Exemption.pair?_eq_some_iff.1 hx
  unfold find?
  refine List.find?_congr fun a ha => ?_
  obtain ⟨y, hy⟩ := Option.isSome_iff_exists.1 (h.numbered a ha)
  rw [Exemption.isFor_eq hy hrule hdevice]
  by_cases heq : y = x
  · subst heq
    rw [Exemption.isFor_congr hy hx, hfor, decide_eq_true rfl]
  · rw [decide_eq_false heq, eq_comm, Bool.eq_false_iff]
    exact fun hfor' => heq (Exemption.pair_eq_of_isFor hy hx hfor' hfor)

/-- **What lasts.**  A pair that is exempted at an instant is exempted at every instant that is
not after it by any register that still has the exemption. -/
theorem Keyed.isExempted_of_holds {r' : Register} (h : r'.Keyed) (he : e.pair?.isSome = true)
    (hfor : e.isFor rule device = true) {t u : Moment} (active : e.isActive u = true)
    (still : r'.holds e = true) (order : u.isBefore t = false) :
    r'.isExempted rule device t = true := by
  unfold holds at still
  rw [h.find?_own he hfor, Option.any_eq_true] at still
  obtain ⟨e', hfind, hsame⟩ := still
  unfold isExempted
  rw [hfind, Option.any_some]
  exact Exemption.isActive_of_same hsame (Exemption.isActive_of_earlier order active)

/-! ## Purging -/

/-- What a purge leaves is what still holds, in its order. -/
theorem purge_entries (r : Register) (t : Moment) :
    (r.purge t).1.entries = r.entries.filter fun e => e.isActive t := by
  simp only [purge, dropIf, Bool.not_not]

/-- **A purge is not seen later.**  Whether a pair is exempted at an instant does not depend on a
purge at an instant that is not after it. -/
theorem Keyed.isExempted_purge (h : r.Keyed) {t u : Moment} (order : u.isBefore t = false)
    (rule device : Value) :
    (r.purge t).1.isExempted rule device u = r.isExempted rule device u := by
  unfold isExempted find?
  rw [purge_entries, find?_filter_of_pairwise (h.not_both rule device)]
  cases r.entries.find? (·.isFor rule device) with
  | none => rfl
  | some e =>
      rw [Option.filter_some]
      cases ht : e.isActive t with
      | true => rfl
      | false =>
          -- what the purge has taken out does not hold later
          have hu : e.isActive u = false :=
            Bool.eq_false_iff.2 fun hu =>
              Bool.false_ne_true (ht.symm.trans (Exemption.isActive_of_earlier order hu))
          rw [if_neg Bool.false_ne_true, Option.any_some, hu]
          rfl

/-- **A purge is complete.**  After a purge, a purge at an instant that is not after it takes
nothing out. -/
theorem purge_purge (r : Register) {t t' : Moment} (order : t.isBefore t' = false) :
    (r.purge t).1.purge t' = ((r.purge t).1, 0) := by
  have hactive : ∀ e ∈ (r.purge t).1.entries, e.isActive t' = true := by
    intro e he
    rw [purge_entries] at he
    exact Exemption.isActive_of_earlier order (List.mem_filter.1 he).2
  have hleft : ((r.purge t).1.purge t').1.entries = (r.purge t).1.entries := by
    rw [purge_entries, List.filter_eq_self]
    exact hactive
  have hgone : ((r.purge t).1.purge t').2 = 0 := by
    rw [purge, dropIf, List.length_eq_zero_iff, List.filter_eq_nil_iff]
    intro e he
    simp [hactive e he]
  exact Prod.ext (congrArg Register.mk hleft) hgone

/-- **Purging and the passing of time.**  However a register has been filled and edited, a purge
takes out what does not hold at its instant and keeps the order of the rest, it changes the answer
for no pair at an instant that is not before it, and a second purge at an instant that is not after
it takes nothing out.  And the exemption by which a pair is exempted at an instant excuses the pair
at every instant that is not after it, whatever is done to the register, as long as it is there. -/
theorem purge_unseen (es : List Exemption) (edits : List Edit)
    (numbered : ∀ edit ∈ es.map Edit.add ++ edits, edit.Numbered) :
    ∃ r, (ofList es).performAll edits = .ok r ∧
      (∀ t, (r.purge t).1.entries = r.entries.filter (fun e => e.isActive t) ∧
        (r.purge t).2 = r.entries.countP (fun e => !e.isActive t) ∧
        (∀ u rule device, u.isBefore t = false →
          (r.purge t).1.isExempted rule device u = r.isExempted rule device u) ∧
        ∀ t', t.isBefore t' = false → (r.purge t).1.purge t' = ((r.purge t).1, 0)) ∧
      ∀ rule device u, r.isExempted rule device u = true →
        ∃ e, r.find? rule device = some e ∧ ∀ later : List Edit, (∀ edit ∈ later, edit.Numbered) →
          ∃ r', r.performAll later = .ok r' ∧ (r'.holds e = true →
            ∀ t, u.isBefore t = false → r'.isExempted rule device t = true) := by
  obtain ⟨r, pairs, hall, h⟩ := mirrors_empty.performAll numbered
  rw [List.nil_append] at h
  have hfilled : ∀ e ∈ es, (Edit.add e).Numbered := fun e he =>
    numbered _ (List.mem_append_left edits (List.mem_map_of_mem he))
  rw [performAll_add empty es edits hfilled] at hall
  refine ⟨r, hall, fun t => ⟨r.purge_entries t, ?_, ?_, fun t' => r.purge_purge⟩, ?_⟩
  · exact List.countP_eq_length_filter.symm
  · exact fun u rule device order => h.keyed.isExempted_purge order rule device
  · intro rule device u hexempted
    obtain ⟨e, hfind, hactive⟩ := (Option.any_eq_true ..).1 hexempted
    refine ⟨e, hfind, fun later hlater => ?_⟩
    obtain ⟨r', pairs', hperform, h'⟩ := h.performAll hlater
    refine ⟨r', hperform, fun still t order => ?_⟩
    have hmem : e ∈ r.entries := List.mem_of_find?_eq_some hfind
    exact h'.keyed.isExempted_of_holds (h.keyed.numbered e hmem) (List.find?_some hfind) hactive
      still order

/-- At the very end of an exemption, written with another offset, a purge takes it out, and a pair
that is exempted for good stays so. -/
theorem unseen_of_filling :
    (∀ edit ∈ filling.map Edit.add ++ [], edit.Numbered) ∧
    ((ofList filling).purge ⟨⟨2026, 3, 1⟩, ⟨14, 0, 0, 0⟩, some 7200000000⟩).2 = 1 ∧
    ∀ u, u.isBefore (noonOf 3 1) = false →
      ((ofList filling).purge (noonOf 3 1)).1.isExempted (.flag true) (.int 2) u =
        (ofList filling).isExempted (.flag true) (.int 2) u := by
  have hnumbered : ∀ edit ∈ filling.map Edit.add ++ [], edit.Numbered := by
    simp [filling, Edit.Numbered, Exemption.pair?, Value.asInt?]
  obtain ⟨r, hall, hpurge, -⟩ := purge_unseen filling [] hnumbered
  cases hall
  exact ⟨hnumbered, by cbv, fun u => (hpurge (noonOf 3 1)).2.2.1 u _ _⟩

end Register

end ConfigAudit
