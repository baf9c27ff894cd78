/-
# Ids that are handed out

A pool hands out ids to the entries of a document, one after the other.  An entry that asks for an
id keeps it, and the others get the smallest positive numbers that no entry asks for, in order.

* `IdPool.nextFree_spec` : the search for a free number ends at the least one;
* `Numbering` : how the ids of a document answer what its entries ask for;
* `IdPool.Handed` : a pool hands out ids one after the other;
* `IdPool.numbering_of_handed` : what a new pool hands out.
-/
import Mathlib.Data.List.Forall2
import Mathlib.Data.List.Nodup
import ConfigAudit.Policy.Ids
import ConfigAudit.Proofs.Chain

namespace ConfigAudit

/-! ## The search for a free number -/

namespace IdPool

/-- The numbers from `n` on are `n` and the numbers behind it. -/
theorem countP_from (taken : List Int) (n : Int) :
    taken.countP (fun t => decide (n ≤ t)) =
      taken.countP (fun t => decide (n + 1 ≤ t)) + taken.count n := by
  induction taken with
  | nil => rfl
  | cons t ts ih =>
      simp only [List.countP_cons, List.count_cons, ih, decide_eq_true_eq, beq_iff_eq]
      split <;> split <;> split <;> omega

/-- A search that may go on for longer than there are taken numbers ahead of it ends at the least
free number. -/
theorem firstFree_spec (taken : List Int) {fuel : Nat} {n : Int}
    (enough : taken.countP (fun t => decide (n ≤ t)) < fuel) :
    n ≤ firstFree taken fuel n ∧ firstFree taken fuel n ∉ taken ∧
      ∀ m, n ≤ m → m < firstFree taken fuel n → m ∈ taken := by
  induction fuel generalizing n with
  | zero => exact absurd enough (Nat.not_lt_zero _)
  | succ fuel ih =>
      rw [firstFree]
      split
      · rename_i hn
        -- one taken number is left behind
        have hpos : 0 < taken.count n := List.count_pos_iff.2 hn
        have hsplit := countP_from taken n
        obtain ⟨hle, hfree, hleast⟩ := ih (n := n + 1) (by omega)
        refine ⟨by omega, hfree, ?_⟩
        intro m hm hlt
        by_cases heq : m = n
        · exact heq ▸ hn
        · exact hleast m (by omega) hlt
      · rename_i hn
        refine ⟨Int.le_refl n, hn, ?_⟩
        intro m hm hlt
        omega

/-- There is one least free number. -/
theorem eq_of_least_free {taken : List Int} {n a b : Int} (ha : n ≤ a) (hb : n ≤ b)
    (freeA : a ∉ taken) (freeB : b ∉ taken) (leastA : ∀ m, n ≤ m → m < a → m ∈ taken)
    (leastB : ∀ m, n ≤ m → m < b → m ∈ taken) : a = b := by
  rcases Int.lt_trichotomy a b with hlt | heq | hgt
  · exact absurd (leastB a ha hlt) freeA
  · exact heq
  · exact absurd (leastA b hb hgt) freeB

/-- A search that may go on for longer than there are taken numbers is not cut short. -/
theorem firstFree_eq (taken : List Int) {fuel fuel' : Nat} (n : Int)
    (enough : taken.length < fuel) (enough' : taken.length < fuel') :
    firstFree taken fuel n = firstFree taken fuel' n := by
  have hcount : taken.countP (fun t => decide (n ≤ t)) ≤ taken.length := List.countP_le_length
  obtain ⟨hle, hfree, hleast⟩ := firstFree_spec taken (Nat.lt_of_le_of_lt hcount enough)
  obtain ⟨hle', hfree', hleast'⟩ := firstFree_spec taken (Nat.lt_of_le_of_lt hcount enough')
  exact eq_of_least_free hle hle' hfree hfree' hleast hleast'

/-- The search of a pool ends at the least number from the cursor on that is neither asked for
nor taken. -/
theorem nextFree_spec (p : IdPool) :
    p.cursor ≤ p.nextFree ∧ p.nextFree ∉ p.reserved ++ p.claimed ∧
      ∀ m, p.cursor ≤ m → m < p.nextFree → m ∈ p.reserved ++ p.claimed :=
  firstFree_spec (p.reserved ++ p.claimed) (Nat.lt_succ_of_le List.countP_le_length)

end IdPool

/-! ## Numberings -/

/-- A value asks for an id, and for which one. -/
def Value.AsksFor (v : Value) (n : Int) : Prop := v.truthy = true ∧ v.toInteger = .ok n

/-- Two values ask for the same id. -/
def Value.Clashes (v w : Value) : Prop := ∃ n, v.AsksFor n ∧ w.AsksFor n

/-- Whether one of the entries asks for an id. -/
def Wanted (asks : List Value) (n : Int) : Prop := ∃ v ∈ asks, v.AsksFor n

/-- The ids of the entries that ask for none, in order. -/
def automatic (asks : List Value) (ids : List Int) : List Int :=
  ((asks.zip ids).filter fun x => !x.1.truthy).map Prod.snd

/-- Ids that answer what the entries of a document ask for. -/
structure Numbering (asks : List Value) (ids : List Int) : Prop where
  /-- Every entry has an id, and the one that it asks for if it asks for one. -/
  kept : List.Forall₂ (fun v n => v.truthy = true → v.toInteger = .ok n) asks ids
  /-- No id is given twice. -/
  distinct : ids.Nodup
  /-- The other ids are positive, and no entry asks for them. -/
  free : ∀ n ∈ automatic asks ids, 0 < n ∧ ¬ Wanted asks n
  /-- They go up in the order of the entries. -/
  ascending : (automatic asks ids).Pairwise (· < ·)
  /-- They leave out no positive number that no entry asks for. -/
  least : ∀ n ∈ automatic asks ids, ∀ m, 0 < m → m < n → Wanted asks m ∨ m ∈ automatic asks ids

/-- One more entry. -/
theorem automatic_concat {asks : List Value} {ids : List Int} (v : Value) (n : Int)
    (h : asks.length = ids.length) :
    automatic (asks ++ [v]) (ids ++ [n]) =
      automatic asks ids ++ (if v.truthy then [] else [n]) := by
  unfold automatic
  rw [List.zip_append h, List.filter_append, List.map_append]
  cases hv : v.truthy <;> simp [hv]

/-- Where all ids are given once, no two entries ask for the same one. -/
theorem Numbering.pairwise {asks : List Value} {ids : List Int} (h : Numbering asks ids) :
    asks.Pairwise fun v w => ¬ v.Clashes w := by
  obtain ⟨kept, distinct, -, -, -⟩ := h
  induction kept with
  | nil => exact List.Pairwise.nil
  | @cons v n asks ids hv kept ih =>
      obtain ⟨hnew, distinct⟩ := List.nodup_cons.1 distinct
      refine List.Pairwise.cons ?_ (ih distinct)
      rintro w hw ⟨k, ⟨hvt, hvk⟩, hwt, hwk⟩
      have hnk : n = k := Except.ok.inj ((hv hvt).symm.trans hvk)
      obtain ⟨i, hi, rfl⟩ := List.mem_iff_getElem.1 hw
      have hlength := kept.length_eq
      have hid := (List.forall₂_iff_get.1 kept).2 i hi (hlength ▸ hi)
      have hki : ids[i] = k := Except.ok.inj ((hid hwt).symm.trans hwk)
      exact hnew (hnk ▸ hki ▸ List.getElem_mem _)

namespace IdPool

/-! ## Handing out -/

/-- A pool hands out ids to entries, one after the other, and becomes another pool. -/
inductive Handed : IdPool → List Value → List Int → IdPool → Prop where
  /-- There is no entry. -/
  | nil (p : IdPool) : Handed p [] [] p
  /-- The first entry gets an id, and then the others. -/
  | cons {p p' q : IdPool} {v : Value} {n : Int} {asks : List Value} {ids : List Int}
      (first : p.allocate v = .ok (n, p')) (others : Handed p' asks ids q) :
      Handed p (v :: asks) (n :: ids) q

/-- Some entries and then others. -/
theorem Handed.append {p q r : IdPool} {asks asks' : List Value} {ids ids' : List Int}
    (h : Handed p asks ids q) (h' : Handed q asks' ids' r) :
    Handed p (asks ++ asks') (ids ++ ids') r := by
  induction h with
  | nil => exact h'
  | cons first _ ih => exact .cons first (ih h')

/-- The two ways in which an entry gets an id. -/
theorem allocate_cases {p p' : IdPool} {v : Value} {n : Int} (h : p.allocate v = .ok (n, p')) :
    (v.AsksFor n ∧ n ∉ p.claimed ∧ p' = { p with claimed := n :: p.claimed }) ∨
      (v.truthy = false ∧ n = p.nextFree ∧
        p' = { p with claimed := n :: p.claimed, cursor := n }) := by
  unfold allocate at h
  split at h
  · rename_i hv
    obtain ⟨k, hk, hrest⟩ := bind_eq_ok_iff.1 h
    have hinteger := lift_eq_ok_iff.1 hk
    split at hrest
    · cases hrest
    · rename_i hnew
      cases hrest
      exact Or.inl ⟨⟨hv, hinteger⟩, hnew, rfl⟩
  · rename_i hv
    cases h
    exact Or.inr ⟨by simpa using hv, rfl, rfl⟩

/-- What holds of a pool that has handed out ids: `wanted` are the ids that are asked for
anywhere. -/
structure HasHanded (wanted : List Int) (p : IdPool) (asks : List Value) (ids : List Int) :
    Prop where
  /-- The pool knows what is asked for. -/
  reserved : p.reserved = wanted
  /-- It knows what it has handed out. -/
  claimed : ∀ n, n ∈ p.claimed ↔ n ∈ ids
  /-- The search begins behind zero. -/
  positive : 0 < p.cursor
  /-- Every entry that asks for an id has got it. -/
  kept : List.Forall₂ (fun v n => v.truthy = true → v.toInteger = .ok n) asks ids
  /-- No id is handed out twice. -/
  distinct : ids.Nodup
  /-- The other ids are positive, are asked for nowhere and do not lie ahead of the search. -/
  free : ∀ n ∈ automatic asks ids, 0 < n ∧ n ∉ wanted ∧ n ≤ p.cursor
  /-- They go up. -/
  ascending : (automatic asks ids).Pairwise (· < ·)
  /-- The search has passed over nothing else. -/
  passed : ∀ m, 0 < m → m < p.cursor → m ∈ wanted ∨ m ∈ automatic asks ids
  /-- What is handed out is asked for, or is one of the other ids. -/
  known : ∀ n ∈ ids, n ∈ wanted ∨ n ∈ automatic asks ids

/-- A new pool has handed out nothing. -/
theorem hasHanded_make (label : String) (wanted : List Int) :
    HasHanded wanted (.make label wanted) [] [] where
  reserved := rfl
  claimed _ := Iff.rfl
  positive := Int.one_pos
  kept := .nil
  distinct := List.nodup_nil
  free _ h := nomatch h
  ascending := .nil
  passed m hm hlt := by
    change m < 1 at hlt
    omega
  known _ h := nomatch h

variable {wanted : List Int} {p q : IdPool} {asks : List Value} {ids : List Int}

/-- **One more id.**  Handing out one more id keeps what holds of a pool, if the ids that are asked
for are known beforehand. -/
theorem HasHanded.concat (h : HasHanded wanted p asks ids) {v : Value} {n : Int}
    (told : ∀ k, v.AsksFor k → k ∈ wanted) (step : p.allocate v = .ok (n, q)) :
    HasHanded wanted q (asks ++ [v]) (ids ++ [n]) := by
  have hlength : asks.length = ids.length := h.kept.length_eq
  have hauto := automatic_concat v n hlength
  rcases allocate_cases step with ⟨hv, hnew, rfl⟩ | ⟨hv, hn, rfl⟩
  · -- the entry asks for its id: the search has no part in it
    rw [hv.1, if_pos rfl, List.append_nil] at hauto
    have hnew' : n ∉ ids := fun hn => hnew ((h.claimed n).2 hn)
    constructor
    · exact h.reserved
    · intro k
      rw [List.mem_cons, h.claimed, List.mem_append, List.mem_singleton, or_comm]
    · exact h.positive
    · exact List.rel_append h.kept (.cons (fun _ => hv.2) .nil)
    · exact h.distinct.append (List.nodup_singleton n) (by simpa using hnew')
    · rw [hauto]
      exact h.free
    · rw [hauto]
      exact h.ascending
    · rw [hauto]
      exact h.passed
    · rw [hauto]
      intro k hk
      rcases List.mem_append.1 hk with hk | hk
      · exact h.known k hk
      · exact Or.inl (List.mem_singleton.1 hk ▸ told n hv)
  · -- the entry gets the next free id
    rw [hv, if_neg Bool.false_ne_true] at hauto
    obtain ⟨hahead, hfree, hleast⟩ := p.nextFree_spec
    rw [← hn, h.reserved, List.mem_append, not_or, h.claimed] at hfree
    rw [← hn] at hahead
    have hmem : ∀ m, m ∈ automatic (asks ++ [v]) (ids ++ [n]) ↔ m ∈ automatic asks ids ∨ m = n := by
      intro m
      rw [hauto, List.mem_append, List.mem_singleton]
    have hpos := h.positive
    have hsmaller : ∀ m ∈ automatic asks ids, m < n := by
      intro m hm
      have hne : m ≠ n := by
        rintro rfl
        obtain ⟨x, hx, rfl⟩ := List.mem_map.1 hm
        exact hfree.2 (List.of_mem_zip (List.mem_of_mem_filter hx)).2
      have hle := (h.free m hm).2.2
      omega
    constructor
    · exact h.reserved
    · intro k
      rw [List.mem_cons, h.claimed, List.mem_append, List.mem_singleton, or_comm]
    · exact Int.lt_of_lt_of_le hpos hahead
    · exact List.rel_append h.kept (.cons (fun hv' => by simp [hv] at hv') .nil)
    · exact h.distinct.append (List.nodup_singleton n) (by simpa using hfree.2)
    · intro m hm
      rcases (hmem m).1 hm with hm | rfl
      · obtain ⟨hp, hw, _⟩ := h.free m hm
        exact ⟨hp, hw, Int.le_of_lt (hsmaller m hm)⟩
      · exact ⟨Int.lt_of_lt_of_le hpos hahead, hfree.1, Int.le_refl m⟩
    · rw [hauto, List.pairwise_append]
      refine ⟨h.ascending, List.pairwise_singleton _ _, ?_⟩
      intro m hm k hk
      exact List.mem_singleton.1 hk ▸ hsmaller m hm
    · intro m hm hlt
      rw [hmem]
      by_cases hbehind : m < p.cursor
      · exact (h.passed m hm hbehind).imp_right Or.inl
      · have htaken := hleast m (Int.not_lt.1 hbehind) (hn ▸ hlt)
        rw [h.reserved, List.mem_append, h.claimed] at htaken
        rcases htaken with hw | hi
        · exact Or.inl hw
        · exact (h.known m hi).imp_right Or.inl
    · intro k hk
      rw [hmem]
      rcases List.mem_append.1 hk with hk | hk
      · exact (h.known k hk).imp_right Or.inl
      · exact Or.inr (Or.inr (List.mem_singleton.1 hk))

/-- Handing out ids one after the other keeps what holds of a pool. -/
theorem HasHanded.append (h : HasHanded wanted p asks ids) {asks' : List Value} {ids' : List Int}
    (told : ∀ k, Wanted asks' k → k ∈ wanted) (run : Handed p asks' ids' q) :
    HasHanded wanted q (asks ++ asks') (ids ++ ids') := by
  induction run generalizing asks ids with
  | nil => simpa using h
  | @cons p p' q v n asks' ids' first _ ih =>
      have hstep := h.concat (fun k hk => told k ⟨v, List.mem_cons_self, hk⟩) first
      have hrest := ih hstep fun k ⟨w, hw, hk⟩ => told k ⟨w, List.mem_cons_of_mem v hw, hk⟩
      simpa using hrest

/-- **What a pool hands out.**  A new pool that knows which ids are asked for numbers the entries
as it should. -/
theorem numbering_of_handed {label : String} (complete : ∀ n, n ∈ wanted ↔ Wanted asks n)
    (run : Handed (.make label wanted) asks ids q) : Numbering asks ids := by
  have h := (hasHanded_make label wanted).append (fun k hk => (complete k).2 hk) run
  rw [List.nil_append, List.nil_append] at h
  refine ⟨h.kept, h.distinct, ?_, h.ascending, ?_⟩
  · intro n hn
    obtain ⟨hpos, hfree, _⟩ := h.free n hn
    exact ⟨hpos, fun hw => hfree ((complete n).2 hw)⟩
  · intro n hn m hm hlt
    have hahead := (h.free n hn).2.2
    exact (h.passed m hm (by omega)).imp_left (complete m).1

end IdPool

end ConfigAudit
