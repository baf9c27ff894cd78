/-
# The history of a register

What a register holds can be told from what has been done to it, pair by pair: the last exemption
that was entered for the pair and has not been removed, cleared or purged since, and when the pair
came in.  The register lists these exemptions in the order in which their pairs came in.

* `Edit`, `Register.perform` : what can be done to a register, and what is answered;
* `standing` : what a history leaves of one pair;
* `Mirrors` : a register lists what a history leaves;
* `history_shown` : it always does.
-/
import Mathlib
import ConfigAudit.Proofs.Chain
import ConfigAudit.Proofs.Rule.Precedence
import ConfigAudit.Rule.Basic

namespace ConfigAudit

/-! ## Integer ids -/

namespace Value

variable {v w : Value} {n m : Int}

/-- Two integers are equal as values if they are the same integer. -/
theorem equal_of_asInt? (hv : v.asInt? = some n) (hw : w.asInt? = some m) :
    equal v w = decide (n = m) := by
  cases v with
  | int a =>
      cases w with
      | int b => cases hv; cases hw; simp [beq_eq_decide]
      | flag b => cases hv; cases hw; simp [equal, beq_eq_decide]
      | _ => cases hw
  | flag a =>
      cases w with
      | int b => cases hv; cases hw; simp [equal, beq_eq_decide]
      | flag b => cases hv; cases hw; cases a <;> cases b <;> simp [equal]
      | _ => cases hw
  | _ => cases hv

/-- Integers can be keys. -/
theorem asKey_of_asInt? (hv : v.asInt? = some n) : v.asKey = .ok v := by
  cases v with
  | int _ => rfl
  | flag _ => rfl
  | _ => cases hv

end Value

/-- A pair of integers can be a key. -/
theorem Register.asKeys_of_asInt? {v w : Value} {n d : Int} (hv : v.asInt? = some n)
    (hw : w.asInt? = some d) : asKeys v w = .ok (v, w) := by
  rw [asKeys, Value.asKey_of_asInt? hv, Value.asKey_of_asInt? hw]
  rfl

/-- The pair of integers that an exemption is for, if its ids are integers. -/
def Exemption.pair? (e : Exemption) : Option (Int × Int) := do
  return (← e.rule.asInt?, ← e.device.asInt?)

/-- Both ids of an exemption for a pair are integers. -/
theorem Exemption.pair?_eq_some_iff {e : Exemption} {x : Int × Int} :
    e.pair? = some x ↔ e.rule.asInt? = some x.1 ∧ e.device.asInt? = some x.2 := by
  unfold pair?
  cases e.rule.asInt? <;> cases e.device.asInt? <;> simp [Prod.ext_iff]

/-- An exemption concerns the pair that it is for. -/
theorem Exemption.isFor_eq {e : Exemption} {x : Int × Int} {rule device : Value} {n d : Int}
    (he : e.pair? = some x) (hrule : rule.asInt? = some n) (hdevice : device.asInt? = some d) :
    e.isFor rule device = decide (x = (n, d)) := by
  obtain ⟨hr, hd⟩ := pair?_eq_some_iff.1 he
  rw [isFor, Value.equal_of_asInt? hr hrule, Value.equal_of_asInt? hd hdevice,
    ← Bool.decide_and]
  simp [Prod.ext_iff]

namespace Register

/-! ## Edits -/

/-- Who is meant: a rule or a device, or whoever has an id. -/
inductive Party where
  /-- A rule. -/
  | rule (r : Rule)
  /-- A device. -/
  | device (d : Device)
  /-- An id. -/
  | plain (id : Value)

/-- The id of who is meant. -/
def Party.id : Party → Except ValueFault Value
  | rule r => .ok r.id
  | device d => .ok (.int d.id)
  | plain v => identity v

/-- The integer that the id is, if it is one. -/
def Party.number? : Party → Option Int
  | rule r => r.id.asInt?
  | device d => some d.id
  | plain v => v.asInt?

/-- Who has an integer as an id has an id. -/
theorem Party.exists_id {p : Party} {n : Int} (h : p.number? = some n) :
    ∃ v, p.id = .ok v ∧ v.asInt? = some n := by
  cases p with
  | rule r => exact ⟨r.id, rfl, h⟩
  | device d => exact ⟨.int d.id, rfl, h⟩
  | plain v =>
      cases v with
      | int _ => exact ⟨_, rfl, h⟩
      | flag _ => exact ⟨_, rfl, h⟩
      | _ => cases h

/-- What can be done to a register. -/
inductive Edit where
  /-- An exemption is entered. -/
  | add (e : Exemption)
  /-- An exemption is made and entered. -/
  | exempt (rule device : Party) (expiry : Option Moment)
  /-- The exemption of a pair is removed. -/
  | remove (rule device : Party)
  /-- All exemptions of a rule are removed. -/
  | clearRule (rule : Party)
  /-- All exemptions that no longer hold at an instant are removed. -/
  | purge (now : Moment)

/-- What is answered. -/
inductive Reply where
  /-- Nothing. -/
  | done
  /-- The exemption that was made. -/
  | exemption (e : Exemption)
  /-- Whether there was one. -/
  | flag (b : Bool)
  /-- How many there were. -/
  | count (n : Nat)

/-- Carries out an edit. -/
def perform (r : Register) : Edit → Except ValueFault (Register × Reply)
  | .add e => do
    let _ ← asKeys e.rule e.device
    return (r.add e, .done)
  | .exempt rule device expiry => do
    let rule ← rule.id
    let device ← device.id
    let _ ← asKeys rule device
    return (r.add ⟨rule, device, expiry⟩, .exemption ⟨rule, device, expiry⟩)
  | .remove rule device => do
    let rule ← rule.id
    let device ← device.id
    let _ ← asKeys rule device
    return ((r.remove rule device).1, .flag (r.remove rule device).2)
  | .clearRule rule => do
    let rule ← rule.id
    return ((r.clearRule rule).1, .count (r.clearRule rule).2)
  | .purge now => .ok ((r.purge now).1, .count (r.purge now).2)

/-- Carries out edits one after the other. -/
def performAll (r : Register) : List Edit → Except ValueFault Register
  | [] => .ok r
  | edit :: rest => do (← r.perform edit).1.performAll rest

/-- Whether all ids of an edit are integers. -/
def Edit.Numbered : Edit → Prop
  | add e => e.pair?.isSome = true
  | exempt rule device _ | remove rule device =>
      rule.number?.isSome = true ∧ device.number?.isSome = true
  | clearRule rule => rule.number?.isSome = true
  | purge _ => True

/-! ## Histories -/

/-- What stands for a pair: an exemption, and the number of the edit by which the pair came in. -/
structure Standing where
  /-- The exemption. -/
  exemption : Exemption
  /-- When the pair came in. -/
  since : Nat

/-- What an edit with a number leaves of a pair. -/
def Edit.leaves (clock : Nat) (x : Int × Int) (before : Option Standing) : Edit → Option Standing
  | add e =>
      if e.pair? = some x then some ⟨e, (before.map Standing.since).getD clock⟩ else before
  | exempt rule device expiry =>
      match rule.id, device.id with
      | .ok rule, .ok device =>
          if (Exemption.mk rule device expiry).pair? = some x then
            some ⟨⟨rule, device, expiry⟩, (before.map Standing.since).getD clock⟩
          else before
      | _, _ => before
  | remove rule device =>
      if rule.number? = some x.1 ∧ device.number? = some x.2 then none else before
  | clearRule rule => if rule.number? = some x.1 then none else before
  | purge now => before.filter fun s => s.exemption.isActive now

/-- What edits leave of a pair; `clock` is the number of the first one. -/
def standingFrom (clock : Nat) (x : Int × Int) (before : Option Standing) :
    List Edit → Option Standing
  | [] => before
  | edit :: rest => standingFrom (clock + 1) x (edit.leaves clock x before) rest

/-- What a history leaves of a pair: the last exemption that was entered for it and has not been
removed since, with the number of the edit by which the pair came in. -/
def standing (history : List Edit) (x : Int × Int) : Option Standing :=
  standingFrom 0 x none history

/-- A history that goes on. -/
theorem standingFrom_concat (clock : Nat) (x : Int × Int) (before : Option Standing)
    (history : List Edit) (edit : Edit) :
    standingFrom clock x before (history ++ [edit]) =
      edit.leaves (clock + history.length) x (standingFrom clock x before history) := by
  induction history generalizing clock before with
  | nil => rfl
  | cons first rest ih =>
      rw [List.cons_append, standingFrom, ih, standingFrom, List.length_cons, Nat.add_right_comm,
        Nat.add_assoc]

/-- What the last edit leaves. -/
theorem standing_concat (history : List Edit) (edit : Edit) (x : Int × Int) :
    standing (history ++ [edit]) x = edit.leaves history.length x (standing history x) := by
  rw [standing, standingFrom_concat, Nat.zero_add]
  rfl

/-! ## Registers that list what stands -/

/-- An exemption is what stands for a pair. -/
def StandsAs (stands : Int × Int → Option Standing) (e : Exemption) (x : Int × Int) : Prop :=
  e.pair? = some x ∧ ∃ n, stands x = some ⟨e, n⟩

/-- A register lists what stands for some pairs, and for no others, in the order in which they
came in; `clock` is the number of the next edit. -/
structure Mirrors (stands : Int × Int → Option Standing) (clock : Nat) (pairs : List (Int × Int))
    (r : Register) : Prop where
  /-- It lists what stands. -/
  rows : List.Forall₂ (StandsAs stands) r.entries pairs
  /-- It leaves out no pair. -/
  complete : ∀ x s, stands x = some s → x ∈ pairs
  /-- The pairs are in order. -/
  ordered : pairs.Pairwise fun x y => ∀ s t, stands x = some s → stands y = some t →
    s.since < t.since
  /-- They came in before. -/
  past : ∀ x s, stands x = some s → s.since < clock

variable {stands stands' : Int × Int → Option Standing} {clock : Nat} {pairs : List (Int × Int)}
  {r : Register} {x : Int × Int}

/-- Something stands for every pair that is listed. -/
theorem exists_standing_of_rows {entries : List Exemption}
    (rows : List.Forall₂ (StandsAs stands) entries pairs) (h : x ∈ pairs) :
    ∃ s, stands x = some s := by
  induction rows with
  | nil => cases h
  | cons first _ ih =>
      rcases List.mem_cons.1 h with rfl | h
      · obtain ⟨_, n, hn⟩ := first
        exact ⟨_, hn⟩
      · exact ih h

/-- Every exemption that is listed is what stands for a pair that is listed. -/
theorem exists_pair_of_rows {entries : List Exemption}
    (rows : List.Forall₂ (StandsAs stands) entries pairs) {e : Exemption} (h : e ∈ entries) :
    ∃ x ∈ pairs, StandsAs stands e x := by
  induction rows with
  | nil => cases h
  | cons first _ ih =>
      rcases List.mem_cons.1 h with rfl | h
      · exact ⟨_, List.mem_cons_self, first⟩
      · obtain ⟨x, hx, hstands⟩ := ih h
        exact ⟨x, List.mem_cons_of_mem _ hx, hstands⟩

/-- No pair is listed twice. -/
theorem Mirrors.nodup (h : Mirrors stands clock pairs r) : pairs.Nodup := by
  refine h.ordered.imp_of_mem ?_
  rintro x y hx _ before rfl
  obtain ⟨s, hs⟩ := exists_standing_of_rows h.rows hx
  exact Nat.lt_irrefl _ (before s s hs hs)

/-- Rows stay rows if nothing changes for their pairs. -/
theorem rows_congr {entries : List Exemption} (rows : List.Forall₂ (StandsAs stands) entries pairs)
    (same : ∀ x ∈ pairs, stands' x = stands x) :
    List.Forall₂ (StandsAs stands') entries pairs := by
  induction rows with
  | nil => exact .nil
  | @cons e x entries pairs first _ ih =>
      obtain ⟨hx, hrest⟩ := List.forall_mem_cons.1 same
      obtain ⟨hpair, n, hn⟩ := first
      exact .cons ⟨hpair, n, hx.trans hn⟩ (ih hrest)

/-! ### Entering -/

/-- The place of a pair: where it is, or behind the others. -/
def place (x : Int × Int) (pairs : List (Int × Int)) : List (Int × Int) :=
  if x ∈ pairs then pairs else pairs ++ [x]

/-- An exemption that is entered stands in the place of its pair. -/
theorem rows_insert {e : Exemption} {n : Nat} {entries : List Exemption}
    (pair : e.pair? = some x) (new : stands' x = some ⟨e, n⟩)
    (same : ∀ y, y ≠ x → stands' y = stands y) (distinct : pairs.Nodup)
    (rows : List.Forall₂ (StandsAs stands) entries pairs) :
    List.Forall₂ (StandsAs stands') (insert e entries) (place x pairs) := by
  induction rows with
  | nil => exact .cons ⟨pair, n, new⟩ .nil
  | @cons a y entries pairs first others ih =>
      obtain ⟨hout, hdistinct⟩ := List.nodup_cons.1 distinct
      obtain ⟨hrule, hdevice⟩ := Exemption.pair?_eq_some_iff.1 pair
      rw [insert, Exemption.isFor_eq first.1 hrule hdevice]
      by_cases hy : y = x
      · subst hy
        have hplace : place y (y :: pairs) = y :: pairs := if_pos List.mem_cons_self
        -- the row is replaced, and the rows behind it are for other pairs
        rw [hplace, if_pos (by simp)]
        refine .cons ⟨pair, n, new⟩ (rows_congr others ?_)
        intro z hz
        exact same z fun h => hout (h ▸ hz)
      · have hplace : place x (y :: pairs) = y :: place x pairs := by
          have hmem : x ∈ y :: pairs ↔ x ∈ pairs :=
            ⟨fun h => (List.mem_cons.1 h).resolve_left fun h => hy h.symm, List.mem_cons_of_mem y⟩
          unfold place
          by_cases hx : x ∈ pairs
          · rw [if_pos (hmem.2 hx), if_pos hx]
          · rw [if_neg (mt hmem.1 hx), if_neg hx, List.cons_append]
        rw [hplace, if_neg (by simpa using hy)]
        obtain ⟨hpair, k, hk⟩ := first
        exact .cons ⟨hpair, k, (same y hy).trans hk⟩ (ih hdistinct)

/-- What entering an exemption leaves of the pairs. -/
def entered (stands : Int × Int → Option Standing) (clock : Nat) (e : Exemption) (x : Int × Int) :
    Option Standing :=
  if e.pair? = some x then some ⟨e, ((stands x).map Standing.since).getD clock⟩ else stands x

/-- **Entering.**  A register in which an exemption is entered lists what stands then: a pair that
is there keeps its place, and another goes last. -/
theorem Mirrors.add (h : Mirrors stands clock pairs r) {e : Exemption} (pair : e.pair? = some x) :
    Mirrors (entered stands clock e) (clock + 1) (place x pairs) (r.add e) := by
  have hnew : entered stands clock e x =
      some ⟨e, ((stands x).map Standing.since).getD clock⟩ := if_pos pair
  have hsame : ∀ y, y ≠ x → entered stands clock e y = stands y := by
    intro y hy
    refine if_neg fun h => hy ?_
    exact (Option.some.inj (pair.symm.trans h)).symm
  have habsent : x ∉ pairs → stands x = none := by
    intro hx
    cases hs : stands x with
    | none => rfl
    | some s => exact absurd (h.complete x s hs) hx
  -- a pair comes in before the clock, and does not move when it is there already
  have hsince : ∀ y s, entered stands clock e y = some s → s.since < clock + 1 ∧
      ∀ t, stands y = some t → s.since = t.since := by
    intro y s hs
    by_cases hy : y = x
    · subst hy
      cases hnew.symm.trans hs
      cases ht : stands y with
      | none => exact ⟨Nat.lt_succ_self clock, nofun⟩
      | some t => exact ⟨Nat.lt_succ_of_lt (h.past y t ht), fun t' ht' => by cases ht'; rfl⟩
    · rw [hsame y hy] at hs
      exact ⟨Nat.lt_succ_of_lt (h.past y s hs), fun t ht => by cases hs.symm.trans ht; rfl⟩
  constructor
  · exact rows_insert pair hnew hsame h.nodup h.rows
  · intro y s hs
    unfold place
    by_cases hy : y = x
    · subst hy
      split
      · assumption
      · exact List.mem_append_right pairs List.mem_cons_self
    · rw [hsame y hy] at hs
      have hmem := h.complete y s hs
      split
      · exact hmem
      · exact List.mem_append_left [x] hmem
  · have hkept : pairs.Pairwise fun y z => ∀ s t, entered stands clock e y = some s →
        entered stands clock e z = some t → s.since < t.since := by
      refine h.ordered.imp_of_mem ?_
      intro y z hy hz before s t hs ht
      obtain ⟨s', hs'⟩ := exists_standing_of_rows h.rows hy
      obtain ⟨t', ht'⟩ := exists_standing_of_rows h.rows hz
      rw [(hsince y s hs).2 s' hs', (hsince z t ht).2 t' ht']
      exact before s' t' hs' ht'
    unfold place
    split
    · exact hkept
    · -- a pair that is not there comes in now, behind all that came in before
      rename_i hx
      rw [List.pairwise_append]
      refine ⟨hkept, List.pairwise_singleton _ _, ?_⟩
      intro y hy z hz s t hs ht
      cases List.mem_singleton.1 hz
      obtain ⟨s', hs'⟩ := exists_standing_of_rows h.rows hy
      rw [hnew, habsent hx] at ht
      cases ht
      rw [(hsince y s hs).2 s' hs']
      exact h.past y s' hs'
  · exact fun y s hs => (hsince y s hs).1

/-! ### Removing -/

/-- Removing the exemption of a pair takes out what concerns it. -/
theorem erase_eq_filter {entries : List Exemption} {rule device : Value} {n d : Int}
    (hrule : rule.asInt? = some n) (hdevice : device.asInt? = some d) (distinct : pairs.Nodup)
    (rows : List.Forall₂ (StandsAs stands) entries pairs) :
    erase rule device entries = entries.filter fun e => !e.isFor rule device := by
  induction rows with
  | nil => rfl
  | @cons a y entries pairs first others ih =>
      obtain ⟨hout, hdistinct⟩ := List.nodup_cons.1 distinct
      rw [erase, List.filter_cons, Exemption.isFor_eq first.1 hrule hdevice]
      by_cases hy : y = (n, d)
      · -- the others concern other pairs
        have hothers : entries.filter (fun e => !e.isFor rule device) = entries := by
          rw [List.filter_eq_self]
          intro e he
          obtain ⟨z, hz, hpair, _⟩ := exists_pair_of_rows others he
          have hne : z ≠ (n, d) := fun h => hout (hy ▸ h ▸ hz)
          rw [Exemption.isFor_eq hpair hrule hdevice, decide_eq_false hne]
          rfl
        simp [hy, hothers]
      · simp [hy, ih hdistinct]

/-- Rows that are selected by exemptions or by pairs stay rows. -/
theorem rows_filter {entries : List Exemption} {p : Exemption → Bool} {q : Int × Int → Bool}
    (agree : ∀ e x, StandsAs stands e x → p e = q x)
    (rows : List.Forall₂ (StandsAs stands) entries pairs) :
    List.Forall₂ (StandsAs stands) (entries.filter p) (pairs.filter q) := by
  induction rows with
  | nil => exact .nil
  | @cons e x entries pairs first _ ih =>
      rw [List.filter_cons, List.filter_cons, agree e x first]
      split
      · exact .cons first ih
      · exact ih

/-- **Removing.**  A register that keeps only some exemptions lists what stands then, if what
stands is what is kept. -/
theorem Mirrors.filter (h : Mirrors stands clock pairs r) {keep : Exemption → Bool}
    (left : ∀ x, stands' x = (stands x).filter fun s => keep s.exemption) :
    Mirrors stands' (clock + 1) (pairs.filter fun x => (stands' x).isSome)
      ⟨r.entries.filter keep⟩ := by
  have hleft : ∀ x s, stands' x = some s → stands x = some s := by
    intro x s hs
    rw [left] at hs
    exact (Option.filter_eq_some_iff.1 hs).1
  -- what is kept of the list is what is kept of the pairs
  have hagree : ∀ e x, StandsAs stands e x → keep e = (stands' x).isSome := by
    rintro e x ⟨_, n, hn⟩
    rw [left, hn, Option.filter_some]
    cases keep e <;> rfl
  constructor
  · refine rows_congr (rows_filter hagree h.rows) ?_
    intro x hx
    obtain ⟨s, hs⟩ := Option.isSome_iff_exists.1 (List.mem_filter.1 hx).2
    rw [hs, hleft x s hs]
  · intro x s hs
    exact List.mem_filter.2 ⟨h.complete x s (hleft x s hs), by simp [hs]⟩
  · refine (h.ordered.filter _).imp ?_
    intro x y before s t hs ht
    exact before s t (hleft x s hs) (hleft y t ht)
  · intro x s hs
    exact Nat.lt_succ_of_lt (h.past x s (hleft x s hs))

/-! ## What is answered -/

/-- Exemptions are counted by their pairs. -/
theorem countP_rows {entries : List Exemption} {p : Exemption → Bool} {q : Int × Int → Bool}
    (agree : ∀ e x, StandsAs stands e x → p e = q x)
    (rows : List.Forall₂ (StandsAs stands) entries pairs) :
    (entries.filter p).length = pairs.countP q := by
  rw [List.countP_eq_length_filter]
  exact (rows_filter agree rows).length_eq

/-- What stands for a pair is for a rule if the rule is the first of the pair. -/
theorem equal_rule_eq {v : Value} {n : Int} (hrule : v.asInt? = some n) (e : Exemption)
    (x : Int × Int) (h : StandsAs stands e x) : Value.equal e.rule v = (x.1 == n) := by
  rw [Value.equal_of_asInt? (Exemption.pair?_eq_some_iff.1 h.1).1 hrule, beq_eq_decide]

/-- It is for a device if the device is the second of the pair. -/
theorem equal_device_eq {w : Value} {d : Int} (hdevice : w.asInt? = some d) (e : Exemption)
    (x : Int × Int) (h : StandsAs stands e x) : Value.equal e.device w = (x.2 == d) := by
  rw [Value.equal_of_asInt? (Exemption.pair?_eq_some_iff.1 h.1).2 hdevice, beq_eq_decide]

/-- The exemption that is found for a pair is the one that stands. -/
theorem find?_rows {entries : List Exemption} {rule device : Value} {n d : Int}
    (hrule : rule.asInt? = some n) (hdevice : device.asInt? = some d)
    (complete : ∀ s, stands (n, d) = some s → (n, d) ∈ pairs)
    (rows : List.Forall₂ (StandsAs stands) entries pairs) :
    entries.find? (·.isFor rule device) = (stands (n, d)).map Standing.exemption := by
  induction rows with
  | nil =>
      cases hs : stands (n, d) with
      | none => rfl
      | some s => exact absurd (complete s hs) List.not_mem_nil
  | @cons e y entries pairs first _ ih =>
      obtain ⟨hpair, k, hk⟩ := first
      rw [List.find?_cons, Exemption.isFor_eq hpair hrule hdevice]
      by_cases hy : y = (n, d)
      · subst hy
        simp [hk]
      · rw [decide_eq_false hy]
        exact ih fun s hs => (List.mem_cons.1 (complete s hs)).resolve_left fun h => hy h.symm

/-- Whether a pair is there is whether something stands for it. -/
theorem any_isFor_eq {es : List Exemption} {rule device : Value} :
    es.any (·.isFor rule device) = (es.find? (·.isFor rule device)).isSome := by
  rw [Bool.eq_iff_iff, List.any_eq_true, List.find?_isSome]

/-- What stands for a pair is an exemption for the pair. -/
theorem Mirrors.pair?_eq (h : Mirrors stands clock pairs r) {s : Standing}
    (hs : stands x = some s) : s.exemption.pair? = some x := by
  have hmem := h.complete x s hs
  have hrows := h.rows
  generalize r.entries = entries at hrows
  clear h
  induction hrows with
  | nil => cases hmem
  | @cons e y entries pairs first _ ih =>
      rcases List.mem_cons.1 hmem with rfl | hmem
      · obtain ⟨hpair, n, hn⟩ := first
        cases hs.symm.trans hn
        exact hpair
      · exact ih hmem

/-- What an edit should be answered when some exemptions stand. -/
def Edit.AnsweredBy (stands : Int × Int → Option Standing) (pairs : List (Int × Int)) :
    Edit → Reply → Prop
  | add _, .done => True
  | exempt rule device expiry, .exemption e =>
      rule.id = .ok e.rule ∧ device.id = .ok e.device ∧ e.expiry = expiry
  | remove rule device, .flag b =>
      ∀ n d, rule.number? = some n → device.number? = some d → b = (stands (n, d)).isSome
  | clearRule rule, .count k => ∀ n, rule.number? = some n → k = pairs.countP fun x => x.1 == n
  | purge now, .count k =>
      k = pairs.countP fun x => (stands x).any fun s => !s.exemption.isActive now
  | _, _ => False

/-- What a removal leaves of a pair is what does not concern the pair that is removed. -/
theorem Mirrors.leaves_remove (h : Mirrors stands clock pairs r) {rule device : Party}
    {v w : Value} {n d : Int} (hn : rule.number? = some n) (hd : device.number? = some d)
    (hrule : v.asInt? = some n) (hdevice : w.asInt? = some d) (k : Nat) (x : Int × Int) :
    (Edit.remove rule device).leaves k x (stands x) =
      (stands x).filter fun s => !s.exemption.isFor v w := by
  rw [Edit.leaves, hn, hd]
  cases hs : stands x with
  | none => simp
  | some s =>
      rw [Option.filter_some, Exemption.isFor_eq (h.pair?_eq hs) hrule hdevice]
      by_cases hx : x = (n, d)
      · simp [hx]
      · have hne : ¬ (some n = some x.1 ∧ some d = some x.2) := by
          rintro ⟨h1, h2⟩
          exact hx (Prod.ext (Option.some.inj h1).symm (Option.some.inj h2).symm)
        rw [if_neg hne]
        simp [hx]

/-- What clearing a rule leaves of a pair is what is not for the rule. -/
theorem Mirrors.leaves_clearRule (h : Mirrors stands clock pairs r) {rule : Party} {v : Value}
    {n : Int} (hn : rule.number? = some n) (hrule : v.asInt? = some n) (k : Nat) (x : Int × Int) :
    (Edit.clearRule rule).leaves k x (stands x) =
      (stands x).filter fun s => !Value.equal s.exemption.rule v := by
  rw [Edit.leaves, hn]
  cases hs : stands x with
  | none => simp
  | some s =>
      have hpair := (Exemption.pair?_eq_some_iff.1 (h.pair?_eq hs)).1
      rw [Option.filter_some, Value.equal_of_asInt? hpair hrule]
      by_cases hx : x.1 = n
      · simp [hx]
      · simp [hx, Ne.symm hx]

/-- **One edit.**  An edit of a register that lists what a history leaves is answered as it should
be, and the register lists what the longer history leaves. -/
theorem Mirrors.perform {history : List Edit}
    (h : Mirrors (standing history) history.length pairs r) {edit : Edit}
    (numbered : edit.Numbered) :
    ∃ r' reply pairs', r.perform edit = .ok (r', reply) ∧
      edit.AnsweredBy (standing history) pairs reply ∧
      Mirrors (standing (history ++ [edit])) (history ++ [edit]).length pairs' r' := by
  have hlength : (history ++ [edit]).length = history.length + 1 := by simp
  rw [hlength, funext (standing_concat history edit)]
  cases edit with
  | add e =>
      obtain ⟨x, hx⟩ := Option.isSome_iff_exists.1 numbered
      obtain ⟨hrule, hdevice⟩ := Exemption.pair?_eq_some_iff.1 hx
      refine ⟨r.add e, .done, place x pairs, ?_, trivial, h.add hx⟩
      rw [Register.perform, asKeys_of_asInt? hrule hdevice]
      rfl
  | exempt rule device expiry =>
      obtain ⟨n, hn⟩ := Option.isSome_iff_exists.1 numbered.1
      obtain ⟨d, hd⟩ := Option.isSome_iff_exists.1 numbered.2
      obtain ⟨v, hv, hrule⟩ := Party.exists_id hn
      obtain ⟨w, hw, hdevice⟩ := Party.exists_id hd
      have hpair : (Exemption.mk v w expiry).pair? = some (n, d) :=
        Exemption.pair?_eq_some_iff.2 ⟨hrule, hdevice⟩
      refine ⟨r.add ⟨v, w, expiry⟩, .exemption ⟨v, w, expiry⟩, place (n, d) pairs, ?_,
        ⟨hv, hw, rfl⟩, ?_⟩
      · exact bind_eq_ok_iff.2 ⟨v, hv, bind_eq_ok_iff.2 ⟨w, hw, bind_eq_ok_iff.2
          ⟨_, asKeys_of_asInt? hrule hdevice, rfl⟩⟩⟩
      · have hleaves : (fun x => (Edit.exempt rule device expiry).leaves history.length x
            (standing history x)) = entered (standing history) history.length ⟨v, w, expiry⟩ := by
          funext x
          rw [Edit.leaves, hv, hw]
          rfl
        rw [hleaves]
        exact h.add hpair
  | remove rule device =>
      obtain ⟨n, hn⟩ := Option.isSome_iff_exists.1 numbered.1
      obtain ⟨d, hd⟩ := Option.isSome_iff_exists.1 numbered.2
      obtain ⟨v, hv, hrule⟩ := Party.exists_id hn
      obtain ⟨w, hw, hdevice⟩ := Party.exists_id hd
      refine ⟨⟨r.entries.filter fun e => !e.isFor v w⟩, .flag (r.remove v w).2, _, ?_, ?_,
        h.filter (h.leaves_remove hn hd hrule hdevice history.length)⟩
      · rw [← erase_eq_filter hrule hdevice h.nodup h.rows]
        exact bind_eq_ok_iff.2 ⟨v, hv, bind_eq_ok_iff.2 ⟨w, hw, bind_eq_ok_iff.2
          ⟨_, asKeys_of_asInt? hrule hdevice, rfl⟩⟩⟩
      · intro n' d' hn' hd'
        cases hn.symm.trans hn'
        cases hd.symm.trans hd'
        rw [Register.remove, any_isFor_eq,
          find?_rows hrule hdevice (fun s hs => h.complete _ s hs) h.rows, Option.isSome_map]
  | clearRule rule =>
      obtain ⟨n, hn⟩ := Option.isSome_iff_exists.1 numbered
      obtain ⟨v, hv, hrule⟩ := Party.exists_id hn
      refine ⟨(r.clearRule v).1, .count (r.clearRule v).2, _, ?_, ?_,
        h.filter (h.leaves_clearRule hn hrule history.length)⟩
      · rw [Register.perform, hv]
        rfl
      · intro n' hn'
        cases hn.symm.trans hn'
        exact countP_rows (equal_rule_eq hrule) h.rows
  | purge now =>
      refine ⟨(r.purge now).1, .count (r.purge now).2, _, rfl, ?_, h.filter ?_⟩
      · refine countP_rows ?_ h.rows
        rintro e x ⟨_, k, hk⟩
        rw [hk]
        rfl
      · intro x
        simp only [Edit.leaves, Bool.not_not]

/-- An empty register lists what no history leaves. -/
theorem mirrors_empty : Mirrors (standing []) 0 [] empty where
  rows := .nil
  complete := nofun
  ordered := .nil
  past := nofun

/-- **All edits.**  A register that lists what a history leaves goes on doing so. -/
theorem Mirrors.performAll {history : List Edit}
    (h : Mirrors (standing history) history.length pairs r) {edits : List Edit}
    (numbered : ∀ edit ∈ edits, edit.Numbered) :
    ∃ r' pairs', r.performAll edits = .ok r' ∧
      Mirrors (standing (history ++ edits)) (history ++ edits).length pairs' r' := by
  induction edits generalizing history pairs r with
  | nil => exact ⟨r, pairs, rfl, by rwa [List.append_nil]⟩
  | cons edit rest ih =>
      obtain ⟨hedit, hrest⟩ := List.forall_mem_cons.1 numbered
      obtain ⟨r₁, reply, pairs₁, hperform, _, h₁⟩ := h.perform hedit
      obtain ⟨r', pairs', hall, h'⟩ := ih h₁ hrest
      refine ⟨r', pairs', ?_, by rwa [List.append_cons]⟩
      rw [Register.performAll, hperform]
      exact hall

/-- Filling a register is a matter of edits. -/
theorem performAll_add (r : Register) (es : List Exemption) (edits : List Edit)
    (numbered : ∀ e ∈ es, (Edit.add e).Numbered) :
    r.performAll (es.map Edit.add ++ edits) = (es.foldl add r).performAll edits := by
  induction es generalizing r with
  | nil => rfl
  | cons e rest ih =>
      obtain ⟨he, hrest⟩ := List.forall_mem_cons.1 numbered
      obtain ⟨x, hx⟩ := Option.isSome_iff_exists.1 he
      obtain ⟨hrule, hdevice⟩ := Exemption.pair?_eq_some_iff.1 hx
      rw [List.map_cons, List.cons_append, performAll, perform, asKeys_of_asInt? hrule hdevice]
      exact ih (r.add e) hrest

/-! ## What is shown -/

/-- What a register shows of the exemptions that stand for some pairs. -/
structure Shows (stands : Int × Int → Option Standing) (pairs : List (Int × Int)) (r : Register) :
    Prop where
  /-- It goes through what stands for the pairs. -/
  entries : List.Forall₂ (StandsAs stands) r.entries pairs
  /-- It counts the pairs. -/
  size : r.size = pairs.length
  /-- It lists what stands for a rule. -/
  forRule : ∀ (rule : Party) n, rule.number? = some n → ∃ v, rule.id = .ok v ∧
    List.Forall₂ (StandsAs stands) (r.forRule v) (pairs.filter fun x => x.1 == n)
  /-- It lists what stands for a device. -/
  forDevice : ∀ (device : Party) d, device.number? = some d → ∃ w, device.id = .ok w ∧
    List.Forall₂ (StandsAs stands) (r.forDevice w) (pairs.filter fun x => x.2 == d)
  /-- It finds what stands for a pair, and excuses the pair as long as that has no end or its end
  lies strictly ahead. -/
  lookup : ∀ (rule device : Party) n d, rule.number? = some n → device.number? = some d →
    ∃ v w, rule.id = .ok v ∧ device.id = .ok w ∧
      r.find? v w = (stands (n, d)).map Standing.exemption ∧
      ∀ now, r.isExempted v w now = true ↔ ∃ s, stands (n, d) = some s ∧
        ∀ m, s.exemption.expiry = some m → now.instant < m.instant
  /-- It answers every edit. -/
  answer : ∀ edit : Edit, edit.Numbered → ∃ r' reply, r.perform edit = .ok (r', reply) ∧
    edit.AnsweredBy stands pairs reply

/-- A register that lists what a history leaves shows it. -/
theorem Mirrors.shows {history : List Edit}
    (h : Mirrors (standing history) history.length pairs r) : Shows (standing history) pairs r where
  entries := h.rows
  size := h.rows.length_eq
  forRule := by
    intro rule n hn
    obtain ⟨v, hv, hrule⟩ := Party.exists_id hn
    exact ⟨v, hv, rows_filter (equal_rule_eq hrule) h.rows⟩
  forDevice := by
    intro device d hd
    obtain ⟨w, hw, hdevice⟩ := Party.exists_id hd
    exact ⟨w, hw, rows_filter (equal_device_eq hdevice) h.rows⟩
  lookup := by
    intro rule device n d hn hd
    obtain ⟨v, hv, hrule⟩ := Party.exists_id hn
    obtain ⟨w, hw, hdevice⟩ := Party.exists_id hd
    have hfind : r.find? v w = (standing history (n, d)).map Standing.exemption :=
      find?_rows hrule hdevice (fun s hs => h.complete _ s hs) h.rows
    refine ⟨v, w, hv, hw, hfind, fun now => ?_⟩
    rw [r.isExempted_iff, hfind]
    cases standing history (n, d) <;> simp
  answer := by
    intro edit numbered
    obtain ⟨r', reply, _, hperform, hanswer, _⟩ := h.perform numbered
    exact ⟨r', reply, hperform, hanswer⟩

/-- **The history of a register.**  However a register has been filled and edited, the edits all
succeed, and the register shows what its history leaves: each pair for which something stands, and
no other pair, once, in the order in which the pairs came in. -/
theorem history_shown (es : List Exemption) (edits : List Edit)
    (numbered : ∀ edit ∈ es.map Edit.add ++ edits, edit.Numbered) :
    ∃ r pairs, (ofList es).performAll edits = .ok r ∧ pairs.Nodup ∧
      (∀ x, x ∈ pairs ↔ ∃ s, standing (es.map Edit.add ++ edits) x = some s) ∧
      (pairs.Pairwise fun x y => ∀ s t, standing (es.map Edit.add ++ edits) x = some s →
        standing (es.map Edit.add ++ edits) y = some t → s.since < t.since) ∧
      Shows (standing (es.map Edit.add ++ edits)) pairs r := by
  obtain ⟨r, pairs, hall, h⟩ := mirrors_empty.performAll numbered
  rw [List.nil_append] at h
  have hfilled : ∀ e ∈ es, (Edit.add e).Numbered := fun e he =>
    numbered _ (List.mem_append_left edits (List.mem_map_of_mem he))
  rw [performAll_add empty es edits hfilled] at hall
  refine ⟨r, pairs, hall, h.nodup, fun x => ⟨exists_standing_of_rows h.rows, ?_⟩, h.ordered,
    h.shows⟩
  rintro ⟨s, hs⟩
  exact h.complete x s hs

/-- Noon of a day in 2026. -/
def noonOf (month day : Nat) : Moment := ⟨⟨2026, month, day⟩, ⟨12, 0, 0, 0⟩, none⟩

/-- A register is filled with three exemptions, of which one is for a flag. -/
def filling : List Exemption :=
  [⟨.int 10, .int 1, none⟩, ⟨.flag true, .int 2, some (noonOf 3 1)⟩, ⟨.int 5, .int 2, none⟩]

/-- The first pair is removed and comes back, the second one is entered again and purged only
once it has run out, and the third one is cleared. -/
def editing : List Edit :=
  [.remove (.rule ⟨.int 10, .text "banner", .flag true, .generic⟩) (.plain (.int 1)),
    .exempt (.plain (.int 1)) (.plain (.int 2)) (some (noonOf 4 1)),
    .exempt (.plain (.int 10)) (.plain (.flag true)) none,
    .purge (noonOf 3 2), .clearRule (.plain (.int 5))]

/-- A pair that comes back goes last, and one that is entered again keeps its place. -/
theorem shown_of_editing :
    (∀ edit ∈ filling.map Edit.add ++ editing, edit.Numbered) ∧
    ∃ r, (ofList filling).performAll editing = .ok r ∧
      Shows (standing (filling.map Edit.add ++ editing)) [(1, 2), (10, 1)] r := by
  have hnumbered : ∀ edit ∈ filling.map Edit.add ++ editing, edit.Numbered := by
    simp [filling, editing, Edit.Numbered, Party.number?, Exemption.pair?, Value.asInt?]
  refine ⟨hnumbered, ?_⟩
  obtain ⟨r, pairs, hall, _, _, _, hshows⟩ := history_shown filling editing hnumbered
  refine ⟨r, hall, ?_⟩
  have hr : (ofList filling).performAll editing =
      .ok ⟨[⟨.int 1, .int 2, some (noonOf 4 1)⟩, ⟨.int 10, .flag true, none⟩]⟩ := by cbv
  cases hr.symm.trans hall
  have hpairs : pairs = [(1, 2), (10, 1)] := by
    obtain _ | ⟨hfirst, _ | ⟨hsecond, ⟨⟩⟩⟩ := hshows.entries
    cases hfirst.1
    cases hsecond.1
    rfl
  exact hpairs ▸ hshows

end Register

end ConfigAudit
