/-
# Exemptions come back from the store

An exemption that was entered is found again as long as neither its rule nor the policy of its
rule is deleted and no other exemption takes its place, whatever else is asked of the store.  It
then holds as long as it was meant to if its end came without an offset or in universal time; any
other offset is forgotten and shifts the end.

* `Operation.spares`, `Holds` : what leaves a stored exemption alone, and what it leaves;
* `isExempted_of_holds` : what a stored exemption excuses;
* `exempted_as_entered_iff` : when a device is exempted as it was meant to be.
-/
import ConfigAudit.Proofs.Exemption.Lookup
import ConfigAudit.Proofs.Store.Sound

namespace ConfigAudit

/-! ## The forgotten offset -/

/-- A moment whose offset is forgotten moves by the offset. -/
theorem Moment.instant_withoutOffset (m : Moment) :
    m.withoutOffset.instant = m.instant + m.offset.getD 0 := by
  simp only [withoutOffset, instant, localMicros, Option.getD_none]
  omega

/-- An end whose offset is forgotten is the same end if and only if it was in universal time. -/
theorem Exemption.isActive_withoutOffset_iff (e : Exemption) :
    (∀ t, isActive { e with expiry := e.expiry.map Moment.withoutOffset } t = e.isActive t) ↔
      ∀ m, e.expiry = some m → m.offset.getD 0 = 0 := by
  obtain ⟨rule, device, expiry⟩ := e
  cases expiry with
  | none => simp
  | some m =>
      simp only [Option.map_some, isActive_until, Option.some.injEq, forall_eq']
      constructor
      · intro same
        -- the two ends lie on the two sides of one of them, unless they agree
        have hend := same m
        have hshifted := same m.withoutOffset
        simp only [Moment.isBefore, Moment.instant_withoutOffset, decide_eq_decide] at hend hshifted
        omega
      · intro hzero t
        rw [Moment.isBefore, Moment.isBefore, Moment.instant_withoutOffset, hzero, Int.add_zero]

/-! ## The register of stored exemptions -/

namespace Register

/-- An exemption that is entered is found. -/
theorem find?_insert_self {n d : Int} (expiry : Option Moment) (es : List Exemption) :
    (insert ⟨.int n, .int d, expiry⟩ es).find? (·.isFor (.int n) (.int d)) =
      some ⟨.int n, .int d, expiry⟩ := by
  have hself := (Exemption.isFor_int n d n d expiry).2 ⟨rfl, rfl⟩
  induction es with
  | nil => rw [insert, List.find?_cons_of_pos hself]
  | cons x xs ih =>
      rw [insert]
      split
      · rw [List.find?_cons_of_pos hself]
      · rename_i hx
        rw [List.find?_cons_of_neg hx, ih]

/-- Exemptions of other pairs that are entered are not seen from a pair. -/
theorem find?_foldl_add {n d : Int} (rows : List ExemptionRow)
    (apart : ∀ e ∈ rows, Store.pairOf e ≠ (n, d)) (r : Register) :
    ((rows.map Store.exemptionOfRow).foldl add r).find? (.int n) (.int d) =
      r.find? (.int n) (.int d) := by
  induction rows generalizing r with
  | nil => rfl
  | cons e rows ih =>
      rw [List.map_cons, List.foldl_cons, ih fun e' he' => apart e' (List.mem_cons_of_mem e he')]
      exact find?_insert_of_ne e.expiry r.entries (apart e List.mem_cons_self)

/-- Of rows for different pairs, each is found in their register. -/
theorem find?_ofList {rows : List ExemptionRow} (distinct : (rows.map Store.pairOf).Nodup)
    {e : ExemptionRow} (he : e ∈ rows) :
    (ofList (rows.map Store.exemptionOfRow)).find? (.int e.rule) (.int e.device) =
      some (Store.exemptionOfRow e) := by
  obtain ⟨before, behind, rfl⟩ := List.append_of_mem he
  rw [List.map_append, List.map_cons, List.nodup_append, List.nodup_cons] at distinct
  have apart : ∀ e' ∈ behind, Store.pairOf e' ≠ (e.rule, e.device) := by
    intro e' he' heq
    exact distinct.2.1.1 (List.mem_map.2 ⟨e', he', heq⟩)
  rw [ofList, List.map_append, List.map_cons, List.foldl_append, List.foldl_cons,
    find?_foldl_add behind apart]
  exact find?_insert_self e.expiry _

end Register

/-! ## Operations that leave an exemption alone -/

/-- Whether an operation leaves the exemption of a rule and a device alone: it does not delete the
rule or its policy, and it neither enters nor removes an exemption of this pair. -/
def Operation.spares (policy rule device : Int) : Operation → Bool
  | .deletePolicy id => !id.means policy
  | .deleteRule id => !id.means rule
  | .addExemption e => !(e.rule.means rule && e.device.means device)
  | .removeExemption n d => !(n.means rule && d.means device)
  | .createPolicy .. | .addRule .. | .updateRule _ => true

namespace Store

variable {s s' : Store} {policy : Int} {e : ExemptionRow}

/-- A sound store that holds an exemption from a rule of a policy. -/
structure Holds (s : Store) (policy : Int) (e : ExemptionRow) : Prop where
  /-- The store is sound. -/
  sound : s.Sound
  /-- The rule belongs to the policy. -/
  ruled : ∃ r ∈ s.rules, r.id = e.rule ∧ r.policy = policy
  /-- The exemption is there. -/
  entered : e ∈ s.exemptions

/-- An exemption that is entered is there. -/
theorem mem_enterRow_self (row : ExemptionRow) (rows : List ExemptionRow) :
    row ∈ enterRow row rows := by
  induction rows with
  | nil => exact List.mem_singleton_self row
  | cons e rest ih =>
      rw [enterRow]
      split
      · exact List.mem_cons_self
      · exact List.mem_cons_of_mem e ih

/-- An exemption of another pair stays when one is entered. -/
theorem mem_enterRow_of_ne {row e : ExemptionRow} {rows : List ExemptionRow} (he : e ∈ rows)
    (hne : isRowFor row.rule row.device e = false) : e ∈ enterRow row rows := by
  induction rows with
  | nil => exact absurd he List.not_mem_nil
  | cons e' rest ih =>
      rw [enterRow]
      rcases List.mem_cons.1 he with rfl | he
      · rw [hne, if_neg Bool.false_ne_true]
        exact List.mem_cons_self
      · split
        · exact List.mem_cons_of_mem row he
        · exact List.mem_cons_of_mem e' (ih he)

/-- An operation that leaves an exemption alone leaves its rule in its policy. -/
theorem Change.ruled {op : Operation} {a : Answer} (hop : op.spares policy e.rule e.device = true)
    (h : s.Holds policy e) (hchange : Change s op a s') :
    ∃ r ∈ s'.rules, r.id = e.rule ∧ r.policy = policy := by
  obtain ⟨r, hr, hid, hpolicy⟩ := h.ruled
  cases hchange with
  | deletePolicy _ meant =>
      rename_i p _
      have hne : r.policy ≠ p.id := by
        rintro heq
        rw [← heq, hpolicy] at meant
        simp [Operation.spares, meant] at hop
      rw [h.sound.withoutPolicy_eq]
      exact ⟨r, List.mem_filter.2 ⟨hr, bne_iff_ne.2 hne⟩, hid, hpolicy⟩
  | updateRule found _ kept _ =>
      have hstays := policy_replaced h.sound.ruleIds found kept.id_eq kept.policy_eq hr
      exact ⟨_, List.mem_map.2 ⟨r, hr, rfl⟩, (id_replaced _ r).trans hid, hstays.trans hpolicy⟩
  | deleteRule _ meant =>
      rename_i r' _
      have hne : r.id ≠ r'.id := by
        intro heq
        rw [← heq, hid] at meant
        simp [Operation.spares, meant] at hop
      exact ⟨r, List.mem_filter.2 ⟨hr, bne_iff_ne.2 hne⟩, hid, hpolicy⟩
  | addRule _ _ _ _ => exact ⟨r, List.mem_append_left _ hr, hid, hpolicy⟩
  | _ => exact ⟨r, hr, hid, hpolicy⟩

/-- An operation that leaves an exemption alone leaves it in the store. -/
theorem Change.entered {op : Operation} {a : Answer}
    (hop : op.spares policy e.rule e.device = true) (h : s.Holds policy e)
    (hchange : Change s op a s') : e ∈ s'.exemptions := by
  obtain ⟨r, hr, hid, hpolicy⟩ := h.ruled
  cases hchange with
  | deletePolicy _ meant =>
      rename_i p _
      rw [h.sound.withoutPolicy_eq]
      refine List.mem_filter.2 ⟨h.entered, List.all_eq_true.2 ?_⟩
      intro r' hr'
      obtain ⟨hmem, hpolicy'⟩ := List.mem_filter.1 hr'
      rw [bne_iff_ne]
      intro hid'
      -- the rule of the exemption would belong to the policy that is deleted
      obtain rfl := h.sound.rule_eq hmem hr (hid'.trans hid.symm)
      rw [← beq_iff_eq.1 hpolicy', hpolicy] at meant
      simp [Operation.spares, meant] at hop
  | deleteRule _ meant =>
      rename_i r' _
      refine List.mem_filter.2 ⟨h.entered, ?_⟩
      rw [bne_iff_ne]
      intro heq
      rw [← heq] at meant
      simp [Operation.spares, meant] at hop
  | addExemption _ meant placed =>
      refine mem_enterRow_of_ne h.entered ?_
      rw [Bool.eq_false_iff]
      intro hfor
      obtain ⟨hrule, hdevice⟩ := Prod.mk.inj (isRowFor_iff.1 hfor)
      simp [Operation.spares, hrule, hdevice, meant, placed] at hop
  | removeExemption meant placed =>
      refine List.mem_filter.2 ⟨h.entered, ?_⟩
      rw [Bool.not_eq_true', Bool.eq_false_iff, isRowFor, Ne, Bool.and_eq_true, beq_iff_eq,
        beq_iff_eq]
      rintro ⟨rfl, rfl⟩
      simp [Operation.spares, meant, placed] at hop
  | _ => exact h.entered

/-- An operation that leaves an exemption alone keeps it, also if it fails. -/
theorem Moved.holds {op : Operation} (hop : op.spares policy e.rule e.device = true)
    (h : s.Holds policy e) (hmoved : Moved s op s') : s'.Holds policy e := by
  refine ⟨hmoved.sound h.sound, ?_, ?_⟩
  · rcases hmoved with rfl | ⟨a, hchange⟩ | ⟨f, hleft⟩
    · exact h.ruled
    · exact hchange.ruled hop h
    · cases hleft with
      | createPolicy _ _ _ => exact h.ruled
  · rcases hmoved with rfl | ⟨a, hchange⟩ | ⟨f, hleft⟩
    · exact h.entered
    · exact hchange.entered hop h
    · cases hleft with
      | createPolicy _ _ _ => exact h.entered

/-- An exemption that is entered is held in its stored form. -/
theorem Change.holds {x : Exemption} {a : Answer} {r : RuleRow} {device : Int} (h : s.Sound)
    (hchange : Change s (.addExemption x) a s') (hr : r ∈ s.rules)
    (meant : x.rule.means r.id = true) (placed : x.device.means device = true) :
    s'.Holds r.policy ⟨r.id, device, x.expiry.map Moment.withoutOffset⟩ := by
  refine ⟨hchange.sound h, ?_, ?_⟩
  · cases hchange
    exact ⟨r, hr, rfl, rfl⟩
  · cases hchange with
    | addExemption found meant' placed' =>
        obtain rfl := h.rule_eq found hr (Value.eq_of_means meant' meant)
        obtain rfl := Value.eq_of_means placed' placed
        exact mem_enterRow_self _ _

end Store

/-! ## Loading -/

namespace Session

open Store

variable {rows : Store} {s : Session} {policy : Int} {e : ExemptionRow} {limit : Option Nat}

/-- The exemptions of devices are loaded, if their ids fit into a column and are not too many. -/
theorem loadExemptions_of_fits (h : Ready rows s) {devices : Option (List Int)}
    (fit : ∀ ids ∈ devices, ∀ d ∈ ids, fitsColumn d = true)
    (room : ∀ ids ∈ devices, ∀ n ∈ limit, ids.length ≤ n) :
    s.outcome (loadExemptions .calm limit (devices.map fun ids => ids.map Value.int)) =
      .ok (rows.registerOf devices) := by
  rw [outcome_loadExemptions h, Value.restriction_of_fits fit room]
  rfl

/-- An exemption that a store holds excuses its device up to the stored end, in the register of all
exemptions and in that of devices among which is its own. -/
theorem isExempted_of_holds (h : rows.Holds policy e) {devices : Option (List Int)}
    (included : ∀ ids ∈ devices, e.device ∈ ids) (t : Moment) :
    (rows.registerOf devices).isExempted (.int e.rule) (.int e.device) t =
      (exemptionOfRow e).isActive t := by
  have hselected : isSelected devices e.device = true := by
    cases devices with
    | none => rfl
    | some ids => exact List.contains_iff_mem.2 (included ids rfl)
  rw [registerOf, Register.isExempted, Register.find?_ofList (nodup_map_filter h.sound.pairs _)
    (List.mem_filter.2 ⟨h.entered, hselected⟩), Option.any_some]

/-- **Stored exemptions excuse as they were entered, but for the offset.**  An exemption from a
stored rule is entered, and the operations that follow leave it alone.  Then any session that is of
use, a new one or the same, loads the exemptions, all or those of some devices among which is the
one that is exempted, and the device is exempted from the rule at every instant before the end that
was entered, read as universal time.  So it is exempted exactly as long as was meant if and only if
the end came without an offset or in universal time, or there was none. -/
theorem exempted_as_entered_iff (g : Setting) (w : Weather) (earlier later : List Operation)
    (x : Exemption) (a : Answer) (s : Session) (r : RuleRow) (device : Int) (limit : Option Nat)
    (devices : Option (List Int))
    (entered : perform g w (.addExemption x) ((opened .empty).after g w earlier) = .ok a s)
    (stored : r ∈ ((opened .empty).after g w earlier).stored.rules)
    (meant : x.rule.means r.id = true) (placed : x.device.means device = true)
    (spared : ∀ op ∈ later, op.spares r.policy r.id device = true)
    (included : ∀ ids ∈ devices, device ∈ ids)
    (fit : ∀ ids ∈ devices, ∀ d ∈ ids, fitsColumn d = true)
    (room : ∀ ids ∈ devices, ∀ n ∈ limit, ids.length ≤ n) :
    ∀ t, Ready (s.after g w later).stored t → ∃ register,
      t.outcome (loadExemptions .calm limit (devices.map fun ids => ids.map Value.int)) =
        .ok register ∧
      (∀ now, register.isExempted (.int r.id) (.int device) now =
        Exemption.isActive { x with expiry := x.expiry.map Moment.withoutOffset } now) ∧
      ((∀ now, register.isExempted (.int r.id) (.int device) now = x.isActive now) ↔
        ∀ m, x.expiry = some m → m.offset.getD 0 = 0) := by
  intro t ht
  obtain ⟨hsettled, hsound⟩ := sound_after g w (ready_opened .empty).settled sound_empty earlier
  obtain ⟨hready, hchange⟩ := changed_of_perform hsettled entered
  have hholds : (s.after g w later).stored.Holds r.policy
      ⟨r.id, device, x.expiry.map Moment.withoutOffset⟩ :=
    (after_induction (fun rows => rows.Holds r.policy _)
      (fun op => op.spares r.policy r.id device = true) (fun _ _ _ hop hs hmoved =>
        hmoved.holds hop hs) later spared hready.settled
      (hchange.holds hsound stored meant placed)).2
  have hexempted := fun now => isExempted_of_holds hholds included now
  refine ⟨_, loadExemptions_of_fits ht fit room, hexempted, ?_⟩
  simp only [hexempted]
  exact x.isActive_withoutOffset_iff

/-- A policy with one rule. -/
def baseline : List Operation :=
  [.createPolicy (.text "baseline") (.list []),
    .addRule (.int 1) ⟨.int 0, .text "banner", .flag true, .generic⟩]

/-- An exemption up to noon, two hours ahead of universal time. -/
def untilShiftedNoon : Exemption :=
  ⟨.int 1, .int 7, some ⟨⟨2026, 3, 1⟩, ⟨12, 0, 0, 0⟩, some 7200000000⟩⟩

/-- An hour after its end. -/
def hourLater : Moment := ⟨⟨2026, 3, 1⟩, ⟨11, 0, 0, 0⟩, some 0⟩

/-- The rule has another name in the end. -/
def motdLater : List Operation := [.updateRule ⟨.int 1, .text "motd", .flag false, .generic⟩]

/-- The session after the exemption has been entered. -/
def shiftedSession : Session :=
  ((opened .empty).after noInterpreters .calm baseline).next noInterpreters .calm
    (.addExemption untilShiftedNoon)

/-- An hour after its end the exemption still excuses the device, also when the rule has been
changed in the meantime. -/
theorem isExempted_hourLater :
    ∃ register, (shiftedSession.after noInterpreters .calm motdLater).outcome
        (loadExemptions .calm (some 999) (some [.int 3, .int 7])) = .ok register ∧
      register.isExempted (.int 1) (.int 7) hourLater = true := by
  obtain ⟨register, hload, hexempted, _⟩ := exempted_as_entered_iff noInterpreters .calm baseline
    motdLater untilShiftedNoon (.exemption untilShiftedNoon) shiftedSession
    ⟨1, 1, "banner", "generic", true, .table []⟩ 7 (some 999) (some [3, 7]) rfl
    (List.mem_singleton_self _) (by decide) (by decide) (by simp [motdLater, Operation.spares])
    (by simp) (by simp [fitsColumn]) (by simp) (shiftedSession.after noInterpreters .calm motdLater)
    ⟨rfl, rfl, rfl, rfl⟩
  exact ⟨register, hload, (hexempted hourLater).trans (by decide)⟩

/-- So it is not true that an exemption that comes back always holds as it was entered. -/
theorem not_exempted_as_entered :
    ¬ ∀ (g : Setting) (w : Weather) (earlier later : List Operation) (x : Exemption) (a : Answer)
      (s : Session) (r : RuleRow) (device : Int) (devices : Option (List Int)),
      perform g w (.addExemption x) ((opened .empty).after g w earlier) = .ok a s →
      r ∈ ((opened .empty).after g w earlier).stored.rules → x.rule.means r.id = true →
      x.device.means device = true → (∀ op ∈ later, op.spares r.policy r.id device = true) →
      (∀ ids ∈ devices, device ∈ ids) → ∀ t register, Ready (s.after g w later).stored t →
      t.outcome (loadExemptions .calm none (devices.map fun ids => ids.map Value.int)) =
        .ok register →
      ∀ now, register.isExempted (.int r.id) (.int device) now = x.isActive now := by
  intro claim
  have hready : Ready (shiftedSession.after noInterpreters .calm []).stored shiftedSession :=
    ⟨rfl, rfl, rfl, rfl⟩
  have hload : shiftedSession.outcome (loadExemptions .calm none none) =
      .ok (shiftedSession.stored.registerOf none) := rfl
  have hsame := claim noInterpreters .calm baseline [] untilShiftedNoon
    (.exemption untilShiftedNoon) shiftedSession ⟨1, 1, "banner", "generic", true, .table []⟩ 7 none
    rfl (List.mem_singleton_self _) (by decide) (by decide) (by simp) (by simp) shiftedSession _
    hready hload hourLater
  have hexempted : (shiftedSession.stored.registerOf none).isExempted (.int 1) (.int 7) hourLater =
      true := by decide
  have hactive : untilShiftedNoon.isActive hourLater = false := by decide
  rw [hexempted, hactive] at hsame
  cases hsame

end Session

end ConfigAudit
