/-
# Inverted rules

A rule is inverted by a field of its definition, which may hold any value.  Its comments say that
the text is forbidden if the value counts as set; but a block fails if the value equals the truth
value that says whether the text is found.  So the rule does what it says for values that equal a
truth value, and passes all blocks for others.

* `ActsAsSaid` : a check fails the blocks that the comments of the rule speak of;
* `SingleCheck.passes_iff` : when a configuration passes that is one block;
* `inverted_as_said_iff` : which values a rule can be inverted by.
-/
import ConfigAudit.Proofs.Rule.PlainText
import ConfigAudit.Proofs.Rule.TextCheck
import ConfigAudit.Proofs.Value.Switch
import ConfigAudit.Rule.Kind

namespace ConfigAudit

/-! ## Checks that do what they say -/

/-- A check fails blocks with the text if the rule is inverted by a value that counts as set, as
its comments say, and blocks without the text otherwise. -/
structure ActsAsSaid (g : Setting) (rule : Rule) (s : Subject) (configuration : String)
    (r : TextRule) : Prop where
  /-- Which texts fail. -/
  fails : ∀ t found, r.found t = .ok found → r.fails t = .ok (found == r.invert.truthy)
  /-- What is reported. -/
  reported : ∃ blocks, ∃ found : String → Bool, ∃ notes result,
    r.blocks configuration = .ok blocks ∧ (∀ t, r.found t = .ok (found t)) ∧
    rule.check g s = (notes, .ok result) ∧
    r.Judged (fun b => found b.text == r.invert.truthy) blocks result.outcome result.comment

/-- A check passes. -/
def Passes (g : Setting) (rule : Rule) (s : Subject) : Prop :=
  ∃ notes result, rule.check g s = (notes, .ok result) ∧ result.outcome = .conforming

variable {g : Setting} {rule : Rule} {s : Subject} {configuration : String} {r : TextRule}

/-- A rule that is inverted by a switch does what it says. -/
theorem TextCheck.actsAsSaid (h : TextCheck g rule s configuration r)
    (hswitch : r.invert.IsSwitch) : ActsAsSaid g rule s configuration r where
  fails t found hfound := by
    rw [TextRule.fails, hfound, ← Value.equal_flag_of_isSwitch hswitch]
    rfl
  reported := by
    obtain ⟨blocks, found, notes, result, hblocks, hfound, hcheck, hjudged⟩ := h.reported
    refine ⟨blocks, found, notes, result, hblocks, hfound, hcheck, ?_⟩
    simp only [Value.equal_flag_of_isSwitch hswitch] at hjudged
    exact hjudged

/-- A rule that is inverted by anything else passes wherever there is a block. -/
theorem TextCheck.passes_of_not_isSwitch (h : TextCheck g rule s configuration r)
    (hother : ¬ r.invert.IsSwitch) (hsome : r.blocks configuration ≠ .ok []) : Passes g rule s := by
  obtain ⟨blocks, found, notes, result, hblocks, hfound, hcheck, hjudged⟩ := h.reported
  have hfilled : blocks ≠ [] := by
    rintro rfl
    exact hsome hblocks
  refine ⟨notes, result, hcheck, (hjudged.conforming_iff hfilled).2 ?_⟩
  unfold TextRule.Complies
  split
  · obtain ⟨b, hb⟩ := List.exists_mem_of_ne_nil blocks hfilled
    exact ⟨b, hb, Value.equal_flag_of_not_isSwitch hother _⟩
  · exact fun _ _ => Value.equal_flag_of_not_isSwitch hother _

/-! ## Single blocks -/

/-- A check of a configuration that is one block, in which the text is found or not. -/
def SingleCheck (g : Setting) (rule : Rule) (s : Subject) (r : TextRule) (found : Bool) : Prop :=
  ∃ configuration b, TextCheck g rule s configuration r ∧ r.blocks configuration = .ok [b] ∧
    r.found b.text = .ok found

/-- A single block passes if the inverting value is not the one that says whether the text is
found. -/
theorem SingleCheck.passes_iff {found : Bool} (h : SingleCheck g rule s r found) :
    Passes g rule s ↔ Value.equal (.flag found) r.invert = false := by
  obtain ⟨configuration, b, hcheck, hblocks, hfound⟩ := h
  obtain ⟨blocks, found', notes, result, hblocks', hfound', hresult, hjudged⟩ := hcheck.reported
  obtain rfl : [b] = blocks := Except.ok.inj (hblocks.symm.trans hblocks')
  obtain rfl : found = found' b.text := Except.ok.inj (hfound.symm.trans (hfound' b.text))
  rw [← hjudged.conforming_singleton_iff]
  constructor
  · rintro ⟨notes', result', hresult', hpasses⟩
    cases hresult.symm.trans hresult'
    exact hpasses
  · exact fun hpasses => ⟨notes, result, hresult, hpasses⟩

/-! ## Inverting values -/

/-- A rule that looks for a login banner and is inverted by a value. -/
def bannerRule (v : Value) : TextRule := { lineRule "login banner" false with invert := v }

/-- The rule with an id and a name. -/
def bannerCheck (v : Value) : Rule := ⟨.int 1, .text "line", .flag true, .text (bannerRule v)⟩

/-- A device with a login banner, or without one. -/
def bannerDevice (present : Bool) : Subject :=
  running (if present then "login banner" else "hostname edge")

/-- The rule looks into one block. -/
theorem singleCheck_banner (v : Value) (present : Bool) :
    SingleCheck noInterpreters (bannerCheck v) (bannerDevice present) (bannerRule v) present := by
  have hplain := plainCheck_lineRule (by decide : "login banner" ≠ "") false
    (if present then "login banner" else "hostname edge")
  refine ⟨_, _, hplain.textCheck.withFlags v (.flag false), TextRule.blocks_of_no_context rfl _, ?_⟩
  refine (TextRule.found_plain rfl rfl rfl rfl _).trans (congrArg Except.ok ?_)
  cases present <;> decide +kernel

/-- **Inverting values.**  Rules inverted by a value do what they say exactly if the value equals a
truth value.  Exactly then no such rule passes both a single block with its text and one without.
If the value equals no truth value, the rules pass wherever there is a block. -/
theorem inverted_as_said_iff (v : Value) :
    ((∀ g rule s configuration r, TextCheck g rule s configuration r → r.invert = v →
        ActsAsSaid g rule s configuration r) ↔ v.IsSwitch) ∧
    ((∀ g rule s s' r, r.invert = v → SingleCheck g rule s r true → SingleCheck g rule s' r false →
        ¬ (Passes g rule s ∧ Passes g rule s')) ↔ v.IsSwitch) ∧
    (¬ v.IsSwitch → ∀ g rule s configuration r, TextCheck g rule s configuration r →
      r.invert = v → r.blocks configuration ≠ .ok [] → Passes g rule s) := by
  have hpasses : ¬ v.IsSwitch → ∀ present, Passes noInterpreters (bannerCheck v)
      (bannerDevice present) := fun hother present =>
    (singleCheck_banner v present).passes_iff.2 (Value.equal_flag_of_not_isSwitch hother present)
  refine ⟨⟨fun hsaid => ?_, ?_⟩, ⟨fun hapart => ?_, ?_⟩, ?_⟩
  · by_contra hother
    -- the rule says that the text fails for which it is found or not as the value counts
    obtain ⟨configuration, b, hcheck, _, hfound⟩ := singleCheck_banner v v.truthy
    have hfails := (hsaid _ _ _ _ _ hcheck rfl).fails _ _ hfound
    rw [TextRule.fails, hfound] at hfails
    have hnever : Value.equal (.flag v.truthy) v = false :=
      Value.equal_flag_of_not_isSwitch hother v.truthy
    cases hnever.symm.trans ((Except.ok.inj hfails).trans (beq_self_eq_true _))
  · rintro hswitch g rule s configuration r h rfl
    exact h.actsAsSaid hswitch
  · by_contra hother
    exact hapart _ _ _ _ _ rfl (singleCheck_banner v true) (singleCheck_banner v false)
      ⟨hpasses hother true, hpasses hother false⟩
  · rintro hswitch g rule s s' r rfl hfound hmissing ⟨hpass, hpass'⟩
    have htrue := hfound.passes_iff.1 hpass
    have hfalse := hmissing.passes_iff.1 hpass'
    rw [Value.equal_flag_of_isSwitch hswitch] at htrue hfalse
    cases htruthy : r.invert.truthy <;> rw [htruthy] at htrue hfalse
    · cases hfalse
    · cases htrue
  · rintro hother g rule s configuration r h rfl hsome
    exact h.passes_of_not_isSwitch hother hsome

/-- One is a switch like any truth value: a rule that is inverted by it forbids its text. -/
theorem not_passes_of_one :
    SingleCheck noInterpreters (bannerCheck (.int 1)) (bannerDevice true) (bannerRule (.int 1)) true ∧
    SingleCheck noInterpreters (bannerCheck (.int 1)) (bannerDevice false) (bannerRule (.int 1))
      false ∧
    ¬ (Passes noInterpreters (bannerCheck (.int 1)) (bannerDevice true) ∧
      Passes noInterpreters (bannerCheck (.int 1)) (bannerDevice false)) := by
  have hswitch : (Value.int 1).IsSwitch := ⟨true, by simp [Value.equal]⟩
  have hfound := singleCheck_banner (.int 1) true
  have hmissing := singleCheck_banner (.int 1) false
  exact ⟨hfound, hmissing,
    (inverted_as_said_iff (.int 1)).2.1.2 hswitch _ _ _ _ _ rfl hfound hmissing⟩

/-- A definition that leaves the inverting field empty. -/
def emptyInvert : Value :=
  .record [("type", .text "text"), ("id", .int 1), ("name", .text "line"), ("enabled", .flag true),
    ("text", .text "login banner"), ("invert", .null)]

/-- A rule that is built from a definition with an empty inverting field, and accepted, passes a
configuration without its text, although it is not inverted. -/
theorem not_inverted_as_said :
    ¬ ∀ document rule g s configuration r, KindTable.standard.ruleOf document = .ok rule →
      TextCheck g rule s configuration r → ActsAsSaid g rule s configuration r := by
  intro claim
  have hbuilt : KindTable.standard.ruleOf emptyInvert = .ok (bannerCheck .null) := by cbv
  obtain ⟨configuration, b, hcheck, _, hfound⟩ := singleCheck_banner .null false
  have hfails := (claim _ _ _ _ _ _ hbuilt hcheck).fails _ _ hfound
  rw [TextRule.fails, hfound] at hfails
  have hnever : Value.equal (.flag false) .null = false := by simp [Value.equal]
  cases hnever.symm.trans (Except.ok.inj hfails)

end ConfigAudit
