/-
# Definitions that are accepted

A text rule is looked at once, without any device, and is then checked on many.  What is asked of it
when it is accepted is all that its checks need: on a device whose configuration holds a text in the
field of the rule, no check ends in an error.

* `TextRule.debug_of_mem_evaluate` : text rules note nothing that is wrong;
* `Decided` : how a text rule is decided, stage by stage;
* `accepted_is_decided` : the result of an accepted text rule.
-/
import ConfigAudit.Proofs.Rule.BlockVerdict

namespace ConfigAudit

/-! ## Configurations -/

/-- A text rule notes only what helps its authors. -/
theorem TextRule.debug_of_mem_evaluate {r : TextRule} {name : Value} {d : Device} {note : Note}
    (h : note ∈ (r.evaluate name d).1) : ∃ message, note = .debug message := by
  unfold evaluate at h
  split at h
  · cases h
  · cases h
  · split at h
    · cases h
    · rename_i note' hnote
      obtain rfl := List.mem_singleton.1 h
      obtain ⟨_, _, hnote⟩ := bind_eq_ok_iff.1 hnote
      obtain ⟨_, _, hnote⟩ := bind_eq_ok_iff.1 hnote
      exact ⟨_, (Except.ok.inj hnote).symm⟩

/-- A field that holds a text holds a configuration. -/
theorem TextRule.exists_configuration {r : TextRule} {d : Device} {v : Value}
    (field : r.field.isText = true) (held : Value.lookup r.field d.attributes = some v)
    (text : v.isText = true) :
    ∃ configuration, v.asText? = some configuration ∧ r.configuration d = .ok configuration := by
  obtain ⟨configuration, hv⟩ := Option.isSome_iff_exists.1 text
  have hkey : r.field.asKey = .ok r.field := by
    cases hfield : r.field with
    | text | outcome => rfl
    | _ =>
        rw [hfield] at field
        cases field
  have hfound : d.configuration? r.field = .ok (some v) := by
    refine bind_eq_ok_iff.2 ⟨r.field, hkey, ?_⟩
    rw [held]
    cases v with
    | null => cases hv
    | _ => rfl
  refine ⟨configuration, hv, ?_⟩
  have hspell : v.spellText = .ok configuration := by
    rw [Value.spellText, hv]
  rw [TextRule.configuration, Device.configuration, hfound]
  exact bind_eq_ok_iff.2 ⟨v, rfl, lift_eq_ok_iff.2 hspell⟩

/-! ## Results -/

section Results

variable {g : Setting} {rule : Rule} {s : Subject} {r : TextRule}

/-- How a text rule is decided on a device, stage by stage. -/
inductive Decided (g : Setting) (rule : Rule) (s : Subject) (r : TextRule) : Checked → Prop
  /-- The rule is switched off. -/
  | off (off : rule.enabled.truthy = false) :
      Decided g rule s r ([], .ok (rule.header.result s.device .disabled .null))
  /-- The id of the rule cannot be looked up. -/
  | untold {f : ValueFault} (on : rule.enabled.truthy = true)
      (untold : s.isExempted rule.id g.now = .error f) : Decided g rule s r ([], .error (.value f))
  /-- The device is excused. -/
  | excused (on : rule.enabled.truthy = true) (excused : s.isExempted rule.id g.now = .ok true) :
      Decided g rule s r ([], .ok (rule.header.result s.device .exempted .null))
  /-- The rule or the device cannot be named. -/
  | unnamed (on : rule.enabled.truthy = true) (due : s.isExempted rule.id g.now = .ok false)
      (unnamed : areNamed rule.name s.device = false) :
      Decided g rule s r ([], .error (.value .integerSize))
  /-- The device is not concerned. -/
  | apart (on : rule.enabled.truthy = true) (due : s.isExempted rule.id g.now = .ok false)
      (apart : r.concerns s.device = false) :
      Decided g rule s r ([], .ok (rule.header.result s.device .notApplicable .null))
  /-- The configuration of the device is judged. -/
  | judged {notes : Journal} {result : CheckResult} (on : rule.enabled.truthy = true)
      (due : s.isExempted rule.id g.now = .ok false) (concerned : r.concerns s.device = true)
      (debug : ∀ note ∈ notes, ∃ message, note = .debug message)
      (verdict : result.outcome = .conforming ∨ result.outcome = .nonConforming) :
      Decided g rule s r (notes, .ok result)

/-- A device that is not concerned is set aside. -/
theorem check_of_apart (body : rule.body = .text r) (on : rule.enabled.truthy = true)
    (due : s.isExempted rule.id g.now = .ok false) (apart : r.concerns s.device = false) :
    rule.check g s = ([], .ok (rule.header.result s.device .notApplicable .null)) := by
  have hconcerns : (rule.logic g).concerns s.device = .ok (.flag false) := by
    rw [Rule.concerns_of_text body, apart]
  rw [Rule.check_eq_contract g s (Rule.sane_of_text body), contract_eq_judged on due, judged,
    Logic.judge, hconcerns]
  rfl

/-- A configuration that is looked into is judged, and what is noted helps the authors of the
rule. -/
theorem TextCheck.decided {configuration : String} (h : TextCheck g rule s configuration r) :
    Decided g rule s r (rule.check g s) := by
  obtain ⟨blocks, found, notes, result, _, _, hcheck, hjudged⟩ := h.reported
  have hverdict := hjudged.outcome_cases
  have hconcerns : (rule.logic g).concerns s.device = .ok (.flag true) := by
    rw [Rule.concerns_of_text h.body, h.concerned]
  obtain ⟨errors, result', hcheck', hends⟩ := Rule.check_of_evaluate (Rule.sane_of_text h.body) h.on
    h.due h.named hconcerns rfl (Rule.evaluate_of_text h.body)
  cases hcheck.symm.trans hcheck'
  rcases hends with ⟨_, rfl, _⟩ | ⟨f, _, herror, _⟩
  · rw [hcheck, List.append_nil]
    exact .judged h.on h.due h.concerned (fun _ => TextRule.debug_of_mem_evaluate) hverdict
  · rw [herror] at hverdict
    rcases hverdict with hverdict | hverdict <;> cases hverdict

/-- If the rule or the device cannot be named, a configuration without blocks is judged all the
same. -/
theorem decided_of_unnamed {configuration : String} (body : rule.body = .text r)
    (accepted : rule.validate g = .ok ()) (on : rule.enabled.truthy = true)
    (due : s.isExempted rule.id g.now = .ok false) (concerned : r.concerns s.device = true)
    (held : r.configuration s.device = .ok configuration)
    (unnamed : areNamed rule.name s.device = false) : Decided g rule s r (rule.check g s) := by
  have hvalid := accepted
  rw [Rule.validate, body] at hvalid
  have husable := TextRule.usable_of_accepted hvalid
  obtain ⟨blocks, hblocks⟩ := husable.exists_blocks configuration
  have hchain : (r.configuration s.device >>= r.blocks) = .ok blocks := by
    rw [held]
    exact hblocks
  have hconcerns : (rule.logic g).concerns s.device = .ok (.flag true) := by
    rw [Rule.concerns_of_text body, concerned]
  rw [Rule.check_eq_contract g s (Rule.sane_of_text body), contract_eq_judged on due, judged]
  cases blocks with
  | nil =>
      -- without a block nothing is noted, so that the name is not needed
      have hevaluate : (rule.logic g).evaluate s.device = ([], .ok (.pair (.outcome .nonConforming)
          (.text ("No configuration block matches context '" ++ r.context.plain ++ "'")))) := by
        rw [Rule.evaluate_of_text body, TextRule.evaluate, hchain]
        dsimp only
        rw [husable.spell_context]
        rfl
      have hsays : (rule.logic g).Says s.device .nonConforming _ :=
        .verdict hconcerns rfl (congrArg Prod.snd hevaluate) rfl (by decide)
      have hnotes : ((rule.logic g).judge s.device).1 = [] := by
        rw [Logic.judge, hconcerns, hevaluate]
        rfl
      have hjudge : (rule.logic g).judge s.device = ([], .ok (⟨.nonConforming, false⟩, _)) :=
        Prod.ext hnotes hsays.judge
      rw [hjudge]
      exact .judged on due concerned (List.forall_mem_nil _) (Or.inr rfl)
  | cons b rest =>
      have hjudge : (rule.logic g).judge s.device = ([], .error (.value .integerSize)) := by
        rw [Logic.judge, hconcerns, Rule.evaluate_of_text body, TextRule.evaluate, hchain]
        dsimp only
        rw [TextRule.checkingNote, namingNote_of_not_areNamed unnamed]
        rfl
      rw [hjudge]
      dsimp only
      rw [failureNote, Rule.header, namingNote_of_not_areNamed unnamed]
      exact .unnamed on due unnamed

/-- A rule that is accepted is decided on every device whose configuration holds a text. -/
theorem decided_of_accepted {v : Value} (body : rule.body = .text r)
    (accepted : rule.validate g = .ok ()) (held : Value.lookup r.field s.device.attributes = some v)
    (text : v.isText = true) : Decided g rule s r (rule.check g s) := by
  have hsane := Rule.sane_of_text body
  -- the decisions in the order in which a check takes them
  cases hon : rule.enabled.truthy with
  | false =>
      rw [Rule.check_eq_contract g s hsane, contract_of_disabled rule.header _ s g.now hon]
      exact .off hon
  | true =>
      cases hdue : s.isExempted rule.id g.now with
      | error f =>
          rw [Rule.check_eq_contract g s hsane, contract_of_untold hon hdue]
          exact .untold hon hdue
      | ok b =>
          cases b with
          | true =>
              rw [Rule.check_eq_contract g s hsane, contract_of_exempted hon hdue]
              exact .excused hon hdue
          | false =>
              cases hconcerned : r.concerns s.device with
              | false =>
                  rw [check_of_apart body hon hdue hconcerned]
                  exact .apart hon hdue hconcerned
              | true =>
                  have hvalid := accepted
                  rw [Rule.validate, body] at hvalid
                  obtain ⟨⟨hfield, _⟩, _⟩ := TextRule.fields_of_accepted hvalid
                  obtain ⟨configuration, _, hheld⟩ :=
                    TextRule.exists_configuration hfield held text
                  cases hnamed : areNamed rule.name s.device with
                  | true =>
                      exact TextCheck.decided
                        ⟨body, accepted, hon, hdue, hnamed, hconcerned, hheld⟩
                  | false =>
                      exact decided_of_unnamed body accepted hon hdue hconcerned hheld hnamed

end Results

/-- **Accepted rules are decided.**  Let a text rule be accepted, and let the field that it names
hold a text on a device.  Then no check of the rule on the device reports an error, and none leaves
a note of one.  If the rule and the device can be named, there is a result unless one cannot tell
whether the device is excused, because the id of the rule cannot be looked up in the register.  The
result says that the rule is switched off, that the device is excused, or that it is not concerned,
exactly if this is so, and otherwise whether the blocks of the configuration are in order. -/
theorem accepted_is_decided (g : Setting) (rule : Rule) (s : Subject) (r : TextRule) (v : Value)
    (body : rule.body = .text r) (accepted : rule.validate g = .ok ())
    (held : Value.lookup r.field s.device.attributes = some v) (text : v.isText = true) :
    (∀ note ∈ (rule.check g s).1, ∃ message, note = .debug message) ∧
    (areNamed rule.name s.device = true →
      ((∃ result, (rule.check g s).2 = .ok result) ↔
        (rule.enabled.truthy = true → ∃ b, s.isExempted rule.id g.now = .ok b)) ∧
      ∀ n, rule.id = .int n → ∃ result, (rule.check g s).2 = .ok result) ∧
    ∀ result, (rule.check g s).2 = .ok result →
      result.outcome ≠ .error ∧
      (result.outcome = .disabled ↔ rule.enabled.truthy = false) ∧
      (result.outcome = .exempted ↔
        rule.enabled.truthy = true ∧ s.isExempted rule.id g.now = .ok true) ∧
      (result.outcome = .notApplicable ↔ rule.enabled.truthy = true ∧
        s.isExempted rule.id g.now = .ok false ∧ r.concerns s.device = false) ∧
      (result.outcome = .conforming ∨ result.outcome = .nonConforming ↔ rule.enabled.truthy = true ∧
        s.isExempted rule.id g.now = .ok false ∧ r.concerns s.device = true) := by
  have hdecided := decided_of_accepted body accepted held text
  generalize rule.check g s = checked at hdecided ⊢
  cases hdecided with
  | off off => simp [off, Header.result]
  | unnamed on due unnamed =>
      refine ⟨List.forall_mem_nil _, ?_, ?_⟩
      · intro named
        cases named.symm.trans unnamed
      · intro result h
        cases h
  | untold on untold =>
      refine ⟨List.forall_mem_nil _, fun _ => ⟨?_, ?_⟩, ?_⟩
      · simp [on, untold]
      · intro n hid
        obtain ⟨b, hb, _⟩ := s.exists_isExempted n g.now
        rw [hid, hb] at untold
        cases untold
      · intro result h
        cases h
  | excused on excused => simp [on, excused, Header.result]
  | apart on due apart => simp [on, due, apart, Header.result]
  | judged on due concerned debug verdict =>
      refine ⟨debug, fun _ => ⟨?_, fun _ _ => ⟨_, rfl⟩⟩, ?_⟩
      · simp [due]
      · intro result h
        cases h
        rcases verdict with ho | ho <;> simp [ho, on, due, concerned]

/-- The rule that asks that interfaces are shut down is accepted, and is decided on two
interfaces. -/
theorem decided_of_twoInterfaces :
    interfaceCheck.validate noInterpreters = .ok () ∧
    Value.lookup TextRule.interfaceRule.field (running twoInterfaces).device.attributes =
      some (.text twoInterfaces) ∧
    ∃ result, (interfaceCheck.check noInterpreters (running twoInterfaces)).2 = .ok result ∧
      result.outcome ≠ .error ∧
      (result.outcome = .conforming ∨ result.outcome = .nonConforming) := by
  have hheld : Value.lookup TextRule.interfaceRule.field
      (running twoInterfaces).device.attributes = some (.text twoInterfaces) := by
    simp [TextRule.interfaceRule, running, Value.lookup]
  obtain ⟨u, haccepted⟩ : ∃ u, interfaceCheck.validate noInterpreters = .ok u :=
    exists_eq_ok_of_isOk (by decide +kernel)
  obtain ⟨_, hresult, hdecided⟩ := accepted_is_decided noInterpreters interfaceCheck
    (running twoInterfaces) TextRule.interfaceRule _ rfl haccepted hheld rfl
  obtain ⟨result, h⟩ := (hresult rfl).2 2 rfl
  obtain ⟨hfine, _, _, _, hverdict⟩ := hdecided result h
  exact ⟨haccepted, hheld, result, h, hfine, hverdict.2 ⟨rfl, rfl, rfl⟩⟩

end ConfigAudit
