/-
# Rules that look for a plain text

A text rule without a pattern, without a context and without stripping looks for its text in the
whole configuration.  The configuration is cut into lines and joined again before, so the rule says
whether the text occurs in what comes out of that.

* `PlainCheck` : a rule looks for a plain text in the configuration of a device;
* `PlainCheck.reported` : what is reported;
* `plain_text_as_stored_iff` : when this is what the stored configuration says.
-/
import ConfigAudit.Proofs.Rule.TextCheck
import ConfigAudit.Proofs.Store.Change
import ConfigAudit.Proofs.Text.Rejoined
import ConfigAudit.Proofs.Value.Texts

namespace ConfigAudit

/-! ## What is reported -/

/-- A rule that is accepted, is switched on and concerns a device that is not exempted looks for a
plain text in the configuration that the device has under its attribute. -/
structure PlainCheck (g : Setting) (rule : Rule) (s : Subject) (needle : String) (invert : Bool)
    (configuration : String) (r : TextRule) : Prop where
  /-- The rule is a text rule. -/
  body : rule.body = .text r
  /-- It is accepted. -/
  accepted : rule.validate g = .ok ()
  /-- It is switched on. -/
  on : rule.enabled.truthy = true
  /-- The device is not exempted. -/
  due : s.isExempted rule.id g.now = .ok false
  /-- The rule and the device can be named. -/
  named : areNamed rule.name s.device = true
  /-- The device is concerned. -/
  concerned : r.concerns s.device = true
  /-- What the rule looks for. -/
  needle : r.text.asText? = some needle
  /-- It is no pattern. -/
  plain : r.regexp.truthy = false
  /-- It may be a part of the configuration. -/
  partly : r.matchAll.truthy = false
  /-- Lines are left as they are. -/
  unstripped : r.normalize.truthy = false
  /-- There are no blocks. -/
  whole : r.context.truthy = false
  /-- Whether the text must not be there. -/
  inverted : r.invert = .flag invert
  /-- The configuration. -/
  held : s.device.configuration r.field = .ok (.text configuration)

/-- The outcome for a text that is found or not, and that must or must not be. -/
def plainOutcome (found invert : Bool) : Outcome :=
  if found != invert then .conforming else .nonConforming

/-- The outcome tells whether the text is found. -/
theorem plainOutcome_injective {found found' invert : Bool}
    (h : plainOutcome found invert = plainOutcome found' invert) : found = found' := by
  revert h
  cases found <;> cases found' <;> cases invert <;> decide

/-- Truth values are equal as values exactly when they are equal. -/
theorem Value.equal_flag (a b : Bool) : Value.equal (.flag a) (.flag b) = (a == b) := by
  simp [equal]

/-- A text is found in a block as it is. -/
theorem TextRule.found_plain {r : TextRule} {needle : String} (text : r.text.asText? = some needle)
    (plain : r.regexp.truthy = false) (partly : r.matchAll.truthy = false)
    (unstripped : r.normalize.truthy = false) (s : String) :
    r.found s = .ok (Text.occursIn needle s) := by
  simp [found, plain, partly, unstripped, text]
  rfl

namespace PlainCheck

variable {g : Setting} {rule : Rule} {s : Subject} {needle : String} {invert : Bool}
  {configuration : String} {r : TextRule}

/-- It is the check of a text rule. -/
theorem textCheck (h : PlainCheck g rule s needle invert configuration r) :
    TextCheck g rule s configuration r where
  body := h.body
  accepted := h.accepted
  on := h.on
  due := h.due
  named := h.named
  concerned := h.concerned
  held := by
    rw [TextRule.configuration, h.held]
    rfl

/-- **What is reported.**  The rule says whether its text occurs in the joined lines of the
configuration. -/
theorem reported (h : PlainCheck g rule s needle invert configuration r) :
    ∃ notes result, rule.check g s = (notes, .ok result) ∧ result.outcome = plainOutcome
      (Text.occursIn needle (Text.joinLines (Text.splitLines configuration))) invert := by
  obtain ⟨blocks, found, notes, result, hblocks, hfound, hcheck, hjudged⟩ := h.textCheck.reported
  refine ⟨notes, result, hcheck, ?_⟩
  -- the whole configuration is one block
  obtain rfl : [⟨"", Text.splitLines configuration⟩] = blocks :=
    Except.ok.inj ((TextRule.blocks_of_no_context h.whole configuration).symm.trans hblocks)
  have hoccurs : found (Text.joinLines (Text.splitLines configuration)) =
      Text.occursIn needle (Text.joinLines (Text.splitLines configuration)) :=
    Except.ok.inj ((hfound _).symm.trans
      (TextRule.found_plain h.needle h.plain h.partly h.unstripped _))
  have hpasses := hjudged.conforming_singleton_iff
  rw [TextRule.Block.text, hoccurs, h.inverted, Value.equal_flag] at hpasses
  unfold plainOutcome
  rcases hjudged.outcome_cases with ho | ho
  · rw [ho, if_pos (bne_iff_ne.2 (beq_eq_false_iff_ne.1 (hpasses.1 ho)))]
  · rw [ho] at hpasses ⊢
    rw [if_neg]
    intro hne
    cases hpasses.2 (beq_eq_false_iff_ne.2 (bne_iff_ne.1 hne))

end PlainCheck

/-! ## The stored configuration -/

/-- A rule that looks for a text in the running configuration. -/
def lineRule (needle : String) (invert : Bool) : TextRule :=
  ⟨.text "running_config", .text needle, .flag false, .flag invert, .flag false, .null,
    .flag false, .flag false, .null⟩

/-- The rule with an id and a name. -/
def lineCheck (needle : String) (invert : Bool) : Rule :=
  ⟨.int 1, .text "line", .flag true, .text (lineRule needle invert)⟩

/-- A device with a running configuration. -/
def running (configuration : String) : Subject :=
  ⟨⟨7, .text "edge", .text "", .text "", [], [(.text "running_config", .text configuration)]⟩, none⟩

/-- The rule looks for its text in the running configuration. -/
theorem plainCheck_lineRule {needle : String} (filled : needle ≠ "") (invert : Bool)
    (configuration : String) :
    PlainCheck noInterpreters (lineCheck needle invert) (running configuration) needle invert
      configuration (lineRule needle invert) where
  body := rfl
  accepted := by
    have htext : (Value.text needle).truthy = true := by
      simpa [Value.truthy] using filled
    simp only [lineCheck, lineRule, Rule.validate, TextRule.validate, htext]
    rfl
  on := rfl
  due := rfl
  named := rfl
  concerned := rfl
  needle := rfl
  plain := rfl
  partly := rfl
  unstripped := rfl
  whole := rfl
  inverted := rfl
  held := by
    have hkey : Value.lookup (.text "running_config")
        [(.text "running_config", .text configuration)] = some (.text configuration) := by
      simp [Value.lookup]
    have hfound : (running configuration).device.configuration? (.text "running_config") =
        .ok (some (.text configuration)) := by
      refine bind_eq_ok_iff.2 ⟨.text "running_config", rfl, ?_⟩
      simp only [running, hkey]
      rfl
    rw [lineRule, Device.configuration, hfound]
    rfl

/-- What is reported is what the stored configuration says, if its joined lines say the same. -/
theorem PlainCheck.reported_as_stored {g : Setting} {rule : Rule} {s : Subject} {needle : String}
    {invert : Bool} {configuration : String} {r : TextRule}
    (h : PlainCheck g rule s needle invert configuration r)
    (agree : Text.occurs needle.toList (Text.relined configuration.toList) =
      Text.occurs needle.toList configuration.toList) :
    ∃ notes result, rule.check g s = (notes, .ok result) ∧
      result.outcome = plainOutcome (Text.occursIn needle configuration) invert := by
  have hreported := h.reported
  rwa [Text.occursIn, Text.toList_joinLines_splitLines, agree] at hreported

/-- If a rule reports what the stored configuration says, the joined lines say the same. -/
theorem occurs_relined_of_reported {needle configuration : String} {invert : Bool}
    (filled : needle ≠ "")
    (h : ∃ notes result,
      (lineCheck needle invert).check noInterpreters (running configuration) =
        (notes, .ok result) ∧
      result.outcome = plainOutcome (Text.occursIn needle configuration) invert) :
    Text.occurs needle.toList (Text.relined configuration.toList) =
      Text.occurs needle.toList configuration.toList := by
  obtain ⟨notes, result, hcheck, hstored⟩ := h
  obtain ⟨notes', result', hcheck', hjoined⟩ :=
    (plainCheck_lineRule filled invert configuration).reported
  cases hcheck.symm.trans hcheck'
  rw [Text.occursIn, Text.toList_joinLines_splitLines] at hjoined
  exact plainOutcome_injective (hjoined.symm.trans hstored)

/-- **Plain texts.**  A rule that looks for a plain text has a result, which says whether the text
occurs in the lines of the configuration, joined with line feeds.  This is what the configuration
says as it is stored for all configurations exactly if there is no line end in the text, and for
all texts exactly if the configuration is what its joined lines make. -/
theorem plain_text_as_stored_iff (needle configuration : String) :
    (∀ g rule s invert r, PlainCheck g rule s needle invert configuration r →
      ∃ notes result, rule.check g s = (notes, .ok result) ∧ result.outcome = plainOutcome
        (Text.occursIn needle (Text.joinLines (Text.splitLines configuration))) invert) ∧
    ((∀ g rule s invert stored r, PlainCheck g rule s needle invert stored r →
        ∃ notes result, rule.check g s = (notes, .ok result) ∧
          result.outcome = plainOutcome (Text.occursIn needle stored) invert) ↔
      ∀ c ∈ needle.toList, Text.isLineEnd c = false) ∧
    ((∀ g rule s text invert r, PlainCheck g rule s text invert configuration r →
        ∃ notes result, rule.check g s = (notes, .ok result) ∧
          result.outcome = plainOutcome (Text.occursIn text configuration) invert) ↔
      Text.joinLines (Text.splitLines configuration) = configuration) := by
  refine ⟨fun _ _ _ _ _ h => h.reported, ?_, ?_⟩
  · -- a text with a line end is taken for another one by some configuration
    constructor
    · intro stored
      by_contra broken
      obtain ⟨cs, hne⟩ := Text.exists_occurs_relined_ne broken
      have hfilled : needle ≠ "" := by
        rintro rfl
        exact broken fun c hc => nomatch hc
      refine hne ?_
      have hsame := occurs_relined_of_reported hfilled
        (stored _ _ _ _ _ _ (plainCheck_lineRule hfilled false (String.ofList cs)))
      rwa [String.toList_ofList] at hsame
    · intro single g rule s invert stored r h
      exact h.reported_as_stored (Text.occurs_relined_iff single stored.toList)
  · rw [← String.toList_inj, Text.toList_joinLines_splitLines, Text.relined_eq_iff]
    constructor
    · intro stored text htext
      have hfilled : String.ofList text ≠ "" := by
        intro h
        have hlist := congrArg String.toList h
        rw [String.toList_ofList] at hlist
        exact htext hlist
      have hsame := occurs_relined_of_reported hfilled
        (stored _ _ _ _ _ _ (plainCheck_lineRule hfilled false configuration))
      rwa [String.toList_ofList] at hsame
    · intro same g rule s text invert r h
      by_cases htext : text.toList = []
      · refine h.reported_as_stored ?_
        rw [htext, Bool.eq_iff_iff, Text.occurs_iff, Text.occurs_iff]
        exact iff_of_true List.nil_infix List.nil_infix
      · exact h.reported_as_stored (same _ htext)

/-- A text without a line end is found, wherever the lines of the configuration end. -/
theorem reported_of_carriageReturns :
    ∃ notes result, (lineCheck "login banner" true).check noInterpreters
        (running "hostname edge\r\nlogin banner\r\n") = (notes, .ok result) ∧
      result.outcome = .nonConforming := by
  have hfilled : "login banner" ≠ "" := by decide
  have hcheck := plainCheck_lineRule hfilled true "hostname edge\r\nlogin banner\r\n"
  obtain ⟨notes, result, hreported, houtcome⟩ :=
    (plain_text_as_stored_iff _ _).1 _ _ _ _ _ hcheck
  exact ⟨notes, result, hreported, houtcome.trans (by cbv)⟩

/-- A text that ends its line, as the last line of the configuration does, is not found. -/
theorem not_reported_as_stored :
    ¬ ∀ g rule s needle invert configuration r,
      PlainCheck g rule s needle invert configuration r →
        ∃ notes result, rule.check g s = (notes, .ok result) ∧
          result.outcome = plainOutcome (Text.occursIn needle configuration) invert := by
  intro claim
  have hfilled : "login banner\n" ≠ "" := by decide
  have hsame := occurs_relined_of_reported hfilled
    (claim _ _ _ _ _ _ _ (plainCheck_lineRule hfilled false "hostname edge\nlogin banner\n"))
  have hdifferent : (Text.occurs "login banner\n".toList
      (Text.relined "hostname edge\nlogin banner\n".toList) ==
        Text.occurs "login banner\n".toList "hostname edge\nlogin banner\n".toList) = false := by
    decide +kernel
  rw [hsame, beq_self_eq_true] at hdifferent
  cases hdifferent

end ConfigAudit
