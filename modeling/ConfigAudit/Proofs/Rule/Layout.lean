/-
# How configurations are laid out

A text rule sees a configuration as a list of lines: it cannot tell how the lines are ended, or
whether the last one is.  A rule that strips lines and has no context sees even less: it cannot
tell how the lines are indented, what blanks they end with, or how many empty lines there are.  Both
are statements about two checks, of which nothing but the configuration differs.

* `Subject.Alike` : two devices are alike but for their configuration data;
* `contract_congr` : a result depends on what the logic says, and on who the device is;
* `TextRule.evaluate_congr` : what the logic of a text rule depends on;
* `layout_unseen` : the layouts that checks do not tell apart.
-/
import ConfigAudit.Proofs.Rule.BlockVerdict
import ConfigAudit.Proofs.Text.Stripped

namespace ConfigAudit

/-! ## Devices that are alike -/

/-- Two devices are alike but for their configuration data, and what else text rules do not ask. -/
structure Subject.Alike (s t : Subject) : Prop where
  /-- They have the same id. -/
  id : s.device.id = t.device.id
  /-- They have the same name. -/
  name : s.device.name = t.device.name
  /-- They have the same driver. -/
  driver : s.device.driver = t.device.driver
  /-- They consult the same register. -/
  register : s.register = t.register

section Congruence

variable {s t : Subject}

/-- Devices that are alike are excused from the same rules. -/
theorem Subject.Alike.isExempted_eq (alike : s.Alike t) (rule : Value) (now : Moment) :
    s.isExempted rule now = t.isExempted rule now := by
  rw [isExempted, isExempted, alike.register, alike.id]

/-- Results on devices that are alike are the same. -/
theorem Subject.Alike.result_eq (alike : s.Alike t) (h : Header) (o : Outcome) (comment : Value) :
    h.result s.device o comment = h.result t.device o comment := by
  rw [Header.result, Header.result, alike.id, alike.name]

/-- Devices that are alike are named alike in notes. -/
theorem Subject.Alike.namingNote_eq (alike : s.Alike t) (name : Value)
    (note : String → String → Note) :
    namingNote name s.device note = namingNote name t.device note := by
  rw [namingNote, namingNote, alike.name]

/-- The result of a rule depends on what its logic says, and on who the device is. -/
theorem contract_congr (alike : s.Alike t) {l : Logic} (same : l.judge s.device = l.judge t.device)
    (h : Header) (now : Moment) : contract h l s now = contract h l t now := by
  have hnote : ∀ f, failureNote h s.device f = failureNote h t.device f := by
    intro f
    exact alike.namingNote_eq h.name _
  simp only [contract, alike.isExempted_eq, alike.result_eq, same, hnote]

end Congruence

/-! ## What the logic of a text rule depends on -/

namespace TextRule

variable {r : TextRule} {s t : Subject} {c c' : String}

/-- Stripping the lines of a text makes of it the joined stripped lines. -/
theorem stripLines_eq (s : String) : stripLines s = Text.joinLines (Text.strippedLines s) := by
  rw [stripLines, Text.strippedLines_eq]

/-- A rule that strips lines finds its text in the stripped lines. -/
theorem found_congr (normalize : r.normalize.truthy = true)
    (lines : Text.strippedLines c = Text.strippedLines c') : r.found c = r.found c' := by
  rw [found, found, normalize, if_pos rfl, if_pos rfl, stripLines_eq, stripLines_eq, lines]

/-- The verdict on a single block depends on its first line, and on whether it fails. -/
theorem judge_singleton_congr {b b' : Block} (header : b.header = b'.header)
    (same : r.fails b.text = r.fails b'.text) : r.judge [b] = r.judge [b'] := by
  have hfilter : ∀ (b : Block) {failing : Bool}, r.fails b.text = .ok failing →
      [b].filterM (fun b => r.fails b.text) = .ok ([b].filter fun _ => failing) := by
    intro b failing hfails
    refine filterM_eq_ok fun b' hb' => ?_
    rw [List.mem_singleton.1 hb', hfails]
  unfold judge
  cases hfails : r.fails b.text with
  | error f =>
      simp only [List.filterM, List.filterAuxM, ← same, hfails]
      rfl
  | ok failing =>
      rw [hfilter b hfails, hfilter b' (same ▸ hfails)]
      cases failing with
      | false => rfl
      | true =>
          change (if (if r.anyBlock.truthy then _ else _) = true then _ else _) =
            (if (if r.anyBlock.truthy then _ else _) = true then _ else _)
          simp only [List.filter_cons_of_pos, List.filter_nil, List.map_cons, List.map_nil, header]
          rfl

/-- What the logic of a text rule says depends on the lines of the configuration. -/
theorem evaluate_congr (alike : s.Alike t) (held : r.configuration s.device = .ok c)
    (held' : r.configuration t.device = .ok c') (lines : Text.splitLines c = Text.splitLines c')
    (name : Value) : r.evaluate name s.device = r.evaluate name t.device := by
  have hblocks : r.blocks c = r.blocks c' := by
    rw [blocks, blocks, lines]
  have hcut : (r.configuration s.device >>= r.blocks) = (r.configuration t.device >>= r.blocks) := by
    rw [held, held']
    exact hblocks
  rw [evaluate, evaluate, hcut]
  simp only [checkingNote, alike.namingNote_eq]

/-- If the rule strips lines and has no context, it depends on the stripped lines. -/
theorem evaluate_congr_stripped (alike : s.Alike t) (held : r.configuration s.device = .ok c)
    (held' : r.configuration t.device = .ok c') (normalize : r.normalize.truthy = true)
    (whole : r.context.truthy = false) (lines : Text.strippedLines c = Text.strippedLines c')
    (name : Value) : r.evaluate name s.device = r.evaluate name t.device := by
  have hcut : ∀ {d : Device} {c : String}, r.configuration d = .ok c →
      (r.configuration d >>= r.blocks) = .ok [⟨"", Text.splitLines c⟩] := by
    intro d c held
    rw [held]
    exact blocks_of_no_context whole c
  have hfails : r.fails (Text.joinLines (Text.splitLines c)) =
      r.fails (Text.joinLines (Text.splitLines c')) := by
    have hfound : r.found (Text.joinLines (Text.splitLines c)) =
        r.found (Text.joinLines (Text.splitLines c')) := by
      refine found_congr normalize ?_
      rw [Text.strippedLines_joinLines_splitLines, Text.strippedLines_joinLines_splitLines, lines]
    rw [fails, fails, hfound]
  have hjudge : r.judge [⟨"", Text.splitLines c⟩] = r.judge [⟨"", Text.splitLines c'⟩] :=
    judge_singleton_congr rfl hfails
  rw [evaluate, evaluate, hcut held, hcut held']
  dsimp only
  rw [hjudge, checkingNote, checkingNote, alike.namingNote_eq]
  rfl

end TextRule

/-! ## Checks -/

section Checks

variable {g : Setting} {rule : Rule} {r : TextRule} {s t : Subject}

/-- A text rule has the same result on devices that are alike if its logic says the same. -/
theorem check_congr (body : rule.body = .text r) (alike : s.Alike t)
    (same : r.evaluate rule.name s.device = r.evaluate rule.name t.device) :
    rule.check g s = rule.check g t := by
  have hconcerns : (rule.logic g).concerns s.device = (rule.logic g).concerns t.device := by
    rw [Rule.concerns_of_text body, Rule.concerns_of_text body, TextRule.concerns,
      TextRule.concerns, alike.driver]
  have hevaluate : (rule.logic g).evaluate s.device = (rule.logic g).evaluate t.device := by
    rw [Rule.evaluate_of_text body, Rule.evaluate_of_text body, same]
  have hjudge : (rule.logic g).judge s.device = (rule.logic g).judge t.device := by
    rw [Logic.judge, Logic.judge, hconcerns, hevaluate]
  have hsane := Rule.sane_of_text body
  rw [Rule.check_eq_contract g s hsane, Rule.check_eq_contract g t hsane,
    contract_congr alike hjudge]

end Checks

/-- **Layout is not seen.**  Let a text rule, whatever its definition is, be checked on two devices
that are alike but for their configurations.  If the configurations have the same lines, as all
forms of the same lines have, the results, the comments and the notes are the same.  If the rule
strips lines and has no context, it is enough that the stripped lines that are not empty are the
same. -/
theorem layout_unseen (g : Setting) (rule : Rule) (r : TextRule) (s t : Subject) (c c' : String)
    (body : rule.body = .text r) (alike : s.Alike t) (held : r.configuration s.device = .ok c)
    (held' : r.configuration t.device = .ok c') :
    (Text.splitLines c = Text.splitLines c' → rule.check g s = rule.check g t) ∧
    (∀ lines : List String, (∀ l ∈ lines, Text.OneLine l.toList) →
      Text.IsForm lines c → Text.IsForm lines c' → rule.check g s = rule.check g t) ∧
    (r.normalize.truthy = true → r.context.truthy = false →
      Text.strippedLines c = Text.strippedLines c' → rule.check g s = rule.check g t) := by
  have hlines : Text.splitLines c = Text.splitLines c' → rule.check g s = rule.check g t :=
    fun lines => check_congr body alike (TextRule.evaluate_congr alike held held' lines _)
  refine ⟨hlines, fun lines single hc hc' => hlines ?_, fun normalize whole lines => ?_⟩
  · rw [Text.splitLines_of_isForm single hc, Text.splitLines_of_isForm single hc']
  · exact check_congr body alike
      (TextRule.evaluate_congr_stripped alike held held' normalize whole lines _)

/-- A configuration that was written on another system has the same result, and so has one that is
indented, if the rule strips lines. -/
theorem layout_unseen_of_banner :
    (lineCheck "login banner" false).check noInterpreters
        (running "hostname edge\r\nlogin banner") =
      (lineCheck "login banner" false).check noInterpreters
        (running "hostname edge\nlogin banner\n") ∧
    Rule.check noInterpreters
        { lineCheck "login banner" false with
          body := .text { lineRule "login banner" false with normalize := .flag true } }
        (running "hostname edge\n\n  login banner  ") =
      Rule.check noInterpreters
        { lineCheck "login banner" false with
          body := .text { lineRule "login banner" false with normalize := .flag true } }
        (running "\thostname edge\nlogin banner\n") := by
  have hfilled : "login banner" ≠ "" := by decide
  have hheld : ∀ c, (lineRule "login banner" false).configuration (running c).device = .ok c :=
    fun c => (plainCheck_lineRule hfilled false c).textCheck.held
  have halike : ∀ c c', (running c).Alike (running c') := fun _ _ => ⟨rfl, rfl, rfl, rfl⟩
  constructor
  · obtain ⟨hlines, _, _⟩ := layout_unseen noInterpreters (lineCheck "login banner" false) _ _ _ _ _
      rfl (halike _ _) (hheld "hostname edge\r\nlogin banner")
      (hheld "hostname edge\nlogin banner\n")
    exact hlines (by decide +kernel)
  · obtain ⟨_, _, hstripped⟩ := layout_unseen noInterpreters
      { lineCheck "login banner" false with
        body := .text { lineRule "login banner" false with normalize := .flag true } } _ _ _ _ _
      rfl (halike _ _) (hheld "hostname edge\n\n  login banner  ")
      (hheld "\thostname edge\nlogin banner\n")
    exact hstripped rfl rfl (by decide +kernel)

end ConfigAudit
