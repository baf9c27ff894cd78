/-
# How results are shown

A result shows the names of its rule and its device, its outcome and its comment.  The rules of
documents and of stores remark on an outcome by a text or not at all, so that nothing but a name can
keep their results from being shown.

* `Value.IsRemarked` : outcomes with a remark;
* `Rule.Regular.isRemarked_of_evaluate` : what regular rules hand back;
* `CheckResult.IsOf`, `Rule.Regular.isOf_checkSafely` : the results of regular rules;
* `Report.lines_eq_ok_iff` : when all results of a report are shown.
-/
import ConfigAudit.Proofs.Rule.Regular
import ConfigAudit.Proofs.Rule.Verdict

namespace ConfigAudit

/-! ## Remarks -/

namespace Value

/-- A comment that is nothing or a text. -/
inductive IsRemark : Value → Prop where
  /-- Nothing is remarked. -/
  | nothing : IsRemark .null
  /-- Something is. -/
  | text (t : String) : IsRemark (.text t)

/-- An outcome with such a comment. -/
inductive IsRemarked : Value → Prop where
  /-- The outcome comes first. -/
  | pair (o : Outcome) {comment : Value} (remark : IsRemark comment) :
      IsRemarked (.pair (.outcome o) comment)

variable {v : Value}

/-- Remarks can be written. -/
theorem isSpellable_of_isRemark (h : IsRemark v) : v.isSpellable = true := by
  cases h with
  | nothing => rfl
  | text t => exact isSpellable_text t

/-- An outcome with a remark is taken apart into these. -/
theorem exists_of_isRemarked (h : IsRemarked v) {a b : Value} (parts : v.members = .ok [a, b]) :
    (∃ o, a = .outcome o) ∧ IsRemark b := by
  cases h with
  | pair o remark =>
      cases parts
      exact ⟨⟨o, rfl⟩, remark⟩

end Value

/-- A text rule says what is wrong, if something is. -/
theorem TextRule.isRemarked_of_evaluate {r : TextRule} {name v : Value} {d : Device}
    (h : (r.evaluate name d).2 = .ok v) : v.IsRemarked := by
  have hjudge : ∀ blocks, r.judge blocks = .ok v → v.IsRemarked := by
    intro blocks h
    obtain ⟨failing, _, h⟩ := bind_eq_ok_iff.1 h
    generalize (if r.anyBlock.truthy then decide (failing.length < blocks.length)
      else failing.isEmpty) = conforming at h
    cases conforming with
    | true =>
        cases h
        exact .pair _ .nothing
    | false =>
        obtain ⟨t, _, h⟩ := bind_eq_ok_iff.1 h
        cases h
        exact .pair _ (.text _)
  unfold evaluate at h
  split at h
  · cases h
  · obtain ⟨t, _, h⟩ := bind_eq_ok_iff.1 h
    cases h
    exact .pair _ (.text _)
  · split at h
    · cases h
    · exact hjudge _ h

/-- What is accepted of the result of a script has the text of its comment. -/
theorem Sandbox.isRemarked_of_interpret {result v : Value} (h : interpret result = .ok v) :
    v.IsRemarked := by
  unfold interpret at h
  obtain ⟨o, _, h⟩ := bind_eq_ok_iff.1 h
  cases h
  refine .pair o ?_
  split
  · exact .nothing
  · exact .text _

/-! ## Regular rules -/

/-- A result with the names of a rule and a device, an outcome that is no mere text, and a
remark. -/
structure CheckResult.IsOf (x : CheckResult) (r : Rule) (d : Device) : Prop where
  /-- The name of the device. -/
  device : x.deviceName = d.name
  /-- The name of the rule. -/
  rule : x.ruleName = r.name
  /-- The outcome is one. -/
  given : x.spelled = false
  /-- The comment is a remark. -/
  remark : x.comment.IsRemark

namespace Rule.Regular

variable {r : Rule} {g : Setting} {d : Device}

/-- What a regular rule hands back is an outcome with a remark. -/
theorem isRemarked_of_evaluate (h : r.Regular) {v : Value} (answered : (r.evaluate g d).2 = .ok v) :
    v.IsRemarked := by
  unfold evaluate at answered
  cases hbody : r.body with
  | generic =>
      rw [hbody] at answered
      cases answered
      exact .pair _ .nothing
  | text t =>
      rw [hbody] at answered
      exact TextRule.isRemarked_of_evaluate answered
  | script l s =>
      rw [hbody] at answered
      dsimp only at answered
      unfold evaluateScript at answered
      split at answered
      · cases answered
      · split at answered
        · exact Sandbox.isRemarked_of_interpret answered
        · cases answered
  | standIn reason =>
      rw [hbody] at answered
      obtain ⟨t, _, h⟩ := bind_eq_ok_iff.1 answered
      cases h
  | probe p => exact absurd hbody (h.plain p)

/-- So is its judgement. -/
theorem isRemark_of_judge (h : r.Regular) {w : Verdict} {comment : Value}
    (hjudge : ((r.logic g).judge d).2 = .ok (w, comment)) :
    w.spelled = false ∧ comment.IsRemark := by
  obtain ⟨o, spelled⟩ := w
  rcases Logic.judge_snd_eq_ok_iff.1 hjudge with ⟨hgiven, hsays⟩ | ⟨_, hspells⟩
  · refine ⟨hgiven, ?_⟩
    cases hsays with
    | aside => exact .nothing
    | verdict _ _ answered parts =>
        exact (Value.exists_of_isRemarked (h.isRemarked_of_evaluate answered) parts).2
  · cases hspells with
    | verdict _ _ answered parts =>
        obtain ⟨⟨o', ho⟩, _⟩ :=
          Value.exists_of_isRemarked (h.isRemarked_of_evaluate answered) parts
        cases ho

/-- A result of a regular rule is one of the rule and the device. -/
theorem isOf_check (h : r.Regular) {s : Subject} {x : CheckResult} (hx : (r.check g s).2 = .ok x) :
    x.IsOf r s.device := by
  rw [check_eq_contract g s (h.plain _)] at hx
  unfold contract at hx
  split at hx
  · cases hx
    exact ⟨rfl, rfl, rfl, .nothing⟩
  · split at hx
    · cases hx
    · cases hx
      exact ⟨rfl, rfl, rfl, .nothing⟩
    · split at hx
      · rename_i hjudge
        cases hx
        obtain ⟨hgiven, hremark⟩ := h.isRemark_of_judge (congrArg Prod.snd hjudge)
        exact ⟨rfl, rfl, hgiven, hremark⟩
      · split at hx
        · cases hx
          exact ⟨rfl, rfl, rfl, .text _⟩
        · cases hx

/-- **Results of regular rules.**  Whatever happens, the result of a regular rule is one of the rule
and the device. -/
theorem isOf_checkSafely (h : r.Regular) (g : Setting) (s : Subject) :
    (r.checkSafely g s).2.IsOf r s.device := by
  unfold checkSafely
  split
  · rename_i notes x hcheck
    exact h.isOf_check (congrArg Prod.snd hcheck)
  · exact ⟨rfl, rfl, rfl, .text _⟩

end Rule.Regular

/-! ## Lines -/

/-- A result that can be shown: all that its line says can be written, and none of it is half a
character. -/
structure CheckResult.IsShown (x : CheckResult) : Prop where
  /-- The name of the device can be written. -/
  device : x.deviceName.isSpellable = true
  /-- The name of the rule can be written. -/
  rule : x.ruleName.isSpellable = true
  /-- The outcome is no mere text. -/
  given : x.spelled = false
  /-- The comment can be written, if there is one. -/
  comment : x.comment.truthy = true → x.comment.isSpellable = true
  /-- The line has whole characters only. -/
  whole : Text.isWhole x.text = true

/-- A result of a rule and a device can be shown if they can be named, and no half of a character is
in the way. -/
theorem CheckResult.isShown_iff_of_isOf {x : CheckResult} {r : Rule} {d : Device} (h : x.IsOf r d) :
    x.IsShown ↔ areNamed r.name d = true ∧ Text.isWhole x.text = true := by
  constructor
  · intro hshown
    exact ⟨Bool.and_eq_true_iff.2 ⟨h.rule ▸ hshown.rule, h.device ▸ hshown.device⟩, hshown.whole⟩
  · rintro ⟨hnamed, hwhole⟩
    obtain ⟨hrule, hdevice⟩ := Bool.and_eq_true_iff.1 hnamed
    exact ⟨h.device ▸ hdevice, h.rule ▸ hrule, h.given,
      fun _ => Value.isSpellable_of_isRemark h.remark, hwhole⟩

namespace Report

/-- A line that is printed is its text. -/
theorem encoded_eq_ok_iff {line text : String} :
    encoded line = .ok text ↔ Text.isWhole line = true ∧ text = line := by
  rw [← Text.halves?_eq_none_iff, encoded]
  cases Text.halves? line with
  | none => exact ⟨fun h => ⟨rfl, (Except.ok.inj h).symm⟩, fun h => h.2 ▸ rfl⟩
  | some fault => exact iff_of_false nofun fun h => nomatch h.1

/-- **Lines of reports.**  A report is printed if each of its results can be shown: the text of each
one, and then the summary. -/
theorem lines_eq_ok_iff {r : Report} {ls : List String} : r.lines = .ok ls ↔
    (∀ x ∈ r.results, x.IsShown) ∧ ls = r.results.map CheckResult.text ++ [r.summaryLine] := by
  have hline : ∀ x ∈ r.results, ∀ l, (liftM x.line >>= encoded : Except Fault String) = .ok l ↔
      x.IsShown ∧ l = x.text := by
    intro x _ l
    rw [bind_eq_ok_iff]
    simp only [lift_eq_ok_iff, encoded_eq_ok_iff]
    constructor
    · rintro ⟨line, hline, hwhole, rfl⟩
      obtain ⟨hdevice, hrule, hgiven, hcomment, rfl⟩ := CheckResult.line_eq_ok_iff.1 hline
      exact ⟨⟨hdevice, hrule, hgiven, hcomment, hwhole⟩, rfl⟩
    · rintro ⟨hshown, rfl⟩
      exact ⟨_, CheckResult.line_eq_ok_iff.2
        ⟨hshown.device, hshown.rule, hshown.given, hshown.comment, rfl⟩, hshown.whole, rfl⟩
  have hlines : ∀ ys, (r.results.mapM fun x => (liftM x.line >>= encoded : Except Fault String)) =
      .ok ys ↔ (∀ x ∈ r.results, x.IsShown) ∧ ys = r.results.map CheckResult.text :=
    fun _ => mapM_eq_ok_iff hline
  constructor
  · intro h
    obtain ⟨texts, htexts, h⟩ := bind_eq_ok_iff.1 h
    obtain ⟨_, _, h⟩ := bind_eq_ok_iff.1 h
    obtain ⟨hshown, rfl⟩ := (hlines texts).1 htexts
    exact ⟨hshown, (Except.ok.inj h).symm⟩
  · rintro ⟨hshown, rfl⟩
    have hsummary : r.summary = .ok r.counts :=
      summary_eq_ok_iff.2 ⟨fun x hx => (hshown x hx).given, rfl⟩
    refine bind_eq_ok_iff.2 ⟨_, (hlines _).2 ⟨hshown, rfl⟩, ?_⟩
    rw [hsummary]
    rfl

end Report

end ConfigAudit
