/-
# What logic can make of a result

The logic of a rule may fail, and it may hand back any value.  An outcome that is its own to
report, in a pair with a comment, becomes the result of a check; everything else becomes an error,
with one exception: the text that such an outcome is written as counts as equal to the outcome, and
becomes the result in its place.  This result can be neither written, printed nor counted.  All
others can be, if there is nothing in their comments that cannot be written.

* `Logic.Says`, `Logic.Spells` : what the logic of a rule says about a device, if it says anything,
  and when it hands back the text of an outcome;
* `DueCheck` : checks that get as far as the logic of a rule;
* `answered_as_said_iff` : when they come to the results that are said of them;
* `Report.summary_eq_ok_iff`, `Report.sum_counts` : when results are counted, and that none is left
  out.
-/
import Mathlib.Algebra.Ring.Nat
import Mathlib.Data.List.Forall2
import ConfigAudit.Proofs.Rule.Precedence
import ConfigAudit.Run.Report

namespace ConfigAudit

/-! ## What logic says -/

/-- A value is taken apart into two if it has two members. -/
theorem verdictParts_eq_ok_iff {v a b : Value} :
    verdictParts v = .ok (a, b) ↔ v.members = .ok [a, b] := by
  unfold verdictParts
  split
  · rename_i f hf
    simp [hf]
  · rename_i x y hm
    simp [hm]
  · rename_i xs hne hm
    refine iff_of_false (by simp) ?_
    intro h
    rw [hm] at h
    exact hne a b (Except.ok.inj h)

/-- The outcomes that logic may report are three. -/
theorem verdicts_eq : verdicts = [.notApplicable, .conforming, .nonConforming] := by decide

/-- A value is a verdict if it is one of the outcomes that logic may report, or the text of one. -/
theorem verdict?_eq_some_iff {v : Value} {w : Verdict} :
    verdict? v = some w ↔ w.outcome ∈ verdicts ∧
      (v = .outcome w.outcome ∧ w.spelled = false ∨
        v = .text w.outcome.text ∧ w.spelled = true) := by
  obtain ⟨o, spelled⟩ := w
  unfold verdict?
  rw [Option.map_eq_some_iff]
  constructor
  · rintro ⟨o', hfind, hw⟩
    cases hw
    have hmem := List.mem_of_find?_eq_some hfind
    have hequal := List.find?_some hfind
    refine ⟨hmem, ?_⟩
    cases v with
    | text s =>
        simp only [Value.equal, beq_iff_eq] at hequal
        exact Or.inr ⟨by rw [hequal], rfl⟩
    | outcome o'' =>
        simp only [Value.equal, beq_iff_eq] at hequal
        exact Or.inl ⟨by rw [hequal], rfl⟩
    | _ => simp [Value.equal] at hequal
  · rintro ⟨hmem, ⟨rfl, rfl⟩ | ⟨rfl, rfl⟩⟩
    all_goals
      refine ⟨o, ?_, rfl⟩
      simp only [verdicts_eq, List.mem_cons, List.not_mem_nil, or_false] at hmem ⊢
      rcases hmem with rfl | rfl | rfl <;> simp [Value.equal, Outcome.text]

/-- What is a verdict is accepted, and nothing else. -/
theorem acceptVerdict_eq_ok_iff {tag : String} {v : Value} {w : Verdict} :
    acceptVerdict tag v = .ok w ↔ verdict? v = some w := by
  refine ⟨verdict?_of_acceptVerdict, fun h => ?_⟩
  obtain ⟨_, ⟨rfl, _⟩ | ⟨rfl, _⟩⟩ := verdict?_eq_some_iff.1 h
  all_goals
    unfold acceptVerdict
    rw [h]
    rfl

/-- What the logic of a rule says about a device, with its comment. -/
inductive Logic.Says (l : Logic) (d : Device) : Outcome → Value → Prop where
  /-- The device is not concerned. -/
  | aside {c : Value} (asked : l.concerns d = .ok c) (apart : c.truthy = false) :
      Says l d .notApplicable .null
  /-- The device is concerned, and the logic hands back an outcome of its own with a comment. -/
  | verdict {c v comment : Value} {o : Outcome} (asked : l.concerns d = .ok c)
      (concerned : c.truthy = true) (answered : (l.evaluate d).2 = .ok v)
      (parts : v.members = .ok [.outcome o, comment])
      (own : o ∈ [.notApplicable, .conforming, .nonConforming]) : Says l d o comment

/-- The device is concerned, and the logic hands back the text of an outcome in the place of an
outcome of its own. -/
inductive Logic.Spells (l : Logic) (d : Device) : Outcome → Value → Prop where
  /-- The text comes with a comment. -/
  | verdict {c v comment : Value} {o : Outcome} (asked : l.concerns d = .ok c)
      (concerned : c.truthy = true) (answered : (l.evaluate d).2 = .ok v)
      (parts : v.members = .ok [.text o.text, comment])
      (own : o ∈ [.notApplicable, .conforming, .nonConforming]) : Spells l d o comment

namespace Logic

variable {l : Logic} {d : Device} {o : Outcome} {w : Verdict} {comment : Value}

/-- A pair with something that is accepted is a judgement. -/
theorem judge_of_accepted {c v x : Value} (asked : l.concerns d = .ok c)
    (concerned : c.truthy = true) (answered : (l.evaluate d).2 = .ok v)
    (parts : v.members = .ok [x, comment]) (own : verdict? x = some w) :
    (l.judge d).2 = .ok (w, comment) := by
  have hv : l.evaluate d = ((l.evaluate d).1, .ok v) := Prod.ext rfl answered
  rw [judge, asked, hv]
  simp only [concerned, Bool.not_true, Bool.false_eq_true, ↓reduceIte]
  exact bind_eq_ok_iff.2 ⟨_, verdictParts_eq_ok_iff.2 parts,
    bind_eq_ok_iff.2 ⟨w, acceptVerdict_eq_ok_iff.2 own, rfl⟩⟩

/-- A judgement is what the logic says, or what it spells. -/
theorem judge_snd_eq_ok_iff : (l.judge d).2 = .ok (w, comment) ↔
    w.spelled = false ∧ l.Says d w.outcome comment ∨
      w.spelled = true ∧ l.Spells d w.outcome comment := by
  constructor
  · intro h
    unfold judge at h
    split at h
    · cases h
    · rename_i c asked
      split at h
      · rename_i apart
        cases h
        exact Or.inl ⟨rfl, .aside asked (by simpa using apart)⟩
      · rename_i concerned
        split at h
        · cases h
        · rename_i notes v answered
          obtain ⟨⟨verdict, comment'⟩, hparts, hrest⟩ := bind_eq_ok_iff.1 h
          obtain ⟨w', haccept, hpure⟩ := bind_eq_ok_iff.1 hrest
          cases hpure
          have hv : (l.evaluate d).2 = .ok v := by rw [answered]
          have hmembers := verdictParts_eq_ok_iff.1 hparts
          obtain ⟨own, ⟨rfl, hspelled⟩ | ⟨rfl, hspelled⟩⟩ :=
            verdict?_eq_some_iff.1 (acceptVerdict_eq_ok_iff.1 haccept)
          · exact Or.inl ⟨hspelled, .verdict asked (by simpa using concerned) hv hmembers own⟩
          · exact Or.inr ⟨hspelled, .verdict asked (by simpa using concerned) hv hmembers own⟩
  · obtain ⟨o, spelled⟩ := w
    rintro (⟨hspelled, hsays⟩ | ⟨hspelled, hspells⟩)
    · obtain rfl : spelled = false := hspelled
      cases hsays with
      | aside asked apart => simp [judge, asked, apart]
      | verdict asked concerned answered parts own =>
          exact judge_of_accepted asked concerned answered parts
            (verdict?_eq_some_iff.2 ⟨own, Or.inl ⟨rfl, rfl⟩⟩)
    · obtain rfl : spelled = true := hspelled
      cases hspells with
      | verdict asked concerned answered parts own =>
          exact judge_of_accepted asked concerned answered parts
            (verdict?_eq_some_iff.2 ⟨own, Or.inr ⟨rfl, rfl⟩⟩)

/-- If logic that concerns the device comes to a judgement, it has been evaluated. -/
theorem exists_evaluate_of_judge {c : Value} (asked : l.concerns d = .ok c)
    (concerned : c.truthy = true) {x : Verdict × Value} (h : (l.judge d).2 = .ok x) :
    ∃ v, (l.evaluate d).2 = .ok v := by
  unfold judge at h
  simp only [asked, concerned, Bool.not_true, Bool.false_eq_true, ↓reduceIte] at h
  rcases hanswered : l.evaluate d with ⟨notes, f | v⟩
  · rw [hanswered] at h
    cases h
  · exact ⟨v, rfl⟩

/-- What logic says is a judgement. -/
theorem Says.judge (h : l.Says d o comment) : (l.judge d).2 = .ok (⟨o, false⟩, comment) :=
  judge_snd_eq_ok_iff.2 (Or.inl ⟨rfl, h⟩)

/-- So is what it spells. -/
theorem Spells.judge (h : l.Spells d o comment) : (l.judge d).2 = .ok (⟨o, true⟩, comment) :=
  judge_snd_eq_ok_iff.2 (Or.inr ⟨rfl, h⟩)

end Logic

/-! ## Rules that are due -/

/-- The note on a failure, if the rule and the device can be named. -/
def namedFailure (h : Header) (d : Device) (f : Fault) : Note :=
  .error ("Error while checking rule '" ++ h.name.plain ++ "' on device " ++ d.name.plain ++ ": " ++
    f.message)

/-- If the rule and the device can be named, a failure is noted. -/
theorem failureNote_of_areNamed {h : Header} {d : Device} {f : Fault}
    (named : areNamed h.name d = true) : failureNote h d f = .ok (namedFailure h d f) :=
  namingNote_of_areNamed named _

namespace Rule

variable {g : Setting} {r : Rule} {s : Subject}

/-- A rule that is switched on, on a device that is not exempted, has what its logic says as its
result. -/
theorem check_of_says (sane : r.body ≠ .probe .crashing) (on : r.enabled.truthy = true)
    (due : s.isExempted r.id g.now = .ok false) {o : Outcome} {comment : Value}
    (h : (r.logic g).Says s.device o comment) :
    ∃ notes, r.check g s = (notes, .ok (r.header.result s.device o comment)) := by
  have hj : (r.logic g).judge s.device = (((r.logic g).judge s.device).1, .ok (⟨o, false⟩, comment)) :=
    Prod.ext rfl h.judge
  refine ⟨((r.logic g).judge s.device).1, ?_⟩
  rw [check_eq_contract g s sane, contract_eq_judged on due, judged, hj]
  rfl

/-- It has an error as its result if its logic fails, and the rule and the device can be named. -/
theorem check_of_error (sane : r.body ≠ .probe .crashing) (on : r.enabled.truthy = true)
    (due : s.isExempted r.id g.now = .ok false) (named : areNamed r.name s.device = true)
    {f : Fault} (h : ((r.logic g).judge s.device).2 = .error f) :
    ∃ notes, r.check g s =
      (notes, .ok (r.header.result s.device .error (.text (failureComment f)))) := by
  have hj : (r.logic g).judge s.device = (((r.logic g).judge s.device).1, .error f) :=
    Prod.ext rfl h
  rw [check_eq_contract g s sane, contract_eq_judged on due, judged, hj]
  dsimp only
  rw [failureNote_of_areNamed named]
  exact ⟨_, rfl⟩

/-- If it has a result although its logic fails, that is an error. -/
theorem outcome_of_error (sane : r.body ≠ .probe .crashing) (on : r.enabled.truthy = true)
    (due : s.isExempted r.id g.now = .ok false) {f : Fault}
    (h : ((r.logic g).judge s.device).2 = .error f) {notes : Journal} {result : CheckResult}
    (hcheck : r.check g s = (notes, .ok result)) : result.outcome = .error := by
  have hj : (r.logic g).judge s.device = (((r.logic g).judge s.device).1, .error f) :=
    Prod.ext rfl h
  rw [check_eq_contract g s sane, contract_eq_judged on due, judged, hj] at hcheck
  dsimp only at hcheck
  split at hcheck
  · cases hcheck
    rfl
  · cases hcheck

/-- Its notes, if it concerns the device, are those of its logic, and one more if it ends in an
error. -/
theorem check_of_evaluate (sane : r.body ≠ .probe .crashing) (on : r.enabled.truthy = true)
    (due : s.isExempted r.id g.now = .ok false) (named : areNamed r.name s.device = true)
    {c : Value} (asked : (r.logic g).concerns s.device = .ok c) (concerned : c.truthy = true)
    {notes : Journal} {x : Except Fault Value}
    (answered : (r.logic g).evaluate s.device = (notes, x)) :
    ∃ errors result, r.check g s = (notes ++ errors, .ok result) ∧
      ((∃ v, x = .ok v) ∧ errors = [] ∧ result.outcome ≠ .error ∨
        ∃ f, errors = [namedFailure r.header s.device f] ∧ result.outcome = .error ∧
          ∀ f', x = .error f' → f = f') := by
  -- the judgement has the notes of the evaluation, and fails if it has failed
  obtain ⟨y, hjudge, hfails⟩ : ∃ y, (r.logic g).judge s.device = (notes, y) ∧
      ((∃ v, x = .ok v) ∨ ∃ f, x = .error f ∧ y = .error f) := by
    rw [Logic.judge, asked, answered]
    simp only [concerned, Bool.not_true, Bool.false_eq_true, ↓reduceIte]
    cases x with
    | error f => exact ⟨.error f, rfl, Or.inr ⟨f, rfl, rfl⟩⟩
    | ok v => exact ⟨_, rfl, Or.inl ⟨v, rfl⟩⟩
  rw [check_eq_contract g s sane, contract_eq_judged on due, judged, hjudge]
  cases y with
  | ok verdict =>
      obtain ⟨w, comment⟩ := verdict
      have hanswered : ∃ v, x = .ok v := by
        rcases hfails with hok | ⟨f, _, hf⟩
        · exact hok
        · cases hf
      refine ⟨[], _, by rw [List.append_nil], Or.inl ⟨hanswered, rfl, ?_⟩⟩
      have hverdict : w.outcome.isVerdict = true := Logic.isVerdict_of_judge hjudge
      intro herror
      change w.outcome = .error at herror
      rw [herror] at hverdict
      cases hverdict
  | error f =>
      dsimp only
      rw [failureNote_of_areNamed named]
      refine ⟨_, _, rfl, Or.inr ⟨f, rfl, rfl, fun f' hf => ?_⟩⟩
      rcases hfails with ⟨v, hv⟩ | ⟨f'', hf'', hy⟩
      · cases hf.symm.trans hv
      · cases hy
        cases hf.symm.trans hf''
        rfl

end Rule

/-! ## Results in writing -/

/-- The written form of an outcome is read as the outcome. -/
theorem Outcome.ofText?_text (o : Outcome) : ofText? o.text = some o := by
  cases o <;> decide +kernel

/-- The written form of an outcome is a value that names it. -/
theorem Outcome.ofValue_text (o : Outcome) : ofValue (.text o.text) = .ok o := by
  unfold ofValue
  simp only [ofText?_text]

namespace CheckResult

/-- A result has a line if its outcome is no text, and all names and the comment can be written. -/
theorem line_eq_ok_iff {r : CheckResult} {line : String} : r.line = .ok line ↔
    r.deviceName.isSpellable = true ∧ r.ruleName.isSpellable = true ∧ r.spelled = false ∧
      (r.comment.truthy = true → r.comment.isSpellable = true) ∧ line = r.text := by
  constructor
  · intro h
    obtain ⟨device, hdevice, h⟩ := bind_eq_ok_iff.1 h
    obtain ⟨rule, hrule, h⟩ := bind_eq_ok_iff.1 h
    obtain ⟨outcome, houtcome, h⟩ := bind_eq_ok_iff.1 h
    obtain ⟨hdeviceSpelt, rfl⟩ := Value.spell_eq_ok_iff.1 hdevice
    obtain ⟨hruleSpelt, rfl⟩ := Value.spell_eq_ok_iff.1 hrule
    unfold part at houtcome
    split at houtcome
    · cases houtcome
    · rename_i hmember
      cases houtcome
      refine ⟨hdeviceSpelt, hruleSpelt, by simpa using hmember, ?_⟩
      dsimp only at h
      split at h
      · rename_i htruthy
        obtain ⟨comment, hcomment, h⟩ := bind_eq_ok_iff.1 h
        obtain ⟨hspell, rfl⟩ := Value.spell_eq_ok_iff.1 hcomment
        cases h
        refine ⟨fun _ => hspell, ?_⟩
        rw [text, if_pos htruthy]
      · rename_i hnone
        cases h
        refine ⟨fun htruthy => absurd htruthy hnone, ?_⟩
        rw [text, if_neg hnone]
  · rintro ⟨hdevice, hrule, hmember, hcomment, rfl⟩
    refine bind_eq_ok_iff.2 ⟨_, Value.spell_of_isSpellable hdevice, ?_⟩
    refine bind_eq_ok_iff.2 ⟨_, Value.spell_of_isSpellable hrule, ?_⟩
    refine bind_eq_ok_iff.2 ⟨r.outcome.name, by rw [part, hmember]; rfl, ?_⟩
    dsimp only
    unfold text
    split
    · rename_i htruthy
      exact bind_eq_ok_iff.2 ⟨_, Value.spell_of_isSpellable (hcomment htruthy), rfl⟩
    · rfl

/-- The document form of a result has its outcome in words, unless this is only a text. -/
theorem fields_eq_ok_iff {r : CheckResult} {fields : List (String × Value)} :
    r.fields = .ok fields ↔ r.spelled = false ∧ fields =
      [("rule_id", r.ruleId), ("rule_name", r.ruleName), ("device_id", r.deviceId),
        ("device_name", r.deviceName), ("result", .text r.outcome.text), ("comment", r.comment)] := by
  unfold CheckResult.fields part
  cases r.spelled with
  | true => exact iff_of_false nofun fun h => nomatch h.1
  | false =>
      constructor
      · intro h
        exact ⟨rfl, (Except.ok.inj h).symm⟩
      · rintro ⟨_, rfl⟩
        rfl

end CheckResult

namespace Report

/-- There is a summary if no outcome is only spelled. -/
theorem summary_eq_ok_iff {r : Report} {counts : List (Outcome × Nat)} :
    r.summary = .ok counts ↔ (∀ x ∈ r.results, x.spelled = false) ∧ counts = r.counts := by
  unfold summary
  split
  · rename_i hspelled
    refine iff_of_false nofun ?_
    rintro ⟨hplain, _⟩
    obtain ⟨x, hx, hspells⟩ := List.any_eq_true.1 hspelled
    rw [hplain x hx] at hspells
    cases hspells
  · rename_i hplain
    rw [List.any_eq_true] at hplain
    constructor
    · intro h
      refine ⟨fun x hx => ?_, (Except.ok.inj h).symm⟩
      rw [← Bool.not_eq_true]
      exact fun hspells => hplain ⟨x, hx, hspells⟩
    · rintro ⟨_, rfl⟩
      rfl

/-- The counts of a report add up to the number of its results. -/
theorem sum_counts (r : Report) : (r.counts.map Prod.snd).sum = r.results.length := by
  simp only [counts, count, List.map_map, Function.comp_def]
  induction r.results with
  | nil => rfl
  | cons x xs ih =>
      simp only [Outcome.all, List.map_cons, List.map_nil, List.sum_cons, List.sum_nil,
        List.countP_cons, List.length_cons] at ih ⊢
      cases x.outcome <;> simp <;> omega

/-- Every result is counted under its outcome. -/
theorem exists_count_of_mem {r : Report} {x : CheckResult} (h : x ∈ r.results) :
    ∃ n, (x.outcome, n + 1) ∈ r.counts := by
  have hpos : 0 < r.count x.outcome := List.countP_pos_iff.2 ⟨x, h, by simp⟩
  refine ⟨r.count x.outcome - 1, ?_⟩
  rw [Nat.sub_add_cancel hpos]
  exact List.mem_map.2 ⟨x.outcome, Outcome.mem_all _, rfl⟩

end Report

/-! ## Results -/

/-- A check that gets as far as the logic of a rule: the rule is switched on, and the device is not
exempted from it. -/
structure DueCheck (now : Moment) where
  /-- What identifies the rule. -/
  header : Header
  /-- What the rule adds. -/
  logic : Logic
  /-- The device with its exemptions. -/
  subject : Subject
  /-- The rule is switched on. -/
  on : header.enabled.truthy = true
  /-- The device is not exempted. -/
  due : subject.isExempted header.id now = .ok false

namespace DueCheck

variable {now : Moment} {c : DueCheck now}

/-- The device. -/
def device (c : DueCheck now) : Device := c.subject.device

/-- What a check comes to: a result that belongs to the rule and the device, and that every rule
has which keeps to the contract. -/
structure ComesTo (c : DueCheck now) (result : CheckResult) : Prop where
  /-- The check has the result. -/
  checked : ∃ notes, contract c.header c.logic c.subject now = (notes, .ok result) ∧
    ∀ (g : Setting) (r : Rule), g.now = now → r.header = c.header → r.logic g = c.logic →
      r.body ≠ .probe .crashing → r.check g c.subject = (notes, .ok result)
  /-- It belongs to the rule. -/
  rule : result.ruleId = c.header.id ∧ result.ruleName = c.header.name
  /-- It belongs to the device. -/
  device : result.deviceId = .int c.device.id ∧ result.deviceName = c.device.name

/-- What is said of the result of a check: it is what the logic says, or an error with the cause of
the failure, and it can be written and printed. -/
structure AnsweredAsSaid (c : DueCheck now) (result : CheckResult) : Prop where
  /-- The logic is believed. -/
  believed : ∀ o comment, c.logic.Says c.device o comment →
    result.outcome = o ∧ result.comment = comment
  /-- If it says nothing, the result is an error. -/
  silent : (∀ o comment, ¬ c.logic.Says c.device o comment) → result.outcome = .error ∧
    ∃ f, (c.logic.judge c.device).2 = .error f ∧ result.comment = .text (failureComment f)
  /-- The outcome is written and read back. -/
  written : ∃ fields, result.fields = .ok fields ∧
    (fields.lookup "result").map Outcome.ofValue = some (.ok result.outcome)
  /-- The outcome is printed. -/
  printed : ∃ rest, result.line = .ok (c.device.name.plain ++ " / " ++ c.header.name.plain ++ ": " ++
    result.outcome.name ++ rest)

/-- Whether the rule and the device can be named, and the logic hands back no text in the place of
an outcome, and no comment that cannot be written. -/
structure SaysPlainly (c : DueCheck now) : Prop where
  /-- The rule and the device can be named. -/
  named : areNamed c.header.name c.device = true
  /-- Outcomes are outcomes. -/
  member : ∀ o comment, ¬ c.logic.Spells c.device o comment
  /-- Comments can be written. -/
  comment : ∀ o comment, c.logic.Says c.device o comment → comment.truthy = true →
    comment.isSpellable = true

/-- The result of a check, if there is one. -/
def result (c : DueCheck now) : CheckResult :=
  match (c.logic.judge c.device).2 with
  | .ok (w, comment) => { c.header.result c.device w.outcome comment with spelled := w.spelled }
  | .error f => c.header.result c.device .error (.text (failureComment f))

/-- A check comes to its result unless the logic fails, and the rule or the device cannot be
named. -/
theorem contract_eq (c : DueCheck now) (told : areNamed c.header.name c.device = true ∨
    ∃ judgement, (c.logic.judge c.device).2 = .ok judgement) :
    ∃ notes, contract c.header c.logic c.subject now = (notes, .ok c.result) := by
  rw [contract_eq_judged c.on c.due, judged, result]
  rw [device] at told ⊢
  rcases hj : c.logic.judge c.subject.device with ⟨notes, f | ⟨w, comment⟩⟩
  · have named := told.resolve_right (by simp [hj])
    dsimp only
    rw [failureNote_of_areNamed named]
    exact ⟨_, rfl⟩
  · exact ⟨_, rfl⟩

/-- The result belongs to the rule and the device. -/
theorem result_ids (c : DueCheck now) :
    (c.result.ruleId = c.header.id ∧ c.result.ruleName = c.header.name) ∧
      c.result.deviceId = .int c.device.id ∧ c.result.deviceName = c.device.name := by
  unfold result
  split <;> exact ⟨⟨rfl, rfl⟩, rfl, rfl⟩

/-- A check comes to its result. -/
theorem comesTo (c : DueCheck now) (told : areNamed c.header.name c.device = true ∨
    ∃ judgement, (c.logic.judge c.device).2 = .ok judgement) : c.ComesTo c.result := by
  obtain ⟨notes, hcontract⟩ := c.contract_eq told
  refine ⟨⟨notes, hcontract, ?_⟩, c.result_ids.1, c.result_ids.2⟩
  intro g r hnow hheader hlogic sane
  rw [Rule.check_eq_contract g c.subject sane, hheader, hlogic, hnow, hcontract]

/-- A check comes to nothing else. -/
theorem ComesTo.eq_result {x : CheckResult} (h : c.ComesTo x) : x = c.result := by
  obtain ⟨notes, hx, _⟩ := h.checked
  by_cases told : areNamed c.header.name c.device = true ∨
      ∃ judgement, (c.logic.judge c.device).2 = .ok judgement
  · obtain ⟨notes', hresult⟩ := c.contract_eq told
    cases hx.symm.trans hresult
    rfl
  · -- the failure of the logic cannot even be noted
    rw [not_or, Bool.not_eq_true] at told
    obtain ⟨f, hf⟩ : ∃ f, (c.logic.judge c.device).2 = .error f := by
      cases hj : (c.logic.judge c.device).2 with
      | error f => exact ⟨f, rfl⟩
      | ok judgement => exact absurd ⟨judgement, hj⟩ told.2
    obtain ⟨notes', f', hfails⟩ := judged_eq_error_iff.2
      ⟨⟨(c.logic.judge c.device).1, f, Prod.ext rfl hf⟩, told.1⟩
    rw [contract_eq_judged c.on c.due] at hx
    cases hx.symm.trans hfails

/-- Nor do several checks. -/
theorem results_eq {cs : List (DueCheck now)} {xs : List CheckResult}
    (h : List.Forall₂ ComesTo cs xs) : xs = cs.map result := by
  induction h with
  | nil => rfl
  | cons hx _ ih => rw [List.map_cons, hx.eq_result, ih]

/-- The result has only the text of an outcome if the logic hands one back. -/
theorem spelled_iff : c.result.spelled = true ↔ ∃ o comment, c.logic.Spells c.device o comment := by
  unfold result
  cases hj : (c.logic.judge c.device).2 with
  | error f =>
      refine iff_of_false Bool.false_ne_true ?_
      rintro ⟨o, comment, hspells⟩
      cases hspells.judge.symm.trans hj
  | ok judgement =>
      obtain ⟨w, comment⟩ := judgement
      constructor
      · intro hspelled
        rcases Logic.judge_snd_eq_ok_iff.1 hj with ⟨hmember, _⟩ | ⟨_, hspells⟩
        · cases hspelled.symm.trans hmember
        · exact ⟨w.outcome, comment, hspells⟩
      · rintro ⟨o, comment', hspells⟩
        cases hspells.judge.symm.trans hj
        rfl

/-- What the logic says is the result. -/
theorem result_of_verdict {o : Outcome} {comment : Value} (h : c.logic.Says c.device o comment) :
    c.result = c.header.result c.device o comment := by
  rw [result, h.judge]
  rfl

/-- If the result is what is said of it, everything has been said plainly. -/
theorem saysPlainly_of_answeredAsSaid (h : c.AnsweredAsSaid c.result) : c.SaysPlainly := by
  obtain ⟨⟨_, hname⟩, _, hdeviceName⟩ := c.result_ids
  obtain ⟨fields, hfields, _⟩ := h.written
  have hmember := (CheckResult.fields_eq_ok_iff.1 hfields).1
  obtain ⟨rest, hline⟩ := h.printed
  obtain ⟨hdevice, hrule, _, hcomment, _⟩ := CheckResult.line_eq_ok_iff.1 hline
  rw [hname] at hrule
  rw [hdeviceName] at hdevice
  refine ⟨Bool.and_eq_true_iff.2 ⟨hrule, hdevice⟩, fun o comment hspells => ?_,
    fun o comment hsays htruthy => ?_⟩
  · rw [spelled_iff.2 ⟨o, comment, hspells⟩] at hmember
    cases hmember
  · rw [result_of_verdict hsays] at hcomment
    exact hcomment htruthy

/-- Logic that speaks plainly says something or fails. -/
theorem SaysPlainly.says_or_fails (h : c.SaysPlainly) :
    (∃ o comment, c.logic.Says c.device o comment) ∨
      ∃ f, (c.logic.judge c.device).2 = .error f := by
  cases hj : (c.logic.judge c.device).2 with
  | error f => exact Or.inr ⟨f, rfl⟩
  | ok judgement =>
      rcases Logic.judge_snd_eq_ok_iff.1 hj with ⟨_, hsays⟩ | ⟨_, hspells⟩
      · exact Or.inl ⟨_, _, hsays⟩
      · exact absurd hspells (h.member _ _)

/-- What is shown of the result of such logic can be written. -/
theorem SaysPlainly.isSpellable_comment (h : c.SaysPlainly) (shown : c.result.comment.truthy = true) :
    c.result.comment.isSpellable = true := by
  rcases h.says_or_fails with ⟨o, comment, hsays⟩ | ⟨f, hf⟩
  · rw [result_of_verdict hsays] at shown ⊢
    exact h.comment o comment hsays shown
  · rw [result, hf]
    rfl

/-- If everything has been said plainly, the result is what is said of it. -/
theorem SaysPlainly.answeredAsSaid (h : c.SaysPlainly) : c.AnsweredAsSaid c.result := by
  obtain ⟨⟨_, hname⟩, _, hdeviceName⟩ := c.result_ids
  obtain ⟨hrule, hdevice⟩ := Bool.and_eq_true_iff.1 h.named
  have hmember : c.result.spelled = false := by
    rw [← Bool.not_eq_true, spelled_iff]
    rintro ⟨o, comment, hspells⟩
    exact h.member o comment hspells
  refine ⟨fun o comment hsays => ?_, fun silent => ?_, ⟨_, CheckResult.fields_eq_ok_iff.2
    ⟨hmember, rfl⟩, ?_⟩, ?_⟩
  · rw [result_of_verdict hsays]
    exact ⟨rfl, rfl⟩
  · obtain ⟨f, hf⟩ := h.says_or_fails.resolve_left fun ⟨o, comment, hsays⟩ =>
      silent o comment hsays
    rw [result, hf]
    exact ⟨rfl, f, rfl, rfl⟩
  · change some (Outcome.ofValue (.text c.result.outcome.text)) = _
    rw [Outcome.ofValue_text]
  · refine ⟨if c.result.comment.truthy then " (" ++ c.result.comment.plain ++ ")" else "",
      CheckResult.line_eq_ok_iff.2 ⟨?_, ?_, hmember, h.isSpellable_comment, ?_⟩⟩
    · rw [hdeviceName]
      exact hdevice
    · rw [hname]
      exact hrule
    · rw [CheckResult.text, hdeviceName, hname]

/-- A check comes to a result that is what is said of it, and can be written and printed, if
everything is said plainly. -/
theorem answeredAsSaid_iff :
    (∃ x, c.ComesTo x ∧ c.AnsweredAsSaid x) ↔ c.SaysPlainly := by
  constructor
  · rintro ⟨x, hcomes, h⟩
    obtain rfl := hcomes.eq_result
    exact saysPlainly_of_answeredAsSaid h
  · intro h
    exact ⟨c.result, c.comesTo (Or.inl h.named), h.answeredAsSaid⟩

/-- A text in the place of an outcome becomes the result, which cannot be written. -/
theorem comesTo_of_spells {o : Outcome} {comment : Value} (h : c.logic.Spells c.device o comment) :
    c.ComesTo c.result ∧ c.result.outcome = o ∧
      c.result.fields = .error (.noOperation "str" "value") := by
  refine ⟨c.comesTo (Or.inr ⟨_, h.judge⟩), ?_⟩
  rw [result, h.judge]
  exact ⟨rfl, rfl⟩

end DueCheck

/-- **Results are what logic says.**  Let rules be switched on, and devices not be exempted from
them.  Whatever the logic of a rule answers or however it fails, its check comes to a result that
belongs to the rule and the device, is what the logic says, or an error with the cause of the
failure if the logic says nothing, and can be written and printed, exactly if the rule and the
device can be named, the logic does not hand back the text of an outcome in its place, and its
comment can be written.  The text of an outcome becomes the result.  A report of results has a
summary, with counts that leave out none of them, exactly if no logic has handed back such a
text. -/
theorem answered_as_said_iff (now : Moment) :
    (∀ c : DueCheck now, ((∃ result, c.ComesTo result ∧ c.AnsweredAsSaid result) ↔ c.SaysPlainly) ∧
      ∀ o comment, c.logic.Spells c.device o comment → ∃ result, c.ComesTo result ∧
        result.outcome = o ∧ result.fields = .error (.noOperation "str" "value")) ∧
    ∀ (cs : List (DueCheck now)) (report : Report),
      List.Forall₂ DueCheck.ComesTo cs report.results →
      ((∃ counts, report.summary = .ok counts) ↔
        ∀ c ∈ cs, ∀ o comment, ¬ c.logic.Spells c.device o comment) ∧
      ∀ counts, report.summary = .ok counts →
        (counts.map Prod.snd).sum = report.results.length ∧
          ∀ x ∈ report.results, ∃ n, (x.outcome, n + 1) ∈ counts := by
  refine ⟨fun c => ⟨c.answeredAsSaid_iff, fun o comment hspells =>
    ⟨c.result, DueCheck.comesTo_of_spells hspells⟩⟩, ?_⟩
  intro cs report hcomes
  have hresults := DueCheck.results_eq hcomes
  refine ⟨?_, ?_⟩
  · have hplain : (∃ counts, report.summary = .ok counts) ↔
        ∀ x ∈ report.results, x.spelled = false := by
      simp only [Report.summary_eq_ok_iff, exists_and_left, exists_eq, and_true]
    rw [hplain, hresults, List.forall_mem_map]
    refine forall₂_congr fun c _ => ?_
    rw [← Bool.not_eq_true, DueCheck.spelled_iff]
    simp
  · intro counts hcounts
    rw [(Report.summary_eq_ok_iff.1 hcounts).2]
    exact ⟨report.sum_counts, fun _ => Report.exists_count_of_mem⟩

/-- Logic that hands back a text. -/
def textLogic (s : String) : Logic :=
  ⟨"spelled", fun _ => .ok (.flag true), fun _ => ([], .ok (.pair (.text s) .null))⟩

/-- A check with such logic. -/
def textCheck (s : String) : DueCheck (.ofDate Moment.epoch) where
  header := ⟨.int 1, .text "rule", .flag true⟩
  logic := textLogic s
  subject := ⟨⟨7, .text "edge", .text "", .text "", [], []⟩, some .empty⟩
  on := rfl
  due := rfl

/-- Another text is no outcome, and an error can be written and counted. -/
theorem answered_as_said_of_otherText :
    (textCheck "passed").ComesTo (textCheck "passed").result ∧
      (∃ result, (textCheck "passed").ComesTo result ∧ (textCheck "passed").AnsweredAsSaid result) ∧
      ∃ counts, (Report.mk [(textCheck "passed").result] false 0).summary = .ok counts := by
  obtain ⟨heach, hall⟩ := answered_as_said_iff (.ofDate Moment.epoch)
  have hcomes := (textCheck "passed").comesTo (Or.inl rfl)
  have hmember : ∀ o comment,
      ¬ (textCheck "passed").logic.Spells (textCheck "passed").device o comment := by
    rintro o comment ⟨_, _, hanswered, hparts, hown⟩
    cases hanswered
    have htext : "passed" = o.text := Value.text.inj (List.cons.inj (Except.ok.inj hparts)).1
    exact absurd htext (by cases o <;> decide)
  refine ⟨hcomes, (heach (textCheck "passed")).1.2 ⟨rfl, hmember, ?_⟩, ?_⟩
  · rintro o comment hsays
    cases hsays with
    | aside asked apart =>
        cases asked
        cases apart
    | verdict asked concerned answered parts own =>
        cases answered
        simp [Value.members] at parts
  · exact (hall [textCheck "passed"] ⟨[(textCheck "passed").result], false, 0⟩
      (.cons hcomes .nil)).1.2 (List.forall_mem_singleton.2 hmember)

/-- The text of an outcome becomes the result in its place.  So it is not true that a result is
always what the logic says, or an error, and can be written. -/
theorem not_always_answered_as_said :
    ¬ ∀ (now : Moment) (c : DueCheck now), ∃ result, c.ComesTo result ∧ c.AnsweredAsSaid result := by
  intro claim
  have hspells : (textLogic "conforming").Spells (textCheck "conforming").device .conforming .null :=
    .verdict rfl rfl rfl rfl (by decide)
  exact ((textCheck "conforming").answeredAsSaid_iff.1 (claim _ _)).member _ _ hspells

end ConfigAudit
