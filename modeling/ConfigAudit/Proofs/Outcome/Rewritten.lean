/-
# Results that are written and read again

The document form of a result has the outcome in small letters and the date as a text, while the
reader takes an outcome in many spellings and a date in many forms.  What it has read is written in
one form, and read from this form it is the same; only a date with an offset of less than a second
can be written and is not read as it was.

* `Outcome.Spelling` : the spellings of an outcome;
* `Outcome.ofValue_of_spelling` : each of them is read as the outcome;
* `DatedResult.document` : the document form of a result that has an outcome;
* `DatedResult.ofValue_document` : this form, read again;
* `DatedResult.rewritten` : results that are written, read, and written once more.
-/
import ConfigAudit.Proofs.Calendar.Reread
import ConfigAudit.Proofs.Outcome.Reading
import ConfigAudit.Proofs.Rule.Verdict
import ConfigAudit.Proofs.Text.Stripped
import ConfigAudit.Proofs.Value.Texts

namespace ConfigAudit

/-! ## Spellings -/

namespace Outcome

/-- A character stands for a character of a name: in capital or small form, or as a dash for an
underscore. -/
def StandsFor (c n : Char) : Prop := c = n ∨ c = n.toLower ∨ (n = '_' ∧ c = '-')

instance (c n : Char) : Decidable (StandsFor c n) :=
  inferInstanceAs (Decidable (c = n ∨ c = n.toLower ∨ (n = '_' ∧ c = '-')))

/-- The spellings of an outcome: the outcome itself, and its name with each letter in capital or
small form, a dash or an underscore between the words, and blanks around it. -/
inductive Spelling (o : Outcome) : Value → Prop where
  /-- The outcome itself. -/
  | member : Spelling o (.outcome o)
  /-- Its name, with blanks around it. -/
  | text {before body after : List Char} (front : ∀ c ∈ before, Text.isBlank c = true)
      (back : ∀ c ∈ after, Text.isBlank c = true)
      (letters : List.Forall₂ StandsFor body o.name.toList) :
      Spelling o (.text (String.ofList (before ++ (body ++ after))))

/-- The written form of an outcome is one of its spellings. -/
theorem spelling_text (o : Outcome) : o.Spelling (.text o.text) := by
  have hnone : ∀ c ∈ ([] : List Char), Text.isBlank c = true := fun c hc => (List.not_mem_nil hc).elim
  have letters : List.Forall₂ StandsFor o.text.toList o.name.toList := by
    cases o <;> decide
  have hspelling := Spelling.text hnone hnone letters
  rwa [List.nil_append, List.append_nil, String.ofList_toList] at hspelling

/-- The characters of names are no blanks and stand for themselves, in either form. -/
theorem name_letters (o : Outcome) : (o.name.toList.all fun n =>
    (!Text.isBlank n && !Text.isBlank n.toLower) &&
      (Text.nameForm n == [n] && Text.nameForm n.toLower == [n])) = true := by
  cases o <;> decide +kernel

variable {o : Outcome}

/-- What stands for a character of a name is no blank and is read as this character. -/
theorem StandsFor.isRead {c n : Char} (h : StandsFor c n) (hn : n ∈ o.name.toList) :
    Text.isBlank c = false ∧ Text.nameForm c = [n] := by
  have hletter := List.all_eq_true.1 o.name_letters n hn
  simp only [Bool.and_eq_true, Bool.not_eq_true', beq_iff_eq] at hletter
  obtain ⟨⟨hblank, hblankLower⟩, hform, hformLower⟩ := hletter
  rcases h with rfl | rfl | ⟨rfl, rfl⟩
  · exact ⟨hblank, hform⟩
  · exact ⟨hblankLower, hformLower⟩
  · decide

/-- What stands for a name, letter by letter, has no blanks and is read as the name. -/
theorem letters_isRead {body name : List Char} (letters : List.Forall₂ StandsFor body name)
    (hname : ∀ n ∈ name, n ∈ o.name.toList) :
    (∀ c ∈ body, Text.isBlank c = false) ∧ body.flatMap Text.nameForm = name := by
  induction letters with
  | nil => exact ⟨fun c hc => (List.not_mem_nil hc).elim, rfl⟩
  | @cons c n body name h _ ih =>
      obtain ⟨hn, hnames⟩ := List.forall_mem_cons.1 hname
      obtain ⟨hblank, hform⟩ := h.isRead hn
      obtain ⟨hblanks, hforms⟩ := ih hnames
      refine ⟨List.forall_mem_cons.2 ⟨hblank, hblanks⟩, ?_⟩
      rw [List.flatMap_cons, hform, hforms, List.singleton_append]

/-- Every spelling of an outcome is read as the outcome. -/
theorem ofValue_of_spelling {v : Value} (h : o.Spelling v) : ofValue v = .ok o := by
  cases h with
  | member => rfl
  | @text before body after front back letters =>
      obtain ⟨hblanks, hforms⟩ := letters_isRead letters fun n hn => hn
      have hname : nameOf (String.ofList (before ++ (body ++ after))) = o.name := by
        rw [nameOf, Text.strip_of_blanks front hblanks back, Text.map_toList_upperName,
          String.toList_ofList, hforms, String.ofList_toList]
      unfold ofValue
      dsimp only
      rw [ofText?_eq_some_iff.2 hname]

end Outcome

/-! ## Documents -/

namespace DatedResult

/-- A document is read as a result field by field, and the result has an outcome. -/
theorem ofValue_eq_ok_iff {now : Moment} {data : Value} {r : DatedResult} :
    ofValue now data = .ok r ↔
      data.index "rule_id" = .ok r.result.ruleId ∧
      data.index "rule_name" = .ok r.result.ruleName ∧
      data.index "device_id" = .ok r.result.deviceId ∧
      data.index "device_name" = .ok r.result.deviceName ∧
      (∃ v, data.index "result" = .ok v ∧ Outcome.ofValue v = .ok r.result.outcome) ∧
      data.get "comment" = .ok r.result.comment ∧
      (∃ w, data.get "check_date" = .ok w ∧ readDate now w = .ok r.date) ∧
      r.result.spelled = false := by
  unfold ofValue
  simp only [bind_eq_ok_iff, lift_eq_ok_iff]
  constructor
  · rintro ⟨w, hw, ruleId, hruleId, ruleName, hruleName, deviceId, hdeviceId, deviceName,
      hdeviceName, v, hv, outcome, houtcome, comment, hcomment, date, hdate, h⟩
    cases h
    exact ⟨hruleId, hruleName, hdeviceId, hdeviceName, ⟨v, hv, houtcome⟩, hcomment, ⟨w, hw, hdate⟩,
      rfl⟩
  · obtain ⟨result, date⟩ := r
    rintro ⟨hruleId, hruleName, hdeviceId, hdeviceName, ⟨v, hv, houtcome⟩, hcomment, ⟨w, hw, hdate⟩,
      hgiven⟩
    obtain ⟨ruleId, ruleName, deviceId, deviceName, outcome, comment, spelled⟩ := result
    obtain rfl : spelled = false := hgiven
    exact ⟨w, hw, _, hruleId, _, hruleName, _, hdeviceId, _, hdeviceName, v, hv, _, houtcome, _,
      hcomment, _, hdate, rfl⟩

/-- A written date is no missing one. -/
theorem truthy_text (m : Moment) : (Value.text m.text).truthy = true := by
  rw [Value.truthy, Bool.not_eq_true', Bool.eq_false_iff, Ne, String.isEmpty_iff]
  exact m.text_ne_empty

/-- A written date is read. -/
theorem readDate_text {m : Moment} (h : m.IsValid) (now : Moment) :
    readDate now (.text m.text) = .ok m.reread := by
  unfold readDate
  rw [if_pos (truthy_text m)]
  dsimp only
  rw [readMoment_text h]

/-- A date that is read from something is one that can be, and its offset is kept. -/
theorem isValid_of_readDate {now m : Moment} {w : Value} (filled : w.truthy = true)
    (h : readDate now w = .ok m) : m.IsValid ∧ m.OffsetKept := by
  unfold readDate at h
  rw [if_pos filled] at h
  split at h
  · split at h
    · rename_i hread
      cases h
      exact isValid_of_readMoment hread
    · cases h
  · split at h
    · rename_i hread
      cases h
      exact isValid_of_readMoment hread
    · cases h
  · cases h

/-- The document form of a result that has an outcome. -/
def document (d : DatedResult) : Value :=
  .record [("rule_id", d.result.ruleId), ("rule_name", d.result.ruleName),
    ("device_id", d.result.deviceId), ("device_name", d.result.deviceName),
    ("result", .text d.result.outcome.text), ("comment", d.result.comment),
    ("check_date", .text d.date.text)]

/-- A result that has an outcome can be written. -/
theorem record_eq {d : DatedResult} (given : d.result.spelled = false) :
    d.record = .ok d.document := by
  have hpart : d.result.part "value" Outcome.text = .ok d.result.outcome.text :=
    if_neg (by rw [given]; exact Bool.false_ne_true)
  rw [record, CheckResult.fields, hpart]
  rfl

/-- The document form has the outcome in small letters. -/
theorem index_document (d : DatedResult) :
    d.document.index "result" = .ok (.text d.result.outcome.text) := by
  simp [document, Value.record, Value.index, Value.lookup]

/-- A result that has an outcome is read from its document form with the same fields, and with its
date as it is read again. -/
theorem ofValue_document {d : DatedResult} (given : d.result.spelled = false) (h : d.date.IsValid)
    (now : Moment) : ofValue now d.document = .ok ⟨d.result, d.date.reread⟩ := by
  refine ofValue_eq_ok_iff.2 ⟨?_, ?_, ?_, ?_, ⟨.text d.result.outcome.text, d.index_document,
    Outcome.ofValue_text d.result.outcome⟩, ?_, ⟨.text d.date.text, ?_, readDate_text h now⟩,
    given⟩ <;>
  simp [document, Value.record, Value.index, Value.get, Value.lookup]

/-- Two tables that have everything in common but the outcome, which each of them spells in its
own way. -/
structure SpelledAlike (o : Outcome) (es es' : List (Value × Value)) : Prop where
  /-- The first table spells the outcome. -/
  left : ∃ v, Value.lookup (.text "result") es = some v ∧ o.Spelling v
  /-- The second table spells the outcome. -/
  right : ∃ v, Value.lookup (.text "result") es' = some v ∧ o.Spelling v
  /-- Everything else is the same. -/
  others : ∀ name, name ≠ "result" →
    Value.lookup (.text name) es = Value.lookup (.text name) es'

variable {o : Outcome} {es es' : List (Value × Value)}

/-- What is read from a table that spells an outcome has this outcome. -/
theorem outcome_of_spelling {now : Moment} {r : DatedResult} {v : Value}
    (hv : Value.lookup (.text "result") es = some v) (spelling : o.Spelling v)
    (h : ofValue now (.table es) = .ok r) : r.result.outcome = o := by
  obtain ⟨-, -, -, -, ⟨x, hx, hread⟩, -⟩ := ofValue_eq_ok_iff.1 h
  rw [Value.index, hv] at hx
  cases hx
  exact Except.ok.inj (hread.symm.trans (Outcome.ofValue_of_spelling spelling))

/-- Tables that spell the outcome in different ways are read alike. -/
theorem SpelledAlike.ofValue_eq (h : SpelledAlike o es es') (now : Moment) :
    ofValue now (.table es) = ofValue now (.table es') := by
  obtain ⟨⟨v, hv, spelling⟩, ⟨v', hv', spelling'⟩, others⟩ := h
  have hindex : ∀ name, name ≠ "result" →
      (Value.table es).index name = (Value.table es').index name := by
    intro name hname
    rw [Value.index, Value.index, others name hname]
  have hget : ∀ name, name ≠ "result" →
      (Value.table es).get name = (Value.table es').get name := by
    intro name hname
    rw [Value.get, Value.get, others name hname]
  have hresult : ∀ {xs : List (Value × Value)} {x : Value},
      Value.lookup (.text "result") xs = some x → (Value.table xs).index "result" = .ok x := by
    intro xs x hx
    rw [Value.index, hx]
  unfold ofValue
  rw [hget "check_date" (by decide), hindex "rule_id" (by decide), hindex "rule_name" (by decide),
    hindex "device_id" (by decide), hindex "device_name" (by decide), hget "comment" (by decide),
    hresult hv, hresult hv']
  -- up to the outcome the same is read, and the outcome is the same one
  refine bind_congr fun date => bind_congr fun ruleId => bind_congr fun ruleName =>
    bind_congr fun deviceId => bind_congr fun deviceName => ?_
  change (liftM (Outcome.ofValue v) >>= _ : Except Fault DatedResult) =
    (liftM (Outcome.ofValue v') >>= _)
  rw [Outcome.ofValue_of_spelling spelling, Outcome.ofValue_of_spelling spelling']

/-- **Results that are written and read again.**  A result that has an outcome is written, and read
from its document form with all its fields.  Its date is the same exactly if the offset of the date
is kept; otherwise the date has the same day and time of day at an offset of zero.  What is read
from a document with a date is written, in a form that has the outcome in small letters, and read
again from this form, and it does not depend on the spelling of the outcome. -/
theorem rewritten (now : Moment) :
    (∀ d : DatedResult, d.result.spelled = false → d.date.IsValid →
      ∃ v m, d.record = .ok v ∧ ofValue now v = .ok ⟨d.result, m⟩ ∧
        (m = d.date ↔ d.date.OffsetKept) ∧
        (¬ d.date.OffsetKept → m = { d.date with offset := some 0 })) ∧
    (∀ data w r, data.get "check_date" = .ok w → w.truthy = true → ofValue now data = .ok r →
      ∃ v, r.record = .ok v ∧ (∀ now', ofValue now' v = .ok r) ∧
        v.index "result" = .ok (.text r.result.outcome.text)) ∧
    ∀ o es es', SpelledAlike o es es' →
      ofValue now (.table es) = ofValue now (.table es') ∧
        ∀ r, ofValue now (.table es) = .ok r → r.result.outcome = o := by
  refine ⟨fun d given h => ⟨d.document, d.date.reread, record_eq given,
    ofValue_document given h now, ?_, Moment.reread_of_not_offsetKept⟩, ?_, ?_⟩
  · constructor
    · intro hsame
      exact Moment.instant_reread_eq_iff.1 (congrArg Moment.instant hsame)
    · exact Moment.reread_of_offsetKept
  · intro data w r hw filled h
    obtain ⟨-, -, -, -, -, -, ⟨w', hw', hdate⟩, given⟩ := ofValue_eq_ok_iff.1 h
    cases hw.symm.trans hw'
    obtain ⟨hvalid, hkept⟩ := isValid_of_readDate filled hdate
    refine ⟨r.document, record_eq given, fun now' => ?_, r.index_document⟩
    rw [ofValue_document given hvalid, Moment.reread_of_offsetKept hkept]
  · intro o es es' h
    obtain ⟨v, hv, spelling⟩ := h.left
    exact ⟨h.ofValue_eq now, fun r hr => outcome_of_spelling hv spelling hr⟩

/-- The entries of a document for a failed check in a leap night, with a value for the outcome. -/
def leapEntries (outcome : Value) : List (Value × Value) :=
  [(.text "rule_id", .int 1), (.text "rule_name", .text "banner"), (.text "device_id", .int 7),
   (.text "device_name", .text "edge"), (.text "result", outcome), (.text "comment", .null),
   (.text "check_date", .text Moment.leapNight.text)]

/-- A failed check in a leap night. -/
def leapResult : DatedResult :=
  ⟨⟨.int 1, .text "banner", .int 7, .text "edge", .nonConforming, .null, false⟩, Moment.leapNight⟩

/-- The outcome of a failed check, with blanks around it, in mixed letters and with a dash. -/
def mixedSpelling : Value :=
  .text (String.ofList ([' ', '\t'] ++ ("Non-CONforming".toList ++ ['\n'])))

/-- A failed check is read with its date from its document, also if the outcome is spelled in
another way, and what was read is read again from the form in which it is written. -/
theorem rewritten_of_leapResult :
    DatedResult.ofValue Moment.halfAhead (.table (leapEntries mixedSpelling)) = .ok leapResult ∧
      ∃ v, leapResult.record = .ok v ∧
        DatedResult.ofValue Moment.halfAhead v = .ok leapResult := by
  obtain ⟨hrecord, hread, hspelled⟩ := rewritten Moment.halfAhead
  obtain ⟨v, m, hv, hm, hkept, -⟩ := hrecord leapResult rfl Moment.isValid_leapNight
  have hentries : v = .table (leapEntries (.text "non_conforming")) := by
    rw [record_eq rfl] at hv
    exact (Except.ok.inj hv).symm
  have hleap : ofValue Moment.halfAhead (.table (leapEntries (.text "non_conforming"))) =
      .ok leapResult := by
    rw [← hentries, hm, hkept.2 Moment.offsetKept_leapNight]
  have halike : SpelledAlike .nonConforming (leapEntries mixedSpelling)
      (leapEntries (.text "non_conforming")) := by
    have hlookup : ∀ v, Value.lookup (.text "result") (leapEntries v) = some v := by
      intro v
      simp [leapEntries, Value.lookup]
    refine ⟨⟨mixedSpelling, hlookup _, ?_⟩, ⟨.text "non_conforming", hlookup _, ?_⟩, ?_⟩
    · exact .text (List.all_eq_true.1 (by decide)) (List.all_eq_true.1 (by decide)) (by decide)
    · exact Outcome.nonConforming.spelling_text
    · intro name hname
      simp [leapEntries, Value.lookup, hname.symm]
  have hmixed : ofValue Moment.halfAhead (.table (leapEntries mixedSpelling)) = .ok leapResult :=
    (hspelled _ _ _ halike).1.trans hleap
  have hdate : (Value.table (leapEntries mixedSpelling)).get "check_date" =
      .ok (.text Moment.leapNight.text) := by
    simp [leapEntries, Value.get, Value.lookup]
  obtain ⟨v, hv, hagain, -⟩ := hread _ _ _ hdate (truthy_text _) hmixed
  exact ⟨hmixed, v, hv, hagain _⟩

/-- Not every result is read from its document form with its date: half a second of offset is
lost. -/
theorem not_rewritten_of_halfAhead :
    ¬ ∀ (now : Moment) (d : DatedResult), d.result.spelled = false → d.date.IsValid →
      ∃ v, d.record = .ok v ∧ ofValue now v = .ok d := by
  intro hall
  have hvalid := Moment.isValid_halfAhead
  obtain ⟨v, hv, hread⟩ := hall Moment.halfAhead ⟨leapResult.result, Moment.halfAhead⟩ rfl hvalid
  cases (record_eq rfl).symm.trans hv
  have hlost := Except.ok.inj ((ofValue_document rfl hvalid Moment.halfAhead).symm.trans hread)
  have hdate : Moment.halfAhead.reread = Moment.halfAhead := congrArg DatedResult.date hlost
  revert hdate
  decide

end DatedResult

end ConfigAudit
