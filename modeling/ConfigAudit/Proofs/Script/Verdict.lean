/-
# What a script reports

Whatever the interpreter of a script does, the check of the rule comes to a result.  It reports a
verdict only if the interpreter has ended well, what it wrote can be read as a table that says so,
and the result in the table names the verdict.  Everything else is reported as an error.

* `Sandbox.Names`, `Sandbox.Delivers` : what a result names, and what an interpreter delivers;
* `Sandbox.interpret_eq_ok_iff` : the reports that are accepted;
* `script_verdict` : the result of a script rule.
-/
import ConfigAudit.Proofs.Outcome.Reading
import ConfigAudit.Proofs.Rule.Verdict
import ConfigAudit.Proofs.Script.Decoded
import ConfigAudit.Proofs.Script.Json
import ConfigAudit.Proofs.Script.Request

namespace ConfigAudit

/-! ## What is reported -/

namespace Sandbox

/-- The outcomes that a script may report. -/
def verdicts : List Outcome := [.notApplicable, .conforming, .nonConforming]

/-- The comment that a value stands for: its text, unless it is nothing. -/
def commentText : Value → Value
  | .null => .null
  | c => .text c.plain

/-- What a result names: an outcome, or an outcome with a comment. -/
inductive Names : Value → Outcome → Value → Prop where
  /-- It spells the name of the outcome. -/
  | bare {s : String} {o : Outcome} (spelled : Outcome.nameOf s = o.name) : Names (.text s) o .null
  /-- It is a table with such a text, and perhaps a comment. -/
  | detailed {es : List (Value × Value)} {s : String} {o : Outcome}
      (result : under "result" es = some (.text s)) (spelled : Outcome.nameOf s = o.name) :
      Names (.table es) o (commentText ((under "comment" es).getD .null))

/-- What an answer announces. -/
structure Announces (answer : List (Value × Value)) (o : Outcome) (comment : Value) : Prop where
  /-- The answer says that all is well. -/
  well : ∃ v, under "ok" answer = some v ∧ v.truthy = true
  /-- If there are messages, one can go through them. -/
  messages : ∀ v, under "messages" answer = some v → ∃ xs, v.members = .ok xs
  /-- The result names the outcome. -/
  result : ∃ v, under "result" answer = some v ∧ Names v o comment

/-- What an interpreter delivers: it has ended well, and its output is an answer. -/
def Delivers (e : Ending) (o : Outcome) (comment : Value) : Prop :=
  ∃ output complaint answer, e = .exited 0 output complaint ∧
    Json.parse output = .ok (.table answer) ∧ Announces answer o comment

variable {s : Sandbox} {v : Value} {o : Outcome} {comment : Value}

/-- An interpreter has an answer if it has ended well and its output can be read as a table. -/
theorem answerOf_eq_ok_iff {e : Ending} {answer : List (Value × Value)} :
    s.answerOf e = .ok answer ↔
      ∃ output complaint, e = .exited 0 output complaint ∧
        Json.parse output = .ok (.table answer) := by
  cases e with
  | timeout => simp [answerOf]
  | unavailable number cause path =>
      cases hspell : s.executable.spell <;> simp [answerOf, hspell]
  | garbled fault | broken fault => simp [answerOf]
  | exited status output complaint =>
      by_cases hstatus : status = 0
      · subst hstatus
        simp only [answerOf, ne_eq, not_true_eq_false, ↓reduceIte, Ending.exited.injEq, true_and]
        split
        · rename_i es hparse
          simp [hparse]
        · rename_i digits hparse
          simp [hparse]
        · rename_i hother _
          simp only [reduceCtorEq, false_iff]
          rintro ⟨_, _, ⟨rfl, rfl⟩, hparse⟩
          exact hother answer hparse
      · simp [answerOf, hstatus]

/-- The steps of a check. -/
theorem check_eq_ok_iff {run : Interpreter} {script device result : Value} {messages : List String} :
    s.check run script device = .ok (result, messages) ↔
      ∃ i answer xs, s.checkCall script device = .ok i ∧ s.answerOf (run i) = .ok answer ∧
        ((under "messages" answer).getD (.list [])).members = .ok xs ∧
        ((under "ok" answer).getD .null).truthy = true ∧
        result = (under "result" answer).getD .null ∧ messages = xs.map Value.plain := by
  unfold check
  constructor
  · intro h
    obtain ⟨i, hcall, h⟩ := bind_eq_ok_iff.1 h
    obtain ⟨answer, hanswer, h⟩ := bind_eq_ok_iff.1 h
    obtain ⟨xs, hmessages, h⟩ := bind_eq_ok_iff.1 h
    simp only at h
    split at h
    · cases h
    · rename_i hwell
      cases h
      exact ⟨i, answer, xs, lift_eq_ok_iff.1 hcall, hanswer, lift_eq_ok_iff.1 hmessages,
        by simpa using hwell, rfl, rfl⟩
  · rintro ⟨i, answer, xs, hcall, hanswer, hmessages, hwell, rfl, rfl⟩
    refine bind_eq_ok_iff.2 ⟨i, lift_eq_ok_iff.2 hcall, bind_eq_ok_iff.2 ⟨answer, hanswer,
      bind_eq_ok_iff.2 ⟨xs, lift_eq_ok_iff.2 hmessages, ?_⟩⟩⟩
    simp only [hwell]
    rfl

/-- Scripts may report verdicts. -/
theorem isVerdict_iff : o.isVerdict = true ↔ o ∈ verdicts := by
  cases o <;> decide

/-- A value that is read stands for an outcome of the script's own if it spells its name. -/
theorem reported_eq_ok_iff (decoded : Json.Decoded v) :
    reported v = .ok o ↔ (∃ t, v = .text t ∧ Outcome.nameOf t = o.name) ∧ o ∈ verdicts := by
  have hvalue : Outcome.ofValue v = .ok o ↔ ∃ t, v = .text t ∧ Outcome.nameOf t = o.name := by
    unfold Outcome.ofValue
    cases decoded with
    | text t =>
        simp only [Value.text.injEq, exists_eq_left', ← Outcome.ofText?_eq_some_iff]
        cases Outcome.ofText? t <;> simp
    | _ => simp
  rw [← hvalue, ← isVerdict_iff]
  unfold reported
  cases Outcome.ofValue v with
  | error f => simp
  | ok o' =>
      simp only [Except.ok.injEq]
      split
      · rename_i hown
        constructor
        · intro h
          cases h
          exact ⟨rfl, hown⟩
        · rintro ⟨rfl, _⟩
          rfl
      · rename_i hown
        refine iff_of_false nofun ?_
        rintro ⟨rfl, hverdict⟩
        exact hown hverdict

/-- A table is interpreted by what is in it. -/
theorem interpret_table (es : List (Value × Value)) :
    interpret (.table es) = do
      let o ← reported ((under "result" es).getD .null)
      return .pair (.outcome o) (commentText ((under "comment" es).getD .null)) := by
  unfold interpret commentText
  rfl

/-- Nothing else has a comment. -/
theorem interpret_of_ne (other : ∀ es, v ≠ .table es) :
    interpret v = do
      let o ← reported v
      return .pair (.outcome o) .null := by
  cases v with
  | table es => exact absurd rfl (other es)
  | _ => rfl

/-- **What is accepted.**  A value that is read is accepted as a verdict if it names an outcome of
the script's own. -/
theorem interpret_eq_ok_iff (decoded : Json.Decoded v) {w : Value} :
    interpret v = .ok w ↔
      ∃ o comment, w = .pair (.outcome o) comment ∧ Names v o comment ∧ o ∈ verdicts := by
  by_cases htable : ∃ es, v = .table es
  · obtain ⟨es, rfl⟩ := htable
    have hresult : Json.Decoded ((under "result" es).getD .null) := by
      cases hfound : under "result" es with
      | none => exact .null
      | some x => exact decoded.lookup hfound
    rw [interpret_table, bind_eq_ok_iff]
    simp only [reported_eq_ok_iff hresult]
    constructor
    · rintro ⟨o, ⟨⟨t, ht, hspelled⟩, hown⟩, hw⟩
      cases hw
      refine ⟨o, _, rfl, .detailed ?_ hspelled, hown⟩
      cases hfound : under "result" es with
      | none =>
          rw [hfound] at ht
          cases ht
      | some x =>
          rw [hfound] at ht
          exact congrArg some ht
    · rintro ⟨o, comment, rfl, hnames, hown⟩
      cases hnames with
      | detailed result spelled => exact ⟨o, ⟨⟨_, by rw [result]; rfl, spelled⟩, hown⟩, rfl⟩
  · have hother : ∀ es, v ≠ .table es := fun es h => htable ⟨es, h⟩
    rw [interpret_of_ne hother, bind_eq_ok_iff]
    simp only [reported_eq_ok_iff decoded]
    constructor
    · rintro ⟨o, ⟨⟨t, rfl, hspelled⟩, hown⟩, hw⟩
      cases hw
      exact ⟨o, _, rfl, .bare hspelled, hown⟩
    · rintro ⟨o, comment, rfl, hnames, hown⟩
      cases hnames with
      | bare spelled => exact ⟨o, ⟨⟨_, rfl, spelled⟩, hown⟩, rfl⟩
      | detailed => exact absurd rfl (hother _)

end Sandbox

/-! ## Script rules -/

open Sandbox

section ScriptRules

variable {g : Setting} {l : Language} {script : Value} {d : Device} {r : Rule} {s : Subject}

/-- The note of a message, if the rule and the device can be named. -/
def namedMessage (name : Value) (d : Device) (message : String) : Note :=
  .debug ("Rule '" ++ name.plain ++ "' on " ++ d.name.plain ++ ": " ++ message)

/-- If the rule and the device can be named, all messages become notes. -/
theorem mapM_scriptNote {name : Value} (named : areNamed name d = true) (messages : List String) :
    messages.mapM (scriptNote name d) = .ok (messages.map (namedMessage name d)) := by
  induction messages with
  | nil => rfl
  | cons m ms ih =>
      rw [List.mapM_cons, scriptNote, namingNote_of_areNamed named, ih]
      rfl

/-- The logic of a script rule hands back what is accepted of the script's result. -/
theorem evaluateScript_eq_ok_iff {name v : Value} (named : areNamed name d = true) :
    (evaluateScript g l script name d).2 = .ok v ↔
      ∃ p result messages, d.payload = .ok p ∧
        (g.sandbox l).check g.interpreter script p = .ok (result, messages) ∧
        Sandbox.interpret result = .ok v := by
  unfold evaluateScript
  split
  · rename_i f hf
    refine iff_of_false nofun ?_
    rintro ⟨p, result, messages, hp, hcheck, _⟩
    have hok := bind_eq_ok_iff.2 ⟨p, lift_eq_ok_iff.2 hp, hcheck⟩
    cases hf.symm.trans hok
  · rename_i result messages hrun
    obtain ⟨p, hp, hcheck⟩ := bind_eq_ok_iff.1 hrun
    rw [mapM_scriptNote named]
    constructor
    · intro h
      exact ⟨p, result, messages, lift_eq_ok_iff.1 hp, hcheck, h⟩
    · rintro ⟨p', result', messages', hp', hcheck', h⟩
      cases (lift_eq_ok_iff.1 hp).symm.trans hp'
      cases hcheck.symm.trans hcheck'
      exact h

/-- An answer that announces something has it as its result. -/
theorem announces_iff {answer : List (Value × Value)} {o : Outcome} {comment : Value} :
    Announces answer o comment ↔
      (∃ xs, ((under "messages" answer).getD (.list [])).members = .ok xs) ∧
        ((under "ok" answer).getD .null).truthy = true ∧
        Names ((under "result" answer).getD .null) o comment := by
  constructor
  · rintro ⟨⟨v, hv, hwell⟩, hmessages, ⟨result, hresult, hnames⟩⟩
    refine ⟨?_, by simpa [hv] using hwell, by simpa [hresult] using hnames⟩
    cases hm : under "messages" answer with
    | none => exact ⟨[], rfl⟩
    | some m => exact hmessages m hm
  · rintro ⟨hmessages, hwell, hnames⟩
    refine ⟨?_, ?_, ?_⟩
    · cases hv : under "ok" answer with
      | none =>
          rw [hv] at hwell
          cases hwell
      | some v =>
          rw [hv] at hwell
          exact ⟨v, rfl, hwell⟩
    · intro m hm
      simpa [hm] using hmessages
    · cases hresult : under "result" answer with
      | none =>
          rw [hresult] at hnames
          cases hnames
      | some result =>
          rw [hresult] at hnames
          exact ⟨result, rfl, hnames⟩

/-- What is accepted of a check is what the interpreter delivers. -/
theorem accepted_iff {sandbox : Sandbox} {run : Interpreter} {p v : Value} :
    (∃ result messages, sandbox.check run script p = .ok (result, messages) ∧
      Sandbox.interpret result = .ok v) ↔
      ∃ o comment, v = .pair (.outcome o) comment ∧ o ∈ verdicts ∧
        ∃ i, sandbox.checkCall script p = .ok i ∧ Delivers (run i) o comment := by
  -- the result is part of what has been read, so it is no outcome but at most spells one
  have hdecoded : ∀ {output answer}, Json.parse output = .ok (.table answer) →
      Json.Decoded ((under "result" answer).getD .null) := by
    intro output answer hparse
    cases hresult : under "result" answer with
    | none => exact .null
    | some result => exact (Json.decoded_of_parse hparse).lookup hresult
  constructor
  · rintro ⟨result, messages, hcheck, haccepted⟩
    obtain ⟨i, answer, xs, hcall, hanswer, hmessages, hwell, rfl, _⟩ :=
      Sandbox.check_eq_ok_iff.1 hcheck
    obtain ⟨output, complaint, hending, hparse⟩ := Sandbox.answerOf_eq_ok_iff.1 hanswer
    obtain ⟨o, comment, rfl, hnames, hown⟩ :=
      (Sandbox.interpret_eq_ok_iff (hdecoded hparse)).1 haccepted
    exact ⟨o, comment, rfl, hown, i, hcall, output, complaint, answer, hending, hparse,
      announces_iff.2 ⟨⟨xs, hmessages⟩, hwell, hnames⟩⟩
  · rintro ⟨o, comment, rfl, hown, i, hcall, output, complaint, answer, hending, hparse, hannounces⟩
    obtain ⟨⟨xs, hmessages⟩, hwell, hnames⟩ := announces_iff.1 hannounces
    have hanswer : sandbox.answerOf (run i) = .ok answer :=
      Sandbox.answerOf_eq_ok_iff.2 ⟨output, complaint, hending, hparse⟩
    exact ⟨_, _, Sandbox.check_eq_ok_iff.2 ⟨i, answer, xs, hcall, hanswer, hmessages, hwell, rfl, rfl⟩,
      (Sandbox.interpret_eq_ok_iff (hdecoded hparse)).2 ⟨o, comment, rfl, hnames, hown⟩⟩

/-- Whatever the logic of a script rule hands back, an interpreter has been called for it. -/
theorem exists_checkCall_of_evaluateScript {name v : Value}
    (h : (evaluateScript g l script name d).2 = .ok v) :
    ∃ p i, d.payload = .ok p ∧ (g.sandbox l).checkCall script p = .ok i := by
  unfold evaluateScript at h
  split at h
  · cases h
  · rename_i result messages hrun
    obtain ⟨p, hp, hcheck⟩ := bind_eq_ok_iff.1 hrun
    obtain ⟨i, _, _, hcall, _⟩ := Sandbox.check_eq_ok_iff.1 hcheck
    exact ⟨p, i, lift_eq_ok_iff.1 hp, hcall⟩

/-- The logic of a script rule spells nothing. -/
theorem not_spells_of_script (body : r.body = .script l script) (named : areNamed r.name d = true)
    {o : Outcome} {comment : Value} : ¬ (r.logic g).Spells d o comment := by
  rintro ⟨_, _, answered, parts, _⟩
  rw [Rule.evaluate_of_script body] at answered
  obtain ⟨p, result, messages, _, hcheck, haccepted⟩ := (evaluateScript_eq_ok_iff named).1 answered
  obtain ⟨o', comment', rfl, _⟩ := accepted_iff.1 ⟨result, messages, hcheck, haccepted⟩
  cases parts

/-- What the logic of a script rule says is what the interpreter delivers. -/
theorem says_iff_of_script (body : r.body = .script l script) (named : areNamed r.name d = true)
    {o : Outcome} {comment : Value} :
    (r.logic g).Says d o comment ↔
      o ∈ verdicts ∧ ∃ p i, d.payload = .ok p ∧ (g.sandbox l).checkCall script p = .ok i ∧
        Delivers (g.interpreter i) o comment := by
  have hevaluate : (r.logic g).evaluate d = evaluateScript g l script r.name d :=
    Rule.evaluate_of_script body
  have hconcerns : (r.logic g).concerns d = .ok (.flag true) := Rule.concerns_of_script body
  constructor
  · intro h
    cases h with
    | aside asked apart =>
        cases hconcerns.symm.trans asked
        cases apart
    | verdict asked concerned answered parts own =>
        rw [hevaluate] at answered
        obtain ⟨p, result, messages, hp, hcheck, haccepted⟩ :=
          (evaluateScript_eq_ok_iff named).1 answered
        obtain ⟨o', comment', rfl, hown, i, hcall, hdelivers⟩ :=
          accepted_iff.1 ⟨result, messages, hcheck, haccepted⟩
        cases parts
        exact ⟨hown, p, i, hp, hcall, hdelivers⟩
  · rintro ⟨hown, p, i, hp, hcall, hdelivers⟩
    obtain ⟨result, messages, hcheck, haccepted⟩ :=
      accepted_iff.2 ⟨o, comment, rfl, hown, i, hcall, hdelivers⟩
    have hanswered : ((r.logic g).evaluate d).2 = .ok (.pair (.outcome o) comment) := by
      rw [hevaluate]
      exact (evaluateScript_eq_ok_iff named).2 ⟨p, result, messages, hp, hcheck, haccepted⟩
    exact .verdict hconcerns rfl hanswered rfl hown

/-- A script rule that is due makes one call, if the call can be made. -/
theorem calls_eq_singleton_iff (body : r.body = .script l script) (on : r.enabled.truthy = true)
    (due : s.isExempted r.id g.now = .ok false) {i : Invocation} :
    r.calls g s = [i] ↔
      ∃ p, s.device.payload = .ok p ∧ (g.sandbox l).checkCall script p = .ok i := by
  have hreaches : r.reachesLogic g s = true := by
    simp only [Rule.reachesLogic, on, due, Bool.not_false, Bool.and_self]
  simp only [Rule.calls, body, hreaches, ↓reduceIte]
  rw [← bind_eq_ok_iff]
  split
  · rename_i i' hi
    rw [hi]
    simp
  · rename_i f hf
    rw [hf]
    simp

/-- A script rule that is due reports what the interpreter delivers, or an error. -/
theorem check_of_script (g : Setting) (s : Subject) (body : r.body = .script l script)
    (on : r.enabled.truthy = true) (due : s.isExempted r.id g.now = .ok false)
    (named : areNamed r.name s.device = true) :
    ∃ notes result, r.check g s = (notes, .ok result) ∧
      (∀ o ∈ verdicts, ∀ comment, result.outcome = o ∧ result.comment = comment ↔
        ∃ i, r.calls g s = [i] ∧ Delivers (g.interpreter i) o comment) ∧
      (result.outcome ∈ verdicts ∨ result.outcome = .error) := by
  have hsane := Rule.sane_of_script body
  have hdelivers : ∀ o ∈ verdicts, ∀ comment, (r.logic g).Says s.device o comment ↔
      ∃ i, r.calls g s = [i] ∧ Delivers (g.interpreter i) o comment := by
    intro o ho comment
    rw [says_iff_of_script body named]
    simp only [calls_eq_singleton_iff body on due]
    constructor
    · rintro ⟨_, p, i, hp, hcall, h⟩
      exact ⟨i, ⟨p, hp, hcall⟩, h⟩
    · rintro ⟨i, ⟨p, hp, hcall⟩, h⟩
      exact ⟨ho, p, i, hp, hcall, h⟩
  -- logic that fails says nothing, and an error is no verdict
  cases hjudge : ((r.logic g).judge s.device).2 with
  | ok verdict =>
      obtain ⟨w, comment⟩ := verdict
      have hsays : (r.logic g).Says s.device w.outcome comment := by
        rcases Logic.judge_snd_eq_ok_iff.1 hjudge with ⟨_, hsays⟩ | ⟨_, hspells⟩
        · exact hsays
        · exact absurd hspells (not_spells_of_script body named)
      obtain ⟨notes, hcheck⟩ := Rule.check_of_says hsane on due hsays
      refine ⟨notes, _, hcheck, ?_, Or.inl ((says_iff_of_script body named).1 hsays).1⟩
      intro o' ho' comment'
      rw [← hdelivers o' ho' comment']
      constructor
      · rintro ⟨rfl, rfl⟩
        exact hsays
      · intro hsays'
        cases hjudge.symm.trans hsays'.judge
        exact ⟨rfl, rfl⟩
  | error f =>
      obtain ⟨notes, hcheck⟩ := Rule.check_of_error hsane on due named hjudge
      refine ⟨notes, _, hcheck, ?_, Or.inr rfl⟩
      intro o ho comment
      rw [← hdelivers o ho comment]
      have hno : Outcome.error ∉ verdicts := by decide
      refine iff_of_false ?_ ?_
      · rintro ⟨rfl, _⟩
        exact hno ho
      · intro hsays
        cases hjudge.symm.trans hsays.judge

/-- What delivers a verdict has been started. -/
theorem isStarted_of_delivers {e : Ending} {o : Outcome} {comment : Value}
    (h : Delivers e o comment) : e.isStarted = true := by
  obtain ⟨_, _, _, rfl, _⟩ := h
  rfl

/-- A call that can be waited for ends as its process does. -/
theorem awaited_of_isAwaitable {run : Interpreter} {spent : Float} {i : Invocation}
    (short : isAwaitable i.timeout spent = true) : run.awaited spent i = run i := by
  rw [Interpreter.awaited, short, Bool.not_true, Bool.and_false, if_neg Bool.false_ne_true]

/-- An interpreter that is waited for delivers what it delivers by itself, unless the wait would be
too long. -/
theorem delivers_awaited_iff {run : Interpreter} {spent : Float} {i : Invocation} {o : Outcome}
    {comment : Value} : Delivers (run.awaited spent i) o comment ↔
      isAwaitable i.timeout spent = true ∧ Delivers (run i) o comment := by
  constructor
  · intro h
    unfold Interpreter.awaited at h
    split at h
    · cases isStarted_of_delivers h
    · rename_i hkept
      refine ⟨?_, h⟩
      simpa [isStarted_of_delivers h] using hkept
  · rintro ⟨hshort, h⟩
    rwa [awaited_of_isAwaitable hshort]

/-- If the interpreter is waited for, the rule reports what it delivers by itself, unless the wait
would be too long. -/
theorem check_of_awaited (g : Setting) (s : Subject) {run : Interpreter} {spent : Float}
    (waited : g.interpreter = run.awaited spent) (body : r.body = .script l script)
    (on : r.enabled.truthy = true) (due : s.isExempted r.id g.now = .ok false)
    (named : areNamed r.name s.device = true) :
    ∃ notes result, r.check g s = (notes, .ok result) ∧
      (∀ o ∈ verdicts, ∀ comment, result.outcome = o ∧ result.comment = comment ↔
        isAwaitable (g.sandbox l).timeout spent = true ∧
          ∃ i, r.calls g s = [i] ∧ Delivers (run i) o comment) ∧
      (result.outcome ∈ verdicts ∨ result.outcome = .error) := by
  obtain ⟨notes, result, hcheck, hdelivers, hclosed⟩ := check_of_script g s body on due named
  refine ⟨notes, result, hcheck, ?_, hclosed⟩
  -- the call says how long it may take as the sandbox does
  have htimeout : ∀ i, r.calls g s = [i] → i.timeout = (g.sandbox l).timeout := by
    intro i hi
    obtain ⟨p, _, hcall⟩ := (calls_eq_singleton_iff body on due).1 hi
    obtain ⟨_, _, hcall⟩ := bind_eq_ok_iff.1 hcall
    obtain ⟨_, _, hcall⟩ := bind_eq_ok_iff.1 hcall
    cases hcall
    rfl
  intro o ho comment
  rw [hdelivers o ho comment, waited]
  simp only [delivers_awaited_iff]
  constructor
  · rintro ⟨i, hi, hshort, h⟩
    exact ⟨htimeout i hi ▸ hshort, i, hi, h⟩
  · rintro ⟨hshort, i, hi, h⟩
    exact ⟨i, hi, (htimeout i hi).symm ▸ hshort, h⟩

end ScriptRules

/-- **What a script reports.**  The check of a script rule that is switched on, on a device that is
not exempted, comes to a result, whatever its interpreter does, if the rule and the device can be
named.  The result is a verdict with a comment exactly if an interpreter has been called and waited
for and delivers them, and otherwise an error.  An interpreter is called exactly if the script and
the document of the device can be written, and the time limit is a finite number of milliseconds; it
is waited for unless more of them are left than that can be done for. -/
theorem script_verdict (g : Setting) (r : Rule) (s : Subject) (l : Language) (script : Value)
    (run : Interpreter) (spent : Float) (waited : g.interpreter = run.awaited spent)
    (body : r.body = .script l script) (on : r.enabled.truthy = true)
    (due : s.isExempted r.id g.now = .ok false) (named : areNamed r.name s.device = true) :
    ∃ notes result, r.check g s = (notes, .ok result) ∧
      (∀ o ∈ [Outcome.notApplicable, .conforming, .nonConforming], ∀ comment,
        result.outcome = o ∧ result.comment = comment ↔
          isAwaitable (g.sandbox l).timeout spent = true ∧
            ∃ i, r.calls g s = [i] ∧ Delivers (run i) o comment) ∧
      (result.outcome ∈ [Outcome.notApplicable, .conforming, .nonConforming] ∨
        result.outcome = .error) ∧
      ((∃ i, r.calls g s = [i]) ↔ ∃ p, s.device.payload = .ok p ∧ Json.Writable script ∧
        Json.Writable p ∧ Value.IsFinite ((g.sandbox l).timeout * 1000)) := by
  obtain ⟨notes, result, hcheck, hdelivers, hclosed⟩ :=
    check_of_awaited g s waited body on due named
  refine ⟨notes, result, hcheck, hdelivers, hclosed, ?_⟩
  simp only [calls_eq_singleton_iff body on due]
  constructor
  · rintro ⟨i, p, hp, hcall⟩
    obtain ⟨hfinite, hscript, hdevice⟩ := (Sandbox.exists_checkCall_iff _ _ _).1 ⟨i, hcall⟩
    exact ⟨p, hp, hscript, hdevice, hfinite⟩
  · rintro ⟨p, hp, hscript, hdevice, hfinite⟩
    obtain ⟨i, hcall⟩ := (Sandbox.exists_checkCall_iff _ _ _).2 ⟨hfinite, hscript, hdevice⟩
    exact ⟨i, p, hp, hcall⟩

/-! ### Some scripts -/

/-- A rule with a script. -/
def scriptedCheck : Rule :=
  ⟨.int 1, .text "line", .flag true, .script .python (.text "def check(device): return CONFORMING")⟩

/-- A device without configuration data. -/
def bareDevice : Subject := ⟨⟨7, .text "edge", .text "", .text "", [], []⟩, some .empty⟩

/-- An interpreter that always ends well and writes the same. -/
def writing (output : String) : Interpreter := fun _ => .exited 0 output ""

/-- A limit in seconds, and an interpreter that is waited for from the start and always writes the
same. -/
def answering (timeout : Float) (output : String) : Setting :=
  ⟨.ofDate Moment.epoch, fun l => ⟨l, .text "interpreter", timeout⟩, (writing output).awaited 0⟩

/-- What is announced in a written answer is delivered. -/
theorem delivers_of_writes {fields : List (String × Value)} {output : String} {o : Outcome}
    {comment : Value} (plain : Json.Plain (.record fields))
    (writes : Json.write (.record fields) = .ok output)
    (announces : Announces (fields.map fun f => (.text f.1, f.2)) o comment) :
    Delivers (.exited 0 output "") o comment := by
  obtain ⟨w, hw, hparse⟩ := Json.parse_of_plain plain
  cases writes.symm.trans hw
  exact ⟨output, "", _, rfl, hparse, announces⟩

/-- The document of the device can be written. -/
theorem writable_bareDevice : ∃ p, bareDevice.device.payload = .ok p ∧ Json.Writable p := by
  refine ⟨_, rfl, (Json.writable_record_iff _).2 ?_⟩
  simp only [List.forall_mem_cons]
  exact ⟨⟨_, rfl⟩, Json.writable_text _, Json.writable_text _, Json.writable_text _,
    Json.writable_texts [], ⟨_, rfl⟩, List.forall_mem_nil _⟩

/-- The result of a script that has something to say. -/
def detailedResult : List (String × Value) :=
  [("result", .text " non-conforming "), ("comment", .text "no banner")]

/-- The answer of this script. -/
def detailedAnswer : List (String × Value) :=
  [("ok", .flag true), ("result", .record detailedResult)]

/-- The answer of a script that complies. -/
def plainAnswer : List (String × Value) := [("ok", .flag true), ("result", .text "CONFORMING")]

/-- Its verdict is delivered. -/
theorem delivers_plainAnswer :
    ∃ output, Json.write (.record plainAnswer) = .ok output ∧
      Delivers (.exited 0 output "") .conforming .null := by
  have hplain : Json.Plain (.record plainAnswer) := by
    refine .record (by decide) ?_
    simp only [plainAnswer, List.forall_mem_cons]
    exact ⟨.flag true, .text _, nofun⟩
  obtain ⟨output, hwrites, _⟩ := Json.parse_of_plain hplain
  have hannounces : Announces (plainAnswer.map fun f => (.text f.1, f.2)) .conforming .null := by
    have hspelled : Outcome.nameOf "CONFORMING" = Outcome.conforming.name := by decide +kernel
    refine ⟨⟨.flag true, by simp [plainAnswer, under, Value.lookup], rfl⟩, ?_,
      ⟨.text "CONFORMING", by simp [plainAnswer, under, Value.lookup], .bare hspelled⟩⟩
    simp [plainAnswer, under, Value.lookup]
  exact ⟨output, hwrites, delivers_of_writes hplain hwrites hannounces⟩

/-- A verdict may be spelled in small letters, with a dash and with blanks around it. -/
theorem reported_of_detailedAnswer :
    ∃ output notes result, Json.write (.record detailedAnswer) = .ok output ∧
      scriptedCheck.check (answering 30 output) bareDevice = (notes, .ok result) ∧
      result.outcome = .nonConforming ∧ result.comment = .text "no banner" := by
  have hplain : Json.Plain (.record detailedAnswer) := by
    refine .record (by decide) ?_
    simp only [detailedAnswer, List.forall_mem_cons]
    refine ⟨.flag true, .record (by decide) ?_, nofun⟩
    simp only [detailedResult, List.forall_mem_cons]
    exact ⟨.text _, .text _, nofun⟩
  obtain ⟨output, hwrites, _⟩ := Json.parse_of_plain hplain
  have hnames : Names (.record detailedResult) .nonConforming (.text "no banner") := by
    have hspelled : Outcome.nameOf " non-conforming " = Outcome.nonConforming.name := by
      decide +kernel
    have hresult : under "result" (detailedResult.map fun f => (.text f.1, f.2)) =
        some (.text " non-conforming ") := by simp [detailedResult, under, Value.lookup]
    have hcomment : under "comment" (detailedResult.map fun f => (.text f.1, f.2)) =
        some (.text "no banner") := by simp [detailedResult, under, Value.lookup]
    have hnamed := Names.detailed hresult hspelled
    rwa [hcomment] at hnamed
  have hannounces : Announces (detailedAnswer.map fun f => (.text f.1, f.2)) .nonConforming
      (.text "no banner") := by
    refine ⟨⟨.flag true, by simp [detailedAnswer, under, Value.lookup], rfl⟩, ?_,
      ⟨.record detailedResult, by simp [detailedAnswer, under, Value.lookup], hnames⟩⟩
    simp [detailedAnswer, under, Value.lookup]
  obtain ⟨notes, result, hcheck, hdelivers, _, hcalls⟩ :=
    script_verdict (answering 30 output) scriptedCheck bareDevice _ _ (writing output) 0 rfl rfl rfl
      rfl rfl
  obtain ⟨p, hp, hwritable⟩ := writable_bareDevice
  have hfinite : Value.IsFinite (30 * 1000) := ⟨_, _, _, rfl⟩
  obtain ⟨i, hi⟩ := hcalls.2 ⟨p, hp, Json.writable_text _, hwritable, hfinite⟩
  have hmem : Outcome.nonConforming ∈ [Outcome.notApplicable, .conforming, .nonConforming] := by
    decide
  have hshort : isAwaitable 30 0 = true := by decide +kernel
  obtain ⟨houtcome, hcomment⟩ := (hdelivers _ hmem (.text "no banner")).2
    ⟨hshort, i, hi, delivers_of_writes hplain hwrites hannounces⟩
  exact ⟨output, notes, result, hwrites, hcheck, houtcome, hcomment⟩

/-- An interpreter that would have to be waited for too long is not heard, so that nothing is reported
of what it delivers, although the limit is finite. -/
theorem not_reported_as_delivered :
    ¬ ∀ (g : Setting) (r : Rule) (s : Subject) (l : Language) (script p : Value) (e : Ending)
      (spent : Float), r.body = .script l script → r.enabled.truthy = true →
      s.isExempted r.id g.now = .ok false → areNamed r.name s.device = true →
      Value.IsFinite (g.sandbox l).timeout → Json.Writable script → s.device.payload = .ok p →
      Json.Writable p → g.interpreter = Interpreter.awaited (fun _ => e) spent →
        ∃ notes result, r.check g s = (notes, .ok result) ∧ ∀ o ∈ verdicts, ∀ comment,
          result.outcome = o ∧ result.comment = comment ↔ Delivers e o comment := by
  intro claim
  obtain ⟨output, _, hdelivered⟩ := delivers_plainAnswer
  -- the number of seconds is 2 ^ 1023
  have hfinite : Value.IsFinite (Float.ofBits 0x7fe0000000000000) := ⟨_, _, _, rfl⟩
  obtain ⟨p, hp, hwritable⟩ := writable_bareDevice
  obtain ⟨notes, result, hcheck, hclaimed⟩ :=
    claim (answering (Float.ofBits 0x7fe0000000000000) output) scriptedCheck bareDevice .python
      _ p _ _ rfl rfl rfl rfl hfinite (Json.writable_text _) hp hwritable rfl
  obtain ⟨notes', result', hcheck', hdelivers, _⟩ :=
    check_of_awaited (answering (Float.ofBits 0x7fe0000000000000) output) bareDevice
      (rfl : _ = (writing output).awaited 0) (rfl : scriptedCheck.body = .script .python _) rfl rfl rfl
  cases hcheck.symm.trans hcheck'
  have hmem : Outcome.conforming ∈ verdicts := by decide
  obtain ⟨hshort, _⟩ := (hdelivers _ hmem _).1 ((hclaimed _ hmem _).2 hdelivered)
  have hlong : isAwaitable (Float.ofBits 0x7fe0000000000000) 0 = false := by decide +kernel
  exact Bool.false_ne_true (hlong.symm.trans hshort)

end ConfigAudit
