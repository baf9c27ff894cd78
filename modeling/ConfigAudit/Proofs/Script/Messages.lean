/-
# What a script leaves in the journal

A script may leave messages for the authors of its rule, and its answer carries them whether the
script has come to its end or not.  They become notes of the check only if the answer says that all
is well: a failure that the script reports takes the place of its messages.

* `messageNote`, `Journal.Keeps` : the notes that messages should become;
* `ScriptAnswer` : a script rule is due, and its interpreter answers with messages;
* `messages_kept_iff` : when the messages are kept.
-/
import ConfigAudit.Proofs.Script.Verdict

namespace ConfigAudit

open Sandbox

/-- The note on a message of a script. -/
def messageNote (r : Rule) (d : Device) (message : Value) : Note :=
  .debug ("Rule '" ++ r.name.plain ++ "' on " ++ d.name.plain ++ ": " ++ message.plain)

/-- A journal keeps the messages of a script: it has one note for each of them, in their order, and
behind these notes only errors. -/
def Journal.Keeps (notes : Journal) (r : Rule) (d : Device) (messages : List Value) : Prop :=
  ∃ errors, notes = messages.map (messageNote r d) ++ errors ∧
    ∀ note ∈ errors, ∃ message, note = .error message

/-- A script rule is due on a device, and the interpreter that is called ends well and writes an
answer with messages. -/
structure ScriptAnswer (g : Setting) (r : Rule) (s : Subject) (l : Language) (script : Value)
    (answer : List (Value × Value)) (messages : List Value) : Prop where
  /-- The rule is a script rule. -/
  body : r.body = .script l script
  /-- It is switched on. -/
  on : r.enabled.truthy = true
  /-- The device is not exempted. -/
  due : s.isExempted r.id g.now = .ok false
  /-- The rule and the device can be named. -/
  named : areNamed r.name s.device = true
  /-- The interpreter is called, and answers. -/
  answered : ∃ i output complaint, r.calls g s = [i] ∧
    g.interpreter i = .exited 0 output complaint ∧ Json.parse output = .ok (.table answer)
  /-- There are messages. -/
  messages : under "messages" answer = some (.list messages)

/-- An answer says that all is well. -/
def SaysWell (answer : List (Value × Value)) : Prop :=
  ((under "ok" answer).getD .null).truthy = true

namespace ScriptAnswer

variable {g : Setting} {r : Rule} {s : Subject} {l : Language} {script : Value}
  {answer : List (Value × Value)} {messages : List Value}

/-- The failure that an answer reports. -/
def failure (g : Setting) (l : Language) (answer : List (Value × Value)) : Fault :=
  .script (.reported (g.sandbox l).language.name
    ((under "error" answer).getD (.text "unknown error")).plain)

/-- The interpreter is called with the document of the device, and leaves the answer. -/
theorem exists_call (h : ScriptAnswer g r s l script answer messages) :
    ∃ p i, s.device.payload = .ok p ∧ (g.sandbox l).checkCall script p = .ok i ∧
      (g.sandbox l).answerOf (g.interpreter i) = .ok answer := by
  obtain ⟨i, output, complaint, hcalls, hending, hparse⟩ := h.answered
  obtain ⟨p, hp, hcall⟩ := (calls_eq_singleton_iff h.body h.on h.due).1 hcalls
  exact ⟨p, i, hp, hcall, Sandbox.answerOf_eq_ok_iff.2 ⟨output, complaint, hending, hparse⟩⟩

/-- The logic of the rule is the check of its script on the document of the device. -/
theorem evaluate_eq (h : ScriptAnswer g r s l script answer messages) {p : Value}
    (payload : s.device.payload = .ok p) :
    (r.logic g).evaluate s.device =
      match (g.sandbox l).check g.interpreter script p with
      | .error f => ([], .error f)
      | .ok (result, texts) =>
        (texts.map (namedMessage r.name s.device), Sandbox.interpret result) := by
  have hcheck : (liftM (Except.ok p : Except ValueFault Value) >>= fun p =>
      (g.sandbox l).check g.interpreter script p) =
        (g.sandbox l).check g.interpreter script p := rfl
  rw [Rule.evaluate_of_script h.body, evaluateScript, payload, hcheck]
  cases (g.sandbox l).check g.interpreter script p with
  | error f => rfl
  | ok answer =>
      dsimp only
      rw [mapM_scriptNote h.named]

/-- If all is well, the logic of the rule leaves the messages as notes. -/
theorem evaluate_of_well (h : ScriptAnswer g r s l script answer messages)
    (well : SaysWell answer) :
    (r.logic g).evaluate s.device = (messages.map (messageNote r s.device),
      Sandbox.interpret ((under "result" answer).getD .null)) := by
  obtain ⟨p, i, hp, hcall, hanswer⟩ := h.exists_call
  have hcheck : (g.sandbox l).check g.interpreter script p =
      .ok ((under "result" answer).getD .null, messages.map Value.plain) := by
    refine Sandbox.check_eq_ok_iff.2 ⟨i, answer, messages, hcall, hanswer, ?_, well, rfl, rfl⟩
    rw [h.messages]
    rfl
  rw [h.evaluate_eq hp, hcheck]
  dsimp only
  rw [List.map_map]
  rfl

/-- If not, it fails, and leaves no note. -/
theorem evaluate_of_ill (h : ScriptAnswer g r s l script answer messages)
    (ill : ¬ SaysWell answer) :
    (r.logic g).evaluate s.device = ([], .error (failure g l answer)) := by
  obtain ⟨p, i, hp, hcall, hanswer⟩ := h.exists_call
  have hcheck : (g.sandbox l).check g.interpreter script p = .error (failure g l answer) := by
    refine bind_eq_error_iff.2 (Or.inr ⟨i, lift_eq_ok_iff.2 hcall, bind_eq_error_iff.2 (Or.inr
      ⟨answer, hanswer, bind_eq_error_iff.2 (Or.inr ⟨messages, lift_eq_ok_iff.2 ?_, ?_⟩)⟩)⟩)
    · rw [h.messages]
      rfl
    · rw [SaysWell, Bool.not_eq_true] at ill
      simp only [ill]
      rfl
  rw [h.evaluate_eq hp, hcheck]

/-- What the check leaves is what the logic leaves, with an error behind it if there is one. -/
theorem check_of_evaluate (h : ScriptAnswer g r s l script answer messages) {notes : Journal}
    {x : Except Fault Value} (answered : (r.logic g).evaluate s.device = (notes, x)) :
    ∃ errors result, r.check g s = (notes ++ errors, .ok result) ∧
      ((∃ v, x = .ok v) ∧ errors = [] ∧ result.outcome ≠ .error ∨
        ∃ f, errors = [namedFailure r.header s.device f] ∧ result.outcome = .error ∧
          ∀ f', x = .error f' → f = f') :=
  Rule.check_of_evaluate (Rule.sane_of_script h.body) h.on h.due h.named
    (Rule.concerns_of_script h.body) rfl answered

end ScriptAnswer

/-- A note on a failure alone keeps messages only if there are none. -/
theorem Journal.keeps_failure_iff {r : Rule} {d : Device} {f : Fault} {messages : List Value} :
    Journal.Keeps [namedFailure r.header d f] r d messages ↔ messages = [] := by
  constructor
  · rintro ⟨errors, hsplit, _⟩
    cases messages with
    | nil => rfl
    | cons m ms =>
        -- the first note would be on a message
        have hhead := (List.cons.inj hsplit).1
        cases congrArg Note.level hhead
  · rintro rfl
    refine ⟨[namedFailure r.header d f], rfl, fun note hmem => ?_⟩
    rw [List.mem_singleton.1 hmem]
    exact ⟨_, rfl⟩

/-- **Messages of scripts.**  The check of a script rule whose interpreter answers with messages
comes to a result.  If the answer says that all is well, the journal keeps the messages, with one
error behind them if the result of the script is no verdict.  If not, the one note is on the
failure, and the messages are lost.  So they are kept exactly if all is well, or there are none. -/
theorem messages_kept_iff (g : Setting) (r : Rule) (s : Subject) (l : Language) (script : Value)
    (answer : List (Value × Value)) (messages : List Value)
    (h : ScriptAnswer g r s l script answer messages) :
    ∃ notes result, r.check g s = (notes, .ok result) ∧
      (SaysWell answer → ∃ errors, notes = messages.map (messageNote r s.device) ++ errors ∧
        (errors = [] ∧ result.outcome ≠ .error ∨
          ∃ f, errors = [namedFailure r.header s.device f] ∧ result.outcome = .error)) ∧
      (¬ SaysWell answer → result.outcome = .error ∧
        notes = [namedFailure r.header s.device (ScriptAnswer.failure g l answer)]) ∧
      (notes.Keeps r s.device messages ↔ SaysWell answer ∨ messages = []) := by
  by_cases well : SaysWell answer
  · obtain ⟨errors, result, hcheck, hends⟩ := h.check_of_evaluate (h.evaluate_of_well well)
    refine ⟨_, result, hcheck, fun _ => ⟨errors, rfl, ?_⟩, fun ill => absurd well ill, ?_⟩
    · rcases hends with ⟨_, hfine⟩ | ⟨f, herrors, herror, _⟩
      · exact Or.inl hfine
      · exact Or.inr ⟨f, herrors, herror⟩
    · refine iff_of_true ⟨errors, rfl, ?_⟩ (Or.inl well)
      rcases hends with ⟨_, rfl, _⟩ | ⟨f, rfl, _⟩
      · exact nofun
      · intro note hmem
        rw [List.mem_singleton.1 hmem]
        exact ⟨_, rfl⟩
  · obtain ⟨errors, result, hcheck, hends⟩ := h.check_of_evaluate (h.evaluate_of_ill well)
    rcases hends with ⟨⟨v, hv⟩, _⟩ | ⟨f, rfl, herror, hsame⟩
    · cases hv
    · obtain rfl := hsame _ rfl
      refine ⟨_, result, hcheck, fun h => absurd h well, fun _ => ⟨herror, rfl⟩, ?_⟩
      rw [List.nil_append, Journal.keeps_failure_iff, or_iff_right well]

/-! ### Some messages -/

/-- A message of a script. -/
def bannerMessage : Value := .text "looking for a banner"

/-- An answer with a message. -/
def talkingAnswer (ok : Bool) : List (String × Value) :=
  [("ok", .flag ok), ("result", .text "maybe"), ("messages", .list [bannerMessage])]

/-- The script rule is due on the device, and an interpreter answers with a message. -/
theorem scriptAnswer_talking (ok : Bool) :
    ∃ output, Json.write (.record (talkingAnswer ok)) = .ok output ∧
      ScriptAnswer (answering 30 output) scriptedCheck bareDevice .python
        (.text "def check(device): return CONFORMING")
        ((talkingAnswer ok).map fun f => (.text f.1, f.2)) [bannerMessage] := by
  have hplain : Json.Plain (.record (talkingAnswer ok)) := by
    refine .record (by simp [talkingAnswer]) ?_
    simp only [talkingAnswer, List.forall_mem_cons]
    refine ⟨.flag ok, .text _, .list ?_, nofun⟩
    simp only [List.forall_mem_cons]
    exact ⟨.text _, nofun⟩
  obtain ⟨output, hwrites, hparse⟩ := Json.parse_of_plain hplain
  obtain ⟨p, hp, hwritable⟩ := writable_bareDevice
  have hfinite : Value.IsFinite (30 * 1000) := ⟨_, _, _, rfl⟩
  obtain ⟨i, hcall⟩ := (Sandbox.exists_checkCall_iff ((answering 30 output).sandbox .python)
    (.text "def check(device): return CONFORMING") p).2 ⟨hfinite, Json.writable_text _, hwritable⟩
  have hending : ((answering 30 output).interpreter i) = .exited 0 output "" := by
    obtain ⟨_, _, hcall⟩ := bind_eq_ok_iff.1 hcall
    obtain ⟨_, _, hcall⟩ := bind_eq_ok_iff.1 hcall
    cases hcall
    have hshort : isAwaitable 30 0 = true := by decide +kernel
    exact awaited_of_isAwaitable hshort
  refine ⟨output, hwrites, ⟨rfl, rfl, rfl, rfl, ⟨i, output, "", ?_, hending, hparse⟩, ?_⟩⟩
  · exact (calls_eq_singleton_iff rfl rfl rfl).2 ⟨p, hp, hcall⟩
  · simp [talkingAnswer, under, Value.lookup]

/-- A script that comes to its end has its message kept, though its result is no verdict. -/
theorem kept_of_talking :
    ∃ output notes result, Json.write (.record (talkingAnswer true)) = .ok output ∧
      ScriptAnswer (answering 30 output) scriptedCheck bareDevice .python
        (.text "def check(device): return CONFORMING")
        ((talkingAnswer true).map fun f => (.text f.1, f.2)) [bannerMessage] ∧
      scriptedCheck.check (answering 30 output) bareDevice = (notes, .ok result) ∧
      notes.Keeps scriptedCheck bareDevice.device [bannerMessage] := by
  obtain ⟨output, hwrites, hanswer⟩ := scriptAnswer_talking true
  obtain ⟨notes, result, hcheck, _, _, hkept⟩ := messages_kept_iff _ _ _ _ _ _ _ hanswer
  refine ⟨output, notes, result, hwrites, hanswer, hcheck, hkept.2 (Or.inl ?_)⟩
  simp [SaysWell, talkingAnswer, under, Value.lookup, Value.truthy]

/-- A script that fails has its message lost. -/
theorem not_every_message_kept :
    ¬ ∀ (g : Setting) (r : Rule) (s : Subject) (l : Language) (script : Value)
      (answer : List (Value × Value)) (messages : List Value),
      ScriptAnswer g r s l script answer messages →
        ∃ notes result, r.check g s = (notes, .ok result) ∧ notes.Keeps r s.device messages := by
  intro claim
  obtain ⟨output, _, hanswer⟩ := scriptAnswer_talking false
  obtain ⟨notes, result, hcheck, hkept⟩ := claim _ _ _ _ _ _ _ hanswer
  have hill : ¬ SaysWell ((talkingAnswer false).map fun f => (.text f.1, f.2)) := by
    simp [SaysWell, talkingAnswer, under, Value.lookup, Value.truthy]
  obtain ⟨errors, result', hcheck', hends⟩ :=
    hanswer.check_of_evaluate (hanswer.evaluate_of_ill hill)
  cases hcheck.symm.trans hcheck'
  rcases hends with ⟨⟨v, hv⟩, _⟩ | ⟨f, rfl, _⟩
  · cases hv
  · cases Journal.keeps_failure_iff.1 hkept

end ConfigAudit
