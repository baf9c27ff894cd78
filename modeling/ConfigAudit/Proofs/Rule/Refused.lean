/-
# Rules that are refused

A rule that cannot be used is refused by its name.  Not all that can be wrong with a rule is found
this way: some patterns, some scripts and some interpreters make the validation break off with
another fault, which does not say which rule it belongs to.  These cases are listed here, one by
one, for all rules and all interpreters.

* `Fault.Refuses` : a refusal names the rule;
* `TextRule.BreaksOff`, `Rule.BreaksOff` : what makes a validation break off;
* `Rule.accepted_or_refused_iff` : all other rules are accepted, or refused by their names.
-/
import ConfigAudit.Proofs.Policy.Answered
import ConfigAudit.Proofs.Script.Request

namespace ConfigAudit

/-- A fault refuses the rule of a name. -/
def Fault.Refuses (name : Value) (f : Fault) : Prop := ∃ defect, f = .rule defect name

/-- A fault of a value refuses no rule. -/
theorem Fault.not_refuses_value {name : Value} {f : ValueFault} :
    ¬ Fault.Refuses name (.value f) := by
  rintro ⟨defect, h⟩
  cases h

/-- Either a step fails in the given ways only, or it escapes them. -/
theorem failsOnly_iff_not_escapes {ε α : Type} {P : ε → Prop} {x : Except ε α} :
    FailsOnly P x ↔ ¬ Escapes P x := by
  constructor
  · exact FailsOnly.not_escapes
  · intro h f hf
    by_contra hP
    exact h ⟨f, hf, hP⟩

/-! ## Patterns -/

/-- A text that as a pattern is at fault by more than its form: it asks for more repeats than
matchers can count, for a count of too many digits, or for basic characters and all characters at
once. -/
def Value.BreaksPattern (v : Value) : Prop :=
  ∃ s fault, v.asText? = some s ∧ Pattern.read {} s = .error fault ∧ fault.isForm = false

namespace TextRule

/-- A definition that is in order up to a pattern that is at fault by more than its form. -/
structure BreaksOff (t : TextRule) : Prop where
  /-- It names a configuration attribute. -/
  field : t.field.isText = true ∧ t.field.truthy = true
  /-- It has a text. -/
  text : t.text.isText = true ∧ t.text.truthy = true
  /-- Its context is a text, if it has one. -/
  context : t.context = .null ∨ t.context.isText = true
  /-- So is its driver. -/
  driver : t.driver = .null ∨ t.driver.isText = true
  /-- The pattern is that of the context, or it is the text and the context is in order. -/
  pattern : t.context.BreaksPattern ∨
    ((∀ s, t.context.asText? = some s → ∃ n, Pattern.read {} s = .ok n) ∧
      t.regexp.truthy = true ∧ t.text.BreaksPattern)

/-- A pattern that is not refused as part of its rule is at fault by more than its form. -/
theorem breaksPattern_of_checkPattern {label : String} {name v : Value} {f : Fault}
    (h : checkPattern label name v = .error f) (hf : ¬ f.Refuses name) : v.BreaksPattern := by
  obtain ⟨s, fault, hs, hread, _, hfault⟩ := (checkPattern_eq_error h).resolve_left hf
  exact ⟨s, fault, hs, hread, hfault⟩

/-- Validating a definition breaks off at a pattern only. -/
theorem escapes_validate_iff {t : TextRule} {name : Value} :
    Escapes (Fault.Refuses name) (t.validate name) ↔ t.BreaksOff := by
  constructor
  · rintro ⟨f, h, hf⟩
    obtain ⟨field, text, context, driver⟩ := fields_of_validate h hf
    refine ⟨field, text, context, driver, ?_⟩
    rw [validate_eq name field text context driver] at h
    rcases bind_eq_error_iff.1 h with h | ⟨_, hread, h⟩
    · exact Or.inl (breaksPattern_of_checkPattern h hf)
    · split at h
      · rename_i hregexp
        exact Or.inr ⟨checkPattern_eq_ok_iff.1 hread, hregexp, breaksPattern_of_checkPattern h hf⟩
      · cases h
  · intro h
    rw [validate_eq name h.field h.text h.context h.driver]
    rcases h.pattern with ⟨s, fault, hs, hread, hfault⟩ |
      ⟨hcontext, hregexp, s, fault, hs, hread, hfault⟩
    · rw [checkPattern_of_fault hs hread hfault]
      exact ⟨_, rfl, nofun⟩
    · rw [hregexp, if_pos rfl, checkPattern_of_fault hs hread hfault,
        checkPattern_eq_ok_iff.2 hcontext]
      exact ⟨_, rfl, nofun⟩

end TextRule

/-! ## Scripts -/

section Scripts

variable {l : Language} {script name : Value}

/-- A script that has something in it: a text or bytes that are not blank. -/
inductive Filled : Value → Prop
  /-- A text. -/
  | text {v : Value} {s : String} (text : v.asText? = some s)
      (filled : Text.isBlankText s = false) : Filled v
  /-- Bytes. -/
  | bytes {bs : List UInt8} (filled : bs.all isBlankByte = false) : Filled (.bytes bs)

/-- A script is only looked into if it has something in it. -/
theorem checkScriptText_eq_ok_iff : checkScriptText l script name = .ok () ↔ Filled script := by
  unfold checkScriptText
  constructor
  · intro h
    split at h
    · rename_i s hs
      cases hblank : Text.isBlankText s with
      | true =>
          rw [hblank] at h
          cases h
      | false => exact .text hs hblank
    · rename_i bs hbs
      cases hblank : bs.all isBlankByte with
      | true =>
          rw [hblank] at h
          cases h
      | false => exact .bytes hblank
    · split at h <;> cases h
  · intro h
    cases h with
    | text text filled =>
        rw [text]
        dsimp only
        rw [filled]
        rfl
    | bytes filled =>
        change (if _ then _ else _) = _
        rw [filled]
        rfl

/-- Looking for something in a script breaks off if the script is set, but is neither a text nor
bytes. -/
theorem escapes_checkScriptText_iff :
    Escapes (Fault.Refuses name) (checkScriptText l script name) ↔
      script.truthy = true ∧ script.isText = false ∧ ∀ bs, script ≠ .bytes bs := by
  have hempty : Fault.Refuses name (.rule (.emptyScript l.name) name) := ⟨_, rfl⟩
  have hblank : ∀ b : Bool, ¬ Escapes (Fault.Refuses name)
      (if b then (throw (.rule (.emptyScript l.name) name) : Except Fault Unit) else pure ()) := by
    intro b
    cases b with
    | true => exact (FailsOnly.error hempty).not_escapes
    | false => exact (FailsOnly.ok ()).not_escapes
  unfold checkScriptText
  split
  · rename_i s hs
    refine iff_of_false (hblank _) fun h => ?_
    rw [Value.isText, hs] at h
    cases h.2.1
  · rename_i bs hbs
    exact iff_of_false (hblank _) fun h => h.2.2 bs rfl
  · rename_i script _ _ hbytes hnone
    have hkind : script.isText = false ∧ ∀ bs, script ≠ .bytes bs := by
      refine ⟨?_, fun bs h => hbytes bs h⟩
      rw [Value.isText, hnone]
      rfl
    split
    · rename_i hset
      exact iff_of_true ⟨_, rfl, Fault.not_refuses_value⟩ ⟨hset, hkind⟩
    · rename_i hset
      exact iff_of_false (hblank true) fun h => hset h.1

/-- A null character is something in a script. -/
theorem filled_of_hasNull (h : Python.hasNull script = true) : Filled script := by
  unfold Python.hasNull at h
  split at h
  · rename_i bs
    refine .bytes (List.all_eq_false.2 ⟨0, List.contains_iff_mem.1 h, by decide⟩)
  · cases hs : script.asText? with
    | none =>
        rw [hs] at h
        cases h
    | some s =>
        rw [hs] at h
        refine .text hs (List.all_eq_false.2 ⟨'\x00', List.contains_iff_mem.1 h, by decide⟩)

/-- Half a character is something in a script, too. -/
theorem filled_of_halves {fault : HalfFault}
    (h : Text.halves? (script.asText?.getD "") = some fault) : Filled script := by
  have hnot : Text.isWhole (script.asText?.getD "") ≠ true := by
    rw [Ne, ← Text.halves?_eq_none_iff, h]
    exact nofun
  rw [Text.isWhole, Ne, Bool.not_eq_true', Bool.not_eq_false, List.any_eq_true] at hnot
  obtain ⟨c, hc, hhalf⟩ := hnot
  cases hs : script.asText? with
  | none =>
      rw [hs] at hc
      cases hc
  | some s =>
      rw [hs] at hc
      exact .text hs (List.all_eq_false.2 ⟨c, hc, by simp [Text.not_isBlank_of_isHalf hhalf]⟩)

/-- A script of which nothing is read has something in it. -/
theorem filled_of_unread {f : Fault} (h : Python.unread? script = some f) : Filled script := by
  unfold Python.unread? at h
  split at h
  · rename_i fault hhalves
    exact filled_of_halves hhalves
  · split at h
    · rename_i hnull
      exact filled_of_hasNull hnull
    · cases h

/-- That nothing is read of a script is no refusal. -/
theorem not_refuses_of_unread {f : Fault} (h : Python.unread? script = some f) :
    ¬ Fault.Refuses name f := by
  unfold Python.unread? at h
  split at h
  · cases h
    rintro ⟨_, hf⟩
    cases hf
  · split at h
    · cases h
      exact Fault.not_refuses_value
    · cases h

/-- Reading a script in this process breaks off if nothing is read of it. -/
theorem escapes_readPython_iff {g : Setting} :
    Escapes (Fault.Refuses name) (readScript g .python script name) ↔
      ∃ f, Python.unread? script = some f := by
  have hrefused : ∀ defect, Fault.Refuses name (.rule defect name) := fun defect => ⟨defect, rfl⟩
  unfold readScript Python.defect?
  dsimp only
  cases hunread : Python.unread? script with
  | some f => exact iff_of_true ⟨f, rfl, not_refuses_of_unread hunread⟩ ⟨f, rfl⟩
  | none =>
      refine iff_of_false (FailsOnly.not_escapes ?_) nofun
      dsimp only
      split
      · rename_i f hdefect
        split at hdefect
        · cases hdefect
        · split at hdefect <;> cases hdefect
      · exact .ok ()
      · exact .error (hrefused _)

/-- A script that can be written down for its interpreter is read as the interpreter answers. -/
theorem readWith_of_call {sandbox : Sandbox} {run : Interpreter} {i : Invocation}
    (call : sandbox.readCall script = .ok i) :
    sandbox.readWith run script name = match sandbox.answerOf (run i) with
      | .error (.script f) => throw (.rule (.unvalidated f) name)
      | .error f => throw f
      | .ok answer =>
        if !((Sandbox.under "ok" answer).getD .null).truthy then
          throw (.rule (.refused ((Sandbox.under "error" answer).getD .null)) name)
        else pure () := by
  rw [Sandbox.readWith, call]
  rfl

/-- How a process ends that leaves neither an answer nor a fault of its own. -/
inductive Sandbox.Unheard (sandbox : Sandbox) : Ending → Prop
  /-- It writes an integer with too many digits. -/
  | digits {output complaint : String} {digits : Nat}
      (long : Json.parse output = .error (.integerLength digits)) :
      Unheard sandbox (.exited 0 output complaint)
  /-- It does not write a text. -/
  | garbled (fault : Utf8Fault) : Unheard sandbox (.garbled fault)
  /-- The call breaks off. -/
  | broken (fault : ValueFault) : Unheard sandbox (.broken fault)
  /-- It is not there, and cannot be named. -/
  | unnamed {number : Int} {cause : String} {path : Option String}
      (unnamed : sandbox.executable.isSpellable = false) :
      Unheard sandbox (.unavailable number cause path)

/-- A process that is unheard leaves a fault that is not of scripts, and no other process does. -/
theorem Sandbox.unheard_iff {sandbox : Sandbox} {ending : Ending} :
    sandbox.Unheard ending ↔
      ∃ f, sandbox.answerOf ending = .error f ∧ ∀ fault, f ≠ .script fault := by
  constructor
  · intro h
    cases h with
    | @digits _ _ digits long =>
        exact ⟨.value (.integerLength digits), by simp [answerOf, long], nofun⟩
    | garbled fault | broken fault => exact ⟨_, rfl, nofun⟩
    | unnamed unnamed =>
        refine ⟨.value .integerSize, ?_, nofun⟩
        simp [answerOf, Value.spell_of_not_isSpellable unnamed]
  · rintro ⟨f, h, hf⟩
    rcases answerOf_eq_error h with ⟨fault, rfl⟩ | ⟨_, _, _, rfl, long, _⟩ | ⟨fault, rfl, _⟩ |
      ⟨fault, rfl, _⟩ | ⟨_, _, _, rfl, unnamed, _⟩
    · exact absurd rfl (hf fault)
    · exact .digits long
    · exact .garbled fault
    · exact .broken fault
    · exact .unnamed unnamed

/-- What is not a fault of scripts refuses no rule either. -/
theorem Sandbox.not_refuses_of_answerOf {sandbox : Sandbox} {ending : Ending} {f : Fault}
    (h : sandbox.answerOf ending = .error f) : ¬ Fault.Refuses name f := by
  rintro ⟨defect, rfl⟩
  rcases answerOf_eq_error h with ⟨_, h⟩ | ⟨_, _, _, _, _, h⟩ | ⟨_, _, h⟩ | ⟨_, _, h⟩ |
    ⟨_, _, _, _, _, h⟩ <;> cases h

/-- Having a script read by its interpreter breaks off if the script cannot be written down for it,
or if the process is unheard. -/
theorem escapes_readWith_iff {sandbox : Sandbox} {run : Interpreter} :
    Escapes (Fault.Refuses name) (sandbox.readWith run script name) ↔
      (∃ f, sandbox.readCall script = .error f) ∨
        ∃ i, sandbox.readCall script = .ok i ∧ sandbox.Unheard (run i) := by
  have hrefused : ∀ defect, Fault.Refuses name (.rule defect name) := fun defect => ⟨defect, rfl⟩
  cases hcall : sandbox.readCall script with
  | error f =>
      have hbroken : sandbox.readWith run script name = .error (.value f) := by
        rw [Sandbox.readWith, hcall]
        rfl
      rw [hbroken]
      exact iff_of_true ⟨.value f, rfl, Fault.not_refuses_value⟩ (Or.inl ⟨f, rfl⟩)
  | ok i =>
      simp only [readWith_of_call hcall, reduceCtorEq, exists_false, false_or, Except.ok.injEq,
        exists_eq_left']
      constructor
      · rintro ⟨f, h, hf⟩
        split at h
        · cases h
          exact absurd (hrefused _) hf
        · rename_i f' notScript hanswer
          exact Sandbox.unheard_iff.2 ⟨f', hanswer, notScript⟩
        · split at h <;> cases h
          exact absurd (hrefused _) hf
      · intro h
        obtain ⟨f, hanswer, hf⟩ := Sandbox.unheard_iff.1 h
        have hrefuses : ¬ Fault.Refuses name f := Sandbox.not_refuses_of_answerOf hanswer
        rw [hanswer]
        cases f with
        | script fault => exact absurd rfl (hf fault)
        | _ => exact ⟨_, rfl, hrefuses⟩

/-- A script can be written down for its interpreter if it has a written form. -/
theorem exists_readCall_iff {sandbox : Sandbox} :
    (∃ i, sandbox.readCall script = .ok i) ↔ Json.Writable script := by
  have hcall : (∃ i, sandbox.readCall script = .ok i) ↔
      Json.Writable (.record [("mode", .text "validate"), ("script", script)]) := by
    constructor
    · rintro ⟨i, hi⟩
      obtain ⟨w, hw, _⟩ := bind_eq_ok_iff.1 hi
      exact ⟨w, hw⟩
    · rintro ⟨w, hw⟩
      exact ⟨_, bind_eq_ok_iff.2 ⟨w, hw, rfl⟩⟩
  rw [hcall, Json.writable_record_iff]
  simp [Json.writable_text]

/-- Of the scripts that have something in them, those in bytes have no written form. -/
theorem Filled.writable_iff (h : Filled script) :
    Json.Writable script ↔ ∀ bs, script ≠ .bytes bs := by
  cases h with
  | text text =>
      cases script with
      | text s => exact iff_of_true ⟨_, rfl⟩ nofun
      | outcome o => exact iff_of_true ⟨_, rfl⟩ nofun
      | _ => cases text
  | @bytes bs =>
      refine iff_of_false ?_ fun h => h bs rfl
      rintro ⟨w, hw⟩
      cases hw

/-- Validating a script breaks off before it is read, or where it is read. -/
theorem escapes_script_iff {g : Setting} :
    Escapes (Fault.Refuses name) (checkScriptText l script name >>= fun _ =>
        readScript g l script name) ↔
      (script.truthy = true ∧ script.isText = false ∧ ∀ bs, script ≠ .bytes bs) ∨
        Filled script ∧ Escapes (Fault.Refuses name) (readScript g l script name) := by
  rw [escapes_bind_iff, escapes_checkScriptText_iff]
  refine or_congr_right ⟨?_, ?_⟩
  · rintro ⟨_, hfilled, h⟩
    exact ⟨checkScriptText_eq_ok_iff.1 hfilled, h⟩
  · rintro ⟨hfilled, h⟩
    exact ⟨(), checkScriptText_eq_ok_iff.2 hfilled, h⟩

end Scripts

/-! ## Rules -/

namespace Rule

/-- What makes the validation of a rule break off. -/
inductive BreaksOff (g : Setting) (r : Rule) : Prop
  /-- A pattern of a text rule is at fault by more than its form. -/
  | pattern {t : TextRule} (body : r.body = .text t) (breaks : t.BreaksOff)
  /-- A script is set, but is neither a text nor bytes. -/
  | kind {l : Language} {script : Value} (body : r.body = .script l script)
      (set : script.truthy = true) (text : script.isText = false) (bytes : ∀ bs, script ≠ .bytes bs)
  /-- A script that is to be read in this process has half a character, or a null one. -/
  | unread {script : Value} {f : Fault} (body : r.body = .script .python script)
      (unread : Python.unread? script = some f)
  /-- A script for an interpreter is in bytes, which have no written form. -/
  | bytes {bs : List UInt8} (body : r.body = .script .javascript (.bytes bs))
      (filled : bs.all isBlankByte = false)
  /-- The interpreter that reads the script is unheard. -/
  | unheard {script : Value} {s : String} {i : Invocation}
      (body : r.body = .script .javascript script) (text : script.asText? = some s)
      (filled : Text.isBlankText s = false)
      (call : (g.sandbox .javascript).readCall script = .ok i)
      (unheard : (g.sandbox .javascript).Unheard (g.interpreter i))

variable {g : Setting} {r : Rule}

/-- Validating a script that is read in this process breaks off in two of the cases. -/
theorem breaksOff_python_iff {script : Value} (body : r.body = .script .python script) :
    Escapes (Fault.Refuses r.name) (r.validate g) ↔ r.BreaksOff g := by
  have hvalidate : r.validate g = (checkScriptText .python script r.name >>= fun _ =>
      readScript g .python script r.name) := by
    rw [validate, body]
  rw [hvalidate, escapes_script_iff, escapes_readPython_iff]
  constructor
  · rintro (⟨set, text, bytes⟩ | ⟨_, f, unread⟩)
    · exact .kind body set text bytes
    · exact .unread body unread
  · intro h
    cases h with
    | kind body' set text bytes =>
        cases body.symm.trans body'
        exact Or.inl ⟨set, text, bytes⟩
    | unread body' unread =>
        cases body.symm.trans body'
        exact Or.inr ⟨filled_of_unread unread, _, unread⟩
    | pattern body' | bytes body' | unheard body' => cases body.symm.trans body'

/-- Validating a script for an interpreter breaks off in three of the cases. -/
theorem breaksOff_javascript_iff {script : Value} (body : r.body = .script .javascript script) :
    Escapes (Fault.Refuses r.name) (r.validate g) ↔ r.BreaksOff g := by
  have hvalidate : r.validate g = (checkScriptText .javascript script r.name >>= fun _ =>
      readScript g .javascript script r.name) := by
    rw [validate, body]
  have hread : Escapes (Fault.Refuses r.name) (readScript g .javascript script r.name) ↔ _ :=
    escapes_readWith_iff
  rw [hvalidate, escapes_script_iff, hread]
  constructor
  · rintro (⟨set, text, bytes⟩ | ⟨filled, h⟩)
    · exact .kind body set text bytes
    · -- bytes pass for text at first, but there is no call that they can be written into
      by_cases hbytes : ∃ bs, script = .bytes bs
      · obtain ⟨bs, rfl⟩ := hbytes
        cases filled with
        | text text => cases text
        | bytes filled => exact .bytes body filled
      · obtain ⟨i', hi'⟩ := exists_readCall_iff.2
          (filled.writable_iff.2 fun bs hbs => hbytes ⟨bs, hbs⟩)
        cases filled with
        | bytes => exact absurd ⟨_, rfl⟩ hbytes
        | text text filled =>
            rcases h with ⟨f, hf⟩ | ⟨i, hi, hunheard⟩
            · cases hf.symm.trans hi'
            · exact .unheard body text filled hi hunheard
  · intro h
    cases h with
    | kind body' set text bytes =>
        cases body.symm.trans body'
        exact Or.inl ⟨set, text, bytes⟩
    | @bytes bs body' filled =>
        cases body.symm.trans body'
        refine Or.inr ⟨.bytes filled, Or.inl ?_⟩
        cases hcall : (g.sandbox .javascript).readCall (.bytes bs) with
        | error f => exact ⟨f, rfl⟩
        | ok i =>
            have hwritable := exists_readCall_iff.1 ⟨i, hcall⟩
            exact absurd rfl ((Filled.bytes filled).writable_iff.1 hwritable bs)
    | unheard body' text filled call unheard =>
        cases body.symm.trans body'
        exact Or.inr ⟨.text text filled, Or.inr ⟨_, call, unheard⟩⟩
    | pattern body' | unread body' => cases body.symm.trans body'

/-- Only text rules and script rules have anything that a validation can break off at. -/
theorem BreaksOff.body_cases (h : r.BreaksOff g) :
    (∃ t, r.body = .text t) ∨ ∃ l script, r.body = .script l script := by
  cases h with
  | pattern body => exact Or.inl ⟨_, body⟩
  | kind body | unread body | bytes body | unheard body => exact Or.inr ⟨_, _, body⟩

/-- Validating a rule breaks off in these cases only. -/
theorem escapes_validate_iff : Escapes (Fault.Refuses r.name) (r.validate g) ↔ r.BreaksOff g := by
  cases hbody : r.body with
  | text t =>
      rw [validate, hbody]
      dsimp only
      rw [TextRule.escapes_validate_iff]
      constructor
      · exact .pattern hbody
      · intro h
        cases h with
        | pattern body breaks =>
            cases hbody.symm.trans body
            exact breaks
        | kind body | unread body | bytes body | unheard body => cases hbody.symm.trans body
  | script l script =>
      cases l with
      | python => exact breaksOff_python_iff hbody
      | javascript => exact breaksOff_javascript_iff hbody
  | standIn reason =>
      have hrefused : Fault.Refuses r.name (.rule (.unusable reason) r.name) := ⟨_, rfl⟩
      rw [validate, hbody]
      refine iff_of_false (FailsOnly.error hrefused).not_escapes fun h => ?_
      rcases h.body_cases with ⟨t, ht⟩ | ⟨l, script, hs⟩
      · cases hbody.symm.trans ht
      · cases hbody.symm.trans hs
  | generic | probe =>
      rw [validate, hbody]
      refine iff_of_false (FailsOnly.ok ()).not_escapes fun h => ?_
      rcases h.body_cases with ⟨t, ht⟩ | ⟨l, script, hs⟩
      · cases hbody.symm.trans ht
      · cases hbody.symm.trans hs

/-- **Accepted or refused.**  Validating a rule accepts it, or refuses it by its name, unless it
breaks off.  It breaks off exactly if a pattern asks for more repeats than matchers can count, for a
count of too many digits or for two alphabets at once, if a script is neither a text nor bytes, if a
script that is read in this process has half a character or a null one, if a script for an
interpreter is in bytes, or if the interpreter is unheard: it does not write a text, or writes an
integer with too many digits, the call breaks off, or the interpreter is not there and cannot be
named. -/
theorem accepted_or_refused_iff (g : Setting) (r : Rule) :
    (r.validate g = .ok () ∨ ∃ defect, r.validate g = .error (.rule defect r.name)) ↔
      ¬ r.BreaksOff g := by
  rw [← escapes_validate_iff, ← failsOnly_iff_not_escapes]
  constructor
  · rintro (h | ⟨defect, h⟩)
    · rw [h]
      exact .ok ()
    · rw [h]
      exact .error ⟨defect, rfl⟩
  · intro h
    cases hvalid : r.validate g with
    | ok u => exact Or.inl rfl
    | error f =>
        obtain ⟨defect, rfl⟩ := h f hvalid
        exact Or.inr ⟨defect, rfl⟩

/-- A text rule that asks for more repeats than matchers can count. -/
def countless : TextRule where
  field := .text "running_config"
  text := .text "a\x7b4294967296\x7d"
  regexp := .flag true
  invert := .flag false
  matchAll := .flag false
  context := .null
  anyBlock := .flag false
  normalize := .flag false
  driver := .null

/-- Not every rule that a document defines is accepted, or refused by its name. -/
theorem not_every_rule_accepted_or_refused :
    ¬ ∀ (g : Setting) (document : Value) (r : Rule), KindTable.standard.ruleOf document = .ok r →
      r.validate g = .ok () ∨ ∃ defect, r.validate g = .error (.rule defect r.name) := by
  intro claim
  have hbuilt : KindTable.standard.ruleOf (.record [("type", .text "text"), ("id", .int 1),
      ("name", .text "line"), ("enabled", .flag true), ("text", countless.text),
      ("regexp", .flag true)]) = .ok ⟨.int 1, .text "line", .flag true, .text countless⟩ := by
    cbv
  have hread : Pattern.read {} "a\x7b4294967296\x7d" = .error .repetitionLimit := by
    cbv
  have hcontext : ∀ s, countless.context.asText? = some s → ∃ n, Pattern.read {} s = .ok n := by
    intro s hs
    cases hs
  have hbreaks : countless.BreaksOff := {
    field := ⟨rfl, rfl⟩
    text := ⟨rfl, rfl⟩
    context := Or.inl rfl
    driver := Or.inl rfl
    pattern := Or.inr ⟨hcontext, rfl, _, _, rfl, hread, rfl⟩ }
  obtain ⟨f, hf, hrefuses⟩ := escapes_validate_iff.2
    (.pattern rfl hbreaks :
      BreaksOff noInterpreters ⟨.int 1, .text "line", .flag true, .text countless⟩)
  rcases claim noInterpreters _ _ hbuilt with h | ⟨defect, h⟩
  · cases hf.symm.trans h
  · cases hf.symm.trans h
    exact hrefuses ⟨defect, rfl⟩

end Rule

end ConfigAudit
