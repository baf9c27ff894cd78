/-
# Faults that are answered

The command reports the faults of the audit itself and comes to an orderly end.  A fault in the use
of a value becomes one of these where it is found inside of a policy, if its family is looked for
there.  Here the steps of readers are gone through one by one: almost all of them fail in answered
ways only.

* `ValueFault.isPlain`, `Fault.isAnswered` : the faults that are looked for;
* `ValueFault.isUnfit` : those that lie in the value itself, which are looked for everywhere;
* `Value.unanswered_toInteger_iff` : infinities, which have no integer part;
* `KindTable.answered_ruleOf`, `Policy.answered_add` : building rules and adding them to policies;
* `Rule.unanswered_validate_iff` : patterns that ask for more repeats than matchers can count, and
  calls of interpreters that break off.
-/
import ConfigAudit.Proofs.Policy.Numbering

namespace ConfigAudit

/-! ## Answered faults -/

/-- Whether a fault of a value is of a family that is looked for wherever documents are read. -/
def ValueFault.isPlain (f : ValueFault) : Bool :=
  match f.family with
  | .kind | .value | .attribute => true
  | .key | .overflow | .index => false

/-- Whether a fault lies in the value itself: in its kind, or in what it says. -/
def ValueFault.isUnfit (f : ValueFault) : Bool :=
  match f.family with
  | .kind | .value => true
  | .key | .attribute | .overflow | .index => false

/-- Whether a fault that is found inside of a policy ends up as a fault of the audit. -/
def Fault.isAnswered (f : Fault) : Bool := f.stopsAudit || f.complaint?.isSome

/-- A step in the use of a value fails in plain ways only. -/
abbrev Plainly {α : Type} (x : Except ValueFault α) : Prop := FailsOnly (·.isPlain = true) x

/-- A step in the use of a value fails only if the value is unfit for it. -/
abbrev IfUnfit {α : Type} (x : Except ValueFault α) : Prop := FailsOnly (·.isUnfit = true) x

/-- A step of a reader fails in answered ways only. -/
abbrev Answered {α : Type} (x : Except Fault α) : Prop := FailsOnly (·.isAnswered = true) x

/-- A step of a reader fails in a way that is not answered. -/
abbrev Unanswered {α : Type} (x : Except Fault α) : Prop := Escapes (·.isAnswered = true) x

/-- Plain faults are answered. -/
theorem ValueFault.isAnswered_of_isPlain {f : ValueFault} (h : f.isPlain = true) :
    (Fault.value f).isAnswered = true := by
  unfold isPlain at h
  unfold Fault.isAnswered Fault.complaint?
  split at h
  · rename_i hf
    simp [hf]
  · rename_i hf
    simp [hf]
  · rename_i hf
    simp [hf]
  · cases h
  · cases h
  · cases h

/-- A fault that cannot be worded is answered if it would have been. -/
theorem Fault.isAnswered_worded {f : Fault} (h : f.isAnswered = true) :
    f.worded.isAnswered = true := by
  unfold worded
  split
  · exact h
  · rfl

/-- Faults that lie in the value are plain. -/
theorem ValueFault.isPlain_of_isUnfit {f : ValueFault} (h : f.isUnfit = true) :
    f.isPlain = true := by
  unfold isUnfit at h
  unfold isPlain
  cases hf : f.family <;> rw [hf] at h <;> first | rfl | cases h

/-- A step that fails only on unfit values fails in plain ways only. -/
theorem IfUnfit.plainly {α : Type} {x : Except ValueFault α} (hx : IfUnfit x) : Plainly x :=
  hx.mono fun _ => ValueFault.isPlain_of_isUnfit

/-- A plain step is an answered step of a reader. -/
theorem Plainly.answered {α : Type} {x : Except ValueFault α} (hx : Plainly x) :
    Answered (liftM x : Except Fault α) :=
  (hx.mono fun _ => ValueFault.isAnswered_of_isPlain).lift

/-! ## Steps in the use of values -/

namespace Value

/-- Only tables can be asked for a key. -/
theorem plain_get (name : String) (v : Value) : Plainly (v.get name) := by
  cases v <;> first | exact .ok _ | exact .error rfl

/-- Only tables can be asked for a key. -/
theorem plain_getOr (v : Value) (name : String) (default : Value) :
    Plainly (v.getOr name default) := by
  cases v <;> first | exact .ok _ | exact .error rfl

/-- Only collections have members. -/
theorem unfit_members (v : Value) : IfUnfit v.members := by
  cases v <;> first | exact .ok _ | exact .error rfl

/-- Only collections have members. -/
theorem plain_members (v : Value) : Plainly v.members := (unfit_members v).plainly

/-- What keeps a value from being a key is its kind. -/
theorem isUnfit_of_unhashable? {v : Value} {f : ValueFault} (h : v.unhashable? = some f) :
    f.isUnfit = true := by
  fun_induction unhashable? v with
  | case1 | case2 | case3 =>
      cases h
      rfl
  | case4 a b iha ihb =>
      rcases Option.or_eq_some_iff.1 h with h | ⟨_, h⟩
      · exact iha h
      · exact ihb h
  | case5 => cases h

/-- A value is no key because of its kind. -/
theorem unfit_asKey (v : Value) : IfUnfit v.asKey := by
  unfold asKey
  split
  · rename_i h
    exact .error (isUnfit_of_unhashable? h)
  · exact .ok _

/-- Values are put into a set as keys. -/
theorem unfit_memberSet (v : Value) : IfUnfit v.memberSet := by
  refine (unfit_members v).bind fun xs _ => .foldlM (fun acc x _ => ?_) []
  exact (unfit_asKey x).bind fun _ _ => .ok _

/-- Values are put into a set as keys. -/
theorem plain_memberSet (v : Value) : Plainly v.memberSet := (unfit_memberSet v).plainly

/-- Values that have no order differ in kind. -/
theorem plain_less (a b : Value) : Plainly (less a b) := by
  fun_induction less a b with
  | case15 a b c d hfirst hsecond => exact .ok _
  | _ => first | exact .ok _ | exact .error rfl | assumption

/-- Inserting compares with other values. -/
theorem plain_insertDown (x : Value) (ys : List Value) : Plainly (insertDown x ys) := by
  induction ys with
  | nil => exact .ok _
  | cons y ys ih =>
      refine (plain_less x y).bind fun b _ => ?_
      cases b with
      | false => exact .ok _
      | true => exact ih.bind fun _ _ => .ok _

/-- Sorting inserts one value after the other. -/
theorem plain_sorted (xs : List Value) : Plainly (sorted xs) :=
  (FailsOnly.foldlM (fun acc x _ => plain_insertDown x acc) []).bind fun _ _ => .ok _

/-- Only texts can be joined. -/
theorem plain_joinTexts (sep : String) (xs : List Value) : Plainly (joinTexts sep xs) := by
  refine (FailsOnly.mapM ?_).bind fun _ _ => .ok _
  rintro ⟨x, i⟩ _
  dsimp only
  split
  · exact .ok _
  · exact .error rfl

/-- A value is an infinity. -/
def IsInfinity (v : Value) : Prop :=
  ∃ x negative, v = float x ∧ Decimal.Binary.ofFloat x = .infinite negative

/-- A text is no integer because of what it says. -/
theorem unfit_integerOfText (v : Value) (s : String) : IfUnfit (integerOfText v s) := by
  unfold integerOfText
  split
  · split
    · exact .error rfl
    · exact .ok _
  · exact .error rfl

/-- An infinity has no integer part. -/
theorem toInteger_of_isInfinity {v : Value} (h : v.IsInfinity) :
    v.toInteger = .error .integerInfinite := by
  obtain ⟨x, negative, rfl, hx⟩ := h
  rw [toInteger, integerOfFloat, hx]

/-- Apart from infinities, what is no integer is so because it is unfit. -/
theorem unfit_or_infinite_toInteger (v : Value) :
    FailsOnly (fun f => f.isUnfit = true ∨ v.IsInfinity) v.toInteger := by
  have unfit : ∀ {x : Except ValueFault Int}, IfUnfit x →
      FailsOnly (fun f => f.isUnfit = true ∨ v.IsInfinity) x := fun hx => hx.mono fun _ => Or.inl
  cases v with
  | null | date | moment | list | pair | set | table => exact unfit (.error rfl)
  | flag | int => exact .ok _
  | text s | outcome o => exact unfit (unfit_integerOfText _ _)
  | bytes bs =>
      rw [toInteger]
      split
      · exact unfit (unfit_integerOfText _ _)
      · exact unfit (.error rfl)
  | float x =>
      rw [toInteger, integerOfFloat]
      split
      · exact unfit (.error rfl)
      · rename_i negative hx
        exact .error (Or.inr ⟨x, negative, rfl, hx⟩)
      · split
        · exact .ok _
        · exact unfit (.error rfl)

/-- Wherever unfit values are looked for and numbers out of range are not, what is no integer goes
unnoticed exactly if it is an infinity. -/
theorem escapes_toInteger_iff_of {P : ValueFault → Prop} {v : Value}
    (unfit : ∀ f : ValueFault, f.isUnfit = true → P f) (range : ¬ P .integerInfinite) :
    Escapes P v.toInteger ↔ v.IsInfinity := by
  constructor
  · rintro ⟨f, hf, hP⟩
    exact (unfit_or_infinite_toInteger v f hf).resolve_left fun h => hP (unfit f h)
  · intro h
    exact ⟨_, toInteger_of_isInfinity h, range⟩

/-- What is no integer in another than a plain way is an infinity. -/
theorem escapes_toInteger_iff {v : Value} :
    Escapes (·.isPlain = true) v.toInteger ↔ v.IsInfinity :=
  escapes_toInteger_iff_of (fun _ => ValueFault.isPlain_of_isUnfit) (by decide)

/-- What is no integer and is not answered is an infinity. -/
theorem unanswered_toInteger_iff {v : Value} :
    Unanswered (liftM v.toInteger : Except Fault Int) ↔ v.IsInfinity := by
  constructor
  · rintro ⟨f, hf, hanswered⟩
    obtain ⟨f, hv, rfl⟩ := lift_eq_error_iff.1 hf
    exact (unfit_or_infinite_toInteger v f hv).resolve_left fun hunfit =>
      hanswered (ValueFault.isAnswered_of_isPlain (ValueFault.isPlain_of_isUnfit hunfit))
  · intro h
    exact ⟨_, lift_eq_error_iff.2 ⟨_, toInteger_of_isInfinity h, rfl⟩, by decide⟩

/-- What cannot be found under a name is a missing field, or is asked of a wrong kind of value. -/
theorem answered_index (name : String) (v : Value) :
    Answered (liftM (v.index name) : Except Fault Value) := by
  refine FailsOnly.lift ?_
  cases v with
  | table es =>
      rw [index]
      split
      · exact .ok _
      · exact .error rfl
  | _ => exact .error rfl

end Value

/-! ## Building rules -/

/-- Unknown fields are reported as such. -/
theorem Kind.answered_checkFields (k : Kind) (data : Value) : Answered (k.checkFields data) := by
  refine data.plain_memberSet.answered.bind fun keys _ => ?_
  refine (Value.plain_sorted _).answered.bind fun unknown _ => ?_
  split
  · exact .ok _
  · refine (Value.plain_joinTexts _ _).answered.bind fun names _ => ?_
    exact (Value.plain_get _ _).answered.bind fun _ _ => .error rfl

/-- The id of an entry is the one that was put into it. -/
theorem askedId_ruleEntry (id : Int) (es : List (Value × Value)) :
    (ruleEntry id es).askedId = .int id := by
  rw [Value.askedId, ruleEntry, Value.field?, Value.lookup_put_text]
  rfl

/-- A rule of a kind is built, or refused in an answered way. -/
theorem Kind.answered_build (k : Kind) (id : Int) (es : List (Value × Value)) :
    Answered (k.build (ruleEntry id es)) := by
  refine (k.answered_checkFields _).bind fun _ _ => ?_
  refine (Value.plain_getOr _ _ _).answered.bind fun name _ => ?_
  refine (Value.plain_getOr _ _ _).answered.bind fun enabled _ => ?_
  refine (Value.plain_get _ _).answered.bind fun v hv => ?_
  obtain ⟨_, rfl⟩ := Value.get_id_eq_ok_iff.1 (lift_eq_ok_iff.1 hv)
  rw [askedId_ruleEntry]
  -- the id is an integer by now
  split
  · exact FailsOnly.bind (Plainly.answered (.ok _)) fun _ _ => .ok _
  · exact .ok _

/-- Known and unknown kinds are told apart in an answered way. -/
theorem KindTable.answered_get (t : KindTable) (tag : Value) : Answered (t.get tag) := by
  have hfind : Plainly (t.find? tag) := tag.unfit_asKey.plainly.bind fun _ _ => .ok _
  refine hfind.answered.bind fun k _ => ?_
  cases k with
  | none => exact .error (Fault.isAnswered_worded rfl)
  | some k => exact .ok _

/-- A rule is built from its entry, or refused in an answered way. -/
theorem KindTable.answered_ruleOf (t : KindTable) (id : Int) (es : List (Value × Value)) :
    Answered (t.ruleOf (ruleEntry id es)) := by
  refine (Value.plain_get _ _).answered.bind fun tag _ => ?_
  have hbuild : Answered (t.get tag >>= fun k => k.build (ruleEntry id es)) :=
    (t.answered_get tag).bind fun k _ => k.answered_build id es
  split
  · exact (Value.plain_get _ _).answered.bind fun _ _ => .error rfl
  · exact hbuild

/-- A name that is used twice is reported as such. -/
theorem Policy.answered_add (p : Policy) (r : Rule) : Answered (p.add r) := by
  unfold add
  split
  · exact .error (Fault.isAnswered_worded rfl)
  · exact .ok _

/-! ## Validating rules -/

/-- Whether the fault of a pattern is its form. -/
def Pattern.Fault.isForm : Pattern.Fault → Bool
  | illFormed .. => true
  | repetitionLimit | countLength _ | flagConflict => false

/-- A text that as a pattern asks for more repeats than matchers can count. -/
def Value.RepeatsTooOften (v : Value) : Prop :=
  ∃ s, v.asText? = some s ∧ Pattern.read {} s = .error .repetitionLimit

namespace TextRule

/-- A field that has to be a text, unless it is not set and may be missing, is as it should be. -/
theorem kindDefect?_eq_none_iff {label : String} {optional : Bool} {v : Value} :
    kindDefect? label optional v = none ↔ (optional = true ∧ v = .null) ∨ v.isText = true := by
  unfold kindDefect?
  cases v with
  | null => cases optional <;> simp [Value.isText, Value.asText?]
  | _ => simp [Value.isText, Value.asText?]

/-- A pattern is accepted if it can be read; what is no text is no pattern. -/
theorem checkPattern_eq_ok_iff {label : String} {name v : Value} :
    checkPattern label name v = .ok () ↔
      ∀ s, v.asText? = some s → ∃ n, Pattern.read {} s = .ok n := by
  unfold checkPattern
  cases hs : v.asText? with
  | none => simp
  | some s =>
      cases hread : Pattern.read {} s with
      | ok n => simp [hread]
      | error fault => cases fault <;> simp [hread]

/-- A pattern that is ill-formed is a defect of its rule; other faults of a pattern stay what they
are. -/
theorem checkPattern_eq_error {label : String} {name v : Value} {f : Fault}
    (h : checkPattern label name v = .error f) :
    (∃ defect, f = .rule defect name) ∨
      ∃ s fault, v.asText? = some s ∧ Pattern.read {} s = .error fault ∧ f = .pattern fault ∧
        fault.isForm = false := by
  unfold checkPattern at h
  split at h
  · cases h
  · rename_i s hs
    split at h
    · cases h
    · cases h
      exact Or.inl ⟨_, rfl⟩
    · rename_i fault hform hread
      cases h
      refine Or.inr ⟨s, fault, hs, hread, rfl, ?_⟩
      cases fault with
      | illFormed cause place => exact absurd rfl (hform cause place)
      | repetitionLimit | countLength | flagConflict => rfl

/-- A fault that is not the form of a pattern is reported as it is. -/
theorem checkPattern_of_fault {label s : String} {name v : Value} {fault : Pattern.Fault}
    (hs : v.asText? = some s) (hread : Pattern.read {} s = .error fault)
    (hform : fault.isForm = false) : checkPattern label name v = .error (.pattern fault) := by
  rw [checkPattern, hs]
  cases fault with
  | illFormed => cases hform
  | repetitionLimit | countLength | flagConflict => simp only [hread]

/-- A pattern that is refused in a way that is not answered asks for too many repeats. -/
theorem repeatsTooOften_of_checkPattern {label : String} {name v : Value} {f : Fault}
    (h : checkPattern label name v = .error f) (hf : ¬ f.isAnswered = true) : v.RepeatsTooOften := by
  rcases checkPattern_eq_error h with ⟨defect, rfl⟩ | ⟨s, fault, hs, hread, rfl, hform⟩
  · exact absurd rfl hf
  · cases fault with
    | repetitionLimit => exact ⟨s, hs, hread⟩
    | illFormed => cases hform
    | countLength | flagConflict => exact absurd rfl hf

/-- A definition that is in order but for a pattern that asks for more repeats than matchers can
count, and which nothing else that is looked at before is wrong with. -/
structure Exceeds (t : TextRule) : Prop where
  /-- It names a configuration attribute. -/
  field : t.field.isText = true ∧ t.field.truthy = true
  /-- It has a text. -/
  text : t.text.isText = true ∧ t.text.truthy = true
  /-- Its context is a text, if it has one. -/
  context : t.context = .null ∨ t.context.isText = true
  /-- So is its driver. -/
  driver : t.driver = .null ∨ t.driver.isText = true
  /-- The pattern is that of the context, or it is the text and the context is in order. -/
  pattern : t.context.RepeatsTooOften ∨
    ((∀ s, t.context.asText? = some s → ∃ n, Pattern.read {} s = .ok n) ∧
      t.regexp.truthy = true ∧ t.text.RepeatsTooOften)

/-- The patterns of a definition are looked at once everything else is in order. -/
theorem validate_eq {t : TextRule} (name : Value) (field : t.field.isText = true ∧ t.field.truthy = true)
    (text : t.text.isText = true ∧ t.text.truthy = true)
    (context : t.context = .null ∨ t.context.isText = true)
    (driver : t.driver = .null ∨ t.driver.isText = true) :
    t.validate name = (checkPattern "context" name t.context >>= fun _ =>
      if t.regexp.truthy then checkPattern "text" name t.text else .ok ()) := by
  have hfield : kindDefect? "field" false t.field = none :=
    kindDefect?_eq_none_iff.2 (Or.inr field.1)
  have htext : kindDefect? "text" false t.text = none :=
    kindDefect?_eq_none_iff.2 (Or.inr text.1)
  have hcontext : kindDefect? "context" true t.context = none :=
    kindDefect?_eq_none_iff.2 (context.imp_left fun h => ⟨rfl, h⟩)
  have hdriver : kindDefect? "driver" true t.driver = none :=
    kindDefect?_eq_none_iff.2 (driver.imp_left fun h => ⟨rfl, h⟩)
  unfold validate
  rw [hfield, htext, hcontext, hdriver, field.2, text.2]
  rfl

/-- Fields that are not in order are a defect of the rule. -/
theorem fields_of_validate {t : TextRule} {name : Value} {f : Fault}
    (h : t.validate name = .error f) (hf : ¬ ∃ defect, f = .rule defect name) :
    (t.field.isText = true ∧ t.field.truthy = true) ∧
      (t.text.isText = true ∧ t.text.truthy = true) ∧
      (t.context = .null ∨ t.context.isText = true) ∧
      (t.driver = .null ∨ t.driver.isText = true) := by
  unfold validate at h
  dsimp only at h
  have hkinds : List.findSome? id [kindDefect? "field" false t.field,
      kindDefect? "text" false t.text, kindDefect? "context" true t.context,
      kindDefect? "driver" true t.driver] = none := by
    cases hdefect : List.findSome? id [kindDefect? "field" false t.field,
        kindDefect? "text" false t.text, kindDefect? "context" true t.context,
        kindDefect? "driver" true t.driver] with
    | none => rfl
    | some defect =>
        rw [hdefect] at h
        cases h
        exact absurd ⟨defect, rfl⟩ hf
  rw [hkinds] at h
  rw [List.findSome?_eq_none_iff] at hkinds
  simp only [List.mem_cons, List.not_mem_nil, or_false, forall_eq_or_imp, forall_eq, id_eq,
    kindDefect?_eq_none_iff, Bool.false_eq_true, false_and, false_or, true_and] at hkinds
  obtain ⟨hfield, htext, hcontext, hdriver⟩ := hkinds
  refine ⟨⟨hfield, ?_⟩, ⟨htext, ?_⟩, hcontext, hdriver⟩
  · by_contra hempty
    rw [Bool.not_eq_true] at hempty
    rw [hempty] at h
    cases h
    exact hf ⟨_, rfl⟩
  · by_contra hempty
    rw [Bool.not_eq_true] at hempty
    rw [hempty] at h
    cases ht : t.field.truthy <;> rw [ht] at h <;> cases h <;> exact hf ⟨_, rfl⟩

/-- **The one unanswered refusal of a definition** is that of a pattern that asks for too many
repeats. -/
theorem unanswered_validate_iff {t : TextRule} {name : Value} :
    Unanswered (t.validate name) ↔ t.Exceeds := by
  constructor
  · rintro ⟨f, h, hf⟩
    have hdefect : ¬ ∃ defect, f = .rule defect name := by
      rintro ⟨defect, rfl⟩
      exact hf rfl
    obtain ⟨field, text, context, driver⟩ := fields_of_validate h hdefect
    refine ⟨field, text, context, driver, ?_⟩
    rw [validate_eq name field text context driver] at h
    rcases bind_eq_error_iff.1 h with h | ⟨_, hread, h⟩
    · exact Or.inl (repeatsTooOften_of_checkPattern h hf)
    · split at h
      · rename_i hregexp
        exact Or.inr ⟨checkPattern_eq_ok_iff.1 hread, hregexp, repeatsTooOften_of_checkPattern h hf⟩
      · cases h
  · intro h
    refine ⟨.pattern .repetitionLimit, ?_, by decide⟩
    rw [validate_eq name h.field h.text h.context h.driver]
    rcases h.pattern with ⟨s, hs, hread⟩ | ⟨hcontext, hregexp, s, hs, hread⟩
    · rw [checkPattern_of_fault hs hread rfl]
      rfl
    · rw [hregexp, if_pos rfl, checkPattern_of_fault hs hread rfl,
        checkPattern_eq_ok_iff.2 hcontext]
      rfl

end TextRule

/-! ## Validating scripts -/

namespace Json

/-- An integer with too many digits has no written form. -/
theorem plain_writeInteger (n : Int) : Plainly (writeInteger n) := by
  unfold writeInteger
  split
  · exact .ok _
  · exact .error rfl

/-- What cannot be written as a key is so because of its kind or its size. -/
theorem plain_writeKey (v : Value) : Plainly (writeKey v) := by
  cases v with
  | int n =>
      intro f h
      cases hn : writeInteger n with
      | ok s =>
          rw [writeKey, hn] at h
          cases h
      | error f' =>
          rw [writeKey, hn] at h
          cases h
          exact plain_writeInteger n _ hn
  | text | outcome | flag | null | float => exact .ok _
  | _ => exact .error rfl

mutual

/-- What cannot be written is so because of its kind or its size. -/
theorem plain_write : ∀ v, Plainly (write v)
  | .null | .flag _ | .float _ | .text _ | .outcome _ => .ok _
  | .int n => plain_writeInteger n
  | .bytes _ | .date _ | .moment _ | .set _ => .error rfl
  | .list xs => (plain_writeAll xs).bind fun _ _ => .ok _
  | .pair a b => (plain_write a).bind fun _ _ => (plain_write b).bind fun _ _ => .ok _
  | .table es => (plain_writeEntries es).bind fun _ _ => .ok _

/-- So it is for several values. -/
theorem plain_writeAll : ∀ xs, Plainly (writeAll xs)
  | [] => .ok _
  | x :: xs => (plain_write x).bind fun _ _ => (plain_writeAll xs).bind fun _ _ => .ok _

/-- So it is for entries. -/
theorem plain_writeEntries : ∀ es, Plainly (writeEntries es)
  | [] => .ok _
  | (k, v) :: es => (plain_writeKey k).bind fun _ _ =>
      (plain_write v).bind fun _ _ => (plain_writeEntries es).bind fun _ _ => .ok _

end

end Json

/-- A script without a text is reported as such. -/
theorem answered_checkScriptText (l : Language) (script name : Value) :
    Answered (checkScriptText l script name) := by
  unfold checkScriptText
  have hblank : ∀ b : Bool, Answered (if b then (throw (.rule (.emptyScript l.name) name) :
      Except Fault Unit) else pure ()) := by
    intro b
    cases b with
    | false => exact .ok _
    | true => exact .error rfl
  split
  · exact FailsOnly.bind (.ok _) fun b _ => hblank b
  · exact FailsOnly.bind (.ok _) fun b _ => hblank b
  · split
    · exact FailsOnly.bind (.error rfl) fun b _ => hblank b
    · exact FailsOnly.bind (.ok _) fun b _ => hblank b

/-- A process that leaves no answer is at fault itself, or what it has written is no text or has an
integer with too many digits, or the call breaks off, or its interpreter is not there and cannot be
named. -/
theorem Sandbox.answerOf_eq_error {s : Sandbox} {ending : Ending} {f : Fault}
    (h : s.answerOf ending = .error f) :
    (∃ fault, f = .script fault) ∨
      (∃ output complaint digits, ending = .exited 0 output complaint ∧
        Json.parse output = .error (.integerLength digits) ∧ f = .value (.integerLength digits)) ∨
      (∃ fault, ending = .garbled fault ∧ f = .encoding fault) ∨
      (∃ fault, ending = .broken fault ∧ f = .value fault) ∨
      ∃ number cause path, ending = .unavailable number cause path ∧
        s.executable.isSpellable = false ∧ f = .value .integerSize := by
  unfold answerOf at h
  dsimp only at h
  split at h
  · cases h
    exact Or.inl ⟨_, rfl⟩
  · rename_i number cause path
    cases hspell : s.executable.isSpellable with
    | true =>
        rw [Value.spell_of_isSpellable hspell] at h
        cases h
        exact Or.inl ⟨_, rfl⟩
    | false =>
        rw [Value.spell_of_not_isSpellable hspell] at h
        cases h
        exact Or.inr (Or.inr (Or.inr (Or.inr ⟨number, cause, path, rfl, rfl, rfl⟩)))
  · rename_i status output complaint
    split at h
    · cases h
      exact Or.inl ⟨_, rfl⟩
    · rename_i hstatus
      obtain rfl := not_not.1 hstatus
      split at h
      · cases h
      · rename_i digits hparse
        cases h
        exact Or.inr (Or.inl ⟨output, complaint, digits, rfl, hparse, rfl⟩)
      · cases h
        exact Or.inl ⟨_, rfl⟩
  · rename_i fault
    cases h
    exact Or.inr (Or.inr (Or.inl ⟨fault, rfl, rfl⟩))
  · rename_i fault
    cases h
    exact Or.inr (Or.inr (Or.inr (Or.inl ⟨fault, rfl, rfl⟩)))

/-- The call that has a script read breaks off, in a way that is not answered. -/
def Sandbox.BreaksReading (s : Sandbox) (run : Interpreter) (script : Value) : Prop :=
  ∃ i f, s.readCall script = .ok i ∧ run i = .broken f ∧ (Fault.value f).isAnswered = false

/-- An interpreter that does not answer is reported as such, unless the call breaks off. -/
theorem Sandbox.unanswered_readWith_iff {s : Sandbox} {run : Interpreter} {script name : Value} :
    Unanswered (s.readWith run script name) ↔ s.BreaksReading run script := by
  have hcall : Plainly (s.readCall script) := (Json.plain_write _).bind fun _ _ => .ok _
  rw [readWith, Unanswered, hcall.answered.escapes_bind_iff]
  constructor
  · rintro ⟨i, hi, f, hf, hunanswered⟩
    split at hf
    · cases hf
      exact absurd rfl hunanswered
    · rename_i f' notScript hanswer
      cases hf
      rcases answerOf_eq_error hanswer with ⟨fault, h⟩ | ⟨_, _, _, _, _, rfl⟩ | ⟨_, _, rfl⟩ |
        ⟨fault, hbroken, rfl⟩ | ⟨_, _, _, _, _, rfl⟩
      · exact absurd h (notScript fault)
      · exact absurd rfl hunanswered
      · exact absurd rfl hunanswered
      · exact ⟨i, fault, lift_eq_ok_iff.1 hi, hbroken, by simpa using hunanswered⟩
      · exact absurd rfl hunanswered
    · split at hf
      · cases hf
        exact absurd rfl hunanswered
      · cases hf
  · rintro ⟨i, f, hi, hbroken, hunanswered⟩
    refine ⟨i, lift_eq_ok_iff.2 hi, .value f, ?_, by simpa using hunanswered⟩
    rw [hbroken]
    rfl

/-- That nothing is read of a script is answered. -/
theorem isAnswered_of_unread {script : Value} {f : Fault} (h : Python.unread? script = some f) :
    f.isAnswered = true := by
  unfold Python.unread? at h
  split at h
  · cases h
    rfl
  · split at h <;> cases h
    rfl

/-- A script is read, or refused in an answered way, unless the call that has it read breaks off. -/
theorem unanswered_readScript_iff {g : Setting} {l : Language} {script name : Value} :
    Unanswered (readScript g l script name) ↔
      l = .javascript ∧ (g.sandbox l).BreaksReading g.interpreter script := by
  cases l with
  | javascript => simp [readScript, Sandbox.unanswered_readWith_iff]
  | python =>
      refine iff_of_false (FailsOnly.not_escapes ?_) (by simp)
      unfold readScript
      dsimp only
      split
      · rename_i f hdefect
        unfold Python.defect? at hdefect
        -- the only faults that are no defects of the script are those by which it is not read
        split at hdefect
        · rename_i hunread
          cases hdefect
          exact .error (isAnswered_of_unread hunread)
        · split at hdefect
          · cases hdefect
          · split at hdefect <;> cases hdefect
      · exact .ok _
      · rename_i defect hdefect
        exact .error rfl

/-- A rule that is in order up to a pattern that asks for too many repeats, or up to a script whose
reading breaks off. -/
inductive Rule.Exceeds (g : Setting) (r : Rule) : Prop where
  /-- It is a text rule with such a pattern. -/
  | pattern {t : TextRule} (body : r.body = .text t) (exceeds : t.Exceeds)
  /-- It is a script rule, and the call that has the script read breaks off. -/
  | script {script : Value} (body : r.body = .script .javascript script)
      (filled : checkScriptText .javascript script r.name = .ok ())
      (breaks : (g.sandbox .javascript).BreaksReading g.interpreter script)

/-- **The unanswered refusals of a rule** are those of a pattern that asks for too many repeats and
of a script whose reading breaks off. -/
theorem Rule.unanswered_validate_iff {g : Setting} {r : Rule} :
    Unanswered (r.validate g) ↔ r.Exceeds g := by
  unfold validate
  cases hbody : r.body with
  | text t =>
      rw [TextRule.unanswered_validate_iff]
      constructor
      · exact .pattern hbody
      · rintro (⟨hbody', exceeds⟩ | ⟨hbody', _, _⟩)
        · cases hbody.symm.trans hbody'
          exact exceeds
        · cases hbody.symm.trans hbody'
  | script l script =>
      rw [Unanswered, (answered_checkScriptText l script r.name).escapes_bind_iff]
      constructor
      · rintro ⟨_, hfilled, h⟩
        obtain ⟨rfl, hbreaks⟩ := unanswered_readScript_iff.1 h
        exact .script hbody hfilled hbreaks
      · rintro (⟨hbody', _⟩ | ⟨hbody', hfilled, hbreaks⟩)
        · cases hbody.symm.trans hbody'
        · cases hbody.symm.trans hbody'
          exact ⟨(), hfilled, unanswered_readScript_iff.2 ⟨rfl, hbreaks⟩⟩
  | standIn reason =>
      have hrefused : Answered (.error (.rule (.unusable reason) r.name) : Except Fault Unit) :=
        .error rfl
      refine iff_of_false hrefused.not_escapes ?_
      rintro (⟨hbody', _⟩ | ⟨hbody', _, _⟩) <;> cases hbody.symm.trans hbody'
  | generic | probe =>
      have haccepted : Answered (.ok () : Except Fault Unit) := .ok _
      refine iff_of_false haccepted.not_escapes ?_
      rintro (⟨hbody', _⟩ | ⟨hbody', _, _⟩) <;> cases hbody.symm.trans hbody'

end ConfigAudit
