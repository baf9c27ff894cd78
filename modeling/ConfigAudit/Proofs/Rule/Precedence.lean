/-
# The order of decisions

A rule is decided by its switch, then by the exemptions of the device, and only then by its
logic, which may be anything.  What the logic says never looks like one of the first two
decisions, so that each of them can be read off the result.

* `Subject.Excused` : when a device is excused from a rule;
* `Logic.isVerdict_of_judge` : logic never says that a rule is switched off or excused;
* `contract_precedence` : which decision is made when, and what it depends on.
-/
import ConfigAudit.Proofs.Chain
import ConfigAudit.Proofs.Exemption.Lookup
import ConfigAudit.Rule.Check

namespace ConfigAudit

/-! ## Excuses -/

/-- A device is excused from a rule if the register has an exemption for the two of them that
does not end, or ends strictly after the instant. -/
def Subject.Excused (s : Subject) (rule : Int) (now : Moment) : Prop :=
  ∃ r e, s.register = some r ∧ r.find? (.int rule) (.int s.device.id) = some e ∧
    ∀ m, e.expiry = some m → now.instant < m.instant

/-- An exemption holds if it has no end, or its end lies strictly ahead. -/
theorem Exemption.isActive_iff (e : Exemption) (now : Moment) :
    e.isActive now = true ↔ ∀ m, e.expiry = some m → now.instant < m.instant := by
  unfold isActive
  cases e.expiry with
  | none => simp
  | some m => simp [Moment.isBefore]

/-- A register excuses a pair by the exemption that it has for the pair. -/
theorem Register.isExempted_iff (r : Register) (rule device : Value) (now : Moment) :
    r.isExempted rule device now = true ↔
      ∃ e, r.find? rule device = some e ∧ ∀ m, e.expiry = some m → now.instant < m.instant := by
  unfold isExempted
  rw [Option.any_eq_true]
  constructor
  · rintro ⟨e, he, active⟩
    exact ⟨e, he, (e.isActive_iff now).1 active⟩
  · rintro ⟨e, he, ahead⟩
    exact ⟨e, he, (e.isActive_iff now).2 ahead⟩

namespace Subject

variable {s : Subject} {n : Int} {now : Moment}

/-- Whether a device is excused from a rule with an integer id can always be told. -/
theorem exists_isExempted (s : Subject) (n : Int) (now : Moment) :
    ∃ b, s.isExempted (.int n) now = .ok b ∧ (b = true ↔ s.Excused n now) := by
  unfold isExempted Excused
  cases hr : s.register with
  | none => exact ⟨false, rfl, by simp⟩
  | some r =>
      refine ⟨r.isExempted (.int n) (.int s.device.id) now, rfl, ?_⟩
      rw [r.isExempted_iff]
      constructor
      · rintro ⟨e, he, ahead⟩
        exact ⟨r, e, rfl, he, ahead⟩
      · rintro ⟨r', e, hr', he, ahead⟩
        cases hr'
        exact ⟨e, he, ahead⟩

/-- An excused device is found to be excused. -/
theorem isExempted_of_excused (h : s.Excused n now) : s.isExempted (.int n) now = .ok true := by
  obtain ⟨b, hb, hiff⟩ := s.exists_isExempted n now
  rw [hb, hiff.2 h]

/-- A device that is not excused is found not to be. -/
theorem isExempted_of_not_excused (h : ¬ s.Excused n now) :
    s.isExempted (.int n) now = .ok false := by
  obtain ⟨b, hb, hiff⟩ := s.exists_isExempted n now
  rw [hb, Bool.eq_false_iff.2 fun hbt => h (hiff.1 hbt)]

/-- Nobody is excused by the empty register. -/
theorem not_excused_empty (d : Device) (n : Int) (now : Moment) :
    ¬ Excused ⟨d, some .empty⟩ n now := by
  rintro ⟨r, e, hr, he, _⟩
  cases hr
  cases he

/-- Changes of a register that concern other pairs excuse nobody and end no excuse. -/
theorem excused_iff_of_elsewhere {d : Device} {r r' : Register}
    (h : Relation.ReflTransGen (Register.Elsewhere n d.id) r r') :
    Excused ⟨d, some r'⟩ n now ↔ Excused ⟨d, some r⟩ n now := by
  have hfind := Register.find?_eq_of_elsewhere h
  constructor
  · rintro ⟨x, e, hx, he, ahead⟩
    cases hx
    exact ⟨r, e, rfl, hfind ▸ he, ahead⟩
  · rintro ⟨x, e, hx, he, ahead⟩
    cases hx
    exact ⟨r', e, rfl, hfind.symm ▸ he, ahead⟩

end Subject

/-! ## What logic can say -/

/-- What is accepted is the verdict that a value is equal to. -/
theorem verdict?_of_acceptVerdict {tag : String} {v : Value} {w : Verdict}
    (h : acceptVerdict tag v = .ok w) : verdict? v = some w := by
  unfold acceptVerdict at h
  cases hw : verdict? v with
  | none =>
      rw [hw] at h
      dsimp only at h
      split at h
      · cases h
      · obtain ⟨_, _, h⟩ := bind_eq_ok_iff.1 h
        cases h
  | some x =>
      rw [hw] at h
      dsimp only at h
      split at h
      · rw [Except.ok.inj h]
      · obtain ⟨_, _, h⟩ := bind_eq_ok_iff.1 h
        rw [Except.ok.inj h]

/-- Only verdicts are accepted. -/
theorem isVerdict_of_acceptVerdict {tag : String} {v : Value} {w : Verdict}
    (h : acceptVerdict tag v = .ok w) : w.outcome.isVerdict = true := by
  obtain ⟨o, ho, rfl⟩ := Option.map_eq_some_iff.1 (verdict?_of_acceptVerdict h)
  have hmem : o ∈ verdicts := List.mem_of_find?_eq_some ho
  exact (List.mem_filter.1 hmem).2

/-- Whatever logic does, an outcome that it reports is a verdict. -/
theorem Logic.isVerdict_of_judge {l : Logic} {d : Device} {notes : Journal} {w : Verdict}
    {comment : Value} (h : l.judge d = (notes, .ok (w, comment))) : w.outcome.isVerdict = true := by
  unfold judge at h
  split at h
  · cases h
  · split at h
    · cases h
      rfl
    · split at h
      · cases h
      · rename_i v hv
        have hsnd := congrArg Prod.snd h
        obtain ⟨⟨verdict, c⟩, hparts, hrest⟩ := bind_eq_ok_iff.1 hsnd
        obtain ⟨o', haccept, hpure⟩ := bind_eq_ok_iff.1 hrest
        cases hpure
        exact isVerdict_of_acceptVerdict haccept

/-! ## The decisions -/

section Decisions

variable {h : Header} {l : Logic} {s : Subject} {n : Int} {now : Moment}

/-- A rule that is switched on has no result if one cannot tell whether the device is excused. -/
theorem contract_of_untold {f : ValueFault} (on : h.enabled.truthy = true)
    (untold : s.isExempted h.id now = .error f) :
    contract h l s now = ([], .error (.value f)) := by
  unfold contract
  rw [untold]
  simp [on]

/-- A device that is found to be excused from a rule that is switched on is not asked about. -/
theorem contract_of_exempted (on : h.enabled.truthy = true)
    (exempted : s.isExempted h.id now = .ok true) :
    contract h l s now = ([], .ok (h.result s.device .exempted .null)) := by
  unfold contract
  rw [exempted]
  simp [on]

/-- If the id of the rule is an integer, the register says which devices these are. -/
theorem contract_of_excused (hid : h.id = .int n) (on : h.enabled.truthy = true)
    (hex : s.Excused n now) :
    contract h l s now = ([], .ok (h.result s.device .exempted .null)) :=
  contract_of_exempted on (hid ▸ Subject.isExempted_of_excused hex)

/-- What becomes of a rule that is switched on, on a device that is not excused. -/
def judged (h : Header) (l : Logic) (d : Device) : Checked :=
  match l.judge d with
  | (notes, .ok (v, comment)) =>
    (notes, .ok { h.result d v.outcome comment with spelled := v.spelled })
  | (notes, .error f) => match failureNote h d f with
    | .ok note => (notes ++ [note], .ok (h.result d .error (.text (failureComment f))))
    | .error g => (notes, .error (.value g))

/-- A rule that is switched on is decided by its logic on a device that is found not to be
excused. -/
theorem contract_eq_judged (on : h.enabled.truthy = true) (due : s.isExempted h.id now = .ok false) :
    contract h l s now = judged h l s.device := by
  unfold contract judged
  rw [due, on]
  rcases l.judge s.device with ⟨notes, f | ⟨v, comment⟩⟩
  · rfl
  · rfl

/-- Only then the logic of a rule decides, and the register has no more part in it. -/
theorem contract_of_not_excused (hid : h.id = .int n) (on : h.enabled.truthy = true)
    (hex : ¬ s.Excused n now) : contract h l s now = judged h l s.device :=
  contract_eq_judged on (hid ▸ Subject.isExempted_of_not_excused hex)

/-- Neither a verdict nor an error looks like a decision that was made before the logic. -/
theorem Outcome.ne_of_isVerdict_or_error {o : Outcome} (ho : o.isVerdict = true ∨ o = .error) :
    o ≠ .disabled ∧ o ≠ .exempted := by
  cases o <;> simp [isVerdict] at ho ⊢

/-- What logic says never looks like a decision that was made before it. -/
theorem outcome_of_judged {d : Device} {result : CheckResult} (hj : (judged h l d).2 = .ok result) :
    result.outcome ≠ .disabled ∧ result.outcome ≠ .exempted := by
  unfold judged at hj
  split at hj
  · rename_i notes v comment hjudge
    cases hj
    exact Outcome.ne_of_isVerdict_or_error (Or.inl (Logic.isVerdict_of_judge hjudge))
  · split at hj
    · cases hj
      exact Outcome.ne_of_isVerdict_or_error (Or.inr rfl)
    · cases hj

/-- Logic leaves no result exactly if it fails, and the rule or the device cannot be named. -/
theorem judged_eq_error_iff {d : Device} :
    (∃ notes f, judged h l d = (notes, .error f)) ↔
      (∃ notes f, l.judge d = (notes, .error f)) ∧ areNamed h.name d = false := by
  unfold judged
  rcases hj : l.judge d with ⟨notes, f | ⟨v, comment⟩⟩
  · cases named : areNamed h.name d with
    | true => simp [failureNote, namingNote_of_areNamed named]
    | false => simp [failureNote, namingNote_of_not_areNamed named]
  · simp

end Decisions

/-! ## Rules -/

namespace Rule

variable {g : Setting} {r : Rule} {d : Device} {t : TextRule} {language : Language} {script : Value}

/-- Text rules are not of the kind whose checks crash. -/
theorem sane_of_text (body : r.body = .text t) : r.body ≠ .probe .crashing := by
  rw [body]
  exact nofun

/-- Nor are script rules. -/
theorem sane_of_script (body : r.body = .script language script) : r.body ≠ .probe .crashing := by
  rw [body]
  exact nofun

/-- A text rule concerns the devices of its driver. -/
theorem concerns_of_text (body : r.body = .text t) :
    (r.logic g).concerns d = .ok (.flag (t.concerns d)) := by
  simp only [logic, concerns, body]

/-- A script rule concerns all devices. -/
theorem concerns_of_script (body : r.body = .script language script) :
    (r.logic g).concerns d = .ok (.flag true) := by
  simp only [logic, concerns, body]

/-- The logic of a text rule is what its definition says. -/
theorem evaluate_of_text (body : r.body = .text t) :
    (r.logic g).evaluate d = t.evaluate r.name d := by
  simp only [logic, evaluate, body]

/-- The logic of a script rule is what its script says. -/
theorem evaluate_of_script (body : r.body = .script language script) :
    (r.logic g).evaluate d = evaluateScript g language script r.name d := by
  simp only [logic, evaluate, body]

end Rule

/-- Every kind of rules keeps to the order, but for the one whose checks crash. -/
theorem Rule.check_eq_contract (g : Setting) {r : Rule} (s : Subject)
    (sane : r.body ≠ .probe .crashing) :
    r.check g s = contract r.header (r.logic g) s g.now := by
  unfold check
  split
  · rename_i crash
    exact absurd crash sane
  · rfl

/-- Whether a check comes to a result with an outcome. -/
def Checked.Reports (c : Checked) (o : Outcome) : Prop :=
  ∃ result, c.2 = .ok result ∧ result.outcome = o

/-- A check with a result reports its outcome. -/
theorem reports_iff {notes : Journal} {result : CheckResult} {o : Outcome} :
    Checked.Reports (notes, .ok result) o ↔ result.outcome = o := by
  simp [Checked.Reports]

/-- **The order of decisions.**  A rule with an integer id, whatever its logic is, says that it is
switched off exactly if it is, and that a device is excused exactly if the rule is switched on and
the register has an exemption for the pair that holds; in both cases there is a result without a
comment, and no note, and any other logic would have given the same.  Otherwise the register might
as well be empty.  In no case do changes of the register that concern other pairs make a
difference.  And there is a result unless logic fails and the rule or the device cannot be
named. -/
theorem contract_precedence (n : Int) (name enabled : Value) (l : Logic) (d : Device)
    (register : Option Register) (now : Moment) :
    let h : Header := ⟨.int n, name, enabled⟩
    let c : Checked := contract h l ⟨d, register⟩ now
    (c.Reports .disabled ↔ enabled.truthy = false) ∧
    (c.Reports .exempted ↔ enabled.truthy = true ∧ Subject.Excused ⟨d, register⟩ n now) ∧
    (c.Reports .disabled ∨ c.Reports .exempted → ∃ result, c = ([], .ok result) ∧
      result.comment = .null ∧ ∀ l', contract h l' ⟨d, register⟩ now = c) ∧
    (¬ c.Reports .disabled → ¬ c.Reports .exempted →
      contract h l ⟨d, some .empty⟩ now = c) ∧
    (∀ r r', register = some r → Relation.ReflTransGen (Register.Elsewhere n d.id) r r' →
      contract h l ⟨d, some r'⟩ now = c) ∧
    ((∃ notes f, c = (notes, .error f)) ↔ enabled.truthy = true ∧
      ¬ Subject.Excused ⟨d, register⟩ n now ∧ (∃ notes f, l.judge d = (notes, .error f)) ∧
        areNamed name d = false) := by
  intro h
  rcases Bool.eq_false_or_eq_true enabled.truthy with on | off
  · by_cases hex : Subject.Excused ⟨d, register⟩ n now
    · -- excused: no logic is asked
      have hall : ∀ l' s, s.Excused n now → s.device = d →
          contract h l' s now = ([], .ok (h.result d .exempted .null)) := by
        rintro l' s hs rfl
        exact contract_of_excused rfl on hs
      intro c
      have hc : c = ([], .ok (h.result d .exempted .null)) := hall l _ hex rfl
      rw [hc, reports_iff, reports_iff]
      refine ⟨?_, ?_, ?_, ?_, ?_, ?_⟩
      · simp [Header.result, on]
      · simp [Header.result, on, hex]
      · intro _
        exact ⟨_, rfl, rfl, fun l' => hall l' _ hex rfl⟩
      · intro _ hne
        exact absurd rfl hne
      · rintro r r' rfl helse
        exact hall l _ ((Subject.excused_iff_of_elsewhere helse).2 hex) rfl
      · simp [hex]
    · -- not excused: the logic decides, and the register has no part in it
      have hall : ∀ s, ¬ s.Excused n now → s.device = d → contract h l s now = judged h l d := by
        rintro s hs rfl
        exact contract_of_not_excused rfl on hs
      intro c
      have hc : c = judged h l d := hall _ hex rfl
      have hnot : ∀ o, o = .disabled ∨ o = .exempted → ¬ (judged h l d).Reports o := by
        rintro o ho ⟨result, hresult, rfl⟩
        obtain ⟨hdis, hexe⟩ := outcome_of_judged hresult
        exact ho.elim hdis hexe
      rw [hc]
      refine ⟨?_, ?_, ?_, ?_, ?_, ?_⟩
      · simp [hnot, on]
      · simp [hnot, hex]
      · rintro (hd | he)
        · exact absurd hd (hnot _ (Or.inl rfl))
        · exact absurd he (hnot _ (Or.inr rfl))
      · intro _ _
        exact hall _ (Subject.not_excused_empty d n now) rfl
      · rintro r r' rfl helse
        exact hall _ (fun h' => hex ((Subject.excused_iff_of_elsewhere helse).1 h')) rfl
      · rw [judged_eq_error_iff]
        exact ⟨fun hfails => ⟨on, hex, hfails⟩, fun hfails => hfails.2.2⟩
  · -- switched off: nothing else is looked at
    have hall : ∀ l' s, s.device = d →
        contract h l' s now = ([], .ok (h.result d .disabled .null)) := by
      rintro l' s rfl
      exact contract_of_disabled h l' s now off
    intro c
    have hc : c = ([], .ok (h.result d .disabled .null)) := hall l _ rfl
    rw [hc, reports_iff, reports_iff]
    refine ⟨?_, ?_, ?_, ?_, ?_, ?_⟩
    · simp [Header.result, off]
    · simp [Header.result, off]
    · intro _
      exact ⟨_, rfl, rfl, fun l' => hall l' _ rfl⟩
    · intro hne
      exact absurd rfl hne
    · rintro r r' rfl helse
      exact hall l _ rfl
    · simp [off]

end ConfigAudit
