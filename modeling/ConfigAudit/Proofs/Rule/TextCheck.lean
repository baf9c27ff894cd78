/-
# Checks of text rules

A text rule that is accepted answers every question that a check asks: its configuration is cut
into blocks, and each block is searched.  So the check comes to a verdict, which depends only on
which blocks fail.

* `TextRule.Usable` : what an accepted definition can be relied on for;
* `TextRule.Judged` : the verdict on blocks of which some fail;
* `TextCheck` : a text rule is due on a device that has a configuration;
* `TextCheck.reported` : what is reported.
-/
import ConfigAudit.Proofs.Pattern.Flags
import ConfigAudit.Proofs.Policy.Answered
import ConfigAudit.Proofs.Rule.Blocks
import ConfigAudit.Proofs.Rule.Verdict
import ConfigAudit.Rule.Validate

namespace ConfigAudit

namespace TextRule

variable {r : TextRule}

/-! ## Definitions that are accepted -/

/-- What a definition can be relied on for: its field is a text, its context is a pattern, if it has
one, and its text is a text, and a pattern if it has to be one. -/
structure Usable (r : TextRule) : Prop where
  /-- The field. -/
  field : r.field.isText = true
  /-- The context. -/
  context : r.context = .null ∨
    ∃ pattern n, r.context.asText? = some pattern ∧ Pattern.read {} pattern = .ok n
  /-- The text. -/
  text : ∃ s, r.text.asText? = some s ∧
    (r.regexp.truthy = true → ∃ n, Pattern.read {} s = .ok n)

/-- A definition that is accepted has all its fields in order. -/
theorem fields_of_accepted {name : Value} (h : r.validate name = .ok ()) :
    (r.field.isText = true ∧ r.field.truthy = true) ∧
      (r.text.isText = true ∧ r.text.truthy = true) ∧
      (r.context = .null ∨ r.context.isText = true) ∧
      (r.driver = .null ∨ r.driver.isText = true) := by
  unfold validate at h
  dsimp only at h
  cases hkinds : List.findSome? id [kindDefect? "field" false r.field,
      kindDefect? "text" false r.text, kindDefect? "context" true r.context,
      kindDefect? "driver" true r.driver] with
  | some defect =>
      rw [hkinds] at h
      cases h
  | none =>
      rw [hkinds] at h
      rw [List.findSome?_eq_none_iff] at hkinds
      simp only [List.mem_cons, List.not_mem_nil, or_false, forall_eq_or_imp, forall_eq, id_eq,
        kindDefect?_eq_none_iff, Bool.false_eq_true, false_and, false_or, true_and] at hkinds
      obtain ⟨hfield, htext, hcontext, hdriver⟩ := hkinds
      cases hf : r.field.truthy <;> cases ht : r.text.truthy <;> rw [hf, ht] at h
      · cases h
      · cases h
      · cases h
      · exact ⟨⟨hfield, rfl⟩, ⟨htext, rfl⟩, hcontext, hdriver⟩

/-- A definition that is accepted can be relied on. -/
theorem usable_of_accepted {name : Value} (h : r.validate name = .ok ()) : r.Usable := by
  obtain ⟨field, text, context, driver⟩ := fields_of_accepted h
  rw [validate_eq name field text context driver] at h
  obtain ⟨_, hcontext, htext⟩ := bind_eq_ok_iff.1 h
  refine ⟨field.1, context.imp_right fun hkind => ?_, ?_⟩
  · obtain ⟨pattern, hpattern⟩ := Option.isSome_iff_exists.1 hkind
    obtain ⟨n, hn⟩ := checkPattern_eq_ok_iff.1 hcontext pattern hpattern
    exact ⟨pattern, n, hpattern, hn⟩
  · obtain ⟨s, hs⟩ := Option.isSome_iff_exists.1 text.1
    refine ⟨s, hs, fun hregexp => ?_⟩
    rw [if_pos hregexp] at htext
    exact checkPattern_eq_ok_iff.1 htext s hs

namespace Usable

/-- What is wrong with blocks can be said. -/
theorem describe_eq (h : r.Usable) (headers : List String) :
    r.describe headers = .ok (r.description headers) := by
  obtain ⟨s, hs, _⟩ := h.text
  have htext : r.text.isText = true := Option.isSome_iff_exists.2 ⟨s, hs⟩
  rw [describe, Value.isSpellable_of_isText htext, Value.isSpellable_of_isText h.field]
  rfl

/-- The context can be quoted. -/
theorem spell_context (h : r.Usable) : r.context.spell = .ok r.context.plain := by
  refine Value.spell_of_isSpellable ?_
  rcases h.context with hnull | ⟨pattern, _, hpattern, _⟩
  · rw [hnull]
    rfl
  · exact Value.isSpellable_of_isText (Option.isSome_iff_exists.2 ⟨pattern, hpattern⟩)

/-- Every configuration is cut into blocks. -/
theorem exists_blocks (h : r.Usable) (configuration : String) :
    ∃ blocks, r.blocks configuration = .ok blocks := by
  cases hset : r.context.truthy with
  | false => exact ⟨_, blocks_of_no_context hset configuration⟩
  | true =>
      rcases h.context with hnull | ⟨pattern, n, hpattern, hread⟩
      · rw [hnull] at hset
        cases hset
      · exact ⟨_, blocks_of_context hset hpattern hread configuration⟩

/-- Every text is searched: a pattern that is accepted can also be read with the flags that it is
used with. -/
theorem exists_matches (h : r.Usable) :
    ∃ found : String → Bool, ∀ s, r.found s = .ok (found s) := by
  suffices hfound : ∀ s, ∃ b, r.found s = .ok b from Classical.skolem.1 hfound
  intro s
  obtain ⟨t, ht, hpattern⟩ := h.text
  unfold found
  dsimp only
  split
  · rename_i hregexp
    obtain ⟨n, hn⟩ := hpattern hregexp
    obtain ⟨n', hn'⟩ := Pattern.exists_read_of_alike
      (g := { multiline := true, dotAll := r.matchAll.truthy }) ⟨_, _, rfl⟩ hn
    rw [readPattern_of_asText? ht hn']
    exact ⟨_, rfl⟩
  · split
    · exact ⟨_, rfl⟩
    · rw [ht]
      exact ⟨_, rfl⟩

end Usable

/-! ## Verdicts on blocks -/

/-- Whether blocks of which some fail are in order: one that does not fail is enough, or none may
fail. -/
def Complies (r : TextRule) (failing : Block → Bool) (blocks : List Block) : Prop :=
  if r.anyBlock.truthy then ∃ b ∈ blocks, failing b = false else ∀ b ∈ blocks, failing b = false

/-- The verdict on blocks of which some fail, with a comment. -/
inductive Judged (r : TextRule) (failing : Block → Bool) (blocks : List Block) :
    Outcome → Value → Prop
  /-- There is no block. -/
  | unmet (none : blocks = []) : Judged r failing blocks .nonConforming
      (.text ("No configuration block matches context '" ++ r.context.plain ++ "'"))
  /-- The blocks are in order. -/
  | passed (some : blocks ≠ []) (complies : r.Complies failing blocks) :
      Judged r failing blocks .conforming .null
  /-- They are not. -/
  | failed (some : blocks ≠ []) (fails : ¬ r.Complies failing blocks) :
      Judged r failing blocks .nonConforming
        (.text (r.description ((blocks.filter failing).map (·.header))))

/-- Blocks are judged by which of them fail. -/
theorem judge_judged (usable : r.Usable) {failing : Block → Bool} {blocks : List Block}
    (some : blocks ≠ []) (h : ∀ b ∈ blocks, r.fails b.text = .ok (failing b)) :
    ∃ o comment, r.judge blocks = .ok (.pair (.outcome o) comment) ∧
      r.Judged failing blocks o comment := by
  have hconforming : (if r.anyBlock.truthy then
      decide ((blocks.filter failing).length < blocks.length)
      else (blocks.filter failing).isEmpty) = true ↔ r.Complies failing blocks := by
    unfold Complies
    cases r.anyBlock.truthy with
    | true => simp [List.length_filter_lt_length_iff_exists]
    | false => simp [List.isEmpty_iff]
  unfold judge
  rw [filterM_eq_ok h]
  by_cases hcomplies : r.Complies failing blocks
  · refine ⟨_, _, ?_, .passed some hcomplies⟩
    change (if (if r.anyBlock.truthy then _ else _) = true then _ else _) = _
    rw [if_pos (hconforming.2 hcomplies)]
    rfl
  · refine ⟨_, _, ?_, .failed some hcomplies⟩
    change (if (if r.anyBlock.truthy then _ else _) = true then _ else _) = _
    rw [if_neg (mt hconforming.1 hcomplies), usable.describe_eq]
    rfl

namespace Judged

variable {failing : Block → Bool} {blocks : List Block} {o : Outcome} {comment : Value}

/-- A verdict has one of two outcomes. -/
theorem outcome_cases (h : r.Judged failing blocks o comment) :
    o = .conforming ∨ o = .nonConforming := by
  cases h with
  | passed => exact Or.inl rfl
  | unmet | failed => exact Or.inr rfl

/-- Without blocks a check fails. -/
theorem outcome_eq_of_nil (h : r.Judged failing blocks o comment) (none : blocks = []) :
    o = .nonConforming := by
  cases h with
  | unmet => rfl
  | passed some | failed some => exact absurd none some

/-- Blocks pass exactly if they are in order. -/
theorem conforming_iff (h : r.Judged failing blocks o comment) (some : blocks ≠ []) :
    o = .conforming ↔ r.Complies failing blocks := by
  cases h with
  | unmet none => exact absurd none some
  | passed _ complies => exact iff_of_true rfl complies
  | failed _ fails => exact iff_of_false nofun fails

/-- Blocks fail exactly if they are not in order. -/
theorem nonConforming_iff (h : r.Judged failing blocks o comment) (some : blocks ≠ []) :
    o = .nonConforming ↔ ¬ r.Complies failing blocks := by
  rw [← h.conforming_iff some]
  rcases h.outcome_cases with rfl | rfl <;> decide

/-- A single block passes exactly if it does not fail. -/
theorem conforming_singleton_iff {b : Block} (h : r.Judged failing [b] o comment) :
    o = .conforming ↔ failing b = false := by
  rw [h.conforming_iff (List.cons_ne_nil b []), Complies]
  split <;> simp

/-- The comment on blocks that fail describes them. -/
theorem comment_eq (h : r.Judged failing blocks o comment) (some : blocks ≠ [])
    (fails : o = .nonConforming) :
    comment = .text (r.description ((blocks.filter failing).map (·.header))) := by
  cases h with
  | unmet none => exact absurd none some
  | passed => cases fails
  | failed => rfl

end Judged

end TextRule

/-! ## What is reported -/

/-- A rule that is accepted, is switched on and concerns a device that is not exempted looks into
the configuration of the device. -/
structure TextCheck (g : Setting) (rule : Rule) (s : Subject) (configuration : String)
    (r : TextRule) : Prop where
  /-- The rule is a text rule. -/
  body : rule.body = .text r
  /-- It is accepted. -/
  accepted : rule.validate g = .ok ()
  /-- It is switched on. -/
  on : rule.enabled.truthy = true
  /-- The device is not exempted. -/
  due : s.isExempted rule.id g.now = .ok false
  /-- The rule and the device can be named. -/
  named : areNamed rule.name s.device = true
  /-- The device is concerned. -/
  concerned : r.concerns s.device = true
  /-- The configuration. -/
  held : r.configuration s.device = .ok configuration

namespace TextCheck

variable {g : Setting} {rule : Rule} {s : Subject} {configuration : String} {r : TextRule}

/-- The definition can be relied on. -/
theorem usable (h : TextCheck g rule s configuration r) : r.Usable := by
  have haccepted := h.accepted
  rw [Rule.validate, h.body] at haccepted
  exact TextRule.usable_of_accepted haccepted

/-- Other flags make no difference to what is asked before blocks are judged. -/
theorem withFlags (h : TextCheck g rule s configuration r) (invert anyBlock : Value) :
    TextCheck g
      { rule with body := .text { r with invert := invert, anyBlock := anyBlock } } s configuration
      { r with invert := invert, anyBlock := anyBlock } where
  body := rfl
  accepted := by
    have haccepted := h.accepted
    rw [Rule.validate, h.body] at haccepted
    exact haccepted
  on := h.on
  due := h.due
  named := h.named
  concerned := h.concerned
  held := h.held

/-- **What is reported.**  The configuration is cut into blocks, each block is searched, and the
result is the verdict on the blocks that fail. -/
theorem reported (h : TextCheck g rule s configuration r) :
    ∃ blocks, ∃ found : String → Bool, ∃ notes result, r.blocks configuration = .ok blocks ∧
      (∀ t, r.found t = .ok (found t)) ∧ rule.check g s = (notes, .ok result) ∧
      r.Judged (fun b => Value.equal (.flag (found b.text)) r.invert) blocks result.outcome
        result.comment := by
  obtain ⟨blocks, hblocks⟩ := h.usable.exists_blocks configuration
  obtain ⟨found, hfound⟩ := h.usable.exists_matches
  have hchain : (r.configuration s.device >>= r.blocks) = .ok blocks := by
    rw [h.held]
    exact hblocks
  obtain ⟨o, comment, hverdict, hjudged⟩ : ∃ o comment,
      (rule.evaluate g s.device).2 = .ok (.pair (.outcome o) comment) ∧
      r.Judged (fun b => Value.equal (.flag (found b.text)) r.invert) blocks o comment := by
    rw [Rule.evaluate, h.body]
    dsimp only
    rw [TextRule.evaluate, hchain]
    cases hcut : blocks with
    | nil =>
        -- nothing is searched
        refine ⟨_, _, ?_, .unmet rfl⟩
        dsimp only
        rw [h.usable.spell_context]
        rfl
    | cons b rest =>
        dsimp only
        rw [TextRule.checkingNote, namingNote_of_areNamed h.named]
        refine TextRule.judge_judged h.usable (List.cons_ne_nil b rest) fun b _ => ?_
        rw [TextRule.fails, hfound]
        rfl
  have hconcerns : (rule.logic g).concerns s.device = .ok (.flag true) := by
    rw [Rule.concerns_of_text h.body, h.concerned]
  have hown : o ∈ [.notApplicable, .conforming, .nonConforming] := by
    rcases hjudged.outcome_cases with rfl | rfl <;> decide
  have hsays : (rule.logic g).Says s.device o comment :=
    .verdict hconcerns rfl hverdict rfl hown
  obtain ⟨notes, hcheck⟩ := Rule.check_of_says (Rule.sane_of_text h.body) h.on h.due hsays
  exact ⟨blocks, found, notes, _, hblocks, hfound, hcheck, hjudged⟩

end TextCheck

end ConfigAudit
