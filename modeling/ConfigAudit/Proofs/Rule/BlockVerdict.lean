/-
# Verdicts on blocks

A text has to be found in all blocks of a configuration, or in one of them; or it must not be found
in any of them, or be missing from one.  Two flags choose between the four, and what passes under
two settings of them fails under the opposite ones.  A comment on blocks that fail quotes the first
lines of some and counts the others.

* `TextRule.AsAsked` : whether the text is found in the blocks that it is asked of;
* `TextRule.asAsked_flip` : opposite flags ask for the opposite;
* `TextRule.Quotes` : a comment accounts for every block that fails;
* `block_verdict` : the verdict on the blocks of a configuration.
-/
import ConfigAudit.Proofs.Rule.PlainText
import ConfigAudit.Proofs.Rule.TextCheck

namespace ConfigAudit

namespace TextRule

variable {r : TextRule} {invert anyBlock : Bool} {found : String → Bool} {blocks : List Block}

/-! ## What is asked of blocks -/

/-- Whether the text is found where it is asked for: in all blocks, or in one if `anyBlock` is set;
with `invert`, it has to be missing there. -/
def AsAsked (invert anyBlock : Bool) (found : String → Bool) (blocks : List Block) : Prop :=
  match anyBlock, invert with
  | false, false => ∀ b ∈ blocks, found b.text = true
  | false, true => ∀ b ∈ blocks, found b.text = false
  | true, false => ∃ b ∈ blocks, found b.text = true
  | true, true => ∃ b ∈ blocks, found b.text = false

/-- Opposite flags ask for the opposite. -/
theorem asAsked_flip :
    AsAsked (!invert) (!anyBlock) found blocks ↔ ¬ AsAsked invert anyBlock found blocks := by
  cases invert <;> cases anyBlock <;> simp [AsAsked]

/-- Blocks are in order if the text is found where it is asked for. -/
theorem complies_iff_asAsked (hinvert : r.invert = .flag invert)
    (hany : r.anyBlock = .flag anyBlock) :
    r.Complies (fun b => Value.equal (.flag (found b.text)) r.invert) blocks ↔
      AsAsked invert anyBlock found blocks := by
  rw [Complies, hinvert, hany]
  cases invert <;> cases anyBlock <;> simp [AsAsked, Value.truthy, Value.equal]

/-! ## Comments -/

/-- A comment quotes the first lines of up to five blocks, in order, and counts the others. -/
def Quotes (complaint : String) (failing : List Block) (comment : Value) : Prop :=
  ∃ shown others, failing = shown ++ others ∧ shown.length ≤ 5 ∧
    (others ≠ [] → shown.length = 5) ∧
    comment = .text (complaint ++ " (block(s): " ++
      Text.join ", " (shown.map fun b => "'" ++ b.header ++ "'") ++
      (if others = [] then "" else " and " ++ toString others.length ++ " more") ++ ")")

/-- A description under a context accounts for all blocks that fail. -/
theorem quotes_describe (hcontext : r.context.truthy = true) (failing : List Block) :
    Quotes (r.complaint r.invert.truthy) failing
      (.text (r.description (failing.map (·.header)))) := by
  refine ⟨failing.take 5, failing.drop 5, (List.take_append_drop 5 failing).symm, ?_, ?_, ?_⟩
  · rw [List.length_take]
    omega
  · intro hothers
    have hlong : 5 < failing.length := by
      by_contra hshort
      exact hothers (List.drop_eq_nil_of_le (by omega))
    rw [List.length_take]
    omega
  · have hothers : (if (failing.map (·.header)).length > shownBlocks then
        " and " ++ toString ((failing.map (·.header)).length - shownBlocks) ++ " more" else "") =
        if failing.drop 5 = [] then "" else
          " and " ++ toString (failing.drop 5).length ++ " more" := by
      rw [List.length_map, shownBlocks, List.length_drop]
      by_cases hlong : failing.length > 5
      · rw [if_pos hlong, if_neg (by rw [List.drop_eq_nil_iff]; omega)]
      · rw [if_neg hlong, if_pos (List.drop_eq_nil_of_le (by omega))]
    rw [description, hcontext, if_pos rfl, describeBlocks, hothers, ← List.map_take, List.map_map,
      shownBlocks]
    simp only [String.append_assoc, Function.comp_def]

end TextRule

/-! ## Verdicts -/

/-- **Verdicts on blocks.**  A text rule whose flags are truth values has a result.  Without any
block it fails.  With blocks it passes exactly if the text is found where it is asked for, the rule
with the opposite flags has the opposite outcome, and under a context the comment on a failure
accounts for all blocks that fail. -/
theorem block_verdict {g : Setting} {rule : Rule} {s : Subject} {configuration : String}
    {r : TextRule} {invert anyBlock : Bool} (h : TextCheck g rule s configuration r)
    (hinvert : r.invert = .flag invert) (hany : r.anyBlock = .flag anyBlock) :
    ∃ blocks, ∃ found : String → Bool, ∃ notes result,
      r.blocks configuration = .ok blocks ∧ (∀ t, r.found t = .ok (found t)) ∧
      rule.check g s = (notes, .ok result) ∧
      (blocks = [] → result.outcome = .nonConforming) ∧
      (blocks ≠ [] →
        (result.outcome = .conforming ∨ result.outcome = .nonConforming) ∧
        (result.outcome = .conforming ↔ TextRule.AsAsked invert anyBlock found blocks) ∧
        (∃ notes' result', Rule.check g { rule with body := .text { r with
            invert := .flag !invert, anyBlock := .flag !anyBlock } } s = (notes', .ok result') ∧
          (result'.outcome = .conforming ↔ result.outcome = .nonConforming) ∧
          (result'.outcome = .nonConforming ↔ result.outcome = .conforming)) ∧
        (r.context.truthy = true → result.outcome = .nonConforming →
          TextRule.Quotes (r.complaint invert) (blocks.filter fun b => found b.text == invert)
            result.comment)) := by
  obtain ⟨blocks, found, notes, result, hblocks, hfound, hcheck, hjudged⟩ := h.reported
  refine ⟨blocks, found, notes, result, hblocks, hfound, hcheck, hjudged.outcome_eq_of_nil,
    fun some => ⟨hjudged.outcome_cases, ?_, ?_, ?_⟩⟩
  · rw [hjudged.conforming_iff some, TextRule.complies_iff_asAsked hinvert hany]
  · obtain ⟨blocks', found', notes', result', hblocks', hfound', hcheck', hjudged'⟩ :=
      (h.withFlags (.flag !invert) (.flag !anyBlock)).reported
    -- the flags play no part in cutting and in searching
    obtain rfl : blocks' = blocks := Except.ok.inj (hblocks'.symm.trans hblocks)
    obtain rfl : found' = found :=
      funext fun t => Except.ok.inj ((hfound' t).symm.trans (hfound t))
    refine ⟨notes', result', hcheck', ?_, ?_⟩
    · rw [hjudged'.conforming_iff some, TextRule.complies_iff_asAsked rfl rfl,
        TextRule.asAsked_flip, hjudged.nonConforming_iff some,
        TextRule.complies_iff_asAsked hinvert hany]
    · rw [hjudged'.nonConforming_iff some, TextRule.complies_iff_asAsked rfl rfl,
        TextRule.asAsked_flip, not_not, hjudged.conforming_iff some,
        TextRule.complies_iff_asAsked hinvert hany]
  · intro hcontext hfails
    have hfailing : (fun b : TextRule.Block => Value.equal (.flag (found b.text)) r.invert) =
        fun b => found b.text == invert := by
      funext b
      rw [hinvert]
      simp [Value.equal]
    have hquotes := TextRule.quotes_describe hcontext
      (blocks.filter fun b => found b.text == invert)
    rw [hinvert] at hquotes
    rw [hjudged.comment_eq some hfails, hfailing]
    exact hquotes

/-- Two interfaces, of which the first one is shut down. -/
def twoInterfaces : String := "interface a\n shutdown\ninterface b\n"

/-- A rule that asks that interfaces are shut down. -/
def interfaceCheck : Rule := ⟨.int 2, .text "ports", .flag true, .text TextRule.interfaceRule⟩

/-- The interface that is not shut down is quoted, and with the opposite flags the rule passes. -/
theorem verdict_of_twoInterfaces :
    TextCheck noInterpreters interfaceCheck (running twoInterfaces) twoInterfaces
      TextRule.interfaceRule ∧
    ∃ notes result, interfaceCheck.check noInterpreters (running twoInterfaces) =
        (notes, .ok result) ∧
      result.outcome = .nonConforming ∧ result.comment.plain =
        "Expected text 'shutdown' not found in running_config (block(s): 'interface b')" ∧
      ∃ notes' result', Rule.check noInterpreters { interfaceCheck with
          body := .text { TextRule.interfaceRule with
            invert := .flag true, anyBlock := .flag true } } (running twoInterfaces) =
          (notes', .ok result') ∧ result'.outcome = .conforming := by
  have hcheck : TextCheck noInterpreters interfaceCheck (running twoInterfaces) twoInterfaces
      TextRule.interfaceRule := {
    body := rfl
    accepted := by
      obtain ⟨_, haccepted⟩ :
          ∃ u, interfaceCheck.validate noInterpreters = .ok u :=
        exists_eq_ok_of_isOk (by decide +kernel)
      exact haccepted
    on := rfl
    due := rfl
    named := rfl
    concerned := rfl
    held := bind_eq_ok_iff.2
      ⟨_, (plainCheck_lineRule (by decide : "shutdown" ≠ "") false twoInterfaces).held, rfl⟩ }
  refine ⟨hcheck, ?_⟩
  obtain ⟨blocks, found, notes, result, hblocks, _, hresult, _, hsome⟩ :=
    block_verdict hcheck rfl rfl
  have hcut : (TextRule.interfaceRule.blocks twoInterfaces).toOption.map List.length = some 2 := by
    decide +kernel
  have hvalue : (interfaceCheck.check noInterpreters (running twoInterfaces)).2.toOption.map
      (fun x => (x.outcome, x.comment.plain)) = some (.nonConforming,
        "Expected text 'shutdown' not found in running_config (block(s): 'interface b')") := by
    decide +kernel
  rw [hblocks] at hcut
  rw [hresult] at hvalue
  obtain ⟨houtcome, hcomment⟩ := Prod.mk.inj (Option.some.inj hvalue)
  have hfilled : blocks ≠ [] := by
    rintro rfl
    cases hcut
  obtain ⟨_, _, ⟨notes', result', hflipped, hflip, _⟩, _⟩ := hsome hfilled
  exact ⟨notes, result, hresult, houtcome, hcomment, notes', result', hflipped,
    hflip.2 houtcome⟩

end ConfigAudit
