/-
# Lines that are printed

The command prints the text of each result and a summary, each with a line feed behind it.  Names
and comments go into these texts as they are, so a result fills one line exactly if none of them
has the end of a line.  A text rule that fails quotes the text that it looks for and the name of the
field, and these may have line ends; the first lines of blocks, which it quotes too, never have one.

* `CheckResult.Undivided` : results that fill one line;
* `Report.undivided_summaryLine` : the summary does;
* `Report.splitAt_page_iff`, `Report.splitLines_page_iff` : when a report has a line for each result;
* `TextRule.Judged.undivided_iff` : the comments of text rules;
* `Command.lines_printed_iff` : what the lines of the output are.
-/
import ConfigAudit.Proofs.Command.Audit
import ConfigAudit.Proofs.Rule.TextCheck
import ConfigAudit.Proofs.Text.Undivided

namespace ConfigAudit

open Text (Undivided OneLine undivided_append undivided_of_oneLine undivided_join oneLine_toString
  oneLine_strip)

/-! ## Results -/

/-- A result of which everything that is shown is undivided: the names of the device and the rule,
and the comment if there is one. -/
structure CheckResult.Undivided (isEnd : Char → Bool) (x : CheckResult) : Prop where
  /-- The name of the device. -/
  device : Text.Undivided isEnd x.deviceName.plain
  /-- The name of the rule. -/
  rule : Text.Undivided isEnd x.ruleName.plain
  /-- The comment, if it is shown. -/
  comment : x.comment.truthy = true → Text.Undivided isEnd x.comment.plain

/-- The words that results, summaries and comments are put together with. -/
def wording : List String :=
  ["DISABLED", "EXEMPTED", "NOT_APPLICABLE", "CONFORMING", "NON_CONFORMING", "ERROR",
    "", " / ", ": ", " (", ")", "Summary: ", ", ", "=", "'", " and ", " more", "pattern", "text",
    "Forbidden ", "Expected ", " '", "' found in ", "' not found in ", " (block(s): ",
    "No configuration block matches context '"]

/-- None of them has the end of a line. -/
theorem oneLine_wording : ∀ s ∈ wording, OneLine s.toList := by decide +kernel

section Ends

variable {isEnd : Char → Bool} (ends : ∀ c, isEnd c = true → Text.isLineEnd c = true)

include ends

/-- Every word of the wording is undivided. -/
theorem undivided_wording {s : String} (h : s ∈ wording) : Text.Undivided isEnd s :=
  undivided_of_oneLine ends (oneLine_wording s h)

/-- The names of outcomes are undivided. -/
theorem Outcome.undivided_name (o : Outcome) : Text.Undivided isEnd o.name := by
  refine undivided_wording ends ?_
  cases o <;> simp [wording, name]

/-- The text of a result is undivided exactly if everything that it shows is. -/
theorem CheckResult.undivided_text_iff (x : CheckResult) :
    Text.Undivided isEnd x.text ↔ x.Undivided isEnd := by
  have hslash : Text.Undivided isEnd " / " := undivided_wording ends (by simp [wording])
  have hcolon : Text.Undivided isEnd ": " := undivided_wording ends (by simp [wording])
  have hopen : Text.Undivided isEnd " (" := undivided_wording ends (by simp [wording])
  have hclose : Text.Undivided isEnd ")" := undivided_wording ends (by simp [wording])
  have hempty : Text.Undivided isEnd "" := undivided_wording ends (by simp [wording])
  have hcomment : Text.Undivided isEnd
      (if x.comment.truthy then " (" ++ x.comment.plain ++ ")" else "") ↔
        (x.comment.truthy = true → Text.Undivided isEnd x.comment.plain) := by
    split
    · rename_i hshown
      rw [undivided_append, undivided_append]
      exact ⟨fun h _ => h.1.2, fun h => ⟨⟨hopen, h hshown⟩, hclose⟩⟩
    · rename_i hhidden
      exact iff_of_true hempty fun hshown => absurd hshown hhidden
  unfold text
  simp only [undivided_append, hcomment]
  constructor
  · rintro ⟨⟨⟨⟨⟨hdevice, -⟩, hrule⟩, -⟩, -⟩, hcomment⟩
    exact ⟨hdevice, hrule, hcomment⟩
  · rintro ⟨hdevice, hrule, hcomment⟩
    exact ⟨⟨⟨⟨⟨hdevice, hslash⟩, hrule⟩, hcolon⟩, x.outcome.undivided_name ends⟩, hcomment⟩

/-- The last line of a report is undivided, whatever is counted. -/
theorem Report.undivided_summaryLine (r : Report) : Text.Undivided isEnd r.summaryLine := by
  have htitle : Text.Undivided isEnd "Summary: " := undivided_wording ends (by simp [wording])
  have hcomma : Text.Undivided isEnd ", " := undivided_wording ends (by simp [wording])
  have hequals : Text.Undivided isEnd "=" := undivided_wording ends (by simp [wording])
  rw [summaryLine]
  refine undivided_append.2 ⟨htitle, undivided_join hcomma ?_⟩
  intro p hp
  obtain ⟨⟨o, n⟩, -, rfl⟩ := List.mem_map.1 hp
  exact undivided_append.2 ⟨undivided_append.2 ⟨o.undivided_name ends, hequals⟩,
    undivided_of_oneLine ends (oneLine_toString n)⟩

/-- The lines of a report are undivided exactly if its results are. -/
theorem Report.undivided_lines_iff (r : Report) :
    (∀ l ∈ r.results.map CheckResult.text ++ [r.summaryLine], Text.Undivided isEnd l) ↔
      ∀ x ∈ r.results, x.Undivided isEnd := by
  rw [List.forall_mem_append, List.forall_mem_map]
  constructor
  · rintro ⟨h, -⟩ x hx
    exact (x.undivided_text_iff ends).1 (h x hx)
  · intro h
    refine ⟨fun x hx => (x.undivided_text_iff ends).2 (h x hx), fun l hl => ?_⟩
    rw [List.mem_singleton.1 hl]
    exact r.undivided_summaryLine ends

end Ends

/-! ## Comments of text rules -/

namespace TextRule

variable {r : TextRule}

/-- The first lines of blocks are on one line. -/
theorem oneLine_header {configuration : String} {blocks : List Block}
    (h : r.blocks configuration = .ok blocks) : ∀ b ∈ blocks, OneLine b.header.toList := by
  have hlines : ∀ l ∈ Text.splitLines configuration, OneLine l.toList := by
    intro l hl
    obtain ⟨cs, hcs, rfl⟩ := List.mem_map.1 hl
    rw [String.toList_ofList]
    exact Text.oneLine_of_mem_linesFrom (fun c hc => (List.not_mem_nil hc).elim) hcs
  cases hset : r.context.truthy with
  | false =>
      rw [blocks_of_no_context hset] at h
      cases h
      intro b hb
      rw [List.mem_singleton.1 hb]
      exact fun c hc => (List.not_mem_nil hc).elim
  | true =>
      unfold TextRule.blocks at h
      rw [hset] at h
      obtain ⟨ready, _, h⟩ := bind_eq_ok_iff.1 h
      cases ready with
      | node n =>
          -- the first line of a block is one of the lines of the configuration
          cases h
          obtain ⟨spans, hspans, hdivides⟩ :=
            exists_divides (Pattern.search n) (Text.splitLines configuration) 0
          rw [List.drop_zero] at hspans
          rw [hspans]
          intro b hb
          obtain ⟨s, hs, rfl⟩ := List.mem_map.1 hb
          exact oneLine_strip
            (hlines _ (List.mem_of_getElem? (hdivides.blocks s hs).getElem?_first))
      | bytes =>
          dsimp only at h
          split at h
          · cases h
            exact fun b hb => (List.not_mem_nil hb).elim
          · cases h

section Ends

variable {isEnd : Char → Bool} (ends : ∀ c, isEnd c = true → Text.isLineEnd c = true)

include ends

/-- First lines are listed on one line. -/
theorem undivided_describeBlocks {headers : List String}
    (h : ∀ t ∈ headers, OneLine t.toList) : Undivided isEnd (describeBlocks headers) := by
  have hcomma : Undivided isEnd ", " := undivided_wording ends (by simp [wording])
  have hmark : Undivided isEnd "'" := undivided_wording ends (by simp [wording])
  have hand : Undivided isEnd " and " := undivided_wording ends (by simp [wording])
  have hmore : Undivided isEnd " more" := undivided_wording ends (by simp [wording])
  refine undivided_append.2 ⟨undivided_join hcomma ?_, ?_⟩
  · intro p hp
    obtain ⟨t, ht, rfl⟩ := List.mem_map.1 hp
    exact undivided_append.2 ⟨undivided_append.2
      ⟨hmark, undivided_of_oneLine ends (h t (List.mem_of_mem_take ht))⟩, hmark⟩
  · split
    · exact undivided_append.2 ⟨undivided_append.2
        ⟨hand, undivided_of_oneLine ends (oneLine_toString _)⟩, hmore⟩
    · exact undivided_wording ends (by simp [wording])

/-- What a rule finds wrong is undivided exactly if its text and the name of its field are. -/
theorem undivided_complaint_iff (forbidden : Bool) : Undivided isEnd (r.complaint forbidden) ↔
    Undivided isEnd r.text.plain ∧ Undivided isEnd r.field.plain := by
  have hwhat : Undivided isEnd (if r.regexp.truthy then "pattern" else "text") := by
    split <;> exact undivided_wording ends (by simp [wording])
  unfold complaint
  dsimp only
  split
  · have hfront : Undivided isEnd "Forbidden " := undivided_wording ends (by simp [wording])
    have hopen : Undivided isEnd " '" := undivided_wording ends (by simp [wording])
    have hclose : Undivided isEnd "' found in " := undivided_wording ends (by simp [wording])
    simp only [undivided_append, hfront, hwhat, hopen, hclose, true_and, and_true]
  · have hfront : Undivided isEnd "Expected " := undivided_wording ends (by simp [wording])
    have hopen : Undivided isEnd " '" := undivided_wording ends (by simp [wording])
    have hclose : Undivided isEnd "' not found in " := undivided_wording ends (by simp [wording])
    simp only [undivided_append, hfront, hwhat, hopen, hclose, true_and, and_true]

/-- The same holds for what is said of blocks whose first lines are on one line. -/
theorem undivided_description_iff {headers : List String} (h : ∀ t ∈ headers, OneLine t.toList) :
    Undivided isEnd (r.description headers) ↔
      Undivided isEnd r.text.plain ∧ Undivided isEnd r.field.plain := by
  have hblocks : Undivided isEnd
      (if r.context.truthy then " (block(s): " ++ describeBlocks headers ++ ")" else "") := by
    split
    · have hopen : Undivided isEnd " (block(s): " := undivided_wording ends (by simp [wording])
      have hclose : Undivided isEnd ")" := undivided_wording ends (by simp [wording])
      exact undivided_append.2
        ⟨undivided_append.2 ⟨hopen, undivided_describeBlocks ends h⟩, hclose⟩
    · exact undivided_wording ends (by simp [wording])
  rw [description, undivided_append, and_iff_left hblocks, undivided_complaint_iff ends]

/-- **Comments of text rules.**  The comment of a verdict on blocks is undivided exactly if there is
none, or if what it quotes is: the context if there is no block, and otherwise the text and the name
of the field. -/
theorem Judged.undivided_iff {failing : Block → Bool} {blocks : List Block} {o : Outcome}
    {comment : Value} (h : r.Judged failing blocks o comment)
    (headers : ∀ b ∈ blocks, OneLine b.header.toList) :
    (comment.truthy = true → Undivided isEnd comment.plain) ↔ o = .conforming ∨
      if blocks = [] then Undivided isEnd r.context.plain
      else Undivided isEnd r.text.plain ∧ Undivided isEnd r.field.plain := by
  -- an empty comment is not shown, and is undivided
  have hshown : ∀ t : String,
      ((Value.text t).truthy = true → Undivided isEnd (Value.text t).plain) ↔ Undivided isEnd t := by
    intro t
    rw [Value.plain_text, Value.truthy]
    refine ⟨fun h => ?_, fun h _ => h⟩
    cases hempty : t.isEmpty with
    | true =>
        rw [String.isEmpty_iff.1 hempty]
        exact undivided_wording ends (by simp [wording])
    | false => exact h (by rw [hempty]; rfl)
  cases h with
  | unmet none =>
      have hfront : Undivided isEnd "No configuration block matches context '" :=
        undivided_wording ends (by simp [wording])
      have hback : Undivided isEnd "'" := undivided_wording ends (by simp [wording])
      rw [hshown, undivided_append, undivided_append, if_pos none]
      simp [hfront, hback]
  | passed _ _ => exact iff_of_true (fun h => absurd h Bool.false_ne_true) (Or.inl rfl)
  | failed filled _ =>
      have hheaders : ∀ t ∈ (blocks.filter failing).map (·.header), OneLine t.toList := by
        intro t ht
        obtain ⟨b, hb, rfl⟩ := List.mem_map.1 ht
        exact headers b (List.mem_of_mem_filter hb)
      rw [hshown, undivided_description_iff ends hheaders, if_neg filled]
      simp

end Ends

end TextRule

/-! ## What is printed -/

/-- The comment of a text rule that is due is undivided exactly if the device conforms, or if what
the comment quotes is undivided. -/
theorem TextCheck.undivided_iff {g : Setting} {rule : Rule} {s : Subject} {configuration : String}
    {r : TextRule} (h : TextCheck g rule s configuration r) {isEnd : Char → Bool}
    (ends : ∀ c, isEnd c = true → Text.isLineEnd c = true) :
    ((rule.checkSafely g s).2.comment.truthy = true →
        Undivided isEnd (rule.checkSafely g s).2.comment.plain) ↔
      (rule.checkSafely g s).2.outcome = .conforming ∨
        ∃ blocks, r.blocks configuration = .ok blocks ∧
          if blocks = [] then Undivided isEnd r.context.plain
          else Undivided isEnd r.text.plain ∧ Undivided isEnd r.field.plain := by
  obtain ⟨blocks, found, notes, result, hblocks, -, hcheck, hjudged⟩ := h.reported
  have hsafely : (rule.checkSafely g s).2 = result := by
    rw [Rule.checkSafely, hcheck]
  rw [hsafely, hjudged.undivided_iff ends (TextRule.oneLine_header hblocks), hblocks]
  simp

namespace Report

/-- The parts of the text of a report between line feeds are the lines of its results and the
summary, and nothing behind it, exactly if no result has a line feed. -/
theorem splitAt_page_iff (r : Report) :
    Text.splitAt '\n' r.page = r.results.map CheckResult.text ++ [r.summaryLine, ""] ↔
      ∀ x ∈ r.results, x.Undivided (· == '\n') := by
  have ends : ∀ c, (c == '\n') = true → Text.isLineEnd c = true := by
    intro c hc
    rw [beq_iff_eq.1 hc]
    rfl
  rw [← r.undivided_lines_iff ends, ← Text.splitAt_ended_iff, page, List.append_assoc]
  rfl

/-- The lines of the text are those of the results and the summary exactly if no result has a line
end. -/
theorem splitLines_page_iff (r : Report) :
    Text.splitLines r.page = r.results.map CheckResult.text ++ [r.summaryLine] ↔
      ∀ x ∈ r.results, x.Undivided Text.isLineEnd := by
  rw [← r.undivided_lines_iff fun _ h => h, ← Text.splitLines_ended_iff]
  rfl

/-- Each result takes a line more than its text has line feeds; behind the summary nothing is
left. -/
theorem length_splitAt_page (r : Report) : (Text.splitAt '\n' r.page).length =
    ((r.results.map CheckResult.text).map fun t => t.toList.count '\n' + 1).sum + 2 := by
  have hsummary : r.summaryLine.toList.count '\n' = 0 := by
    refine List.count_eq_zero_of_not_mem fun hmem => ?_
    have hline := r.undivided_summaryLine (fun _ h => h) '\n' hmem
    cases hline
  rw [Text.splitAt, List.length_map, Text.length_partsFrom, page, Text.toList_ended,
    List.count_flatMap]
  simp [Function.comp_def, hsummary]

end Report

namespace Command

section Loaded

variable {s : Surroundings} {c : Configuration} {path p : String} {ps : List String}
  {set : PolicySet} {dss : List (List Device)}

end Loaded

/-- A policy of one rule, which looks for a text. -/
def motdPolicy (text : String) : String :=
  "policies:\n- name: core\n  rules:\n" ++
    "  - name: motd\n    type: text\n    enabled: true\n    text: " ++ text ++ "\n"

/-- A device whose configuration has one line. -/
def edgeDevice : String := "id: 7\nname: edge\nattributes:\n  running_config: ntp\n"

/-- A file with this policy and a file with this device. -/
def motdFiles (text : String) : Surroundings := onlyFiles (motdPolicy text) edgeDevice

/-- There is no file of the command itself. -/
theorem prepare_motdFiles (text : String) :
    prepare (motdFiles text) = .ok (.standard "python3") := prepare_onlyFiles _ _

/-- What the files are loaded as, if it is known which results there are. -/
theorem loaded_motdFiles (text : String) (texts : List String)
    (h : (do
      let set ← loadPolicies ((motdFiles text).reading (.standard "python3")) (motdFiles text).files
        "p.yaml"
      let ds ← loadDevices (motdFiles text).files "d.yaml"
      let g := ((motdFiles text).reading (.standard "python3")).setting
      return ((set.pairs [ds].flatten).all (isShown g),
        (set.pairs [ds].flatten).map fun j => CheckResult.text (outcomeOf g j))).toOption =
          some (true, texts)) :
    ∃ set ds, loadPolicies ((motdFiles text).reading (.standard "python3")) (motdFiles text).files
        "p.yaml" = .ok set ∧ loadDevices (motdFiles text).files "d.yaml" = .ok ds ∧
      (∀ j ∈ set.pairs [ds].flatten,
        isShown ((motdFiles text).reading (.standard "python3")).setting j = true) ∧
      ((set.pairs [ds].flatten).map
        (outcomeOf ((motdFiles text).reading (.standard "python3")).setting)).map
          CheckResult.text = texts := by
  obtain ⟨set, hset, h⟩ := bind_eq_ok_iff.1 (eq_ok_of_toOption h)
  obtain ⟨ds, hds, h⟩ := bind_eq_ok_iff.1 h
  obtain ⟨hshown, htexts⟩ := Prod.mk.inj (Except.ok.inj h)
  refine ⟨set, ds, hset, hds, List.all_eq_true.1 hshown, ?_⟩
  rw [List.map_map]
  exact htexts

end Command

end ConfigAudit
