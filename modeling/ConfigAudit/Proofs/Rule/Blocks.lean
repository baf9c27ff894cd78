/-
# Blocks of a configuration

A configuration is cut into blocks by a pattern for their first lines.  A block takes in the lines
behind its first one that are blank or indented deeper, and where it ends the search for a first
line goes on.  So the blocks are stretches of the lines, and what is said here about the stretches
leaves no choice between them.

* `Span`, `Span.IsBlock` : stretches of lines, and those that are blocks;
* `Divides` : blocks that divide the lines from a place on;
* `Divides.unique` : there is one way to divide them;
* `exists_divides` : the blocks that are cut from lines divide them;
* `blocks_divide` : the blocks of a configuration divide its lines.
-/
import Mathlib.Data.List.Basic
import ConfigAudit.Proofs.Chain
import ConfigAudit.Rule.Text

namespace ConfigAudit.TextRule

/-! ## Stretches of lines -/

/-- A stretch of lines. -/
structure Span where
  /-- The place of its first line. -/
  first : Nat
  /-- The place behind its last line. -/
  stop : Nat

namespace Span

/-- The first line of a stretch. -/
def header (lines : List String) (s : Span) : String := lines.getD s.first ""

/-- The lines of a stretch. -/
def body (lines : List String) (s : Span) : List String :=
  (lines.drop s.first).take (s.stop - s.first)

/-- The block that a stretch is taken for. -/
def block (lines : List String) (s : Span) : Block := ⟨Text.strip (s.header lines), s.body lines⟩

/-- The stretch from a place on that has the lines behind it that are blank or indented deeper. -/
def startingAt (lines : List String) (k : Nat) : Span :=
  ⟨k, k + 1 + (lines.drop (k + 1)).findIdx fun line =>
    !isInside (Text.indentation (lines.getD k "")) line⟩

/-- Whether a stretch has the line of a place. -/
def Covers (s : Span) (i : Nat) : Prop := s.first ≤ i ∧ i < s.stop

/-- A stretch that is a block: its first line is chosen, the other ones are blank or indented
deeper, and it goes on as long as there are such lines. -/
structure IsBlock (isFirst : String → Bool) (lines : List String) (s : Span) : Prop where
  /-- It has a first line. -/
  filled : s.first < s.stop
  /-- It is a stretch of the lines. -/
  within : s.stop ≤ lines.length
  /-- Its first line is chosen. -/
  chosen : isFirst (s.header lines) = true
  /-- The other lines are blank or indented deeper. -/
  deeper : ∀ i line, s.first < i → i < s.stop → lines[i]? = some line →
    Text.isBlankText line = true ∨ Text.indentation (s.header lines) < Text.indentation line
  /-- The line behind it, if there is one, is neither. -/
  maximal : ∀ line, lines[s.stop]? = some line → Text.isBlankText line = false ∧
    Text.indentation line ≤ Text.indentation (s.header lines)

end Span

/-- Stretches divide the lines from a place on: they are blocks, one behind the other, and every
line that is chosen lies in one of them. -/
structure Divides (isFirst : String → Bool) (lines : List String) (k : Nat) (spans : List Span) :
    Prop where
  /-- The stretches are blocks. -/
  blocks : ∀ s ∈ spans, s.IsBlock isFirst lines
  /-- One ends before the next begins. -/
  ordered : spans.Pairwise fun s t => s.stop ≤ t.first
  /-- They lie behind the place. -/
  behind : ∀ s ∈ spans, k ≤ s.first
  /-- Lines outside of them are not chosen. -/
  outside : ∀ i line, k ≤ i → lines[i]? = some line → isFirst line = true →
    ∃ s ∈ spans, s.Covers i

variable {isFirst : String → Bool} {lines : List String}

namespace Span.IsBlock

variable {s t : Span}

/-- The place of the first line has the first line. -/
theorem getElem?_first (h : s.IsBlock isFirst lines) :
    lines[s.first]? = some (s.header lines) := by
  have hlt : s.first < lines.length := Nat.lt_of_lt_of_le h.filled h.within
  rw [header, List.getD_eq_getElem?_getD, List.getElem?_eq_getElem hlt, Option.getD_some]

/-- A block does not end before another one that begins at the same place. -/
theorem stop_le (h : s.IsBlock isFirst lines) (h' : t.IsBlock isFirst lines)
    (same : s.first = t.first) : t.stop ≤ s.stop := by
  refine Nat.le_of_not_lt fun hlt => ?_
  have hheader : s.header lines = t.header lines := by rw [header, header, same]
  have hstop : s.stop < lines.length := Nat.lt_of_lt_of_le hlt h'.within
  have hget : lines[s.stop]? = some lines[s.stop] := List.getElem?_eq_getElem hstop
  obtain ⟨hblank, hdepth⟩ := h.maximal _ hget
  rcases h'.deeper _ _ (same ▸ h.filled) hlt hget with hb | hd
  · rw [hblank] at hb
    cases hb
  · rw [hheader] at hdepth
    exact Nat.not_lt_of_le hdepth hd

end Span.IsBlock

namespace Divides

variable {k : Nat} {s : Span} {spans : List Span}

/-- Behind the first block the others divide what is left. -/
theorem tail (h : Divides isFirst lines k (s :: spans)) : Divides isFirst lines s.stop spans where
  blocks t ht := h.blocks t (List.mem_cons_of_mem s ht)
  ordered := (List.pairwise_cons.1 h.ordered).2
  behind := (List.pairwise_cons.1 h.ordered).1
  outside i line hi hline hfirst := by
    have hs := h.blocks s List.mem_cons_self
    have hk : k ≤ s.first := h.behind s List.mem_cons_self
    have hfilled : s.first < s.stop := hs.filled
    obtain ⟨t, ht, hcovers⟩ := h.outside i line (by omega) hline hfirst
    rcases List.mem_cons.1 ht with rfl | ht
    · exact absurd hcovers.2 (by omega)
    · exact ⟨t, ht, hcovers⟩

/-- A block that begins at the place goes before blocks that divide what is left. -/
theorem cons (hs : s.IsBlock isFirst lines) (h : Divides isFirst lines s.stop spans) :
    Divides isFirst lines s.first (s :: spans) where
  blocks := List.forall_mem_cons.2 ⟨hs, h.blocks⟩
  ordered := List.pairwise_cons.2 ⟨h.behind, h.ordered⟩
  behind := by
    refine List.forall_mem_cons.2 ⟨Nat.le_refl _, fun t ht => ?_⟩
    have hfilled : s.first < s.stop := hs.filled
    have hbehind : s.stop ≤ t.first := h.behind t ht
    omega
  outside i line hi hline hfirst := by
    by_cases hstop : i < s.stop
    · exact ⟨s, List.mem_cons_self, hi, hstop⟩
    · obtain ⟨t, ht, hcovers⟩ := h.outside i line (Nat.le_of_not_lt hstop) hline hfirst
      exact ⟨t, List.mem_cons_of_mem s ht, hcovers⟩

/-- A line that is not chosen is left out. -/
theorem skip {line : String} (hline : lines[k]? = some line) (hfirst : isFirst line = false)
    (h : Divides isFirst lines (k + 1) spans) : Divides isFirst lines k spans where
  blocks := h.blocks
  ordered := h.ordered
  behind t ht := Nat.le_of_succ_le (h.behind t ht)
  outside i line' hi hline' hfirst' := by
    rcases Nat.eq_or_lt_of_le hi with rfl | hlt
    · rw [hline] at hline'
      cases hline'
      rw [hfirst] at hfirst'
      cases hfirst'
    · exact h.outside i line' hlt hline' hfirst'

/-- The first block is not behind a block of another division. -/
theorem first_le {spans' : List Span} {t : Span} (h : Divides isFirst lines k (s :: spans))
    (h' : Divides isFirst lines k spans') (ht : t ∈ spans') : s.first ≤ t.first := by
  have hblock := h'.blocks t ht
  obtain ⟨u, hu, hcovers⟩ := h.outside t.first _ (h'.behind t ht) hblock.getElem?_first
    hblock.chosen
  rcases List.mem_cons.1 hu with rfl | hu
  · exact hcovers.1
  · have hs := h.blocks s List.mem_cons_self
    have hfilled : s.first < s.stop := hs.filled
    have hbehind : s.stop ≤ u.first := (List.pairwise_cons.1 h.ordered).1 u hu
    have hcovered : u.first ≤ t.first := hcovers.1
    omega

/-- **There is one way to divide lines.**  The first block begins at the first line that is chosen,
and has no choice where to end; and so on behind it. -/
theorem unique {spans' : List Span} (h : Divides isFirst lines k spans)
    (h' : Divides isFirst lines k spans') : spans = spans' := by
  have hempty : ∀ {k : Nat} {spans : List Span}, Divides isFirst lines k spans →
      Divides isFirst lines k [] → spans = [] := by
    intro k spans h hnil
    cases spans with
    | nil => rfl
    | cons s spans =>
        have hs := h.blocks s List.mem_cons_self
        obtain ⟨t, ht, _⟩ := hnil.outside s.first _ (h.behind s List.mem_cons_self)
          hs.getElem?_first hs.chosen
        cases ht
  induction spans generalizing k spans' with
  | nil => exact (hempty h' h).symm
  | cons s spans ih =>
      cases spans' with
      | nil => exact hempty h h'
      | cons s' spans' =>
          have hs := h.blocks s List.mem_cons_self
          have hs' := h'.blocks s' List.mem_cons_self
          have hfirst : s.first = s'.first :=
            Nat.le_antisymm (h.first_le h' List.mem_cons_self) (h'.first_le h List.mem_cons_self)
          have hstop : s.stop = s'.stop :=
            Nat.le_antisymm (hs'.stop_le hs hfirst.symm) (hs.stop_le hs' hfirst)
          obtain ⟨first, stop⟩ := s
          obtain ⟨first', stop'⟩ := s'
          cases hfirst
          cases hstop
          rw [ih h.tail h'.tail]

/-- No line lies in two blocks. -/
theorem eq_of_covers {t : Span} {i : Nat} (h : Divides isFirst lines k spans) (hs : s ∈ spans)
    (ht : t ∈ spans) (hsi : s.Covers i) (hti : t.Covers i) : s = t := by
  induction spans generalizing k with
  | nil => cases hs
  | cons u spans ih =>
      have hbehind := (List.pairwise_cons.1 h.ordered).1
      rcases List.mem_cons.1 hs with rfl | hs'
      · rcases List.mem_cons.1 ht with rfl | ht'
        · rfl
        · exact absurd (Nat.le_trans (hbehind t ht') hti.1) (Nat.not_le_of_lt hsi.2)
      · rcases List.mem_cons.1 ht with rfl | ht'
        · exact absurd (Nat.le_trans (hbehind s hs') hsi.1) (Nat.not_le_of_lt hti.2)
        · exact ih h.tail hs' ht'

/-- A line that is chosen lies in one block. -/
theorem existsUnique_covers {i : Nat} {line : String} (h : Divides isFirst lines k spans)
    (hi : k ≤ i) (hline : lines[i]? = some line) (hfirst : isFirst line = true) :
    ∃! s, s ∈ spans ∧ s.Covers i := by
  obtain ⟨s, hs, hcovers⟩ := h.outside i line hi hline hfirst
  exact ⟨s, ⟨hs, hcovers⟩, fun t ht => h.eq_of_covers ht.1 hs ht.2 hcovers⟩

/-- Behind the last line there is nothing to divide. -/
theorem nil (hk : lines.length ≤ k) : Divides isFirst lines k [] where
  blocks _ hs := nomatch hs
  ordered := List.Pairwise.nil
  behind _ hs := nomatch hs
  outside i line hi hline _ := by
    rw [List.getElem?_eq_none (Nat.le_trans hk hi)] at hline
    cases hline

end Divides

/-! ## Cutting lines into blocks -/

/-- A line is outside of a block if it has a text that is not indented deeper. -/
theorem isInside_eq_false_iff {depth : Nat} {line : String} :
    isInside depth line = false ↔
      Text.isBlankText line = false ∧ Text.indentation line ≤ depth := by
  rw [isInside, Bool.or_eq_false_iff, decide_eq_false_iff_not, Nat.not_lt]

/-- A block that is being read takes in the lines up to the first one outside of it. -/
theorem blocksFrom_some (b : OpenBlock) (lines : List String) :
    blocksFrom isFirst (some b) lines =
      ⟨b.header, b.lines.reverse ++ lines.takeWhile (isInside b.depth)⟩ ::
        blocksFrom isFirst none (lines.dropWhile (isInside b.depth)) := by
  induction lines generalizing b with
  | nil => rw [List.takeWhile_nil, List.dropWhile_nil, List.append_nil]; rfl
  | cons line rest ih =>
      rw [blocksFrom]
      by_cases hinside : isInside b.depth line = true
      · rw [if_pos hinside, ih, List.takeWhile_cons_of_pos hinside,
          List.dropWhile_cons_of_pos hinside, List.reverse_cons, List.append_assoc,
          List.singleton_append]
      · rw [if_neg hinside, List.takeWhile_cons_of_neg hinside,
          List.dropWhile_cons_of_neg hinside, List.append_nil, blocksFrom, OpenBlock.close]

/-- The stretch that starts at a place has the line there as its first one. -/
theorem Span.header_startingAt {k : Nat} {line : String} (hline : lines[k]? = some line) :
    (startingAt lines k).header lines = line := by
  rw [header, List.getD_eq_getElem?_getD, startingAt, hline, Option.getD_some]

/-- The stretch that starts at a chosen line is a block. -/
theorem Span.isBlock_startingAt {k : Nat} {line : String} (hline : lines[k]? = some line)
    (hfirst : isFirst line = true) : (startingAt lines k).IsBlock isFirst lines := by
  have hheader : (startingAt lines k).header lines = line := header_startingAt hline
  -- what is said about the lines behind the first one is said about the list that is left
  have hbehind : ∀ {i : Nat}, k < i → lines[i]? = (lines.drop (k + 1))[i - (k + 1)]? := by
    intro i hi
    rw [List.getElem?_drop, Nat.add_sub_cancel' hi]
  have hdepth : ∀ l, isInside (Text.indentation (lines.getD k "")) l =
      isInside (Text.indentation line) l := fun l =>
    congrArg (fun first => isInside (Text.indentation first) l) hheader
  constructor
  · exact Nat.lt_of_lt_of_le (Nat.lt_succ_self k) (Nat.le_add_right _ _)
  · have hle : k + 1 ≤ lines.length := (List.getElem?_eq_some_iff.1 hline).1
    have hrest : (lines.drop (k + 1)).findIdx (fun l =>
        !isInside (Text.indentation (lines.getD k "")) l) ≤ (lines.drop (k + 1)).length :=
      List.findIdx_le_length
    rw [List.length_drop] at hrest
    show k + 1 + _ ≤ lines.length
    omega
  · rw [hheader, hfirst]
  · intro i l hki hstop hl
    rw [hheader]
    rw [hbehind hki] at hl
    obtain ⟨hlt, rfl⟩ := List.getElem?_eq_some_iff.1 hl
    have hinside := List.not_of_lt_findIdx (Nat.sub_lt_left_of_lt_add hki hstop)
    rw [Bool.not_eq_false', hdepth, isInside, Bool.or_eq_true, decide_eq_true_eq] at hinside
    exact hinside
  · intro l hl
    rw [hheader]
    rw [startingAt, hbehind (Nat.le_add_right _ _), Nat.add_sub_cancel_left] at hl
    obtain ⟨hlt, rfl⟩ := List.getElem?_eq_some_iff.1 hl
    have houtside := List.findIdx_getElem (w := hlt)
    rw [Bool.not_eq_true', hdepth] at houtside
    exact isInside_eq_false_iff.1 houtside

/-- The block of the stretch that starts at a place. -/
theorem Span.block_startingAt {k : Nat} {line : String} (hline : lines[k]? = some line) :
    (startingAt lines k).block lines = ⟨Text.strip line,
      line :: (lines.drop (k + 1)).takeWhile (isInside (Text.indentation line))⟩ := by
  have hheader : lines.getD k "" = line := header_startingAt hline
  obtain ⟨hk, rfl⟩ := List.getElem?_eq_some_iff.1 hline
  rw [block, header, body, startingAt, hheader, List.takeWhile_eq_take_findIdx_not,
    List.drop_eq_getElem_cons hk, Nat.add_assoc, Nat.add_sub_cancel_left, Nat.add_comm 1,
    List.take_succ_cons]

/-- The lines behind the stretch that starts at a place. -/
theorem Span.drop_startingAt {k : Nat} {line : String} (hline : lines[k]? = some line) :
    lines.drop (startingAt lines k).stop =
      (lines.drop (k + 1)).dropWhile (isInside (Text.indentation line)) := by
  have hheader : lines.getD k "" = line := header_startingAt hline
  rw [startingAt, hheader, List.dropWhile_eq_drop_findIdx_not, List.drop_drop]

/-- **The blocks that are cut from lines divide them.**  By induction on the number of lines that
are left: one line is left out, or one block is taken. -/
theorem exists_divides (isFirst : String → Bool) (lines : List String) (k : Nat) :
    ∃ spans, blocksFrom isFirst none (lines.drop k) = spans.map (Span.block lines) ∧
      Divides isFirst lines k spans := by
  induction hn : lines.length - k using Nat.strongRecOn generalizing k with
  | ind n ih =>
      by_cases hk : k < lines.length
      · have hline : lines[k]? = some lines[k] := List.getElem?_eq_getElem hk
        rw [List.drop_eq_getElem_cons hk, blocksFrom, openAt]
        by_cases hfirst : isFirst lines[k] = true
        · rw [if_pos hfirst, blocksFrom_some]
          have hs : (Span.startingAt lines k).IsBlock isFirst lines :=
            Span.isBlock_startingAt hline hfirst
          have hfilled : k < (Span.startingAt lines k).stop := hs.filled
          obtain ⟨spans, hspans, hdivides⟩ :=
            ih (lines.length - (Span.startingAt lines k).stop) (by omega) _ rfl
          refine ⟨Span.startingAt lines k :: spans, ?_, hdivides.cons hs⟩
          rw [List.map_cons, Span.block_startingAt hline, ← hspans, Span.drop_startingAt hline]
          rfl
        · obtain ⟨spans, hspans, hdivides⟩ :=
            ih (lines.length - (k + 1)) (by omega) _ rfl
          rw [if_neg hfirst]
          exact ⟨spans, hspans, hdivides.skip hline (Bool.not_eq_true _ ▸ hfirst)⟩
      · rw [List.drop_eq_nil_of_le (Nat.le_of_not_lt hk)]
        exact ⟨[], rfl, .nil (Nat.le_of_not_lt hk)⟩

/-! ## The blocks of a configuration -/

/-- A text that is not empty counts as set. -/
theorem truthy_of_asText? {v : Value} {s : String} (hv : v.asText? = some s) (hs : s ≠ "") :
    v.truthy = true := by
  cases v with
  | text t =>
      cases hv
      rw [Value.truthy, Bool.not_eq_true', String.isEmpty_eq_false_iff]
      exact hs
  | outcome o => rfl
  | _ => cases hv

/-- A text is read as a pattern for texts. -/
theorem readPattern_of_asText? {flags : Pattern.Flags} {v : Value} {s : String} {n : Pattern.Node}
    (hv : v.asText? = some s) (hread : Pattern.read flags s = .ok n) :
    readPattern flags v = .ok (.node n) := by
  have hkey : v.asKey = .ok v := by
    cases v with
    | text t => rfl
    | outcome o => rfl
    | _ => cases hv
  refine bind_eq_ok_iff.2 ⟨v, lift_eq_ok_iff.2 hkey, ?_⟩
  simp only [hv, hread]
  rfl

/-- The blocks under a context are cut from the lines. -/
theorem blocks_of_context {r : TextRule} {pattern : String} {n : Pattern.Node}
    (hset : r.context.truthy = true) (hcontext : r.context.asText? = some pattern)
    (hread : Pattern.read {} pattern = .ok n) (configuration : String) :
    r.blocks configuration =
      .ok (blocksFrom (Pattern.search n) none (Text.splitLines configuration)) := by
  rw [blocks, hset, readPattern_of_asText? hcontext hread]
  rfl

/-- Without a context, a configuration is one block. -/
theorem blocks_of_no_context {r : TextRule} (hunset : r.context.truthy = false)
    (configuration : String) :
    r.blocks configuration = .ok [⟨"", Text.splitLines configuration⟩] := by
  rw [blocks, hunset]
  rfl

/-- **The blocks of a configuration divide its lines**, under every context that can be read.  There
is one way to divide them; a line that the context is found in lies in one block; and a block is
handed on with its first line, stripped, and with its lines, joined. -/
theorem blocks_divide (r : TextRule) (configuration : String) {pattern : String}
    {n : Pattern.Node} (hcontext : r.context.asText? = some pattern) (hpattern : pattern ≠ "")
    (hread : Pattern.read {} pattern = .ok n) :
    ∃ blocks spans, r.blocks configuration = .ok blocks ∧
      Divides (Pattern.search n) (Text.splitLines configuration) 0 spans ∧
      (∀ others, Divides (Pattern.search n) (Text.splitLines configuration) 0 others →
        others = spans) ∧
      (∀ (i : Nat) line, (Text.splitLines configuration)[i]? = some line →
        Pattern.search n line = true → ∃! s, s ∈ spans ∧ s.Covers i) ∧
      blocks.map (fun b => (b.header, b.text)) =
        spans.map fun s => (Text.strip (s.header (Text.splitLines configuration)),
          Text.joinLines (s.body (Text.splitLines configuration))) := by
  obtain ⟨spans, hspans, hdivides⟩ :=
    exists_divides (Pattern.search n) (Text.splitLines configuration) 0
  have hset : r.context.truthy = true := truthy_of_asText? hcontext hpattern
  refine ⟨_, spans, blocks_of_context hset hcontext hread configuration, hdivides,
    fun others h => h.unique hdivides, ?_, ?_⟩
  · intro i line hline hfirst
    exact hdivides.existsUnique_covers (Nat.zero_le i) hline hfirst
  · rw [List.drop_zero] at hspans
    rw [hspans, List.map_map]
    rfl

/-- A rule that looks into the blocks of interfaces. -/
def interfaceRule : TextRule where
  field := .text "running_config"
  text := .text "shutdown"
  regexp := .flag false
  invert := .flag false
  matchAll := .flag false
  context := .text "^interface"
  anyBlock := .flag false
  normalize := .flag false
  driver := .null

/-- Two interfaces, one of them with a blank line, between other lines. -/
theorem interfaceRule_divides :
    ∃ n, Pattern.read {} "^interface" = .ok n ∧ ∃ blocks spans,
      interfaceRule.blocks "host a\ninterface b\n  up\n\ninterface c\nend" = .ok blocks ∧
      blocks = [⟨"interface b", ["interface b", "  up", ""]⟩, ⟨"interface c", ["interface c"]⟩] ∧
      Divides (Pattern.search n)
        (Text.splitLines "host a\ninterface b\n  up\n\ninterface c\nend") 0 spans := by
  obtain ⟨n, hread⟩ : ∃ n, Pattern.read {} "^interface" = .ok n :=
    exists_eq_ok_of_isOk (by decide +kernel)
  obtain ⟨blocks, spans, hblocks, hdivides, _⟩ :=
    blocks_divide interfaceRule "host a\ninterface b\n  up\n\ninterface c\nend" rfl (by decide)
      hread
  have hcut : (interfaceRule.blocks
      "host a\ninterface b\n  up\n\ninterface c\nend").toOption =
      some [⟨"interface b", ["interface b", "  up", ""]⟩, ⟨"interface c", ["interface c"]⟩] := by
    decide +kernel
  rw [hblocks] at hcut
  exact ⟨n, hread, blocks, spans, hblocks, Option.some.inj hcut, hdivides⟩

end ConfigAudit.TextRule
