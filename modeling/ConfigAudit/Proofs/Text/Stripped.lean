/-
# What is left of the form of a text

A text is cut into lines, and the lines are joined again with line feeds.  How the lines were ended
is lost on the way, and so is an empty line at the end.  When the lines are stripped and those that
are blank are dropped, nothing more is lost by this.

* `linesFrom_intercalate` : the lines of lines that were joined;
* `IsForm` : the forms in which lines can be written;
* `strippedLines` : the stripped lines of a text, without the empty ones;
* `strippedLines_joinLines_splitLines` : they can be taken before or after lines are joined again.
-/
import Mathlib.Data.List.Basic
import Mathlib.Data.List.TakeWhile
import ConfigAudit.Proofs.Text.Rejoined
import ConfigAudit.Rule.Text

namespace ConfigAudit.Text

/-! ## Lines that were joined -/

/-- The ends of lines that are in common use: a line feed, with or without a carriage return before
it. -/
def IsBreak (e : List Char) : Prop := e = ['\n'] ∨ e = ['\r', '\n']

/-- Characters without a line end go into the open line. -/
theorem linesFrom_append {l : List Char} (single : OneLine l) (line rest : List Char) :
    linesFrom line (l ++ rest) = linesFrom (l.reverse ++ line) rest := by
  induction l generalizing line with
  | nil => rfl
  | cons c l ih =>
      obtain ⟨hc, hl⟩ := List.forall_mem_cons.1 single
      have hreturn : c ≠ '\r' := by
        rintro rfl
        cases hc
      rw [List.cons_append, linesFrom.eq_3 line c (l ++ rest) fun _ h => absurd h hreturn, hc,
        if_neg Bool.false_ne_true, ih hl, List.reverse_cons, List.append_assoc,
        List.singleton_append]

/-- A line end closes the open line. -/
theorem linesFrom_break {e : List Char} (he : IsBreak e) (line rest : List Char) :
    linesFrom line (e ++ rest) = line.reverse :: linesFrom [] rest := by
  rcases he with rfl | rfl <;> rfl

/-- A line with its end is cut off. -/
theorem linesFrom_line {e l : List Char} (he : IsBreak e) (single : OneLine l) (rest : List Char) :
    linesFrom [] (l ++ e ++ rest) = l :: linesFrom [] rest := by
  rw [List.append_assoc, linesFrom_append single, linesFrom_break he, List.append_nil,
    List.reverse_reverse]

/-- The lines of lines that were joined are these lines, but for an empty one at the end. -/
theorem linesFrom_intercalate {e : List Char} (he : IsBreak e) {lines : List (List Char)}
    (single : ∀ l ∈ lines, OneLine l) :
    linesFrom [] (e.intercalate lines) =
      if lines.getLast? = some [] then lines.dropLast else lines := by
  induction lines with
  | nil => rfl
  | cons l lines ih =>
      obtain ⟨hl, hlines⟩ := List.forall_mem_cons.1 single
      cases lines with
      | nil =>
          rw [List.intercalate_singleton, ← List.append_nil l, linesFrom_append hl, linesFrom]
          cases l <;> simp
      | cons l' lines =>
          rw [List.intercalate_cons_cons, linesFrom_line he hl, ih hlines,
            List.getLast?_cons_cons, List.dropLast_cons_cons]
          split <;> rfl

/-- The lines of lines that were ended one by one are these lines. -/
theorem linesFrom_ended {e : List Char} (he : IsBreak e) {lines : List (List Char)}
    (single : ∀ l ∈ lines, OneLine l) : linesFrom [] (lines.flatMap (· ++ e)) = lines := by
  induction lines with
  | nil => rfl
  | cons l lines ih =>
      obtain ⟨hl, hlines⟩ := List.forall_mem_cons.1 single
      rw [List.flatMap_cons, linesFrom_line he hl, ih hlines]

/-- A text is a form of lines if they are ended with line feeds, or with carriage returns and line
feeds; the last one need not be ended if it is not empty. -/
def IsForm (lines : List String) (s : String) : Prop :=
  ∃ e, (e = "\n" ∨ e = "\r\n") ∧ (s = String.join (lines.map (· ++ e)) ∨
    lines.getLast? ≠ some "" ∧ s = join e lines)

/-- **Forms of a text.**  All forms of lines have these lines. -/
theorem splitLines_of_isForm {lines : List String} {s : String}
    (single : ∀ l ∈ lines, OneLine l.toList) (h : IsForm lines s) : splitLines s = lines := by
  obtain ⟨e, he, hs⟩ := h
  have hbreak : IsBreak e.toList := by
    rcases he with rfl | rfl
    · exact Or.inl rfl
    · exact Or.inr rfl
  have hsingle : ∀ l ∈ lines.map String.toList, OneLine l := by
    intro l hl
    obtain ⟨s, hs, rfl⟩ := List.mem_map.1 hl
    exact single s hs
  have hback : (lines.map String.toList).map String.ofList = lines := by
    simp [Function.comp_def]
  rcases hs with rfl | ⟨hlast, rfl⟩
  · have hchars : (String.join (lines.map (· ++ e))).toList =
        (lines.map String.toList).flatMap (· ++ e.toList) := by
      simp [String.toList_join, List.flatMap_map]
    rw [splitLines, hchars, linesFrom_ended hbreak hsingle, hback]
  · have hfilled : ¬ (lines.map String.toList).getLast? = some [] := by
      rw [List.getLast?_map, Option.map_eq_some_iff]
      rintro ⟨s, hs, hempty⟩
      exact hlast (String.toList_eq_nil_iff.1 hempty ▸ hs)
    rw [splitLines, join, String.toList_intercalate, linesFrom_intercalate hbreak hsingle,
      if_neg hfilled, hback]

/-! ## Stripped lines -/

/-- The stripped lines of a text, without the empty ones. -/
def strippedLines (s : String) : List String := ((splitLines s).map strip).filter (· ≠ "")

/-- Nothing is left of a blank text. -/
theorem strip_eq_empty_iff (s : String) : strip s = "" ↔ isBlankText s = true := by
  have hchars : strip s = "" ↔ (s.toList.dropWhile isBlank).reverse.dropWhile isBlank = [] := by
    rw [strip, ← String.toList_inj, String.toList_ofList, stripRight, stripLeft]
    exact List.reverse_eq_nil_iff
  rw [hchars, List.dropWhile_eq_nil_iff, isBlankText, List.all_eq_true]
  constructor
  · intro hrest c hc
    rw [← List.takeWhile_append_dropWhile (p := isBlank) (l := s.toList), List.mem_append] at hc
    rcases hc with hfront | hback
    · exact List.mem_takeWhile_imp hfront
    · exact hrest c (List.mem_reverse.2 hback)
  · intro hblank c hc
    rw [List.dropWhile_eq_nil_iff.2 hblank] at hc
    cases hc

/-- Nothing is dropped in front of a character that is not blank. -/
theorem dropWhile_isBlank {cs : List Char} (filled : cs ≠ []) (h : ∀ c ∈ cs, isBlank c = false)
    (rest : List Char) : (cs ++ rest).dropWhile isBlank = cs ++ rest := by
  obtain ⟨c, cs, rfl⟩ := List.exists_cons_of_ne_nil filled
  rw [List.cons_append, List.dropWhile_cons_of_neg]
  rw [h c List.mem_cons_self]
  exact Bool.false_ne_true

/-- Blanks around something without blanks are stripped. -/
theorem strip_of_blanks {before body after : List Char} (hbefore : ∀ c ∈ before, isBlank c = true)
    (hbody : ∀ c ∈ body, isBlank c = false) (hafter : ∀ c ∈ after, isBlank c = true) :
    strip (String.ofList (before ++ (body ++ after))) = String.ofList body := by
  by_cases filled : body = []
  · subst filled
    rw [List.nil_append]
    refine (strip_eq_empty_iff _).2 (List.all_eq_true.2 fun c hc => ?_)
    rw [String.toList_ofList, List.mem_append] at hc
    exact hc.elim (hbefore c) (hafter c)
  · have hbody' : ∀ c ∈ body.reverse, isBlank c = false := fun c hc =>
      hbody c (List.mem_reverse.1 hc)
    have hafter' : ∀ c ∈ after.reverse, isBlank c = true := fun c hc =>
      hafter c (List.mem_reverse.1 hc)
    have hback := dropWhile_isBlank (List.reverse_ne_nil_iff.2 filled) hbody' []
    rw [List.append_nil] at hback
    rw [strip, String.toList_ofList, stripLeft, List.dropWhile_append_of_pos hbefore,
      dropWhile_isBlank filled hbody, stripRight, List.reverse_append,
      List.dropWhile_append_of_pos hafter', hback, List.reverse_reverse]

/-- Nothing is stripped where there are no blanks. -/
theorem strip_of_forall {s : String} (h : ∀ c ∈ s.toList, isBlank c = false) : strip s = s := by
  have hnone : ∀ c ∈ [], isBlank c = true := fun c hc => (List.not_mem_nil hc).elim
  have hstrip := strip_of_blanks hnone h hnone
  rwa [List.nil_append, List.append_nil, String.ofList_toList] at hstrip

/-- The program drops blank lines first. -/
theorem strippedLines_eq (s : String) :
    strippedLines s = ((splitLines s).filter fun l => !isBlankText l).map strip := by
  rw [strippedLines, List.filter_map]
  congr 1
  refine List.filter_congr fun l _ => ?_
  rw [Function.comp_apply, Bool.eq_iff_iff, decide_eq_true_iff, Bool.not_eq_true',
    Bool.eq_false_iff, Ne, strip_eq_empty_iff]

/-- Joining the lines of a text makes no difference to those that are not blank. -/
theorem filter_splitLines_joinLines (s : String) :
    (splitLines (joinLines (splitLines s))).filter (fun l => !isBlankText l) =
      (splitLines s).filter fun l => !isBlankText l := by
  have hsingle : ∀ l ∈ linesFrom [] s.toList, OneLine l := fun l hl =>
    oneLine_of_mem_linesFrom (fun c hc => (List.not_mem_nil hc).elim) hl
  have hjoined : splitLines (joinLines (splitLines s)) =
      (if (linesFrom [] s.toList).getLast? = some [] then (linesFrom [] s.toList).dropLast
        else linesFrom [] s.toList).map String.ofList := by
    rw [splitLines, toList_joinLines_splitLines, relined, linesFrom_intercalate (Or.inl rfl) hsingle]
  rw [hjoined]
  split
  · -- the line that is lost is empty
    rename_i hlast
    rw [splitLines, ← List.dropLast_append_getLast? [] hlast]
    simp [isBlankText]
  · rfl

/-- Lines can be stripped before or after they are joined again. -/
theorem strippedLines_joinLines_splitLines (s : String) :
    strippedLines (joinLines (splitLines s)) = strippedLines s := by
  rw [strippedLines_eq, filter_splitLines_joinLines, strippedLines_eq]

end ConfigAudit.Text
