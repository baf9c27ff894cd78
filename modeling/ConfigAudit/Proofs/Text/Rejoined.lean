/-
# Texts that are cut into lines and joined again

A text that is cut into lines and joined again has line feeds in the place of its line ends, and
none in the place of the last one if nothing follows it.  So it is a text of its own, and what
occurs in it need not occur in the text that it was made from.

* `occurs_iff` : occurrence is being an infix;
* `occurs_relined_iff` : what has no line end is found before and after;
* `exists_occurs_relined_ne` : for anything else there is a text in which it is not;
* `relined_eq_iff` : the texts for which there is no difference at all.
-/
import Mathlib.Data.List.Infix
import ConfigAudit.Text.Lines

namespace ConfigAudit.Text

/-! ## Occurrence -/

/-- Beginning with a list is having it as a prefix. -/
theorem startsWith_iff (needle hay : List Char) : startsWith needle hay = true ↔ needle <+: hay := by
  induction needle generalizing hay with
  | nil => simp [startsWith]
  | cons a as ih =>
      cases hay with
      | nil => simp [startsWith]
      | cons b bs => rw [startsWith, Bool.and_eq_true, ih, beq_iff_eq, List.cons_prefix_cons]

/-- Occurring in a list is being an infix of it. -/
theorem occurs_iff (needle hay : List Char) : occurs needle hay = true ↔ needle <:+: hay := by
  induction hay with
  | nil => simp [occurs]
  | cons c rest ih => rw [occurs, Bool.or_eq_true, startsWith_iff, ih, List.infix_cons_iff]

/-- What does not have a character does not occur across it. -/
theorem infix_append_cons_iff {needle before after : List Char} {c : Char} (h : c ∉ needle) :
    needle <:+: before ++ c :: after ↔ needle <:+: before ∨ needle <:+: after := by
  rw [List.infix_append_iff, List.infix_cons_iff]
  constructor
  · rintro (hb | (hp | ha) | ⟨front, back, rfl, hfront, hback⟩)
    · exact Or.inl hb
    · rcases List.prefix_cons_iff.1 hp with rfl | ⟨t, rfl, _⟩
      · exact Or.inl List.nil_infix
      · exact absurd List.mem_cons_self h
    · exact Or.inr ha
    · rcases List.prefix_cons_iff.1 hback with rfl | ⟨t, rfl, _⟩
      · rw [List.append_nil]
        exact Or.inl hfront.isInfix
      · exact absurd (List.mem_append_right front List.mem_cons_self) h
  · rintro (hb | ha)
    · exact Or.inl hb
    · exact Or.inr (Or.inl (Or.inr ha))

/-! ## Lines -/

/-- Whether a list of characters has no line end. -/
def OneLine (cs : List Char) : Prop := ∀ c ∈ cs, isLineEnd c = false

/-- The lines of a text joined with line feeds. -/
def relined (cs : List Char) : List Char := ['\n'].intercalate (linesFrom [] cs)

/-- Joining the lines of a text is done on its characters. -/
theorem toList_joinLines_splitLines (s : String) :
    (joinLines (splitLines s)).toList = relined s.toList := by
  rw [joinLines, join, splitLines, String.toList_intercalate, List.map_map]
  have hid : String.toList ∘ String.ofList = id := funext fun _ => String.toList_ofList
  rw [hid, List.map_id]
  rfl

/-- The lines of a text have no line ends. -/
theorem oneLine_of_mem_linesFrom {line cs l : List Char} (opened : OneLine line)
    (h : l ∈ linesFrom line cs) : OneLine l := by
  have hreverse : ∀ {line : List Char}, OneLine line → OneLine line.reverse :=
    fun hline c hc => hline c (List.mem_reverse.1 hc)
  have hnil : OneLine [] := fun c hc => (List.not_mem_nil hc).elim
  fun_induction linesFrom line cs with
  | case1 line _ => cases h
  | case2 line _ => exact List.mem_singleton.1 h ▸ hreverse opened
  | case3 line rest ih =>
      rcases List.mem_cons.1 h with rfl | h
      · exact hreverse opened
      · exact ih hnil h
  | case4 line c rest _ _ ih =>
      rcases List.mem_cons.1 h with rfl | h
      · exact hreverse opened
      · exact ih hnil h
  | case5 line c rest _ hc ih =>
      refine ih ?_ h
      exact List.forall_mem_cons.2 ⟨by simpa using hc, opened⟩

/-- Something on one line occurs in a text if it occurs in one of its lines. -/
theorem infix_iff_exists_line {needle line cs : List Char} (filled : needle ≠ [])
    (single : OneLine needle) :
    needle <:+: line.reverse ++ cs ↔ ∃ l ∈ linesFrom line cs, needle <:+: l := by
  have hnil : ¬ needle <:+: [] := fun h => filled (List.infix_nil.1 h)
  have hout : ∀ {c : Char}, isLineEnd c = true → c ∉ needle := by
    intro c hc hmem
    rw [single c hmem] at hc
    cases hc
  fun_induction linesFrom line cs with
  | case1 line hline =>
      rw [List.isEmpty_iff.1 hline]
      simpa using hnil
  | case2 line hline => simp
  | case3 line rest ih =>
      -- between the two characters of a line end there is nothing to find
      have hinner : needle <:+: [] ++ '\n' :: rest ↔ needle <:+: [] ∨ needle <:+: rest :=
        infix_append_cons_iff (hout (by decide))
      rw [infix_append_cons_iff (hout (by decide)), ← List.nil_append ('\n' :: rest), hinner]
      simpa [hnil] using or_congr_right ih
  | case4 line c rest _ hc ih =>
      rw [infix_append_cons_iff (hout hc)]
      simpa using or_congr_right ih
  | case5 line c rest _ hc ih =>
      rw [List.reverse_cons, List.append_assoc, List.singleton_append] at ih
      exact ih

/-- Something on one line occurs in joined lines if it occurs in one of them. -/
theorem infix_intercalate_iff {needle : List Char} (filled : needle ≠ []) (single : OneLine needle)
    (lines : List (List Char)) :
    needle <:+: ['\n'].intercalate lines ↔ ∃ l ∈ lines, needle <:+: l := by
  have hout : '\n' ∉ needle := by
    intro hmem
    cases single '\n' hmem
  induction lines with
  | nil => simpa using filled
  | cons l lines ih =>
      cases lines with
      | nil => simp
      | cons l' lines =>
          rw [List.intercalate_cons_cons, List.append_assoc, List.singleton_append,
            infix_append_cons_iff hout]
          simpa using or_congr_right ih

/-- **What has no line end is found before and after.** -/
theorem occurs_relined_iff {needle : List Char} (single : OneLine needle) (cs : List Char) :
    occurs needle (relined cs) = occurs needle cs := by
  rw [Bool.eq_iff_iff, occurs_iff, occurs_iff]
  by_cases hneedle : needle = []
  · simp [hneedle]
  · rw [relined, infix_intercalate_iff hneedle single, ← infix_iff_exists_line hneedle single]
    rfl

/-! ## What is lost -/

/-- A line in front of others takes up its own length and that of a line feed. -/
theorem length_intercalate_cons_le (l : List Char) (lines : List (List Char)) :
    (['\n'].intercalate (l :: lines)).length ≤ l.length + 1 + (['\n'].intercalate lines).length := by
  cases lines with
  | nil => simp
  | cons l' lines =>
      rw [List.intercalate_cons_cons, List.length_append, List.length_append]
      exact Nat.le_refl _

/-- Joining lines again makes nothing longer. -/
theorem length_intercalate_linesFrom_le (line cs : List Char) :
    (['\n'].intercalate (linesFrom line cs)).length ≤ line.length + cs.length := by
  fun_induction linesFrom line cs with
  | case1 line _ => exact Nat.zero_le _
  | case2 line _ => simp
  | case3 line rest ih =>
      have hcons := length_intercalate_cons_le line.reverse (linesFrom [] rest)
      simp only [List.length_reverse, List.length_nil, List.length_cons] at *
      omega
  | case4 line c rest _ _ ih =>
      have hcons := length_intercalate_cons_le line.reverse (linesFrom [] rest)
      simp only [List.length_reverse, List.length_nil, List.length_cons] at *
      omega
  | case5 line c rest _ _ ih =>
      simp only [List.length_cons] at *
      omega

/-- A text occurs in its own joined lines only if these are the text. -/
theorem occurs_relined_self (cs : List Char) : occurs cs (relined cs) = true ↔ relined cs = cs := by
  rw [occurs_iff]
  constructor
  · intro h
    have hlength := length_intercalate_linesFrom_le [] cs
    rw [List.length_nil, Nat.zero_add] at hlength
    exact (h.eq_of_length_le hlength).symm
  · intro h
    rw [h]

/-- In joined lines every line end is a line feed. -/
theorem eq_of_isLineEnd_of_mem_relined {cs : List Char} {c : Char} (h : c ∈ relined cs)
    (hc : isLineEnd c = true) : c = '\n' := by
  have hlines : ∀ l ∈ linesFrom [] cs, OneLine l := fun l hl =>
    oneLine_of_mem_linesFrom (fun c hc => (List.not_mem_nil hc).elim) hl
  unfold relined at h
  generalize linesFrom [] cs = lines at h hlines
  induction lines with
  | nil => cases h
  | cons l lines ih =>
      obtain ⟨hl, hrest⟩ := List.forall_mem_cons.1 hlines
      have hout : c ∉ l := by
        intro hmem
        rw [hl c hmem] at hc
        cases hc
      cases lines with
      | nil =>
          rw [List.intercalate_singleton] at h
          exact absurd h hout
      | cons l' lines =>
          rw [List.intercalate_cons_cons, List.mem_append, List.mem_append, List.mem_singleton] at h
          rcases h with (h | h) | h
          · exact absurd h hout
          · exact h
          · exact ih h hrest

/-- A vertical tab in the place of a line feed. -/
def tabbed (c : Char) : Char := if c = '\n' then '\x0b' else c

/-- Which characters end the lines makes no difference to the lines. -/
theorem linesFrom_tabbed {line cs : List Char} (feeds : ∀ c ∈ cs, isLineEnd c = true → c = '\n') :
    linesFrom line (cs.map tabbed) = linesFrom line cs := by
  induction cs generalizing line with
  | nil => rfl
  | cons c rest ih =>
      obtain ⟨hc, hrest⟩ := List.forall_mem_cons.1 feeds
      have hsingle : ∀ {d : Char} {rest : List Char}, d ≠ '\r' → linesFrom line (d :: rest) =
          if isLineEnd d = true then line.reverse :: linesFrom [] rest
          else linesFrom (d :: line) rest := by
        intro d rest hd
        exact linesFrom.eq_3 line d rest fun _ h => absurd h hd
      rw [List.map_cons]
      by_cases hfeed : c = '\n'
      · subst hfeed
        rw [hsingle (by decide), hsingle (by decide), ih hrest]
        rfl
      · have hreturn : c ≠ '\r' := by
          rintro rfl
          exact hfeed (hc (by decide))
        have hend : ¬ isLineEnd c = true := fun h => hfeed (hc h)
        rw [tabbed, if_neg hfeed, hsingle hreturn, hsingle hreturn, if_neg hend, if_neg hend, ih hrest]

/-- **What has a line end is lost or made up somewhere.**  For every text with a line end there is
one whose joined lines disagree about it. -/
theorem exists_occurs_relined_ne {needle : List Char} (broken : ¬ OneLine needle) :
    ∃ cs, occurs needle (relined cs) ≠ occurs needle cs := by
  have hself : occurs needle needle = true := (occurs_iff needle needle).2 List.infix_rfl
  by_cases hsame : relined needle = needle
  · -- all its line ends are line feeds, which other line ends are taken for
    refine ⟨needle.map tabbed, ?_⟩
    have hfeeds : ∀ c ∈ needle, isLineEnd c = true → c = '\n' := by
      intro c hmem hc
      rw [← hsame] at hmem
      exact eq_of_isLineEnd_of_mem_relined hmem hc
    have hmade : relined (needle.map tabbed) = needle := by
      rw [relined, linesFrom_tabbed hfeeds]
      exact hsame
    have hfeed : '\n' ∈ needle := by
      by_contra hnone
      refine broken fun c hmem => ?_
      rw [Bool.eq_false_iff]
      intro hc
      exact hnone (hfeeds c hmem hc ▸ hmem)
    have hgone : '\n' ∉ needle.map tabbed := by
      intro hmem
      obtain ⟨c, _, hc⟩ := List.mem_map.1 hmem
      unfold tabbed at hc
      split at hc
      · cases hc
      · rename_i hne
        exact hne hc
    rw [hmade, hself]
    intro heq
    exact hgone (((occurs_iff _ _).1 heq.symm).subset hfeed)
  · -- it is shorter, or another text, when its own lines are joined
    refine ⟨needle, ?_⟩
    rw [hself]
    exact fun h => hsame ((occurs_relined_self needle).1 h)

/-- **Texts that are what their lines make.**  Joining the lines of a text makes no difference to
what occurs in it exactly if it gives the text back. -/
theorem relined_eq_iff (cs : List Char) :
    relined cs = cs ↔ ∀ needle, needle ≠ [] → occurs needle (relined cs) = occurs needle cs := by
  constructor
  · intro h needle _
    rw [h]
  · intro h
    by_cases hcs : cs = []
    · subst hcs
      rfl
    · have hself : occurs cs cs = true := (occurs_iff cs cs).2 List.infix_rfl
      exact (occurs_relined_self cs).1 ((h cs hcs).trans hself)

end ConfigAudit.Text
