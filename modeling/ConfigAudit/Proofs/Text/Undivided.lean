/-
# Texts that fill one line

A text that is printed with a line feed behind it fills one line if no character of it ends a line.
Which characters do depends on the reader: some take a line feed alone, others all characters that
end lines.

* `Text.Undivided` : texts without the characters that end lines for a reader;
* `Text.splitAt_ended_iff`, `Text.splitLines_ended_iff` : texts that are the lines of what is
  printed of them.
-/
import ConfigAudit.Proofs.Text.Stripped

namespace ConfigAudit.Text

/-- Whether no character of a text ends a line. -/
def Undivided (isEnd : Char → Bool) (s : String) : Prop := ∀ c ∈ s.toList, isEnd c = false

instance : DecidablePred OneLine := fun cs =>
  decidable_of_iff ((cs.all fun c => !isLineEnd c) = true) (by simp [OneLine])

section Undivided

variable {isEnd : Char → Bool} {s t : String}

/-- Two texts one behind the other are undivided if both are. -/
theorem undivided_append : Undivided isEnd (s ++ t) ↔ Undivided isEnd s ∧ Undivided isEnd t := by
  unfold Undivided
  rw [String.toList_append]
  exact List.forall_mem_append

/-- A text on one line is undivided for every reader. -/
theorem undivided_of_oneLine (ends : ∀ c, isEnd c = true → isLineEnd c = true)
    (h : OneLine s.toList) : Undivided isEnd s := by
  intro c hc
  rw [Bool.eq_false_iff]
  intro hend
  have hline := h c hc
  rw [ends c hend] at hline
  cases hline

/-- Texts that are joined are undivided if each of them and the separator are. -/
theorem undivided_join {sep : String} {parts : List String} (hsep : Undivided isEnd sep)
    (hparts : ∀ p ∈ parts, Undivided isEnd p) : Undivided isEnd (join sep parts) := by
  unfold Undivided
  rw [join, String.toList_intercalate]
  induction parts with
  | nil => exact fun c hc => (List.not_mem_nil hc).elim
  | cons p parts ih =>
      obtain ⟨hp, hparts⟩ := List.forall_mem_cons.1 hparts
      cases parts with
      | nil =>
          rw [List.map_singleton, List.intercalate_singleton]
          exact hp
      | cons p' parts =>
          rw [List.map_cons, List.map_cons, List.intercalate_cons_cons]
          exact List.forall_mem_append.2 ⟨List.forall_mem_append.2 ⟨hp, hsep⟩, ih hparts⟩

/-- A number is written on one line. -/
theorem oneLine_toString (n : Nat) : OneLine (toString n).toList := by
  intro c hc
  have hdigits : (toString n).toList = Nat.toDigits 10 n := String.toList_ofList
  rw [hdigits] at hc
  have hrange : 0x30 ≤ c.toNat ∧ c.toNat ≤ 0x39 :=
    Char.isDigit_iff_toNat.1 (Nat.isDigit_of_mem_toDigits (by decide) (by decide) hc)
  rw [isLineEnd]
  simp only [Bool.or_eq_false_iff, Bool.and_eq_false_iff, decide_eq_false_iff_not,
    beq_eq_false_iff_ne]
  omega

/-- What is left of a line when it is stripped is on one line. -/
theorem oneLine_strip (h : OneLine s.toList) : OneLine (strip s).toList := by
  intro c hc
  rw [strip, String.toList_ofList] at hc
  exact h c ((List.dropWhile_sublist isBlank).mem
    (List.mem_reverse.1 ((List.dropWhile_sublist isBlank).mem (List.mem_reverse.1 hc))))

end Undivided

/-! ## Lines that are printed -/

section Ended

variable {sep : Char}

/-- The parts between separators have no separator. -/
theorem not_mem_of_mem_partsFrom {part cs l : List Char} (opened : sep ∉ part)
    (h : l ∈ partsFrom sep part cs) : sep ∉ l := by
  have hreverse : ∀ {part : List Char}, sep ∉ part → sep ∉ part.reverse :=
    fun hpart hc => hpart (List.mem_reverse.1 hc)
  induction cs generalizing part with
  | nil => exact List.mem_singleton.1 h ▸ hreverse opened
  | cons c cs ih =>
      rw [partsFrom] at h
      split at h
      · rcases List.mem_cons.1 h with rfl | h
        · exact hreverse opened
        · exact ih List.not_mem_nil h
      · rename_i hc
        refine ih (fun hmem => ?_) h
        rcases List.mem_cons.1 hmem with rfl | hmem
        · exact hc (beq_self_eq_true sep)
        · exact opened hmem

/-- There is one part more than there are separators. -/
theorem length_partsFrom (part cs : List Char) :
    (partsFrom sep part cs).length = cs.count sep + 1 := by
  induction cs generalizing part with
  | nil => rfl
  | cons c cs ih =>
      rw [partsFrom, List.count_cons]
      split
      · rw [List.length_cons, ih]
      · rw [ih, Nat.add_zero]

/-- Characters without a separator go into the open part. -/
theorem partsFrom_append {l : List Char} (h : sep ∉ l) (part rest : List Char) :
    partsFrom sep part (l ++ rest) = partsFrom sep (l.reverse ++ part) rest := by
  induction l generalizing part with
  | nil => rfl
  | cons c l ih =>
      have hc : ¬ (c == sep) = true := fun heq => h (beq_iff_eq.1 heq ▸ List.mem_cons_self)
      have hl : sep ∉ l := fun hmem => h (List.mem_cons_of_mem c hmem)
      rw [List.cons_append, partsFrom, if_neg hc, ih hl, List.reverse_cons, List.append_assoc,
        List.singleton_append]

/-- The parts of what ends with a separator each are these, and nothing behind the last one. -/
theorem partsFrom_ended {lines : List (List Char)} (h : ∀ l ∈ lines, sep ∉ l) :
    partsFrom sep [] (lines.flatMap (· ++ [sep])) = lines ++ [[]] := by
  induction lines with
  | nil => rfl
  | cons l lines ih =>
      obtain ⟨hl, hlines⟩ := List.forall_mem_cons.1 h
      rw [List.flatMap_cons, List.append_assoc, partsFrom_append hl, List.singleton_append,
        partsFrom, if_pos (beq_self_eq_true sep), ih hlines, List.append_nil, List.reverse_reverse,
        List.cons_append]

variable {lines : List String}

/-- What is printed of lines. -/
theorem toList_ended (lines : List String) : (String.join (lines.map (· ++ "\n"))).toList =
    (lines.map String.toList).flatMap (· ++ ['\n']) := by
  simp [String.toList_join, List.flatMap_map]

/-- Lines are cut off by their line feeds exactly if there is no other one. -/
theorem splitAt_ended_iff : splitAt '\n' (String.join (lines.map (· ++ "\n"))) = lines ++ [""] ↔
    ∀ l ∈ lines, Undivided (· == '\n') l := by
  have hfeed : ∀ l : String, '\n' ∉ l.toList ↔ Undivided (· == '\n') l := by
    intro l
    simp only [Undivided, beq_eq_false_iff_ne, ne_eq]
    exact ⟨fun h c hc heq => h (heq ▸ hc), fun h hmem => h _ hmem rfl⟩
  rw [splitAt, toList_ended]
  constructor
  · intro h l hl
    obtain ⟨cs, hcs, rfl⟩ := List.mem_map.1 (h ▸ List.mem_append_left [""] hl)
    rw [← hfeed, String.toList_ofList]
    exact not_mem_of_mem_partsFrom List.not_mem_nil hcs
  · intro h
    have hparts : ∀ cs ∈ lines.map String.toList, '\n' ∉ cs := by
      intro cs hcs
      obtain ⟨l, hl, rfl⟩ := List.mem_map.1 hcs
      exact (hfeed l).2 (h l hl)
    rw [partsFrom_ended hparts]
    simp [Function.comp_def]

/-- Lines are cut off where lines end exactly if they do not end anywhere else. -/
theorem splitLines_ended_iff : splitLines (String.join (lines.map (· ++ "\n"))) = lines ↔
    ∀ l ∈ lines, Undivided isLineEnd l := by
  constructor
  · intro h l hl
    rw [← h, splitLines] at hl
    obtain ⟨cs, hcs, rfl⟩ := List.mem_map.1 hl
    intro c hc
    rw [String.toList_ofList] at hc
    exact oneLine_of_mem_linesFrom (fun c hc => (List.not_mem_nil hc).elim) hcs c hc
  · intro h
    exact splitLines_of_isForm h ⟨"\n", Or.inl rfl, Or.inl rfl⟩

end Ended

end ConfigAudit.Text
