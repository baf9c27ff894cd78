/-
# Spellings of outcomes

An outcome is read from its name: blanks around a spelling do not count, nor does the case of its
letters, and dashes stand for underscores.  Outcomes are also looked up by their written form, in
small letters, but this finds nothing new.  The small form of a character beyond the basic ones is
basic for two characters only, a capital I with a dot and the sign of the kelvin; the dot of the
first is kept, and no written form has the letter of the other.

* `Text.lowerCode_cases` : small forms of other characters;
* `Outcome.nameOf` : the name that a text spells;
* `Outcome.ofText?_eq_some_iff` : a text is read as the outcome whose name it spells.
-/
import Mathlib.Data.String.Basic
import ConfigAudit.Outcome

namespace ConfigAudit

/-! ## Small forms -/

namespace Text

/-- The characters of a text that is given by them. -/
theorem toList_eq_of_eq_ofList {s : String} {cs : List Char} (h : s = String.ofList cs) :
    s.toList = cs := by
  rw [h, String.toList_ofList]

/-- A run that is found is one of the runs of the map, and holds the code point. -/
theorem CaseTable.search_eq_some {t : CaseTable} {n lo hi : Nat} {r : CaseRun}
    (h : t.search n lo hi = some r) : r ∈ t.runs.toList ∧ r.first ≤ n ∧ n ≤ r.last := by
  fun_induction search t n lo hi with
  | case1 => cases h
  | case2 lo hi _ mid r' hmid hfirst ih => exact ih h
  | case3 lo hi _ mid r' hmid hfirst hlast ih => exact ih h
  | case4 lo hi _ mid r' hmid hfirst hlast =>
      cases h
      exact ⟨List.mem_of_getElem? (Array.getElem?_toList ▸ hmid), Nat.le_of_not_lt hfirst,
        Nat.le_of_not_lt hlast⟩
  | case5 => cases h

/-- Whether a run of small forms stays among the characters beyond the basic ones, or is one of
the three that do not: the basic letters themselves, a dotted letter, and the sign of the
kelvin. -/
def staysBeyond (r : CaseRun) : Bool :=
  r.last < 0x80 || 0x80 ≤ (r.first : Int) + r.shift || (r.first == 0x130 && r.last == 0x130) ||
    (r.first == 0x212a && r.last == 0x212a && r.shift == 0x6b - 0x212a)

set_option maxRecDepth 100000 in
/-- All runs of small forms are of this kind. -/
theorem staysBeyond_lowerTable : lowerTable.runs.toList.all staysBeyond = true := by
  unfold lowerTable CaseTable.read hexIntegers
  rw [toList_eq_of_eq_ofList rfl]
  decide +kernel

/-- The small form of a character beyond the basic ones is beyond them too, but for a dotted letter
and the sign of the kelvin. -/
theorem lowerCode_cases {n : Nat} (beyond : 0x80 ≤ n) (dotless : n ≠ 0x130) :
    0x80 ≤ lowerCode n ∨ lowerCode n = 0x6b := by
  rw [lowerCode, if_neg (Nat.not_lt.2 beyond), CaseTable.apply]
  split
  · rename_i r hr
    obtain ⟨hmem, hfirst, hlast⟩ := CaseTable.search_eq_some hr
    have hstays := List.all_eq_true.1 staysBeyond_lowerTable r hmem
    simp only [staysBeyond, Bool.or_eq_true, Bool.and_eq_true, decide_eq_true_eq, beq_iff_eq]
      at hstays
    split
    · omega
    · -- between two members of a run nothing is moved
      exact Or.inl beyond
  · exact Or.inl beyond

/-! ## Character by character -/

/-- The small form of a character. -/
def lowerForm (c : Char) : List Char := (lowerName (String.ofList [c])).toList

/-- What a character stands for in a name. -/
def nameForm (c : Char) : List Char :=
  (upperName (String.ofList [c])).toList.map fun c => if c == '-' then '_' else c

/-- The small form of a text. -/
theorem toList_lowerName (s : String) : (lowerName s).toList = s.toList.flatMap lowerForm := by
  unfold lowerForm lowerName
  simp only [String.toList_ofList, List.flatMap_singleton]

/-- What a text stands for in a name. -/
theorem map_toList_upperName (s : String) :
    ((upperName s).toList.map fun c => if c == '-' then '_' else c) = s.toList.flatMap nameForm := by
  unfold nameForm upperName
  simp only [String.toList_ofList, List.flatMap_singleton, List.map_flatMap]

/-- A dotted letter keeps its dot. -/
theorem lowerForm_dotted {c : Char} (h : c.toNat = 0x130) :
    lowerForm c = ['i', Char.ofNat 0x307] := by
  simp [lowerForm, lowerName, h]

/-- Any other character has one small form. -/
theorem lowerForm_of_ne {c : Char} (h : c.toNat ≠ 0x130) :
    lowerForm c = [Char.ofNat (lowerCode c.toNat)] := by
  unfold lowerForm lowerName
  simp only [String.toList_ofList, List.flatMap_singleton]

/-- The characters of the written forms of outcomes, and perhaps others. -/
def isWritten (c : Char) : Bool :=
  0x61 ≤ c.toNat && c.toNat ≤ 0x7a && c.toNat != 0x6b || c.toNat == 0x5f

/-- A basic character whose small form is written stands for the capital letter of it. -/
theorem nameForm_of_basic {c : Char} (basic : c.toNat < 0x80)
    (written : isWritten (Char.ofNat (lowerCode c.toNat)) = true) :
    nameForm c = [(Char.ofNat (lowerCode c.toNat)).toUpper] := by
  have hall : ∀ n < 0x80, isWritten (Char.ofNat (lowerCode n)) = true →
      nameForm (Char.ofNat n) = [(Char.ofNat (lowerCode n)).toUpper] := by decide +kernel
  have hc := hall c.toNat basic written
  rwa [Char.ofNat_toNat] at hc

/-- A character that is written is basic, and not the letter of the kelvin. -/
theorem lt_of_isWritten {n : Nat} (written : isWritten (Char.ofNat n) = true) :
    n < 0x80 ∧ n ≠ 0x6b := by
  simp only [isWritten, Bool.or_eq_true, Bool.and_eq_true, decide_eq_true_eq, bne_iff_ne,
    beq_iff_eq] at written
  have htoNat : (Char.ofNat n).toNat = n ∨ (Char.ofNat n).toNat = 0 := by
    by_cases hvalid : n.isValidChar
    · left
      rw [Char.ofNat, dif_pos hvalid]
      rfl
    · right
      rw [Char.ofNat, dif_neg hvalid]
      rfl
  omega

/-- A text whose small form is written stands for the capital letters of it. -/
theorem flatMap_nameForm_of_written {cs xs : List Char} (written : ∀ x ∈ xs, isWritten x = true)
    (h : cs.flatMap lowerForm = xs) : cs.flatMap nameForm = xs.map Char.toUpper := by
  induction cs generalizing xs with
  | nil =>
      cases h
      rfl
  | cons c cs ih =>
      rw [List.flatMap_cons] at h
      subst h
      have hfirst := fun x hx => written x (List.mem_append_left _ hx)
      have hothers := ih (fun x hx => written x (List.mem_append_right _ hx)) rfl
      by_cases dotted : c.toNat = 0x130
      · -- the dot that is kept is in no written form
        rw [lowerForm_dotted dotted] at hfirst
        exact absurd (hfirst (Char.ofNat 0x307) (by simp)) (by decide)
      · rw [lowerForm_of_ne dotted] at hfirst ⊢
        have hwritten := hfirst _ List.mem_cons_self
        obtain ⟨hbasic, hkelvin⟩ := lt_of_isWritten hwritten
        have hc : c.toNat < 0x80 := by
          by_contra beyond
          rcases lowerCode_cases (Nat.not_lt.1 beyond) dotted with h | h <;> omega
        rw [List.flatMap_cons, nameForm_of_basic hc hwritten, hothers, List.map_append]
        rfl

end Text

/-! ## Outcomes -/

namespace Outcome

/-- The name that a text spells: without the blanks around it, in capital letters, and with
underscores for dashes. -/
def nameOf (s : String) : String :=
  String.ofList ((Text.upperName (Text.strip s)).toList.map fun c => if c == '-' then '_' else c)

/-- The written form of an outcome is the small form of its name. -/
theorem written_text (o : Outcome) :
    o.text.toList.all Text.isWritten = true ∧
      String.ofList (o.text.toList.map Char.toUpper) = o.name := by
  cases o <;> decide

/-- A text whose small form is a written form spells the name. -/
theorem nameOf_of_written {s : String} {o : Outcome} (h : Text.lowerName (Text.strip s) = o.text) :
    nameOf s = o.name := by
  obtain ⟨hwritten, hname⟩ := o.written_text
  have hlist := Text.toList_lowerName (Text.strip s)
  rw [h] at hlist
  rw [nameOf, Text.map_toList_upperName,
    Text.flatMap_nameForm_of_written (List.all_eq_true.1 hwritten) hlist.symm, hname]

/-- An outcome that is found by a name has the name. -/
theorem name_of_ofName? {key : String} {o : Outcome} (h : ofName? key = some o) : o.name = key := by
  rw [ofName?] at h
  simpa using List.find?_some h

/-- An outcome that is found by a written form has the form. -/
theorem text_of_ofWritten? {form : String} {o : Outcome} (h : ofWritten? form = some o) :
    o.text = form := by
  rw [ofWritten?] at h
  simpa using List.find?_some h

/-- **Reading an outcome.**  A text is read as the outcome whose name it spells. -/
theorem ofText?_eq_some_iff {s : String} {o : Outcome} :
    ofText? s = some o ↔ nameOf s = o.name := by
  have hread : ofText? s = (ofName? (nameOf s)).or (ofWritten? (Text.lowerName (Text.strip s))) := by
    unfold ofText? nameOf
    simp only
    split
    · rename_i o' ho
      rw [ho, Option.some_or]
    · rename_i ho
      rw [ho, Option.none_or]
  rw [hread]
  constructor
  · intro h
    rcases Option.or_eq_some_iff.1 h with hname | ⟨_, hwritten⟩
    · exact (name_of_ofName? hname).symm
    · exact nameOf_of_written (text_of_ofWritten? hwritten).symm
  · intro h
    rw [h, ofName?_name, Option.some_or]

end Outcome

end ConfigAudit
