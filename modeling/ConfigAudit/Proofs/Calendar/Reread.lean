/-
# Moments that are written and read again

Every moment that there can be has a written form, and every written form is read.  What is read is
the moment that was written, unless its offset is less than a second: such an offset counts as none
when it is read, though it is written.

* `Reading.digits?_padded` : numbers with leading zeros are read back;
* `Reading.clock?_text`, `Reading.clock?_brief` : so are times of day, and lengths of offsets;
* `Moment.reread` : what a moment is read as, once it is written;
* `readMoment_text` : the written form is read as this;
* `isValid_of_readMoment` : what is read is a moment that can be written and read again.
-/
import Mathlib.Data.List.Basic
import Mathlib.Data.List.TakeWhile
import ConfigAudit.Calendar.Reading

namespace ConfigAudit

/-! ## Padded numbers -/

namespace Date

variable {w n : Nat}

/-- A padded number has zeros in front of its digits. -/
theorem toList_padded (w n : Nat) : (padded w n).toList =
    List.replicate (w - (Nat.toDigits 10 n).length) '0' ++ Nat.toDigits 10 n :=
  String.toList_ofList

/-- A padded number is as long as asked for, if it is not longer by itself. -/
theorem length_padded (hw : 0 < w) (h : n < Nat.pow 10 w) : (padded w n).toList.length = w := by
  have hdigits : (Nat.toDigits 10 n).length ≤ w := (Nat.length_toDigits_le_iff (by decide) hw).2 h
  rw [toList_padded, List.length_append, List.length_replicate]
  omega

/-- All characters of a padded number are digits. -/
theorem isDigit_of_mem_padded {c : Char} (h : c ∈ (padded w n).toList) : c.isDigit = true := by
  rw [toList_padded, List.mem_append] at h
  rcases h with hzero | hdigit
  · rw [List.eq_of_mem_replicate hzero]
    rfl
  · exact Nat.isDigit_of_mem_toDigits (by decide) (by decide) hdigit

/-- A padded number has a character. -/
theorem padded_ne_nil (w n : Nat) : (padded w n).toList ≠ [] := by
  rw [toList_padded]
  exact List.append_ne_nil_of_right_ne_nil _ Nat.toDigits_ne_nil

/-- Zeros in front make no difference to a number. -/
theorem ofDigitChars_padded (w n : Nat) : Nat.ofDigitChars 10 (padded w n).toList 0 = n := by
  have hzeros : ∀ k, Nat.ofDigitChars 10 (List.replicate k '0') 0 = 0 := by
    intro k
    induction k with
    | zero => rfl
    | succ k ih => rw [List.replicate_succ, Nat.ofDigitChars_cons]; exact ih
  rw [toList_padded, Nat.ofDigitChars_append, hzeros]
  exact Nat.ofDigitChars_toDigits (by decide) (by decide)

end Date

namespace Reading

/-- Digits are read as the number that they spell. -/
theorem digits?_go_append (acc : Nat) {ds : List Char} (digits : ∀ c ∈ ds, c.isDigit = true)
    (rest : List Char) :
    digits?.go acc ds.length (ds ++ rest) = some (Nat.ofDigitChars 10 ds acc, rest) := by
  induction ds generalizing acc with
  | nil => rfl
  | cons c ds ih =>
      obtain ⟨hc, hds⟩ := List.forall_mem_cons.1 digits
      rw [List.length_cons, List.cons_append, digits?.go, if_pos hc, ih _ hds,
        Nat.ofDigitChars_cons, Nat.mul_comm]
      rfl

/-- A padded number is read back. -/
theorem digits?_padded {w n : Nat} (hw : 0 < w) (h : n < Nat.pow 10 w) (rest : List Char) :
    digits? w ((Date.padded w n).toList ++ rest) = some (n, rest) := by
  have hdigits : ∀ c ∈ (Date.padded w n).toList, c.isDigit = true :=
    fun _ => Date.isDigit_of_mem_padded
  have hread := digits?_go_append 0 hdigits rest
  rwa [Date.length_padded hw h, Date.ofDigitChars_padded] at hread

/-- A number that is read has no more digits than it may. -/
theorem digits?_go_lt {acc n x : Nat} {cs rest : List Char}
    (h : digits?.go acc n cs = some (x, rest)) : x < (acc + 1) * Nat.pow 10 n := by
  induction n generalizing acc cs with
  | zero =>
      cases h
      exact Nat.lt_of_lt_of_eq (Nat.lt_succ_self x) (Nat.mul_one (x + 1)).symm
  | succ n ih =>
      cases cs with
      | nil => cases h
      | cons c cs =>
          rw [digits?.go] at h
          split at h
          · rename_i hc
            have hdigit : c.toNat ≤ 0x39 := (Char.isDigit_iff_toNat.1 hc).2
            calc x < (acc * 10 + (c.toNat - 0x30) + 1) * 10 ^ n := ih h
              _ ≤ ((acc + 1) * 10) * 10 ^ n := Nat.mul_le_mul_right _ (by omega)
              _ = (acc + 1) * 10 ^ (n + 1) := by rw [Nat.mul_assoc, Nat.pow_succ']
          · cases h

/-- A fraction of a second is less than a second. -/
theorem fraction?_lt {cs : List Char} {n : Nat} {left : Bool} (h : fraction? cs = some (n, left)) :
    n < 1000000 := by
  obtain ⟨⟨x, rest⟩, hx, h⟩ := Option.bind_eq_some_iff.1 h
  cases h
  have hlt := digits?_go_lt hx
  rw [Nat.zero_add, Nat.one_mul] at hlt
  calc x * 10 ^ (6 - min 6 cs.length) < 10 ^ min 6 cs.length * 10 ^ (6 - min 6 cs.length) :=
        Nat.mul_lt_mul_of_pos_right hlt (Nat.pow_pos (by decide))
    _ = 1000000 := by rw [← Nat.pow_add, Nat.add_sub_cancel' (Nat.min_le_left _ _)]

/-! ## Times of day -/

section Fields

variable {n micro k : Nat} {got : List Nat} {colons : Bool}

/-- The last field of a time. -/
theorem fields?_padded (h : n < 100) :
    fields? colons got (k + 1) (Date.padded 2 n).toList = some ((n :: got).reverse, 0, false) := by
  have hread := digits?_padded Nat.two_pos h []
  rw [List.append_nil] at hread
  rw [fields?, hread]
  rfl

/-- A field of a time, with a colon behind it. -/
theorem fields?_colon (h : n < 100) {rest : List Char} (more : rest ≠ []) :
    fields? true got (k + 1) ((Date.padded 2 n).toList ++ ':' :: rest) =
      fields? true (n :: got) k rest := by
  obtain ⟨c, rest, rfl⟩ := List.exists_cons_of_ne_nil more
  rw [fields?, digits?_padded Nat.two_pos h]
  cases got <;> rfl

/-- The last field of a time, with a fraction behind it. -/
theorem fields?_point (h : n < 100) (hmicro : micro < 1000000) :
    fields? colons got (k + 1) ((Date.padded 2 n).toList ++ '.' :: (Date.padded 6 micro).toList) =
      some ((n :: got).reverse, micro, false) := by
  have hlength : (Date.padded 6 micro).toList.length = 6 :=
    Date.length_padded (by decide) hmicro
  have hread := digits?_padded (Nat.succ_pos 5) hmicro []
  rw [List.append_nil] at hread
  have hfraction : fraction? (Date.padded 6 micro).toList = some (micro, false) := by
    rw [fraction?, hlength, Nat.min_self, hread]
    simp
  obtain ⟨c, rest, hrest⟩ := List.exists_cons_of_ne_nil
    (List.ne_nil_of_length_pos (hlength ▸ (by decide : 0 < 6)))
  rw [hrest] at hfraction ⊢
  rw [fields?, digits?_padded Nat.two_pos h]
  cases got <;> cases colons <;> simp [hfraction]

/-- The fraction of a time is less than a second. -/
theorem micro_lt_of_fields? {cs : List Char} {parts : List Nat} {left : Bool}
    (h : fields? colons got k cs = some (parts, micro, left)) : micro < 1000000 := by
  induction k generalizing colons got cs with
  | zero =>
      obtain ⟨⟨n, l⟩, hn, h⟩ := Option.bind_eq_some_iff.1 h
      cases h
      exact fraction?_lt hn
  | succ k ih =>
      obtain ⟨⟨n, rest⟩, _, h⟩ := Option.bind_eq_some_iff.1 h
      dsimp only at h
      split at h
      · cases h
        decide
      · cases h
        decide
      · -- whether there are colons makes no difference to the fraction
        rename_i c rest _ _
        generalize (if got.isEmpty = true then c == ':' else colons) = separated at h
        split at h
        · exact ih h
        · split at h
          · obtain ⟨⟨n, l⟩, hn, h⟩ := Option.bind_eq_some_iff.1 h
            cases h
            exact fraction?_lt hn
          · split at h
            · exact ih h
            · cases h

end Fields

end Reading

namespace Clock

/-- A time of day that there is. -/
structure IsValid (c : Clock) : Prop where
  /-- The hour. -/
  hour : c.hour ≤ 23
  /-- The minute. -/
  minute : c.minute ≤ 59
  /-- The second. -/
  second : c.second ≤ 59
  /-- The microsecond. -/
  micro : c.micro ≤ 999999

/-- Hours and minutes, and seconds and a fraction as far as they are needed. -/
def brief (c : Clock) : String :=
  Date.padded 2 c.hour ++ ":" ++ Date.padded 2 c.minute ++
    (if c.second = 0 ∧ c.micro = 0 then "" else ":" ++ Date.padded 2 c.second) ++
    (if c.micro = 0 then "" else "." ++ Date.padded 6 c.micro)

/-- Less than a day is a time of day. -/
theorem isValid_ofMicros {n : Nat} (h : n < 86400000000) : (ofMicros n).IsValid := by
  constructor <;> simp only [ofMicros] <;> omega

/-- A clock shows the microseconds that it was set to. -/
theorem micros_ofMicros (n : Nat) : (ofMicros n).micros = n := by
  simp only [micros, ofMicros]
  omega

variable {c : Clock}

/-- The characters of a time of day. -/
theorem toList_text (c : Clock) : c.text.toList =
    (Date.padded 2 c.hour).toList ++ ':' :: ((Date.padded 2 c.minute).toList ++
      ':' :: ((Date.padded 2 c.second).toList ++
        if c.micro = 0 then [] else '.' :: (Date.padded 6 c.micro).toList)) := by
  unfold text
  split <;> simp

/-- The characters of a time of day, as far as they are needed. -/
theorem toList_brief (c : Clock) : c.brief.toList =
    (Date.padded 2 c.hour).toList ++ ':' :: ((Date.padded 2 c.minute).toList ++
      if c.second = 0 ∧ c.micro = 0 then [] else ':' :: ((Date.padded 2 c.second).toList ++
        if c.micro = 0 then [] else '.' :: (Date.padded 6 c.micro).toList)) := by
  unfold brief
  by_cases hmicro : c.micro = 0 <;> by_cases hsecond : c.second = 0 <;> simp [hmicro, hsecond]

/-- A time of day consists of digits, colons and points. -/
theorem mem_text {x : Char} (h : x ∈ c.text.toList ∨ x ∈ c.brief.toList) :
    x.isDigit = true ∨ x = ':' ∨ x = '.' := by
  have hdigit : ∀ {w n : Nat}, x ∈ (Date.padded w n).toList → x.isDigit = true :=
    fun h => Date.isDigit_of_mem_padded h
  rw [toList_text, toList_brief] at h
  by_contra hother
  obtain ⟨hno, hcolon, hpoint⟩ : ¬ x.isDigit = true ∧ x ≠ ':' ∧ x ≠ '.' := by
    simpa only [not_or] using hother
  have hout : ∀ {w n : Nat}, x ∉ (Date.padded w n).toList := fun hmem => hno (hdigit hmem)
  rcases h with h | h <;>
    (simp only [List.mem_append, List.mem_cons, hout, hcolon, false_or] at h
     split at h <;> simp_all)

end Clock

namespace Reading

variable {c : Clock}

/-- A time of day is read back. -/
theorem clock?_text (h : c.IsValid) : clock? c.text.toList = some (c, false) := by
  obtain ⟨hhour, hminute, hsecond, hmicro⟩ := h
  rw [Clock.toList_text, clock?, fields?_colon (by omega) (by simp), fields?_colon (by omega)
    (List.append_ne_nil_of_left_ne_nil (Date.padded_ne_nil _ _) _)]
  by_cases hzero : c.micro = 0
  · rw [if_pos hzero, List.append_nil, fields?_padded (by omega)]
    obtain ⟨hour, minute, second, micro⟩ := c
    cases hzero
    rfl
  · rw [if_neg hzero, fields?_point (by omega) (by omega)]
    rfl

/-- A time of day is read back as far as it was needed. -/
theorem clock?_brief (h : c.IsValid) : clock? c.brief.toList = some (c, false) := by
  by_cases hwhole : c.second = 0 ∧ c.micro = 0
  · obtain ⟨hhour, hminute, _, _⟩ := h
    rw [Clock.toList_brief, clock?, fields?_colon (by omega)
      (List.append_ne_nil_of_left_ne_nil (Date.padded_ne_nil _ _) _), if_pos hwhole,
      List.append_nil, fields?_padded (by omega)]
    obtain ⟨hour, minute, second, micro⟩ := c
    obtain ⟨hsecond, hmicro⟩ := hwhole
    cases hsecond
    cases hmicro
    rfl
  · -- nothing is left out
    rw [Clock.toList_brief, if_neg hwhole, ← Clock.toList_text]
    exact clock?_text h

end Reading

/-! ## Moments that there can be -/

namespace Moment

/-- A moment that there can be: a day of the calendar, a time of that day, and an offset of less
than a day. -/
structure IsValid (m : Moment) : Prop where
  /-- The day. -/
  date : m.date.isValid = true
  /-- The time of that day. -/
  clock : m.clock.IsValid
  /-- The offset. -/
  offset : ∀ o, m.offset = some o → o.natAbs < 86400000000

/-- What a moment is read as once it is written: an offset of less than a second counts as none. -/
def reread (m : Moment) : Moment :=
  { m with offset := m.offset.map fun o => if o.natAbs < 1000000 then 0 else o }

/-- Whether the offset of a moment, if it has one, is zero or at least a second. -/
def OffsetKept (m : Moment) : Prop := ∀ o, m.offset = some o → o = 0 ∨ 1000000 ≤ o.natAbs

variable {m : Moment}

/-- A moment whose offset is kept is read as it is. -/
theorem reread_of_offsetKept (h : m.OffsetKept) : m.reread = m := by
  obtain ⟨date, clock, offset⟩ := m
  cases offset with
  | none => rfl
  | some o =>
      have hsize : (if o.natAbs < 1000000 then 0 else o) = o := by
        rcases h o rfl with rfl | hlarge
        · rfl
        · exact if_neg (Nat.not_lt.2 hlarge)
      rw [reread, Option.map_some, hsize]

/-- A moment whose offset is not kept is read at an offset of zero. -/
theorem reread_of_not_offsetKept (h : ¬ m.OffsetKept) : m.reread = { m with offset := some 0 } := by
  obtain ⟨date, clock, offset⟩ := m
  cases offset with
  | none => exact absurd (fun o ho => nomatch ho) h
  | some o =>
      have hsmall : o.natAbs < 1000000 := by
        by_contra hlarge
        refine h fun x hx => Or.inr ?_
        cases hx
        exact Nat.not_lt.1 hlarge
      rw [reread, Option.map_some, if_pos hsmall]

/-- What is read denotes the same instant exactly if the offset is kept. -/
theorem instant_reread_eq_iff : m.reread.instant = m.instant ↔ m.OffsetKept := by
  constructor
  · intro h o ho
    have hlocal : m.reread.localMicros = m.localMicros := rfl
    have hoffset : m.reread.offset = some (if o.natAbs < 1000000 then 0 else o) := by
      rw [reread, ho, Option.map_some]
    rw [instant, instant, hlocal, hoffset, ho, Option.getD_some, Option.getD_some] at h
    split at h <;> omega
  · intro h
    rw [reread_of_offsetKept h]

/-- The last microsecond of a leap day, at an offset of almost a day behind universal time. -/
def leapNight : Moment := ⟨⟨2024, 2, 29⟩, ⟨23, 59, 59, 999999⟩, some (-86399999999)⟩

/-- There is such a moment. -/
theorem isValid_leapNight : leapNight.IsValid := by
  refine ⟨by decide, ⟨by decide, by decide, by decide, by decide⟩, ?_⟩
  rintro _ ⟨⟩
  decide

/-- Its offset is kept. -/
theorem offsetKept_leapNight : leapNight.OffsetKept := by
  rintro _ ⟨⟩
  decide

/-- A moment with an offset of half a second. -/
def halfAhead : Moment := ⟨⟨2027, 1, 1⟩, ⟨0, 0, 0, 0⟩, some 500000⟩

/-- There is such a moment. -/
theorem isValid_halfAhead : halfAhead.IsValid := by
  refine ⟨by decide, ⟨by decide, by decide, by decide, by decide⟩, ?_⟩
  rintro _ ⟨⟩
  decide

/-- What passes the check is a moment that there can be, but for its fraction. -/
theorem check_eq_ok_iff {m' : Moment} : m.check = .ok m' ↔ m' = m ∧ m.date.isValid = true ∧
    m.clock.hour ≤ 23 ∧ m.clock.minute ≤ 59 ∧ m.clock.second ≤ 59 ∧
    ∀ o, m.offset = some o → o.natAbs < 86400000000 := by
  have hdate : m.date.isValid = true ↔ (1 ≤ m.date.year ∧ m.date.year ≤ 9999) ∧
      (1 ≤ m.date.month ∧ m.date.month ≤ 12) ∧
      1 ≤ m.date.day ∧ m.date.day ≤ Date.monthLength m.date.year m.date.month := by
    simp [Date.isValid, and_assoc]
  rw [hdate]
  unfold check
  dsimp only
  cases ho : m.offset with
  | none =>
      dsimp only
      split_ifs <;> first | (refine iff_of_false nofun ?_; omega) | skip
      rw [Except.ok.injEq, eq_comm]
      exact (and_iff_left ⟨by omega, by omega, by omega, by omega, nofun⟩).symm
  | some o =>
      dsimp only
      by_cases hfits : o.natAbs < 86400000000
      · rw [if_pos hfits]
        dsimp only
        split_ifs <;> first | (refine iff_of_false nofun ?_; omega) | skip
        rw [Except.ok.injEq, eq_comm]
        refine (and_iff_left ⟨by omega, by omega, by omega, by omega, ?_⟩).symm
        rintro _ ⟨⟩
        exact hfits
      · rw [if_neg hfits]
        refine iff_of_false nofun ?_
        rintro ⟨_, _, _, _, _, hoffset⟩
        exact hfits (hoffset o rfl)

end Moment

namespace Date

variable {d : Date}

/-- The characters of a date. -/
theorem toList_text (d : Date) : d.text.toList =
    (padded 4 d.year).toList ++ '-' :: ((padded 2 d.month).toList ++
      '-' :: (padded 2 d.day).toList) := by
  simp [text]

/-- The numbers of a date have no more digits than they may. -/
theorem lt_of_isValid (h : d.isValid = true) : d.year < 10000 ∧ d.month < 100 ∧ d.day < 100 := by
  have hlength : monthLength d.year d.month ≤ 31 := by
    unfold monthLength
    split_ifs <;> decide
  simp only [isValid, Bool.and_eq_true, decide_eq_true_eq] at h
  omega

/-- A date takes ten characters. -/
theorem length_text (h : d.isValid = true) : d.text.toList.length = 10 := by
  obtain ⟨hyear, hmonth, hday⟩ := lt_of_isValid h
  rw [toList_text, List.length_append, List.length_cons, List.length_append, List.length_cons,
    length_padded (by decide) hyear, length_padded (by decide) hmonth,
    length_padded (by decide) hday]

end Date

namespace Reading

variable {d : Date}

/-- Something of length two that consists of digits does not begin with a letter. -/
theorem exists_padded_two {n : Nat} (h : n < 100) :
    ∃ a b, (Date.padded 2 n).toList = [a, b] ∧ a ≠ 'W' := by
  obtain ⟨a, b, hab⟩ := List.length_eq_two.1 (Date.length_padded Nat.two_pos h)
  refine ⟨a, b, hab, ?_⟩
  rintro rfl
  have hdigit : 'W'.isDigit = true :=
    Date.isDigit_of_mem_padded (w := 2) (n := n) (hab ▸ List.mem_cons_self)
  cases hdigit

/-- A date is read back. -/
theorem date?_text (h : d.isValid = true) : date? d.text.toList = some d := by
  obtain ⟨hyear, hmonth, hday⟩ := Date.lt_of_isValid h
  obtain ⟨a, b, hab, hletter⟩ := exists_padded_two hmonth
  have hfour : 0 < 4 := by decide
  have hyearRead := digits?_padded hfour hyear ('-' :: (a :: b ::
    '-' :: (Date.padded 2 d.day).toList))
  have hmonthRead := digits?_padded Nat.two_pos hmonth ('-' :: (Date.padded 2 d.day).toList)
  have hdayRead := digits?_padded Nat.two_pos hday []
  rw [hab] at hmonthRead
  rw [List.append_nil] at hdayRead
  rw [Date.toList_text, hab, date?]
  simp only [List.cons_append, List.nil_append] at *
  rw [hyearRead, Option.bind_eq_bind, Option.bind_some]
  dsimp only
  split
  · -- a month does not begin with the letter of a week
    rename_i heq
    exact absurd (List.cons.inj heq).1 hletter
  · simp only [hmonthRead, Option.bind_some, if_true, Option.bind_eq_bind, hdayRead]
    rfl

/-- A date in front of a time is found by its length. -/
theorem dateLength_text (h : d.isValid = true) (time : List Char) :
    dateLength (d.text.toList ++ 'T' :: time) = 10 := by
  obtain ⟨hyear, hmonth, hday⟩ := Date.lt_of_isValid h
  obtain ⟨a, b, hab, hletter⟩ := exists_padded_two hmonth
  have hlength : (d.text.toList ++ 'T' :: time).length ≠ 7 := by
    rw [List.length_append, Date.length_text h]
    omega
  have hfour : 0 < 4 := by decide
  have hyearLength := Date.length_padded hfour hyear
  have hdash : (d.text.toList ++ 'T' :: time)[4]? = some '-' := by
    rw [Date.toList_text, List.append_assoc, List.getElem?_append_right (by omega), hyearLength]
    rfl
  have hletter' : (d.text.toList ++ 'T' :: time)[5]? ≠ some 'W' := by
    rw [Date.toList_text, List.append_assoc, List.getElem?_append_right (by omega), hyearLength, hab]
    simpa using hletter
  rw [dateLength, if_neg hlength, if_pos hdash, if_neg hletter']

end Reading

/-! ## Written moments -/

namespace Moment

variable {m : Moment}

/-- The characters of the offset, if there is one. -/
def offsetChars (m : Moment) : List Char :=
  m.offset.elim [] fun o =>
    (if o < 0 then '-' else '+') :: (Clock.ofMicros o.natAbs).brief.toList

/-- The characters of a moment. -/
theorem toList_text (m : Moment) :
    m.text.toList = m.date.text.toList ++ 'T' :: (m.clock.text.toList ++ m.offsetChars) := by
  have hoffset : (m.offset.elim "" offsetText).toList = m.offsetChars := by
    cases ho : m.offset with
    | none => rw [offsetChars, ho]; rfl
    | some o =>
        have hbrief : offsetText o =
            (if o < 0 then "-" else "+") ++ (Clock.ofMicros o.natAbs).brief := by
          simp only [offsetText, Clock.brief, Clock.ofMicros, String.append_assoc]
          rfl
        rw [offsetChars, ho, Option.elim_some, Option.elim_some, hbrief, String.toList_append]
        split <;> rfl
  rw [text, textWith, String.toList_append, hoffset]
  simp

/-- A moment is not written as nothing. -/
theorem text_ne_empty (m : Moment) : m.text ≠ "" := by
  intro hempty
  have hlist := m.toList_text
  rw [hempty] at hlist
  exact List.append_ne_nil_of_right_ne_nil _ (List.cons_ne_nil _ _) hlist.symm

end Moment

namespace Reading

/-- A digit does not begin an offset. -/
theorem not_beginsOffset_of_isDigit {c : Char} (h : c.isDigit = true) :
    (!beginsOffset c) = true := by
  rw [Bool.not_eq_true', Bool.eq_false_iff]
  intro hsign
  simp only [beginsOffset, Bool.or_eq_true, beq_iff_eq] at hsign
  rcases hsign with (rfl | rfl) | rfl <;> cases h

/-- The size of an offset that is read; less than a second counts as none. -/
def offsetSize (c : Clock) : Int := if c.micros - c.micro = 0 then 0 else c.micros

/-- A time of day with an offset behind it is read part by part. -/
theorem time?_append {front back : List Char} {clock offset : Clock} {sign : Char}
    (hfront : ∀ c ∈ front, (!beginsOffset c) = true) (hclock : clock? front = some (clock, false))
    (hsign : sign = '-' ∨ sign = '+') (hoffset : clock? back = some (offset, false)) :
    time? (front ++ sign :: back) =
      some (clock, some (if sign = '-' then -offsetSize offset else offsetSize offset)) := by
  rw [time?, List.takeWhile_append_of_pos hfront, List.dropWhile_append_of_pos hfront]
  rcases hsign with rfl | rfl
  · have htake : ('-' :: back).takeWhile (!beginsOffset ·) = [] := rfl
    have hdrop : ('-' :: back).dropWhile (!beginsOffset ·) = '-' :: back := rfl
    rw [htake, hdrop, List.append_nil, hclock]
    simp [hoffset, offsetSize]
  · have htake : ('+' :: back).takeWhile (!beginsOffset ·) = [] := rfl
    have hdrop : ('+' :: back).dropWhile (!beginsOffset ·) = '+' :: back := rfl
    rw [htake, hdrop, List.append_nil, hclock]
    simp [hoffset, offsetSize]

/-- A time of day is read back with the offset behind it, but for an offset of less than a
second. -/
theorem time?_text {m : Moment} (h : m.IsValid) :
    time? (m.clock.text.toList ++ m.offsetChars) = some (m.clock, m.reread.offset) := by
  have hfront : ∀ c ∈ m.clock.text.toList, (!beginsOffset c) = true := by
    intro c hc
    rcases Clock.mem_text (Or.inl hc) with hdigit | rfl | rfl
    · exact not_beginsOffset_of_isDigit hdigit
    · rfl
    · rfl
  cases ho : m.offset with
  | none =>
      rw [Moment.offsetChars, ho, Option.elim_none, List.append_nil, time?,
        List.takeWhile_eq_self_iff.2 hfront, List.dropWhile_eq_nil_iff.2 hfront,
        clock?_text h.clock, Moment.reread, ho]
      rfl
  | some o =>
      have hoffset := clock?_brief (Clock.isValid_ofMicros (h.offset o ho))
      have hsign : (if o < 0 then '-' else '+') = '-' ∨ (if o < 0 then '-' else '+') = '+' := by
        split
        · exact Or.inl rfl
        · exact Or.inr rfl
      -- the sign is put back in front of the size
      have hsize : offsetSize (Clock.ofMicros o.natAbs) =
          if o.natAbs < 1000000 then 0 else (o.natAbs : Int) := by
        have hmicro : (Clock.ofMicros o.natAbs).micro = o.natAbs % 1000000 := rfl
        rw [offsetSize, Clock.micros_ofMicros, hmicro]
        split_ifs <;> omega
      have hreread : (if (if o < 0 then '-' else '+') = '-'
          then -offsetSize (Clock.ofMicros o.natAbs) else offsetSize (Clock.ofMicros o.natAbs)) =
          if o.natAbs < 1000000 then 0 else o := by
        rw [hsize]
        by_cases hneg : o < 0
        · rw [if_pos hneg, if_pos rfl]
          split_ifs <;> omega
        · rw [if_neg hneg, if_neg (by decide)]
          split_ifs <;> omega
      rw [Moment.offsetChars, ho, Option.elim_some,
        time?_append hfront (clock?_text h.clock) hsign hoffset, hreread, Moment.reread, ho,
        Option.map_some]

end Reading

/-- **Moments that are written and read again.**  The written form of a moment is read as the
moment, but for an offset of less than a second. -/
theorem readMoment_text {m : Moment} (h : m.IsValid) : readMoment m.text = .ok m.reread := by
  have hlength : ¬ m.text.toList.length < 7 := by
    rw [Moment.toList_text, List.length_append, Date.length_text h.date]
    omega
  have hreread : m.reread.IsValid := by
    refine ⟨h.date, h.clock, fun o ho => ?_⟩
    obtain ⟨o', ho', rfl⟩ := Option.map_eq_some_iff.1 ho
    have hbound := h.offset o' ho'
    split_ifs <;> omega
  rw [readMoment]
  dsimp only
  rw [if_neg hlength, Moment.toList_text, Reading.dateLength_text h.date,
    List.take_left' (Date.length_text h.date), List.drop_left' (Date.length_text h.date),
    Reading.date?_text h.date]
  dsimp only
  rw [Reading.time?_text h]
  exact Moment.check_eq_ok_iff.2 ⟨rfl, hreread.date, hreread.clock.hour, hreread.clock.minute,
    hreread.clock.second, hreread.offset⟩

/-! ## What is read -/

namespace Reading

/-- The fraction of a time of day that is read is one. -/
theorem micro_le_of_clock? {cs : List Char} {c : Clock} {left : Bool}
    (h : clock? cs = some (c, left)) : c.micro ≤ 999999 := by
  obtain ⟨⟨parts, micro, l⟩, hfields, h⟩ := Option.bind_eq_some_iff.1 h
  cases h
  exact Nat.le_of_lt_succ (micro_lt_of_fields? hfields)

/-- A time of day that is read has a fraction, and its offset is kept. -/
theorem time?_eq_some {cs : List Char} {c : Clock} {offset : Option Int}
    (h : time? cs = some (c, offset)) :
    c.micro ≤ 999999 ∧ ∀ o, offset = some o → o = 0 ∨ 1000000 ≤ o.natAbs := by
  obtain ⟨⟨clock, left⟩, hclock, h⟩ := Option.bind_eq_some_iff.1 h
  have hmicro := micro_le_of_clock? hclock
  dsimp only at h
  split at h
  · split at h
    · cases h
    · cases h
      exact ⟨hmicro, fun _ ho => nomatch ho⟩
  · cases h
    refine ⟨hmicro, ?_⟩
    rintro _ ⟨⟩
    exact Or.inl rfl
  · cases h
  · obtain ⟨⟨o, left'⟩, ho, h⟩ := Option.bind_eq_some_iff.1 h
    dsimp only at h
    split at h
    · cases h
    · cases h
      refine ⟨hmicro, ?_⟩
      rintro _ ⟨⟩
      -- either there is a whole second, or the size is dropped
      have hwhole : o.micros = (o.micros - o.micro) + o.micro ∧
          (o.micros - o.micro) % 1000000 = 0 := by
        simp only [Clock.micros]
        omega
      split_ifs <;> omega

end Reading

/-- What is read is a moment that there can be, and its offset is kept. -/
theorem isValid_of_readMoment {s : String} {m : Moment} (h : readMoment s = .ok m) :
    m.IsValid ∧ m.OffsetKept := by
  have hchecked : ∀ {d : Date} {c : Clock} {offset : Option Int}, c.micro ≤ 999999 →
      (∀ o, offset = some o → o = 0 ∨ 1000000 ≤ o.natAbs) →
      Moment.check ⟨d, c, offset⟩ = .ok m → m.IsValid ∧ m.OffsetKept := by
    intro d c offset hmicro hkept hcheck
    obtain ⟨rfl, hdate, hhour, hminute, hsecond, hoffset⟩ := Moment.check_eq_ok_iff.1 hcheck
    exact ⟨⟨hdate, ⟨hhour, hminute, hsecond, hmicro⟩, hoffset⟩, hkept⟩
  unfold readMoment at h
  dsimp only at h
  split at h
  · cases h
  split at h
  · cases h
  split at h
  · have hnone : ∀ o, (none : Option Int) = some o → o = 0 ∨ 1000000 ≤ o.natAbs :=
      fun _ ho => nomatch ho
    exact hchecked (Nat.zero_le _) hnone h
  · -- behind the date stands a time, from which fraction and offset come
    split at h
    · cases h
    · rename_i htime
      obtain ⟨hmicro, hkept⟩ := Reading.time?_eq_some htime
      exact hchecked hmicro hkept h

end ConfigAudit
