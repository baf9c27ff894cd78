/-
# Exemptions that are written and read again

The document form of an exemption has its end as a text, without an offset or with one.  The end is
read from the text by a reader that takes many more forms: universal time may be marked by a letter,
a missing offset is added, and blanks around the text do not count.  None of this moves what was
written, as a written moment has no blanks and no letter at its end.

* `readExpiry_text` : the written form of a moment, read as an end;
* `readExpiry_mark` : a letter stands for the offset of universal time;
* `readExpiry_eq_some` : what is read as an end;
* `Exemption.rebuilt_iff` : an exemption that is rebuilt from its document form.
-/
import ConfigAudit.Exemption.Basic
import ConfigAudit.Proofs.Calendar.Reread
import ConfigAudit.Proofs.Chain
import ConfigAudit.Proofs.Text.Stripped
import ConfigAudit.Proofs.Value.Texts

namespace ConfigAudit

/-! ## The characters of a moment -/

namespace Moment

variable {m : Moment} {c : Char}

/-- A moment is written with digits and a few signs. -/
theorem mem_text (h : c ∈ m.text.toList) : c.isDigit = true ∨ c ∈ ['-', '+', 'T', ':', '.'] := by
  have hclock : ∀ {x : Clock}, c ∈ x.text.toList ∨ c ∈ x.brief.toList →
      c.isDigit = true ∨ c ∈ ['-', '+', 'T', ':', '.'] := by
    intro x hx
    rcases Clock.mem_text hx with hdigit | rfl | rfl
    · exact Or.inl hdigit
    · exact Or.inr (by decide)
    · exact Or.inr (by decide)
  have hoffset : c ∈ m.offsetChars → c.isDigit = true ∨ c ∈ ['-', '+', 'T', ':', '.'] := by
    intro hc
    unfold offsetChars at hc
    cases ho : m.offset with
    | none =>
        rw [ho] at hc
        exact (List.not_mem_nil hc).elim
    | some o =>
        rw [ho, Option.elim_some, List.mem_cons] at hc
        rcases hc with rfl | hc
        · split <;> exact Or.inr (by decide)
        · exact hclock (Or.inr hc)
  rw [toList_text, Date.toList_text] at h
  simp only [List.mem_append, List.mem_cons] at h
  rcases h with (h | rfl | h | rfl | h) | rfl | h | h
  · exact Or.inl (Date.isDigit_of_mem_padded h)
  · exact Or.inr (by decide)
  · exact Or.inl (Date.isDigit_of_mem_padded h)
  · exact Or.inr (by decide)
  · exact Or.inl (Date.isDigit_of_mem_padded h)
  · exact Or.inr (by decide)
  · exact hclock (Or.inl h)
  · exact hoffset h

/-- There are no blanks in a written moment. -/
theorem isBlank_of_mem_text (h : c ∈ m.text.toList) : Text.isBlank c = false := by
  rcases mem_text h with hdigit | hsign
  · have hrange : 0x30 ≤ c.toNat ∧ c.toNat ≤ 0x39 := Char.isDigit_iff_toNat.1 hdigit
    rw [Text.isBlank]
    simp only [Bool.or_eq_false_iff, Bool.and_eq_false_iff, decide_eq_false_iff_not,
      beq_eq_false_iff_ne]
    omega
  · have hsigns : (['-', '+', 'T', ':', '.'].all fun x => !Text.isBlank x) = true := by decide
    simpa using List.all_eq_true.1 hsigns c hsign

/-- The mark of universal time is not used in a written moment. -/
theorem mark_not_mem_text (m : Moment) : 'Z' ∉ m.text.toList := by
  intro h
  rcases mem_text h with hdigit | hsign
  · cases hdigit
  · revert hsign
    decide

/-- What ends the back of a text ends the text. -/
theorem suffix_behind (front : List Char) (x : Char) {l back : List Char} (h : l <:+ back) :
    l <:+ front ++ x :: back :=
  (h.trans (List.suffix_cons x back)).trans (List.suffix_append front (x :: back))

/-- A moment that ends in the offset of universal time has no other offset, as the last six
characters of a moment with a fraction in its offset are digits. -/
theorem offsetKept_of_text {front : List Char} (h : m.text.toList = front ++ "+00:00".toList) :
    m.OffsetKept := by
  intro o ho
  by_contra hsmall
  obtain ⟨hne, hlt⟩ := not_or.1 hsmall
  have hmicro : (Clock.ofMicros o.natAbs).micro = o.natAbs := Nat.mod_eq_of_lt (by omega)
  have hchars := Clock.toList_brief (Clock.ofMicros o.natAbs)
  rw [if_neg (by rw [hmicro]; omega), if_neg (by rw [hmicro]; omega), hmicro] at hchars
  have hfraction : (Date.padded 6 o.natAbs).toList <:+ (Clock.ofMicros o.natAbs).brief.toList := by
    rw [hchars]
    exact suffix_behind _ _ (suffix_behind _ _ (suffix_behind _ _ List.suffix_rfl))
  have hend : (Date.padded 6 o.natAbs).toList <:+ m.text.toList := by
    rw [toList_text, offsetChars, ho, Option.elim_some]
    exact suffix_behind _ _ (suffix_behind _ _ hfraction)
  obtain ⟨before, hbefore⟩ := hend
  -- six digits stand where the sign would have to be
  have hlength : (Date.padded 6 o.natAbs).toList.length = "+00:00".toList.length :=
    Date.length_padded (by decide) (Nat.not_le.1 hlt)
  have hsame := List.append_inj_right' (hbefore.trans h) hlength
  have hsign : '+' ∈ (Date.padded 6 o.natAbs).toList := by
    rw [hsame]
    decide
  cases Date.isDigit_of_mem_padded hsign

/-- Assuming universal time makes no impossible moment. -/
theorem IsValid.assumeUniversal (h : m.IsValid) : m.assumeUniversal.IsValid := by
  refine ⟨h.date, h.clock, ?_⟩
  rintro _ ⟨⟩
  cases ho : m.offset with
  | none => decide
  | some o => exact h.offset o ho

/-- The offset of universal time is kept. -/
theorem offsetKept_assumeUniversal_iff : m.assumeUniversal.OffsetKept ↔ m.OffsetKept := by
  obtain ⟨date, clock, offset⟩ := m
  cases offset with
  | none => exact iff_of_true (fun o ho => Or.inl (Option.some.inj ho).symm) fun o ho => nomatch ho
  | some o => exact Iff.rfl

end Moment

/-! ## Ends -/

/-- A text without the mark of universal time is left alone. -/
theorem spellUniversal_of_not_mem {s : String} (h : 'Z' ∉ s.toList) : spellUniversal s = s := by
  refine if_neg fun hend => h ?_
  obtain ⟨rest, hrest⟩ := (Text.startsWith_iff _ _).1 hend
  rw [← List.mem_reverse, ← hrest]
  exact List.mem_cons_self

/-- The mark of universal time is spelled out. -/
theorem spellUniversal_mark (front : String) : spellUniversal (front ++ "Z") = front ++ "+00:00" := by
  have hend : Text.endsWith (front ++ "Z") "Z" = true := by
    refine (Text.startsWith_iff _ _).2 ⟨front.toList.reverse, ?_⟩
    rw [String.toList_append, List.reverse_append]
  rw [spellUniversal, if_pos hend, String.toList_append]
  simp

/-- A text that is not empty is read, once it is stripped, as a moment. -/
theorem readExpiry_of_text {s : String} {m : Moment} (filled : s ≠ "")
    (h : readMoment (spellUniversal (Text.strip s)) = .ok m) :
    readExpiry (.text s) = .ok (some m.assumeUniversal) := by
  have hne : ¬ Value.equal (.text s) (.text "") = true := by
    rw [Value.equal_text, beq_iff_eq]
    exact filled
  unfold readExpiry
  dsimp only
  rw [if_neg hne, Value.spell_of_isSpellable (Value.isSpellable_text s), Value.plain_text]
  dsimp only
  rw [h]

section Ends

variable {m : Moment}

/-- A written moment is read as an end. -/
theorem readExpiry_text (h : m.IsValid) :
    readExpiry (.text m.text) = .ok (some m.reread.assumeUniversal) := by
  refine readExpiry_of_text m.text_ne_empty ?_
  rw [Text.strip_of_forall fun c => Moment.isBlank_of_mem_text,
    spellUniversal_of_not_mem m.mark_not_mem_text, readMoment_text h]

/-- A moment may be written with the mark of universal time in place of its offset. -/
theorem readExpiry_mark (h : m.IsValid) {front : String} (hm : m.text = front ++ "+00:00") :
    readExpiry (.text (front ++ "Z")) = .ok (some m.reread.assumeUniversal) := by
  have hfilled : front ++ "Z" ≠ "" := by
    intro hempty
    have hlist := congrArg String.toList hempty
    rw [String.toList_append] at hlist
    exact List.append_ne_nil_of_right_ne_nil _ (List.cons_ne_nil _ _) hlist
  have hplain : ∀ c ∈ (front ++ "Z").toList, Text.isBlank c = false := by
    intro c hc
    rw [String.toList_append, List.mem_append] at hc
    rcases hc with hc | hc
    · exact Moment.isBlank_of_mem_text (m := m) (hm ▸ String.toList_append ▸ List.mem_append_left _ hc)
    · rw [List.mem_singleton.1 hc]
      rfl
  refine readExpiry_of_text hfilled ?_
  rw [Text.strip_of_forall hplain, spellUniversal_mark, ← hm, readMoment_text h]

/-- The end that is read from a written moment denotes its instant exactly if its offset is kept. -/
theorem instant_of_text (h : m.IsValid) :
    ∃ m', readExpiry (.text m.text) = .ok (some m') ∧ (m'.instant = m.instant ↔ m.OffsetKept) := by
  refine ⟨m.reread.assumeUniversal, readExpiry_text h, ?_⟩
  rw [Moment.instant_assumeUniversal]
  exact Moment.instant_reread_eq_iff

/-- The end that is read from a moment with the mark of universal time denotes its instant. -/
theorem instant_of_mark (h : m.IsValid) {front : String} (hm : m.text = front ++ "+00:00") :
    ∃ m', readExpiry (.text (front ++ "Z")) = .ok (some m') ∧ m'.instant = m.instant := by
  have hchars : m.text.toList = front.toList ++ "+00:00".toList := by
    rw [hm, String.toList_append]
  refine ⟨m.reread.assumeUniversal, readExpiry_mark h hm, ?_⟩
  rw [Moment.instant_assumeUniversal]
  exact Moment.instant_reread_eq_iff.2 (Moment.offsetKept_of_text hchars)

/-- What is read as an end is the moment itself or a moment that was read, in universal time. -/
theorem readExpiry_eq_some {v : Value} {r : Option Moment} (h : readExpiry v = .ok r) :
    r = none ∨ ∃ m, r = some m.assumeUniversal ∧
      (v = .moment m ∨ (∀ x, v ≠ .moment x) ∧ m.IsValid ∧ m.OffsetKept) := by
  unfold readExpiry at h
  split at h
  · cases h
    exact Or.inl rfl
  · rename_i m
    cases h
    exact Or.inr ⟨m, rfl, Or.inl rfl⟩
  · rename_i hmoment
    split at h
    · cases h
      exact Or.inl rfl
    · cases hspell : v.spell with
      | error f =>
          rw [hspell] at h
          cases h
      | ok s =>
          rw [hspell] at h
          dsimp only at h
          split at h
          · rename_i m hm
            cases h
            exact Or.inr ⟨m, rfl, Or.inr ⟨hmoment, isValid_of_readMoment hm⟩⟩
          · cases h

end Ends

/-! ## Exemptions -/

/-- Two ends are passed at the same instants exactly if they are the same instant. -/
theorem Moment.forall_isBefore_eq_iff {a b : Moment} :
    (∀ now : Moment, now.isBefore a = now.isBefore b) ↔ a.instant = b.instant := by
  constructor
  · intro h
    have ha := h a
    have hb := h b
    simp only [isBefore, decide_eq_decide] at ha hb
    omega
  · intro h now
    rw [isBefore, isBefore, h]

namespace Exemption

/-- The exemption that a document describes: the ids are taken as they are, and the end is read. -/
def ofRecord (v : Value) : Except Fault Exemption := do
  let rule ← v.index "rule_id"
  let device ← v.index "device_id"
  return ⟨rule, device, ← readExpiry (← v.index "expiration_date")⟩

/-- An exemption is rebuilt with its ids and with its end as it is read again. -/
theorem ofRecord_record {e : Exemption} (ends : ∀ m, e.expiry = some m → m.IsValid) :
    ofRecord e.record =
      .ok ⟨e.rule, e.device, e.expiry.map fun m => m.reread.assumeUniversal⟩ := by
  have hread : readExpiry (expiryValue e.expiry) =
      .ok (e.expiry.map fun m => m.reread.assumeUniversal) := by
    cases he : e.expiry with
    | none => rfl
    | some m => exact readExpiry_text (ends m he)
  have hrule : e.record.index "rule_id" = .ok e.rule := by
    simp [record, Value.record, Value.index, Value.lookup]
  have hdevice : e.record.index "device_id" = .ok e.device := by
    simp [record, Value.record, Value.index, Value.lookup]
  have hend : e.record.index "expiration_date" = .ok (expiryValue e.expiry) := by
    simp [record, Value.record, Value.index, Value.lookup]
  refine bind_eq_ok_iff.2 ⟨e.rule, lift_eq_ok_iff.2 hrule, bind_eq_ok_iff.2 ⟨e.device,
    lift_eq_ok_iff.2 hdevice, bind_eq_ok_iff.2 ⟨_, lift_eq_ok_iff.2 hend, ?_⟩⟩⟩
  rw [hread]
  rfl

/-- An exemption whose end is read again holds at the same instants exactly if the offset of its
end is kept. -/
theorem forall_isActive_eq_iff (e : Exemption) :
    (∀ now, isActive ⟨e.rule, e.device, e.expiry.map fun m => m.reread.assumeUniversal⟩ now =
      e.isActive now) ↔ ∀ m, e.expiry = some m → m.OffsetKept := by
  obtain ⟨rule, device, expiry⟩ := e
  cases expiry with
  | none => exact iff_of_true (fun _ => rfl) fun m hm => nomatch hm
  | some m =>
      simp only [Option.map_some, isActive_until, Option.some.injEq, forall_eq']
      rw [Moment.forall_isBefore_eq_iff, Moment.instant_assumeUniversal,
        Moment.instant_reread_eq_iff]

/-- **Exemptions that are written and read again.**  An exemption is rebuilt from its document form
with its ids, and holds at the same instants, exactly if the offset of its end is zero or at least
a second.  Whatever is read as an end is nothing or a moment with an offset that is read as itself;
its written form is read as the same instant, exactly if the offset is kept, which it is unless the
end was given as a moment with a smaller one; and so is its written form with the mark of universal
time. -/
theorem rebuilt_iff (e : Exemption) (ends : ∀ m, e.expiry = some m → m.IsValid) :
    (∃ e', ofRecord e.record = .ok e' ∧ e'.rule = e.rule ∧ e'.device = e.device ∧
      ((∀ now, e'.isActive now = e.isActive now) ↔ ∀ m, e.expiry = some m → m.OffsetKept)) ∧
    ∀ v r, (∀ m, v = .moment m → m.IsValid) → readExpiry v = .ok r → r = none ∨
      ∃ m, r = some m ∧ m.offset.isSome = true ∧ readExpiry (.moment m) = .ok (some m) ∧
        (∃ m', readExpiry (.text m.text) = .ok (some m') ∧
          (m'.instant = m.instant ↔ ∀ x, v = .moment x → x.OffsetKept)) ∧
        ∀ front, m.text = front ++ "+00:00" →
          ∃ m', readExpiry (.text (front ++ "Z")) = .ok (some m') ∧ m'.instant = m.instant := by
  refine ⟨⟨_, ofRecord_record ends, rfl, rfl, forall_isActive_eq_iff e⟩, ?_⟩
  intro v r valid h
  rcases readExpiry_eq_some h with hnone | ⟨m, rfl, hv⟩
  · exact Or.inl hnone
  · have hvalid : m.IsValid := by
      rcases hv with hv | ⟨_, hvalid, _⟩
      · exact valid m hv
      · exact hvalid
    have hkept : m.OffsetKept ↔ ∀ x, v = .moment x → x.OffsetKept := by
      rcases hv with rfl | ⟨hother, _, hkept⟩
      · simp
      · exact iff_of_true hkept fun x hx => absurd hx (hother x)
    obtain ⟨m', hread, hinstant⟩ := instant_of_text hvalid.assumeUniversal
    rw [Moment.offsetKept_assumeUniversal_iff, hkept] at hinstant
    exact Or.inr ⟨m.assumeUniversal, rfl, rfl, rfl, ⟨m', hread, hinstant⟩, fun front hfront =>
      instant_of_mark hvalid.assumeUniversal hfront⟩

/-- An exemption up to the last microsecond of a leap day holds at the same instants when it is
rebuilt, and what is read from the written form of this moment denotes the same instant when it is
written and read once more. -/
theorem rebuilt_of_leapNight :
    (∃ e', ofRecord (record ⟨.int 1, .int 7, some Moment.leapNight⟩) = .ok e' ∧
      ∀ now, e'.isActive now = isActive ⟨.int 1, .int 7, some Moment.leapNight⟩ now) ∧
    ∃ m, readExpiry (.text Moment.leapNight.text) = .ok (some m) ∧
      ∃ m', readExpiry (.text m.text) = .ok (some m') ∧ m'.instant = m.instant := by
  obtain ⟨⟨e', he', -, -, hactive⟩, hread⟩ := rebuilt_iff ⟨.int 1, .int 7, some Moment.leapNight⟩
    fun m hm => Option.some.inj hm ▸ Moment.isValid_leapNight
  refine ⟨⟨e', he', hactive.2 fun m hm => Option.some.inj hm ▸ Moment.offsetKept_leapNight⟩, ?_⟩
  have hnight := readExpiry_text Moment.isValid_leapNight
  rcases hread _ _ (fun m hm => by cases hm) hnight with hnone | ⟨m, hm, -, -, ⟨m', hm', hsame⟩, -⟩
  · cases hnone
  · exact ⟨m, hm ▸ hnight, m', hm', hsame.2 fun x hx => by cases hx⟩

/-- Not every exemption holds at the same instants when it is rebuilt: one that ends at an offset of
half a second ends later by half a second. -/
theorem not_rebuilt_of_halfAhead :
    ¬ ∀ e : Exemption, (∀ m, e.expiry = some m → m.IsValid) →
      ∃ e', ofRecord e.record = .ok e' ∧ ∀ now, e'.isActive now = e.isActive now := by
  intro hall
  have ends : ∀ m, some Moment.halfAhead = some m → m.IsValid :=
    fun m hm => Option.some.inj hm ▸ Moment.isValid_halfAhead
  obtain ⟨e', he', hactive⟩ := hall ⟨.int 1, .int 7, some Moment.halfAhead⟩ ends
  cases (ofRecord_record ends).symm.trans he'
  have hend := hactive Moment.halfAhead
  revert hend
  decide

end Exemption

end ConfigAudit
