/-
# Written documents are read back

Documents of texts, truth values, lists and tables are read back from their written form as they
were.

* `text?_writeText` : texts, character by character;
* `Json.Plain` : the documents;
* `Json.Restores` : what their written form has to do;
* `Json.parse_of_plain` : what is written is read back.
-/
import Mathlib.Data.List.Forall2
import ConfigAudit.Proofs.Value.Texts
import ConfigAudit.Script.Json

namespace ConfigAudit

/-! ## Characters -/

namespace Text

/-- A hexadecimal digit is read back. -/
theorem hexValue?_hexDigit {n : Nat} (h : n < 16) : hexValue? (hexDigit n) = some n := by
  have hall : ∀ n < 16, hexValue? (hexDigit n) = some n := by decide
  exact hall n h

end Text

namespace Json

open Text

/-- Four hexadecimal digits are read back. -/
theorem unit?_hexPadded {n : Nat} (h : n ≤ 0xffff) (rest : List Char) :
    unit? (hexPadded 4 n ++ rest) = some (n, rest) := by
  have hdigit : ∀ m, hexValue? (hexDigit (m % 16)) = some (m % 16) :=
    fun m => hexValue?_hexDigit (Nat.mod_lt m (by decide))
  have hparts : ((n / 16 / 16 / 16 % 16 * 16 + n / 16 / 16 % 16) * 16 + n / 16 % 16) * 16 + n % 16 =
      n := by omega
  simp only [hexPadded, List.nil_append, List.cons_append, unit?, hdigit, Option.bind_eq_bind,
    Option.bind_some, hparts]
  rfl

/-- A code unit that stands for itself is read back. -/
theorem text?_unitEscape {n fuel : Nat} (h : n ≤ 0xffff) (plain : n < 0xd800 ∨ 0xe000 ≤ n)
    (acc rest : List Char) :
    text? (fuel + 1) acc (unitEscape n ++ rest) = text? fuel (Char.ofNat n :: acc) rest := by
  rw [unitEscape, List.cons_append, List.cons_append, text?, unit?_hexPadded h]
  simp only [Option.bind_eq_bind, Option.bind_some]
  rw [if_neg (by omega), if_neg (by omega)]

/-- Two code units for one character are read back. -/
theorem text?_pairEscape {m fuel : Nat} (h : m < 0x100000) (acc rest : List Char) :
    text? (fuel + 1) acc
        (unitEscape (0xd800 + m / 0x400) ++ unitEscape (0xdc00 + m % 0x400) ++ rest) =
      text? fuel (Char.ofNat (0x10000 + m) :: acc) rest := by
  have hhigh : 0xd800 + m / 0x400 ≤ 0xffff := by omega
  have hlow : 0xdc00 + m % 0x400 ≤ 0xffff := by omega
  rw [List.append_assoc, unitEscape, List.cons_append, List.cons_append, text?,
    unit?_hexPadded hhigh]
  simp only [Option.bind_eq_bind, Option.bind_some]
  rw [if_pos (by omega), unitEscape, List.cons_append, List.cons_append]
  simp only [unit?_hexPadded hlow]
  rw [if_pos (by omega)]
  have hcode : 0x10000 + (0xd800 + m / 0x400 - 0xd800) * 0x400 +
      (0xdc00 + m % 0x400 - 0xdc00) = 0x10000 + m := by omega
  rw [hcode]

/-- A code point is not a code unit of a pair, and not too large for one. -/
theorem codePoint_cases (c : Char) :
    c.toNat < 0xd800 ∨ 0xe000 ≤ c.toNat ∧ c.toNat < 0x110000 := by
  rcases c.valid with h | ⟨h, h'⟩
  · exact Or.inl h
  · exact Or.inr ⟨h, h'⟩

/-- A basic character that stands for itself is read back. -/
theorem text?_basic {c : Char} (basic : 0x20 ≤ c.toNat) (mark : c ≠ doubleMark) (back : c ≠ '\\')
    (fuel : Nat) (acc rest : List Char) :
    text? (fuel + 1) acc (c :: rest) = text? fuel (c :: acc) rest := by
  rw [text?.eq_def]
  simp only
  split
  · rename_i heq
    cases heq
  · rename_i heq
    exact absurd (List.cons.inj heq).1 back
  · rename_i heq
    exact absurd (List.cons.inj heq).1 back
  · rename_i heq
    obtain ⟨rfl, rfl⟩ := List.cons.inj heq
    rw [if_neg (by simpa using mark), if_neg (by omega)]

/-- A written character is read back. -/
theorem text?_writeChar (c : Char) (fuel : Nat) (acc rest : List Char) :
    text? (fuel + 1) acc (writeChar c ++ rest) = text? fuel (c :: acc) rest := by
  unfold writeChar
  split
  · rfl
  · rfl
  · rfl
  · rfl
  · rename_i hback _ _ _
    simp only
    split
    · -- the mark at both ends of a text
      rename_i hmark
      rw [beq_iff_eq.1 hmark]
      rfl
    · rename_i hmark
      split
      · rename_i hcode
        rw [← Char.ofNat_toNat c, hcode]
        rfl
      · split
        · rename_i hcode
          rw [← Char.ofNat_toNat c, hcode]
          rfl
        · have hcases := codePoint_cases c
          split
          · rename_i hbasic
            exact text?_basic hbasic.1 (by simpa using hmark) hback fuel acc rest
          · split
            · rename_i hunit
              rw [text?_unitEscape hunit (hcases.imp_right And.left), Char.ofNat_toNat]
            · rename_i hlarge
              have hsum : 0x10000 + (c.toNat - 0x10000) = c.toNat := by omega
              rw [text?_pairEscape (by omega), hsum, Char.ofNat_toNat]

/-- A written text is read back. -/
theorem text?_flatMap (cs : List Char) {fuel : Nat} (enough : cs.length < fuel)
    (acc rest : List Char) :
    text? fuel acc (cs.flatMap writeChar ++ doubleMark :: rest) =
      some (String.ofList (acc.reverse ++ cs), rest) := by
  induction cs generalizing fuel acc with
  | nil =>
      obtain ⟨fuel, rfl⟩ := Nat.exists_eq_succ_of_ne_zero (Nat.ne_of_gt enough)
      rw [List.append_nil]
      rfl
  | cons c cs ih =>
      obtain ⟨fuel, rfl⟩ := Nat.exists_eq_succ_of_ne_zero (Nat.ne_of_gt (Nat.zero_lt_of_lt enough))
      rw [List.flatMap_cons, List.append_assoc, Nat.succ_eq_add_one, text?_writeChar,
        ih (Nat.lt_of_succ_lt_succ enough), List.reverse_cons, List.append_assoc,
        List.singleton_append]

/-! ## Written forms -/

/-- Whether characters start like a value: with something other than a blank or the end of a
list. -/
def Opens (cs : List Char) : Prop := ∃ c rest, cs = c :: rest ∧ isSpace c = false ∧ c ≠ ']'

/-- What follows makes no difference. -/
theorem Opens.append {cs : List Char} (h : Opens cs) (rest : List Char) : Opens (cs ++ rest) := by
  obtain ⟨c, cs', rfl, hspace, hend⟩ := h
  exact ⟨c, cs' ++ rest, rfl, hspace, hend⟩

/-- There are no blanks in front of a value. -/
theorem Opens.skip_eq {cs : List Char} (h : Opens cs) : skip cs = cs := by
  obtain ⟨c, cs', rfl, hspace, _⟩ := h
  rw [skip, List.dropWhile_cons_of_neg (by simp [hspace])]

/-- What a written form has to do: it starts like a value, and the value is read back from it,
whatever follows. -/
structure Restores (v : Value) (w : String) : Prop where
  /-- The form starts like a value. -/
  opens : Opens w.toList
  /-- The value is read back. -/
  reads : ∀ fuel rest, 2 * w.toList.length ≤ fuel + 1 →
    parseValue (fuel + 1) (w.toList ++ rest) = .ok (v, rest)

/-- The value is read back with as much fuel as is needed. -/
theorem Restores.parseValue_append {v : Value} {w : String} (h : Restores v w) {fuel : Nat}
    (enough : 2 * w.toList.length ≤ fuel) (rest : List Char) :
    parseValue fuel (w.toList ++ rest) = .ok (v, rest) := by
  cases fuel with
  | zero =>
      obtain ⟨c, cs, hw, _, _⟩ := h.opens
      simp [hw] at enough
  | succ fuel => exact h.reads fuel rest enough

/-- Nothing is read back. -/
theorem restores_null : Restores .null "null" :=
  ⟨⟨_, _, rfl, by decide, by decide⟩, fun _ _ _ => rfl⟩

/-- A truth value is read back. -/
theorem restores_flag (b : Bool) : Restores (.flag b) (if b then "true" else "false") := by
  cases b with
  | false => exact ⟨⟨_, _, rfl, by decide, by decide⟩, fun _ _ _ => rfl⟩
  | true => exact ⟨⟨_, _, rfl, by decide, by decide⟩, fun _ _ _ => rfl⟩

/-! ## Texts -/

/-- Every character is written. -/
theorem writeChar_ne_nil (c : Char) : writeChar c ≠ [] := by
  intro hnil
  -- else a text of this character would be read back as the empty text
  have hread := text?_writeChar c 1 [] [doubleMark]
  rw [hnil] at hread
  have heq : ("" : String) = String.ofList [c] :=
    congrArg Prod.fst (Option.some.inj hread)
  have hlist : [c] = [] := by
    rw [← String.toList_ofList (l := [c]), ← heq]
    rfl
  exact List.cons_ne_nil c [] hlist

/-- A written text is no shorter than the text. -/
theorem length_le_flatMap_writeChar (cs : List Char) : cs.length ≤ (cs.flatMap writeChar).length := by
  induction cs with
  | nil => exact Nat.le_refl 0
  | cons c cs ih =>
      have hc := List.length_pos_iff.2 (writeChar_ne_nil c)
      rw [List.flatMap_cons, List.length_append, List.length_cons]
      omega

/-- The characters of a written text. -/
theorem toList_writeText (s : String) :
    (writeText s).toList = doubleMark :: (s.toList.flatMap writeChar ++ [doubleMark]) :=
  String.toList_ofList

/-- What follows the first mark of a written text is read back. -/
theorem text?_writeText (s : String) (rest : List Char) :
    text? ((s.toList.flatMap writeChar ++ doubleMark :: rest).length + 1) []
      (s.toList.flatMap writeChar ++ doubleMark :: rest) = some (s, rest) := by
  have hlength := length_le_flatMap_writeChar s.toList
  have henough : s.toList.length <
      (s.toList.flatMap writeChar ++ doubleMark :: rest).length + 1 := by
    rw [List.length_append]
    omega
  rw [text?_flatMap s.toList henough [] rest, List.reverse_nil, List.nil_append, String.ofList_toList]

/-- A mark opens a text. -/
theorem parseValue_doubleMark (fuel : Nat) (cs : List Char) :
    parseValue (fuel + 1) (doubleMark :: cs) =
      expected ((text? (cs.length + 1) [] cs).map fun r => (.text r.1, r.2)) := rfl

/-- A text is read back. -/
theorem restores_text (s : String) : Restores (.text s) (writeText s) := by
  refine ⟨⟨_, _, toList_writeText s, rfl, by decide⟩, ?_⟩
  intro fuel rest _
  rw [toList_writeText, List.cons_append, List.append_assoc, List.singleton_append,
    parseValue_doubleMark, text?_writeText]
  rfl

/-! ## Lists -/

/-- The characters of parts in a row. -/
def row (parts : List String) : List Char := (join ", " parts).toList

/-- One part. -/
theorem row_singleton (w : String) : row [w] = w.toList := by
  rw [row, join, String.toList_intercalate, List.map_singleton, List.intercalate_singleton]

/-- A comma stands between two parts. -/
theorem row_cons_cons (w w' : String) (ws : List String) :
    row (w :: w' :: ws) = w.toList ++ ',' :: ' ' :: row (w' :: ws) := by
  rw [row, row, join, join, String.intercalate_cons_cons, String.toList_append, String.toList_append,
    List.append_assoc]
  rfl

/-- Parts between brackets. -/
theorem toList_enclose (opening closing : String) (parts : List String) :
    (enclose opening closing parts).toList = opening.toList ++ row parts ++ closing.toList := by
  rw [enclose, String.toList_append, String.toList_append, row]

/-- Parts start as the first of them does. -/
theorem opens_row {w : String} (h : Opens w.toList) (ws : List String) : Opens (row (w :: ws)) := by
  cases ws with
  | nil =>
      rw [row_singleton]
      exact h
  | cons w' ws =>
      rw [row_cons_cons]
      exact h.append _

/-- The elements of a list are read back. -/
theorem parseElements_row {x : Value} {w : String} {xs : List Value} {ws : List String}
    (first : Restores x w) (others : List.Forall₂ Restores xs ws) (fuel : Nat) (acc : List Value)
    (rest : List Char) (enough : 2 * (row (w :: ws)).length ≤ fuel) :
    parseElements (fuel + 1) acc (row (w :: ws) ++ ']' :: rest) =
      .ok (.list (acc.reverse ++ x :: xs), rest) := by
  induction others generalizing x w fuel acc with
  | nil =>
      rw [row_singleton] at enough ⊢
      rw [parseElements, first.parseValue_append enough, ← List.reverse_cons]
      rfl
  | @cons x' w' xs ws next _ ih =>
      rw [row_cons_cons] at enough ⊢
      simp only [List.length_append, List.length_cons] at enough
      obtain ⟨fuel, rfl⟩ := Nat.exists_eq_succ_of_ne_zero (n := fuel) (by omega)
      have hread := ih next fuel (x :: acc) (by omega)
      rw [List.reverse_cons, List.append_assoc, List.singleton_append] at hread
      rw [parseElements, List.append_assoc, first.parseValue_append (by omega), ← hread,
        ← ((opens_row next.opens ws).append (']' :: rest)).skip_eq]
      rfl

/-- A list that is not empty is read element by element. -/
theorem parseValue_bracket {fuel : Nat} {cs : List Char} (h : Opens cs) :
    parseValue (fuel + 1) ('[' :: cs) = parseElements fuel [] cs := by
  have hskip := h.skip_eq
  obtain ⟨c, rest, rfl, _, hend⟩ := h
  rw [parseValue]
  split
  · rename_i heq
    rw [hskip] at heq
    exact absurd (List.cons.inj heq).1 hend
  · rw [hskip]

/-- Forms of the members of a list make a form of the list. -/
theorem restores_list {xs : List Value} {ws : List String} (h : List.Forall₂ Restores xs ws) :
    Restores (.list xs) (enclose "[" "]" ws) := by
  have htoList : (enclose "[" "]" ws).toList = '[' :: (row ws ++ [']']) := toList_enclose "[" "]" ws
  refine ⟨⟨_, _, htoList, by decide, by decide⟩, ?_⟩
  intro fuel rest enough
  rw [htoList] at enough ⊢
  rw [List.cons_append, List.append_assoc, List.singleton_append]
  cases h with
  | nil => rfl
  | @cons x w xs ws first others =>
      simp only [List.length_append, List.length_cons, List.length_nil] at enough
      obtain ⟨fuel, rfl⟩ := Nat.exists_eq_succ_of_ne_zero (n := fuel) (by omega)
      rw [parseValue_bracket ((opens_row first.opens ws).append _)]
      exact parseElements_row first others fuel [] rest (by omega)

/-! ## Tables -/

/-- A written entry. -/
def entry (f : String × Value) (w : String) : String := writeText f.1 ++ ": " ++ w

/-- The characters of a written entry. -/
theorem toList_entry (f : String × Value) (w : String) :
    (entry f w).toList =
      doubleMark :: (f.1.toList.flatMap writeChar ++ doubleMark :: ':' :: ' ' :: w.toList) := by
  rw [entry, String.toList_append, String.toList_append, toList_writeText]
  simp

/-- An entry is longer than its value. -/
theorem length_lt_entry (f : String × Value) (w : String) :
    w.toList.length < (entry f w).toList.length := by
  rw [toList_entry]
  simp only [List.length_cons, List.length_append]
  omega

/-- Whether a text restores the value of a field. -/
def RestoresField (f : String × Value) (e : String) : Prop :=
  ∃ w, e = entry f w ∧ Restores f.2 w

/-- Entries start with a mark. -/
theorem RestoresField.row_eq {f : String × Value} {e : String} (h : RestoresField f e)
    (es : List String) : ∃ cs, row (e :: es) = doubleMark :: cs := by
  obtain ⟨w, rfl, _⟩ := h
  cases es with
  | nil => exact ⟨_, (row_singleton _).trans (toList_entry f w)⟩
  | cons e' es =>
      rw [row_cons_cons, toList_entry]
      exact ⟨_, rfl⟩

end Json

namespace Value

/-- A value under a new key comes last. -/
theorem put_record {k : String} {v : Value} {fields : List (String × Value)}
    (new : k ∉ fields.map Prod.fst) :
    put (text k) v (fields.map fun f => (text f.1, f.2)) =
      (fields ++ [(k, v)]).map fun f => (text f.1, f.2) := by
  induction fields with
  | nil => rfl
  | cons f fields ih =>
      rw [List.map_cons, List.mem_cons, not_or] at new
      rw [List.map_cons, put, equal_text, if_neg (by simpa using Ne.symm new.1), ih new.2]
      rfl

end Value

namespace Json

open Text

/-- A key behind others is none of them. -/
theorem not_mem_of_nodup_keys {known fields : List (String × Value)} {f : String × Value}
    (distinct : ((known ++ f :: fields).map Prod.fst).Nodup) : f.1 ∉ known.map Prod.fst := by
  rw [List.map_append, List.map_cons, List.nodup_middle, List.nodup_cons, List.mem_append, not_or]
    at distinct
  exact distinct.1.1

/-- An entry is read. -/
theorem parseEntries_entry {f : String × Value} {w : String} (h : Restores f.2 w) {fuel : Nat}
    (enough : 2 * w.toList.length ≤ fuel) (acc : List (Value × Value)) (rest : List Char) :
    parseEntries (fuel + 1) acc ((entry f w).toList ++ rest) =
      match skip rest with
      | ',' :: rest => parseEntries fuel (Value.put (.text f.1) f.2 acc) (skip rest)
      | '\x7d' :: rest => .ok (.table (Value.put (.text f.1) f.2 acc), rest)
      | _ => .error .malformed := by
  have hkey := text?_writeText f.1 (':' :: ' ' :: (w.toList ++ rest))
  have hvalue : parseValue fuel (skip (' ' :: (w.toList ++ rest))) = .ok (f.2, rest) := by
    have hblank : skip (' ' :: (w.toList ++ rest)) = w.toList ++ rest :=
      (h.opens.append rest).skip_eq
    rw [hblank, h.parseValue_append enough rest]
  have hcolon : ∀ cs, skip (':' :: cs) = ':' :: cs := fun _ => rfl
  rw [toList_entry, List.cons_append, List.append_assoc, List.cons_append, List.cons_append,
    List.cons_append, parseEntries, if_pos (beq_self_eq_true doubleMark), hkey]
  simp only [expected, bind, Except.bind, hcolon, hvalue]
  rfl

/-- The entries of a table are read back, behind others under other keys. -/
theorem parseEntries_row {f : String × Value} {e : String} {fields : List (String × Value)}
    {es : List String} (first : RestoresField f e) (others : List.Forall₂ RestoresField fields es)
    (fuel : Nat) (known : List (String × Value)) (rest : List Char)
    (distinct : ((known ++ f :: fields).map Prod.fst).Nodup)
    (enough : 2 * (row (e :: es)).length ≤ fuel) :
    parseEntries (fuel + 1) (known.map fun f => (.text f.1, f.2)) (row (e :: es) ++ '\x7d' :: rest) =
      .ok (.record (known ++ f :: fields), rest) := by
  induction others generalizing f e fuel known with
  | nil =>
      obtain ⟨w, rfl, hw⟩ := first
      have hnew := not_mem_of_nodup_keys distinct
      have hlength := length_lt_entry f w
      rw [row_singleton] at enough ⊢
      rw [parseEntries_entry hw (by omega), Value.put_record hnew]
      rfl
  | @cons f' e' fields es next _ ih =>
      obtain ⟨w, rfl, hw⟩ := first
      have hnew := not_mem_of_nodup_keys distinct
      have hlength := length_lt_entry f w
      rw [row_cons_cons] at enough ⊢
      simp only [List.length_append, List.length_cons] at enough
      obtain ⟨fuel, rfl⟩ := Nat.exists_eq_succ_of_ne_zero (n := fuel) (by omega)
      have hread := ih next fuel (known ++ [f]) (by simpa using distinct) (by omega)
      rw [List.append_assoc, List.singleton_append] at hread
      obtain ⟨cs, hcs⟩ := next.row_eq es
      have hopens : Opens (row (e' :: es)) := ⟨doubleMark, cs, hcs, rfl, by decide⟩
      rw [List.append_assoc, parseEntries_entry hw (by omega), Value.put_record hnew, ← hread,
        ← (hopens.append ('\x7d' :: rest)).skip_eq]
      rfl

/-- A table that is not empty is read entry by entry. -/
theorem parseValue_brace (fuel : Nat) (cs : List Char) :
    parseValue (fuel + 1) ('\x7b' :: doubleMark :: cs) = parseEntries fuel [] (doubleMark :: cs) := rfl

/-- Forms of the fields of a record make a form of the record. -/
theorem restores_record {fields : List (String × Value)} {es : List String}
    (distinct : (fields.map Prod.fst).Nodup) (h : List.Forall₂ RestoresField fields es) :
    Restores (.record fields) (enclose "\x7b" "\x7d" es) := by
  have htoList : (enclose "\x7b" "\x7d" es).toList = '\x7b' :: (row es ++ ['\x7d']) :=
    toList_enclose "\x7b" "\x7d" es
  refine ⟨⟨_, _, htoList, by decide, by decide⟩, ?_⟩
  intro fuel rest enough
  rw [htoList] at enough ⊢
  rw [List.cons_append, List.append_assoc, List.singleton_append]
  cases h with
  | nil => rfl
  | @cons f e fields es first others =>
      simp only [List.length_append, List.length_cons, List.length_nil] at enough
      obtain ⟨fuel, rfl⟩ := Nat.exists_eq_succ_of_ne_zero (n := fuel) (by omega)
      have hread := parseEntries_row first others fuel [] rest distinct (by omega)
      obtain ⟨cs, hcs⟩ := first.row_eq es
      rw [hcs, List.cons_append] at hread ⊢
      rw [parseValue_brace]
      exact hread

/-! ## Documents -/

/-- Documents of texts, truth values, lists and tables. -/
inductive Plain : Value → Prop where
  /-- Nothing. -/
  | null : Plain .null
  /-- A truth value. -/
  | flag (b : Bool) : Plain (.flag b)
  /-- A text. -/
  | text (s : String) : Plain (.text s)
  /-- A list of documents. -/
  | list {xs : List Value} (members : ∀ x ∈ xs, Plain x) : Plain (.list xs)
  /-- A table of documents under different texts. -/
  | record {fields : List (String × Value)} (distinct : (fields.map Prod.fst).Nodup)
      (members : ∀ f ∈ fields, Plain f.2) : Plain (.record fields)

/-- Members that have written forms are written. -/
theorem writeAll_of_forall {xs : List Value}
    (h : ∀ x ∈ xs, ∃ w, write x = .ok w ∧ Restores x w) :
    ∃ ws, writeAll xs = .ok ws ∧ List.Forall₂ Restores xs ws := by
  induction xs with
  | nil => exact ⟨[], rfl, .nil⟩
  | cons x xs ih =>
      obtain ⟨w, hw, hrestores⟩ := h x List.mem_cons_self
      obtain ⟨ws, hws, hall⟩ := ih fun x' hx' => h x' (List.mem_cons_of_mem x hx')
      refine ⟨w :: ws, ?_, .cons hrestores hall⟩
      rw [writeAll, hw, hws]
      rfl

/-- Fields whose values have written forms are written. -/
theorem writeEntries_of_forall {fields : List (String × Value)}
    (h : ∀ f ∈ fields, ∃ w, write f.2 = .ok w ∧ Restores f.2 w) :
    ∃ es, writeEntries (fields.map fun f => (.text f.1, f.2)) = .ok es ∧
      List.Forall₂ RestoresField fields es := by
  induction fields with
  | nil => exact ⟨[], rfl, .nil⟩
  | cons f fields ih =>
      obtain ⟨w, hw, hrestores⟩ := h f List.mem_cons_self
      obtain ⟨es, hes, hall⟩ := ih fun f' hf' => h f' (List.mem_cons_of_mem f hf')
      refine ⟨entry f w :: es, ?_, .cons ⟨w, rfl, hrestores⟩ hall⟩
      rw [List.map_cons, writeEntries, writeKey, hw, hes]
      rfl

/-- Documents have written forms. -/
theorem Plain.restores {v : Value} (h : Plain v) : ∃ w, write v = .ok w ∧ Restores v w := by
  induction h with
  | null => exact ⟨_, rfl, restores_null⟩
  | flag b => exact ⟨_, rfl, restores_flag b⟩
  | text s => exact ⟨_, rfl, restores_text s⟩
  | list _ ih =>
      obtain ⟨ws, hws, hall⟩ := writeAll_of_forall ih
      refine ⟨_, ?_, restores_list hall⟩
      rw [write, hws]
      rfl
  | record distinct _ ih =>
      obtain ⟨es, hes, hall⟩ := writeEntries_of_forall ih
      refine ⟨_, ?_, restores_record distinct hall⟩
      rw [Value.record, write, hes]
      rfl

/-- **What is written is read back.** -/
theorem parse_of_plain {v : Value} (h : Plain v) : ∃ w, write v = .ok w ∧ parse w = .ok v := by
  obtain ⟨w, hw, hrestores⟩ := h.restores
  refine ⟨w, hw, ?_⟩
  have hread : parseValue (2 * w.toList.length + 4) w.toList = .ok (v, []) := by
    have happend := hrestores.parseValue_append (Nat.le_add_right (2 * w.toList.length) 4) []
    rwa [List.append_nil] at happend
  rw [parse, hrestores.opens.skip_eq, hread]
  rfl

/-- What is written is read back. -/
theorem read_of_plain {v : Value} (h : Plain v) : ∃ w, write v = .ok w ∧ read w = some v := by
  obtain ⟨w, hw, hparse⟩ := parse_of_plain h
  refine ⟨w, hw, ?_⟩
  rw [read, hparse]
  rfl

end Json

end ConfigAudit
