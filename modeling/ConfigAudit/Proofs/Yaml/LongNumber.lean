/-
# A document with a long number

Integers in base sixteen are read however many digits they have.  So a short document of a device,
of only two entries, can give it a name that has too many decimal digits to be written.

* `namedDocument` : the document, for a name of `n + 1` digits;
* `tokens_namedDocument`, `document_namedDocument` : its tokens and its node;
* `integerValue_longText` : the integer in base sixteen;
* `readDocument_namedDocument` : the value of the document.
-/
import ConfigAudit.Proofs.Chain
import ConfigAudit.Proofs.Text.Stripped
import ConfigAudit.Yaml.Document
import Mathlib.Algebra.Ring.Nat

namespace ConfigAudit.Yaml

/-- The digits of the name. -/
def longDigits (n : Nat) : List Char := List.replicate (n + 1) 'f'

/-- The name in base sixteen. -/
def longName (n : Nat) : List Char := '0' :: 'x' :: longDigits n

/-- The document of a device with this name. -/
def namedDocument (n : Nat) : List Char := "id: 7\nname: ".toList ++ longName n

variable {n : Nat}

/-- All digits are the same. -/
theorem eq_of_mem_longDigits {c : Char} (h : c ∈ longDigits n) : c = 'f' := List.eq_of_mem_replicate h

/-- The number of characters of the document. -/
theorem length_namedDocument (n : Nat) : (namedDocument n).length = n + 15 := by
  have hname : (longName n).length = n + 3 := by
    simp [longName, longDigits]
  refine List.length_append.trans ?_
  rw [hname]
  exact Nat.add_comm 12 _

/-- What all characters of the document have, if those at its beginning have it. -/
theorem forall_mem_namedDocument {p : Char → Bool} (front : "id: 7\nname: 0xf".toList.all p = true) :
    ∀ c ∈ namedDocument n, p c = true := by
  intro c hc
  have hfront := List.all_eq_true.1 front
  rcases List.mem_append.1 hc with hbefore | hname
  · exact hfront c (List.mem_append_left "0xf".toList hbefore)
  · refine hfront c (List.mem_append_right "id: 7\nname: ".toList ?_)
    rw [longName, List.mem_cons, List.mem_cons] at hname
    rcases hname with rfl | rfl | hdigit
    · decide
    · decide
    · rw [eq_of_mem_longDigits hdigit]
      decide

/-! ## Tokens -/

section Tokens

open Lexer

/-- A step behind which more tokens are read. -/
theorem tokensFrom_succ {x y : Lexer} (h : x.step = .ok (y, false)) (fuel : Nat) :
    tokensFrom (fuel + 1) x = tokensFrom fuel y.settle := by
  rw [tokensFrom, h]

/-- The last step. -/
theorem tokensFrom_last {x y : Lexer} (h : x.step = .ok (y, true)) (fuel : Nat) :
    tokensFrom (fuel + 1) x = (y.settle.done.reverse, none) := by
  rw [tokensFrom, h]

/-- The tokens before the name. -/
def tokensBefore : List Token :=
  [⟨.blockMapping, ⟨0, 0, 0⟩, ⟨0, 0, 0⟩⟩, ⟨.key, ⟨0, 0, 0⟩, ⟨0, 0, 0⟩⟩,
    ⟨.scalar "id" true, ⟨0, 0, 0⟩, ⟨2, 0, 2⟩⟩, ⟨.value, ⟨2, 0, 2⟩, ⟨3, 0, 3⟩⟩,
    ⟨.scalar "7" true, ⟨4, 0, 4⟩, ⟨5, 0, 5⟩⟩, ⟨.key, ⟨6, 1, 0⟩, ⟨6, 1, 0⟩⟩,
    ⟨.scalar "name" true, ⟨6, 1, 0⟩, ⟨10, 1, 4⟩⟩, ⟨.value, ⟨10, 1, 4⟩, ⟨11, 1, 5⟩⟩]

/-- The place behind the name. -/
def markBehind (n : Nat) : Mark := ⟨n + 15, 1, n + 9⟩

/-- The token of the name. -/
def scalarToken (n : Nat) : Token :=
  ⟨.scalar (String.ofList (longName n)) true, ⟨12, 1, 6⟩, markBehind n⟩

/-- The characters behind the first `k` characters of the document. -/
def restAt (k n : Nat) : List Char := ("id: 7\nname: ".toList.drop k) ++ longName n

/-- The state behind the first key, which could still be something else. -/
def behindId (n : Nat) : Lexer :=
  { start [] with
    cursor := ⟨restAt 2 n, ⟨2, 0, 2⟩⟩
    keyAllowed := false
    candidates := [⟨0, 0, false, ⟨0, 0, 0⟩⟩]
    held := [⟨.scalar "id" true, ⟨0, 0, 0⟩, ⟨2, 0, 2⟩⟩] }

/-- The state behind the first colon. -/
def behindIdColon (n : Nat) : Lexer :=
  { start [] with
    cursor := ⟨restAt 3 n, ⟨3, 0, 3⟩⟩
    keyAllowed := false
    indent := 0
    outer := [-1]
    settled := 4
    done := (tokensBefore.take 4).reverse }

/-- The state behind the first value. -/
def behindSeven (n : Nat) : Lexer :=
  { behindIdColon n with
    cursor := ⟨restAt 6 n, ⟨6, 1, 0⟩⟩
    keyAllowed := true
    settled := 5
    done := (tokensBefore.take 5).reverse }

/-- The state behind the second key, which can only be a key. -/
def behindKey (n : Nat) : Lexer :=
  { behindSeven n with
    cursor := ⟨restAt 10 n, ⟨10, 1, 4⟩⟩
    keyAllowed := false
    candidates := [⟨0, 5, true, ⟨6, 1, 0⟩⟩]
    held := [⟨.scalar "name" true, ⟨6, 1, 0⟩, ⟨10, 1, 4⟩⟩] }

/-- The state before the name. -/
def beforeName (n : Nat) : Lexer :=
  { behindIdColon n with
    cursor := ⟨restAt 11 n, ⟨11, 1, 5⟩⟩
    settled := 8
    done := tokensBefore.reverse }

/-- The state when the name has been read. -/
def readName (n : Nat) : Lexer :=
  { beforeName n with
    cursor := ⟨[], markBehind n⟩
    held := [scalarToken n] }

/-- The state behind the name. -/
def behindName (n : Nat) : Lexer :=
  { beforeName n with
    cursor := ⟨[], markBehind n⟩
    settled := 9
    done := scalarToken n :: tokensBefore.reverse }

/-- The tokens before the name are read without regard to it. -/
theorem tokensFrom_namedDocument (fuel n : Nat) :
    tokensFrom (fuel + 5) (start (namedDocument n)) = tokensFrom fuel (beforeName n) := by
  have hid : (start (namedDocument n)).step = .ok (behindId n, false) := rfl
  have hidColon : (behindId n).settle.step = .ok
      ({ behindIdColon n with
        settled := 0
        done := []
        held := tokensBefore.take 4 }, false) := rfl
  have hseven : (behindIdColon n).step = .ok
      ({ behindSeven n with
        settled := 4
        done := (tokensBefore.take 4).reverse
        held := [⟨.scalar "7" true, ⟨4, 0, 4⟩, ⟨5, 0, 5⟩⟩] }, false) := rfl
  have hkey : (behindSeven n).step = .ok (behindKey n, false) := rfl
  have hkeyColon : (behindKey n).settle.step = .ok
      ({ beforeName n with
        settled := 5
        done := (tokensBefore.take 5).reverse
        held := tokensBefore.drop 5 }, false) := rfl
  rw [tokensFrom_succ hid, tokensFrom_succ hidColon]
  refine (tokensFrom_succ hseven _).trans ((tokensFrom_succ hkey _).trans ?_)
  exact tokensFrom_succ hkeyColon _

/-- A word of such digits goes on to the end of the document. -/
theorem plainWord_replicate (k : Nat) (m : Mark) :
    plainWord false m (List.replicate k 'f') =
      (List.replicate k 'f', ⟨[], ⟨m.index + k, m.line, m.column + k⟩⟩) := by
  induction k generalizing m with
  | zero => rfl
  | succ k ih =>
      have hgoes : stopsPlain false 'f' ((List.replicate k 'f').headD ending) = false := rfl
      rw [List.replicate_succ, plainWord, hgoes, ih]
      simp [after, isBreak, Nat.add_comm, Nat.add_left_comm]

/-- The name is a plain scalar. -/
theorem plainScalar_longName (n : Nat) :
    plainScalar false 0 ⟨longName n, ⟨12, 1, 6⟩⟩ = (scalarToken n, ⟨[], markBehind n⟩, false) := by
  have hword : plainWord false ⟨12, 1, 6⟩ (longName n) = (longName n, ⟨[], markBehind n⟩) := by
    have hzero : stopsPlain false '0' 'x' = false := rfl
    have hx : stopsPlain false 'x' 'f' = false := rfl
    have hmark : (⟨14 + (n + 1), 1, 8 + (n + 1)⟩ : Mark) = markBehind n := by
      rw [markBehind, Mark.mk.injEq]
      omega
    have hdigits : (longDigits n).headD ending = 'f' := rfl
    rw [longName, plainWord, List.headD_cons, hzero, plainWord, hdigits, hx]
    simp only [Bool.false_eq_true, ↓reduceIte]
    rw [longDigits, plainWord_replicate, ← hmark]
    rfl
  have hwords : plainWords false 0 (n + 4) [] ⟨[], ⟨12, 1, 6⟩, false, ⟨longName n, ⟨12, 1, 6⟩⟩⟩ =
      ⟨[longName n, []], markBehind n, false, ⟨[], markBehind n⟩⟩ := by
    rw [plainWords]
    dsimp only
    rw [hword]
    rfl
  have hlength : (longName n).length + 1 = n + 4 := by
    simp [longName, longDigits]
  unfold plainScalar
  dsimp only
  rw [hlength, hwords]
  simp [assemble, scalarToken]

/-- The name is read in one step. -/
theorem step_beforeName (n : Nat) : (beforeName n).step = .ok (readName n, false) := by
  have hstep : (beforeName n).step =
      .ok (let r := plainScalar false 0 ⟨longName n, ⟨12, 1, 6⟩⟩
        { beforeName n with cursor := r.2.1, keyAllowed := r.2.2, held := [r.1] }, false) := rfl
  rw [hstep, plainScalar_longName]
  rfl

/-- The document ends behind it. -/
theorem step_behindName (n : Nat) : (behindName n).step = .ok
    ({ behindName n with
      indent := -1
      outer := []
      held := [⟨.blockEnd, markBehind n, markBehind n⟩,
        ⟨.streamEnd, markBehind n, markBehind n⟩] }, true) := rfl

/-- The tokens of the document. -/
theorem tokens_namedDocument (n : Nat) : tokens (namedDocument n) =
    (tokensBefore ++ [scalarToken n, ⟨.blockEnd, markBehind n, markBehind n⟩,
      ⟨.streamEnd, markBehind n, markBehind n⟩], none) := by
  have hlength : (namedDocument n).length + 2 = n + 10 + 1 + 1 + 5 := by
    rw [length_namedDocument]
  have hlast : tokensFrom (n + 10 + 1) (behindName n) = (tokensBefore ++ [scalarToken n,
      ⟨.blockEnd, markBehind n, markBehind n⟩, ⟨.streamEnd, markBehind n, markBehind n⟩], none) :=
    tokensFrom_last (step_behindName n) _
  rw [tokens, hlength, tokensFrom_namedDocument]
  exact (tokensFrom_succ (step_beforeName n) _).trans hlast

end Tokens

/-! ## Nodes -/

/-- A document may contain characters that are acceptable. -/
theorem checkCharacters_of_forall {cs : List Char} (h : ∀ c ∈ cs, acceptable c = true)
    (position : Nat) : checkCharacters position cs = .ok () := by
  induction cs generalizing position with
  | nil => rfl
  | cons c cs ih =>
      obtain ⟨hc, hcs⟩ := List.forall_mem_cons.1 h
      rw [checkCharacters, if_pos hc, ih hcs]

/-- The text of the name. -/
def longText (n : Nat) : String := String.ofList (longName n)

/-- The node of the document. -/
theorem document_namedDocument (n : Nat) : Nodes.document (namedDocument n) =
    .ok (some (.mapping (coreTag "map")
      [(.scalar (implicitTag "id") "id" ⟨0, 0, 0⟩, .scalar (implicitTag "7") "7" ⟨4, 0, 4⟩),
        (.scalar (implicitTag "name") "name" ⟨6, 1, 0⟩,
          .scalar (implicitTag (longText n)) (longText n) ⟨12, 1, 6⟩)] ⟨0, 0, 0⟩)) := by
  have hcharacters : ∀ c ∈ namedDocument n, acceptable c = true :=
    forall_mem_namedDocument (by decide)
  rw [Nodes.document, checkCharacters_of_forall hcharacters, tokens_namedDocument]
  rfl

/-! ## The number -/

/-- The characters of the text. -/
theorem toList_longText (n : Nat) : (longText n).toList = longName n := String.toList_ofList

/-- The text is none of several if none of them begins like it. -/
theorem not_contains_longText {ss : List String}
    (h : (ss.all fun s => s.toList.head? != some '0') = true) : ss.contains (longText n) = false := by
  rw [← Bool.not_eq_true, List.contains_iff_mem]
  intro hmem
  have hhead := List.all_eq_true.1 h _ hmem
  rw [toList_longText] at hhead
  cases hhead

/-- The text is no number with a fraction. -/
theorem isFloat_longText (n : Nat) : isFloat (longText n) = false := by
  have hinf : [".inf", ".Inf", ".INF"].contains (String.ofList (longName n)) = false :=
    not_contains_longText (by decide)
  have hnan : [".nan", ".NaN", ".NAN"].contains (longText n) = false :=
    not_contains_longText (by decide)
  have hbody : dropSign (longName n) = longName n := rfl
  rw [isFloat, toList_longText, hnan, hbody, hinf]
  rfl

/-- It is a whole number in base sixteen. -/
theorem isInteger_longText (n : Nat) : isInteger (longText n) = true := by
  have hall : areAll (fun c => isHexDigit c || c == '_') (longDigits n) = true := by
    rw [areAll, Bool.and_eq_true, List.all_eq_true]
    refine ⟨rfl, fun c hc => ?_⟩
    rw [eq_of_mem_longDigits hc]
    rfl
  rw [isInteger, toList_longText]
  exact hall

/-- So it has the tag of integers. -/
theorem implicitTag_longText (n : Nat) : implicitTag (longText n) = coreTag "int" := by
  have hyes : yesTexts.contains (longText n) = false := not_contains_longText (by decide)
  have hno : noTexts.contains (longText n) = false := not_contains_longText (by decide)
  rw [implicitTag, hyes, hno, isFloat_longText, isInteger_longText]
  rfl

/-- The number that such digits spell behind another one. -/
theorem foldl_digitBelow (k a : Nat) :
    (List.replicate k 'f').foldl (fun acc c => match acc, Decimal.digitBelow? 16 c with
      | some n, some d => some (n * 16 + d)
      | _, _ => none) (some a) = some ((a + 1) * 16 ^ k - 1) := by
  induction k generalizing a with
  | zero => simp
  | succ k ih =>
      have hdigit : Decimal.digitBelow? 16 'f' = some 15 := rfl
      have hnext : (a * 16 + 15 + 1) * 16 ^ k = (a + 1) * 16 ^ (k + 1) := by
        rw [Nat.pow_succ', ← Nat.mul_assoc]
        congr 1
        omega
      rw [List.replicate_succ, List.foldl_cons, hdigit]
      dsimp only
      rw [ih, hnext]

/-- The integer that the text stands for. -/
theorem integerValue_longText (n : Nat) :
    integerValue (longText n) = .ok ((16 ^ (n + 1) - 1 : Nat) : Int) := by
  have hgroups : ungrouped (longText n) = longText n := by
    rw [ungrouped, toList_longText, List.filter_eq_self.2]
    · rfl
    · intro c hc
      exact forall_mem_namedDocument (p := (· != '_')) (by decide) c (List.mem_append_right _ hc)
  have hsigned : signed (longText n) = .ok (false, longText n) := by
    rw [signed, toList_longText]
    rfl
  have hstrip : Text.strip (String.ofList (longDigits n)) = String.ofList (longDigits n) := by
    refine Text.strip_of_forall fun c hc => ?_
    rw [String.toList_ofList] at hc
    rw [eq_of_mem_longDigits hc]
    rfl
  have hnatural : Decimal.naturalOf? 16 (longDigits n) = some (16 ^ (n + 1) - 1) := by
    have hfold := foldl_digitBelow (n + 1) 0
    rwa [Nat.zero_add, Nat.one_mul] at hfold
  have hbase : readInBase 16 (String.ofList (longDigits n)) =
      .ok ((16 ^ (n + 1) - 1 : Nat) : Int) := by
    have hsign : Decimal.takeSign (longDigits n) = (false, longDigits n) := rfl
    rw [readInBase, Decimal.readBase, hstrip, String.toList_ofList, hsign]
    dsimp only
    rw [hnatural]
    rfl
  refine bind_eq_ok_iff.2 ⟨_, hgroups.symm ▸ hsigned, ?_⟩
  dsimp only
  rw [hgroups, toList_longText]
  exact bind_eq_ok_iff.2 ⟨_, hbase, rfl⟩

/-! ## The value -/

/-- A scalar with the tag of integers is read as one. -/
theorem immediate_int {s : String} {m : Mark} {k : Int} (h : integerValue s = .ok k) :
    (Node.scalar (coreTag "int") s m).immediate = .ok (some (.int k)) := by
  have hscalar : (Node.scalar (coreTag "int") s m).scalarValue = .ok (.int k) := by
    have htext : (Node.scalar (coreTag "int") s m).scalarText = .ok s := rfl
    rw [Node.scalarValue, htext]
    exact bind_eq_ok_iff.2 ⟨s, rfl, bind_eq_ok_iff.2 ⟨k, h, rfl⟩⟩
  exact bind_eq_ok_iff.2 ⟨_, hscalar, rfl⟩

/-- A scalar with the tag of texts is its text. -/
theorem immediate_str (s : String) (m : Mark) :
    (Node.scalar (coreTag "str") s m).immediate = .ok (some (.text s)) := rfl

/-- A node that needs no other nodes is built as its value. -/
theorem build_of_immediate {node : Node} {v : Value} (h : node.immediate = .ok (some v))
    (fuel : Nat) : node.build (fuel + 1) = v := by
  rw [Node.build, h]

section Entries

variable {node : Node} {entries : List (Node × Node)} {a b s t tag tag' : String} {x y : Value}
  {m p q p' q' : Mark} (hnode : node = .mapping (coreTag "map") entries m)
  (hentries : entries = [(.scalar (coreTag "str") a p, .scalar tag s p'),
    (.scalar (coreTag "str") b q, .scalar tag' t q')])

include hnode hentries

/-- A mapping from two texts merges no others. -/
theorem merged_of_two : node.merged = .ok entries := by
  have hmerge : (coreTag "str" == coreTag "merge") = false := by decide
  have hplain : (coreTag "str" == coreTag "value") = false := by decide
  rw [hnode, hentries]
  simp only [Node.merged, Node.mergedEntries, Node.tag, hmerge, hplain]
  rfl

section Scalars

variable (hx : (Node.scalar tag s p').immediate = .ok (some x))
  (hy : (Node.scalar tag' t q').immediate = .ok (some y))

include hx hy

/-- If it is to scalars, no node below it needs other ones. -/
theorem levelOf_of_two : node.levelOf = .ok [] := by
  have hmap : (coreTag "map" == coreTag "seq") = false ∧
      (coreTag "map" == coreTag "omap") = false ∧ (coreTag "map" == coreTag "pairs") = false ∧
      (coreTag "map" == coreTag "set") = false := by
    decide
  have hmerged := merged_of_two hnode hentries
  have hbelow : Node.levelOfEntries m entries = .ok [] := by
    rw [hentries]
    simp only [Node.levelOfEntries, Node.pending, immediate_str, hx, hy]
    rfl
  rw [hnode] at hmerged ⊢
  rw [Node.levelOf, hmerged]
  simp only [Node.tag, hmap, Bool.or_self, Bool.false_eq_true, ↓reduceIte]
  exact hbelow

/-- It is built as a table of their values. -/
theorem build_of_two (hne : a ≠ b) : node.build 3 = .record [(a, x), (b, y)] := by
  have himmediate : node.immediate = .ok none := by
    rw [hnode]
    rfl
  have hown : node.entries = entries := by
    rw [Node.entries, merged_of_two hnode hentries]
  have hset : (coreTag "map" == coreTag "set") = false := by decide
  have ha : (Node.scalar (coreTag "str") a p).build 2 = .text a :=
    build_of_immediate (immediate_str a p) 1
  have hb : (Node.scalar (coreTag "str") b q).build 2 = .text b :=
    build_of_immediate (immediate_str b q) 1
  have hs : (Node.scalar tag s p').build 2 = x := build_of_immediate hx 1
  have ht : (Node.scalar tag' t q').build 2 = y := build_of_immediate hy 1
  rw [hnode] at himmediate hown ⊢
  rw [Node.build, himmediate]
  dsimp only
  rw [hown, hset, hentries, List.foldl_cons, List.foldl_cons, List.foldl_nil, ha, hb, hs, ht]
  simp [Value.put, Value.record, hne]

/-- A mapping from two texts to scalars is read as a table of their values. -/
theorem value_of_two (hne : a ≠ b) : node.value = .ok (.record [(a, x), (b, y)]) := by
  have himmediate : node.immediate = .ok none := by
    rw [hnode]
    rfl
  have hdepth : node.depth = 2 := by
    rw [hnode, hentries]
    rfl
  rw [Node.value, himmediate]
  refine bind_eq_ok_iff.2 ⟨none, rfl, bind_eq_ok_iff.2 ⟨(), ?_, ?_⟩⟩
  · rw [hdepth]
    simp only [Node.survey, Node.levelOfAll, levelOf_of_two hnode hentries hx hy]
    rfl
  · rw [hdepth, build_of_two hnode hentries hx hy hne]
    rfl

end Scalars

end Entries

/-- **A document with a long number.**  The document of a device with a name of any number of digits
in base sixteen is read. -/
theorem readDocument_namedDocument (n : Nat) : readDocument (namedDocument n) =
    .ok (.record [("id", .int 7), ("name", .int (16 ^ (n + 1) - 1 : Nat))]) := by
  have hid : implicitTag "id" = coreTag "str" := by decide +kernel
  have hname : implicitTag "name" = coreTag "str" := by decide +kernel
  have hseven : implicitTag "7" = coreTag "int" := by decide +kernel
  have hvalue : integerValue "7" = .ok 7 := eq_ok_of_toOption (by decide +kernel)
  rw [readDocument, document_namedDocument, hid, hname, hseven, implicitTag_longText]
  exact value_of_two rfl rfl (immediate_int hvalue) (immediate_int (integerValue_longText n))
    (by decide)

end ConfigAudit.Yaml
