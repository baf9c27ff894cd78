/-
# Files of basic characters

A file that is short enough to be read at once, and has only basic characters with plain line ends,
is read as it stands.

* `basicBytes` : the bytes of basic characters;
* `readTextFile_basicBytes` : a file of these bytes.
-/
import ConfigAudit.Text.Encoded

namespace ConfigAudit

/-- The bytes of basic characters. -/
def basicBytes (cs : List Char) : List UInt8 := cs.map fun c => UInt8.ofNat c.toNat

namespace Utf8

/-- Basic characters are decoded one by one. -/
theorem decodeFrom_basicBytes {cs : List Char} (basic : ∀ c ∈ cs, c.toNat < 0x80) (position : Nat)
    (acc : List Char) :
    decodeFrom cs.length position acc (basicBytes cs) = .ok (cs.reverse ++ acc, []) := by
  induction cs generalizing position acc with
  | nil => rfl
  | cons c cs ih =>
      obtain ⟨hc, hcs⟩ := List.forall_mem_cons.1 basic
      have hbyte : (UInt8.ofNat c.toNat).toNat = c.toNat := by
        rw [UInt8.toNat_ofNat']
        exact Nat.mod_eq_of_lt (by omega)
      have hlead : lead? c.toNat = some (0, 0, 0) := if_pos hc
      have hchar : Char.ofNat (leadBits 0 c.toNat) = c := Char.ofNat_toNat c
      rw [basicBytes, List.map_cons, List.length_cons, decodeFrom, hbyte, hlead]
      dsimp only [tail]
      rw [hchar]
      refine (ih hcs _ _).trans ?_
      rw [List.reverse_cons, List.append_assoc, List.singleton_append]

/-- A short file of basic characters has these characters. -/
theorem read_basicBytes {cs : List Char} (basic : ∀ c ∈ cs, c.toNat < 0x80)
    (short : cs.length ≤ pieceLength) : read (basicBytes cs) = .ok cs := by
  have hlength : (basicBytes cs).length = cs.length := List.length_map _
  have hdecode : decode (basicBytes cs) = .ok (cs, []) := by
    rw [decode, hlength, decodeFrom_basicBytes basic]
    simp only [bind, Except.bind, List.append_nil, List.reverse_reverse]
    rfl
  have htake : (basicBytes cs).take pieceLength = basicBytes cs :=
    List.take_of_length_le (hlength ▸ short)
  have hdrop : (basicBytes cs).drop pieceLength = [] := List.drop_of_length_le (hlength ▸ short)
  cases cs with
  | nil => rfl
  | cons c cs =>
      -- one piece, and nothing behind it
      rw [read, readFrom, htake, hdrop, List.nil_append, hdecode]
      simp only [basicBytes, List.map_cons, List.isEmpty_cons, Bool.false_eq_true, ↓reduceIte, bind,
        Except.bind, readFrom, List.isEmpty_nil, pure, Except.pure, List.append_nil]

end Utf8

/-- Characters without a carriage return have plain line ends. -/
theorem unifyLineEnds_of_not_mem {cs : List Char} (h : '\r' ∉ cs) : unifyLineEnds cs = cs := by
  induction cs with
  | nil => rfl
  | cons c cs ih =>
      obtain ⟨hc, hcs⟩ := not_or.1 fun hmem => h (List.mem_cons.2 hmem)
      rw [unifyLineEnds, if_neg (by simpa using Ne.symm hc), ih hcs]
      rintro _ rfl
      exact absurd rfl hc

/-- **Files of basic characters.**  A short file of basic characters with plain line ends is read as
it stands. -/
theorem readTextFile_basicBytes {cs : List Char}
    (basic : ∀ c ∈ cs, c.toNat < 0x80 ∧ c ≠ '\r') (short : cs.length ≤ Utf8.pieceLength) :
    readTextFile (basicBytes cs) = .ok cs := by
  rw [readTextFile, Utf8.read_basicBytes (fun c hc => (basic c hc).1) short]
  exact congrArg Except.ok (unifyLineEnds_of_not_mem fun hmem => (basic _ hmem).2 rfl)

end ConfigAudit
