/-
# Encoded texts

Files hold bytes.  Their text is UTF-8, read in pieces, and every line end becomes a line feed.
Texts are written in UTF-8, too, which has no form for half a character.

* `Utf8.decode` : the characters of a piece, and the bytes of a character that is not complete;
* `Utf8.read` : the text of a file;
* `unifyLineEnds` : one line end for all;
* `Text.halves?` : what keeps a text from being written.
-/
import ConfigAudit.Text.Quoted

namespace ConfigAudit

/-- Why bytes are no text. -/
inductive Utf8Cause where
  /-- A character cannot begin with this byte. -/
  | start
  /-- A character cannot go on with the next byte. -/
  | continuation
  /-- A character is not complete at the end. -/
  | truncated
  deriving Repr, DecidableEq

/-- Where bytes are no text. -/
structure Utf8Fault where
  /-- The first byte at fault. -/
  byte : Nat
  /-- The position of the first byte at fault. -/
  position : Nat
  /-- How many bytes are at fault. -/
  count : Nat
  /-- What is wrong with them. -/
  cause : Utf8Cause
  deriving Repr, DecidableEq

/-- The wording of a cause. -/
def Utf8Cause.message : Utf8Cause → String
  | start => "invalid start byte"
  | continuation => "invalid continuation byte"
  | truncated => "unexpected end of data"

/-- The wording of a fault. -/
def Utf8Fault.message (f : Utf8Fault) : String :=
  "'utf-8' codec can't decode " ++
    (if f.count ≤ 1 then
      "byte 0x" ++ String.ofList (Text.hexPadded 2 f.byte) ++ " in position " ++ toString f.position
    else "bytes in position " ++ toString f.position ++ "-" ++
      toString (f.position + f.count - 1)) ++
    ": " ++ f.cause.message

/-! ## Texts that have no bytes -/

/-- Where a text has halves of characters. -/
structure HalfFault where
  /-- The code of the first one. -/
  code : Nat
  /-- The position of the first one. -/
  position : Nat
  /-- How many there are in a row. -/
  count : Nat
  deriving Repr, DecidableEq

/-- The wording of a fault. -/
def HalfFault.message (f : HalfFault) : String :=
  "'utf-8' codec can't encode " ++
    (if f.count ≤ 1 then
      "character '" ++ String.ofList (Text.escapeCode f.code) ++ "' in position " ++
        toString f.position
    else "characters in position " ++ toString f.position ++ "-" ++
      toString (f.position + f.count - 1)) ++
    ": surrogates not allowed"

namespace Text

/-- The first halves of characters in a text. -/
def halves? (s : String) : Option HalfFault :=
  (s.toList.findIdx? isHalf).map fun position =>
    let row := (s.toList.drop position).takeWhile isHalf
    ⟨halfCode (row.headD ' '), position, row.length⟩

/-- A text that is made of whole characters can be written. -/
theorem halves?_eq_none_iff {s : String} : halves? s = none ↔ isWhole s = true := by
  rw [halves?, Option.map_eq_none_iff, List.findIdx?_eq_none_iff, isWhole, Bool.not_eq_true',
    List.any_eq_false]
  simp only [Bool.not_eq_true]

end Text

namespace Utf8

/-! ## Characters -/

/-- How many bytes follow a first byte, and the bounds of the second one. -/
def lead? (b : Nat) : Option (Nat × Nat × Nat) :=
  if b < 0x80 then some (0, 0, 0)
  else if b < 0xc2 then none
  else if b < 0xe0 then some (1, 0x80, 0xbf)
  else if b == 0xe0 then some (2, 0xa0, 0xbf)
  else if b == 0xed then some (2, 0x80, 0x9f)
  else if b < 0xf0 then some (2, 0x80, 0xbf)
  else if b == 0xf0 then some (3, 0x90, 0xbf)
  else if b < 0xf4 then some (3, 0x80, 0xbf)
  else if b == 0xf4 then some (3, 0x80, 0x8f)
  else none

/-- What follows a first byte. -/
inductive Tail where
  /-- The rest of the character, and the bytes behind it. -/
  | complete (code : Nat) (rest : List UInt8)
  /-- The bytes end too early. -/
  | truncated
  /-- A byte does not fit, after some that do. -/
  | misfit (fitting : Nat)

/-- Reads the bytes that follow a first byte; `lo` and `hi` bound the next one. -/
def tail (code fitting lo hi : Nat) : Nat → List UInt8 → Tail
  | 0, bs => .complete code bs
  | _ + 1, [] => .truncated
  | n + 1, b :: bs =>
    if lo ≤ b.toNat ∧ b.toNat ≤ hi then
      tail (code * 64 + (b.toNat - 0x80)) (fitting + 1) 0x80 0xbf n bs
    else .misfit fitting

/-- The payload of a first byte that `n` bytes follow. -/
def leadBits (n b : Nat) : Nat :=
  match n with
  | 0 => b
  | 1 => b - 0xc0
  | 2 => b - 0xe0
  | _ => b - 0xf0

/-- The characters of a piece, in reverse, and the bytes of a last character that is not complete;
`fuel` bounds the number of characters. -/
def decodeFrom : Nat → Nat → List Char → List UInt8 → Except Utf8Fault (List Char × List UInt8)
  | 0, _, acc, bs => .ok (acc, bs)
  | _ + 1, _, acc, [] => .ok (acc, [])
  | fuel + 1, position, acc, b :: bs =>
    match lead? b.toNat with
    | none => .error ⟨b.toNat, position, 1, .start⟩
    | some (n, lo, hi) => match tail (leadBits n b.toNat) 0 lo hi n bs with
      | .complete code rest => decodeFrom fuel (position + n + 1) (Char.ofNat code :: acc) rest
      | .truncated => .ok (acc, b :: bs)
      | .misfit k => .error ⟨b.toNat, position, k + 1, .continuation⟩

/-- The characters of a piece, and the bytes of a last character that is not complete. -/
def decode (bs : List UInt8) : Except Utf8Fault (List Char × List UInt8) := do
  let (cs, left) ← decodeFrom bs.length 0 [] bs
  return (cs.reverse, left)

/-- The characters of bytes that are read at once. -/
def decodeAll (bs : List UInt8) : Except Utf8Fault (List Char) := do
  match ← decode bs with
  | (cs, []) => return cs
  | (_, b :: left) => throw ⟨b.toNat, bs.length - left.length - 1, left.length + 1, .truncated⟩

/-- The number of bytes of characters. -/
def length (cs : List Char) : Nat := cs.foldl (fun n c => n + c.utf8Size) 0

/-! ## Files -/

/-- How many bytes of a file are read at once. -/
def pieceLength : Nat := 8192

/-- Reads a file in pieces; positions in faults are relative to the piece. -/
def readFrom : Nat → List UInt8 → List UInt8 → Except Utf8Fault (List Char)
  | 0, _, _ => .ok []
  | fuel + 1, left, bs => do
    if bs.isEmpty then
      match left with
      | [] => return []
      | b :: _ => throw ⟨b.toNat, 0, left.length, .truncated⟩
    let (cs, left) ← decode (left ++ bs.take pieceLength)
    return cs ++ (← readFrom fuel left (bs.drop pieceLength))

/-- The characters of a file. -/
def read (bs : List UInt8) : Except Utf8Fault (List Char) :=
  readFrom (bs.length / pieceLength + 2) [] bs

end Utf8

/-! ## Line ends -/

/-- Writes every line end as a line feed. -/
def unifyLineEnds : List Char → List Char
  | [] => []
  | '\r' :: '\n' :: rest => '\n' :: unifyLineEnds rest
  | c :: rest => (if c == '\r' then '\n' else c) :: unifyLineEnds rest

/-- Reads a text file. -/
def readTextFile (bs : List UInt8) : Except Utf8Fault (List Char) := do
  return unifyLineEnds (← Utf8.read bs)

end ConfigAudit
