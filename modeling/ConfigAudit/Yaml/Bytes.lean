/-
# Bytes in documents

Bytes are written in base sixty-four, four characters for three bytes.  Characters of other kinds
are passed over.

* `decodeBytes` : the bytes of a text.
-/
import ConfigAudit.Text.Lines
import ConfigAudit.Text.Quoted

namespace ConfigAudit.Yaml

/-- Why a text spells no bytes. -/
inductive BytesFault where
  /-- Characters that are not basic, from a position on. -/
  | notBasic (first : Char) (position count : Nat)
  /-- One character is too many. -/
  | length (count : Nat)
  /-- Characters are missing. -/
  | padding

/-- The wording of a fault. -/
def BytesFault.message : BytesFault → String
  | notBasic first position count =>
    "'ascii' codec can't encode character" ++
      (if count ≤ 1 then
        " '" ++ String.ofList (Text.escapeCode first.toNat) ++ "' in position " ++ toString position
      else "s in position " ++ toString position ++ "-" ++ toString (position + count - 1)) ++
      ": ordinal not in range(128)"
  | length count =>
    "Invalid base64-encoded string: number of data characters (" ++ toString count ++
      ") cannot be 1 more than a multiple of 4"
  | padding => "Incorrect padding"

/-- The value of a digit in base sixty-four. -/
def sextet? (c : Char) : Option Nat :=
  if 'A' ≤ c && c ≤ 'Z' then some (c.toNat - 0x41)
  else if 'a' ≤ c && c ≤ 'z' then some (c.toNat - 0x61 + 26)
  else if c.isDigit then some (c.toNat - 0x30 + 52)
  else if c == '+' then some 62
  else if c == '/' then some 63
  else none

/-- Reads digits; `place` is the number of digits since the last whole group, `left` the bits that
are not used yet, and `pads` the number of padding characters in a row. -/
def bytesFrom (place left pads : Nat) (out : List UInt8) : List Char → Except BytesFault (List UInt8)
  | [] =>
    if place == 0 then .ok out.reverse
    else if place == 1 then .error (.length (out.length / 3 * 4 + 1))
    else .error .padding
  | '=' :: rest =>
    if 2 ≤ place then
      if 4 ≤ place + pads + 1 then .ok out.reverse else bytesFrom place left (pads + 1) out rest
    else bytesFrom place left pads out rest
  | c :: rest =>
    match sextet? c with
    | none => bytesFrom place left pads out rest
    | some d => match place with
      | 0 => bytesFrom 1 d 0 out rest
      | 1 => bytesFrom 2 (d % 16) 0 (UInt8.ofNat (left * 4 + d / 16) :: out) rest
      | 2 => bytesFrom 3 (d % 4) 0 (UInt8.ofNat (left * 16 + d / 4) :: out) rest
      | _ => bytesFrom 0 0 0 (UInt8.ofNat (left * 64 + d) :: out) rest

/-- The bytes of a text. -/
def decodeBytes (s : String) : Except BytesFault (List UInt8) :=
  let isBasic (c : Char) : Bool := c.toNat < 0x80
  let (front, rest) := s.toList.span isBasic
  match rest with
  | [] => bytesFrom 0 0 0 [] s.toList
  | c :: _ => .error (.notBasic c front.length (rest.takeWhile fun c => !isBasic c).length)

end ConfigAudit.Yaml
