/-
# The normal form of names

Names that look different can be the same name.  A name is taken apart into basic characters and
marks, the marks behind each character are put in order, and what can be one character is put
together again.  This is the form that is called NFKC; the syllables of Hangul, of which there are
too many for tables, are computed.

* `decompose` : what a character is made of;
* `orderMarks` : marks in the order of their classes;
* `compose` : characters and marks put together;
* `normalForm` : the normal form of a name.
-/
import ConfigAudit.Text.Forms

namespace ConfigAudit.Text

/-! ## Syllables -/

/-- The first syllable of Hangul. -/
def firstSyllable : Nat := 0xac00

/-- The number before that of the first final consonant. -/
def noFinal : Nat := 0x11a7

/-- Whether a code point is a syllable. -/
def isSyllable (n : Nat) : Bool := firstSyllable ≤ n && n < firstSyllable + 19 * 21 * 28

/-- The letters of a syllable: two, or three if it ends with a consonant. -/
def lettersOf (n : Nat) : List Nat :=
  let k := n - firstSyllable
  let letters := [0x1100 + k / 588, 0x1161 + k % 588 / 28]
  if k % 28 = 0 then letters else letters ++ [noFinal + k % 28]

/-- The syllable of a consonant and a vowel, or of a syllable without an end and a consonant. -/
def syllable? (a b : Nat) : Option Nat :=
  if 0x1100 ≤ a && a < 0x1100 + 19 && 0x1161 ≤ b && b < 0x1161 + 21 then
    some (firstSyllable + (a - 0x1100) * 588 + (b - 0x1161) * 28)
  else if isSyllable a && (a - firstSyllable) % 28 == 0 && noFinal < b && b < noFinal + 28 then
    some (a + (b - noFinal))
  else none

/-! ## Taking apart -/

/-- What a code point is made of. -/
def decompose (n : Nat) : List Nat :=
  if n < 0x80 then [n]
  else if isSyllable n then lettersOf n
  else match (FormTable.find decompositions n).head? with
    | some (0, codes) => codes
    | some (distance, codes) => codes.map (· + distance)
    | none => [n]

/-- The first mark. -/
def firstMark : Nat := 0x300

/-- The class of a mark; 0 for characters that are no marks. -/
def combiningClass (n : Nat) : Nat :=
  if n < firstMark then 0
  else ((FormTable.find combiningClasses n).head?.bind fun e => e.2.head?).getD 0

/-- Puts a code point before others, but behind marks of lower classes that they begin with. -/
def insertMark (n : Nat) : List Nat → List Nat
  | [] => [n]
  | m :: rest =>
    if combiningClass m ≠ 0 ∧ combiningClass m < combiningClass n then m :: insertMark n rest
    else n :: m :: rest

/-- Puts marks in the order of their classes. -/
def orderMarks (ns : List Nat) : List Nat := ns.foldr insertMark []

/-! ## Putting together -/

/-- What two code points make; the second one is a mark, or a letter of a syllable. -/
def pair? (a b : Nat) : Option Nat :=
  if b < firstMark then none
  else (syllable? a b).or <| (FormTable.find compositions a).findSome? fun e =>
    match e.2 with
    | [other, whole] => if other == b then some whole else none
    | _ => none

/-- Puts a character together with what follows; `marks` are those behind it that are left over, in
reverse, and a mark must not pass another one of its class. -/
def composeFrom (base : Nat) (marks : List Nat) : List Nat → List Nat
  | [] => base :: marks.reverse
  | n :: rest =>
    let near := marks.head?.all fun m => combiningClass m < combiningClass n
    match if near then pair? base n else none with
    | some whole => composeFrom whole marks rest
    | none =>
      if combiningClass n = 0 then base :: marks.reverse ++ composeFrom n [] rest
      else composeFrom base (n :: marks) rest

/-- Puts code points together. -/
def compose : List Nat → List Nat
  | [] => []
  | n :: rest => composeFrom n [] rest

/-! ## Names -/

/-- The normal form of a name; a name of basic characters is in this form. -/
def normalForm (s : String) : String :=
  if s.toList.all fun c => c.toNat < 0x80 then s
  else
    let parts := s.toList.flatMap fun c => decompose c.toNat
    String.ofList ((compose (orderMarks parts)).map Char.ofNat)

end ConfigAudit.Text
