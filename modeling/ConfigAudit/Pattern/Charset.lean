/-
# Tests on one character

What a pattern can ask of a single character: to be in a set, to have a property, or to be
outside of both, with or without regard to case.  Sets are sets of code points, because a pattern
can name code points that no text holds.

* `Test.holds` : whether a character passes;
* `Test.ofItems` : the test of a set, prepared for case-blind matching.
-/
import ConfigAudit.Text.Classes

namespace ConfigAudit.Pattern

open Text

/-! ## Case -/

/-- How case is treated. -/
inductive Fold where
  /-- Case matters. -/
  | exact
  /-- Basic letters match in both cases. -/
  | basic
  /-- Letters of all scripts match in both cases. -/
  | full
  deriving Repr, DecidableEq

/-- Lower-case characters that share their upper-case form, other than the character itself. -/
def caseSiblings (n : Nat) : List Nat :=
  match n with
  | 0x69 => [0x131]
  | 0x73 => [0x17f]
  | 0xb5 => [0x3bc]
  | 0x131 => [0x69]
  | 0x17f => [0x73]
  | 0x345 => [0x3b9, 0x1fbe]
  | 0x390 => [0x1fd3]
  | 0x3b0 => [0x1fe3]
  | 0x3b2 => [0x3d0]
  | 0x3b5 => [0x3f5]
  | 0x3b8 => [0x3d1]
  | 0x3b9 => [0x345, 0x1fbe]
  | 0x3ba => [0x3f0]
  | 0x3bc => [0xb5]
  | 0x3c0 => [0x3d6]
  | 0x3c1 => [0x3f1]
  | 0x3c2 => [0x3c3]
  | 0x3c3 => [0x3c2]
  | 0x3c6 => [0x3d5]
  | 0x3d0 => [0x3b2]
  | 0x3d1 => [0x3b8]
  | 0x3d5 => [0x3c6]
  | 0x3d6 => [0x3c0]
  | 0x3f0 => [0x3ba]
  | 0x3f1 => [0x3c1]
  | 0x3f5 => [0x3b5]
  | 0x432 => [0x1c80]
  | 0x434 => [0x1c81]
  | 0x43e => [0x1c82]
  | 0x441 => [0x1c83]
  | 0x442 => [0x1c84, 0x1c85]
  | 0x44a => [0x1c86]
  | 0x463 => [0x1c87]
  | 0x1c80 => [0x432]
  | 0x1c81 => [0x434]
  | 0x1c82 => [0x43e]
  | 0x1c83 => [0x441]
  | 0x1c84 => [0x442, 0x1c85]
  | 0x1c85 => [0x442, 0x1c84]
  | 0x1c86 => [0x44a]
  | 0x1c87 => [0x463]
  | 0x1c88 => [0xa64b]
  | 0x1e61 => [0x1e9b]
  | 0x1e9b => [0x1e61]
  | 0x1fbe => [0x345, 0x3b9]
  | 0x1fd3 => [0x390]
  | 0x1fe3 => [0x3b0]
  | 0xa64b => [0x1c88]
  | 0xfb05 => [0xfb06]
  | 0xfb06 => [0xfb05]
  | _ => []

/-- The lower-case form among basic letters. -/
def basicLower (n : Nat) : Nat := if 0x41 ≤ n ∧ n ≤ 0x5a then n + 32 else n

/-- The form of a code point that is compared. -/
def Fold.apply : Fold → Nat → Nat
  | exact, n => n
  | basic, n => basicLower n
  | full, n => lowerCode n

/-- Whether case can matter for a code point. -/
def Fold.cased : Fold → Nat → Bool
  | exact, _ => false
  | basic, n => (0x41 ≤ n && n ≤ 0x5a) || (0x61 ≤ n && n ≤ 0x7a)
  | full, n => isCased n

/-- The code points whose lower-case form is `n`. -/
def lowerSources (n : Nat) : List Nat :=
  let moved := lowerTable.runs.toList.filterMap fun r =>
    let source := ((n : Int) - r.shift).toNat
    if r.first ≤ source ∧ source ≤ r.last ∧ (source - r.first) % r.stride = 0 ∧
        lowerCode source = n then some source else none
  if lowerCode n = n then n :: moved else moved

/-! ## Members of sets -/

/-- A property of characters. -/
inductive Class where
  /-- Decimal digits. -/
  | digit
  /-- Blanks. -/
  | blank
  /-- Letters, numbers and the underscore. -/
  | word
  deriving Repr, DecidableEq

/-- Whether a code point has a property; `basic` confines the property to basic characters. -/
def Class.holds (basic : Bool) (n : Nat) : Class → Bool
  | digit => if basic then 0x30 ≤ n && n ≤ 0x39 else isDecimal (Char.ofNat n)
  | blank => if basic then n == 0x20 || (0x09 ≤ n && n ≤ 0x0d) else isBlank (Char.ofNat n)
  | word => n == 0x5f ||
      (if basic then n < 0x80 && (Char.ofNat n).isAlphanum else isAlphanumeric (Char.ofNat n))

/-- A member of a character set. -/
inductive Item where
  /-- One code point. -/
  | one (n : Nat)
  /-- A range of code points, with both ends. -/
  | range (first last : Nat)
  /-- The code points that have a property, or have it not. -/
  | ofClass (kind : Class) (basic negated : Bool)
  deriving Repr, DecidableEq

/-- Whether a range holds a code point whose compared form is `n`. -/
def rangeHolds (fold : Fold) (first last n : Nat) : Bool :=
  let inside (k : Nat) : Bool := first ≤ k && k ≤ last
  match fold with
  | .exact => inside n
  | .basic => (inside n && basicLower n == n) || (0x61 ≤ n && n ≤ 0x7a && inside (n - 32))
  | .full =>
    if n ≤ 0xffff then
      (n :: caseSiblings n).any fun k => (lowerSources k).any fun m => m ≤ 0xffff && inside m
    else last > 0xffff && (inside n || inside (upperCode n))

/-- Whether a member stands for a code point, given in its compared form. -/
def Item.holds (fold : Fold) (n : Nat) : Item → Bool
  | one k =>
    if k > 0xffff then n == k
    else
      let low := fold.apply k
      n == low || (fold == .full && (caseSiblings low).contains n)
  | range first last => rangeHolds fold first last n
  | .ofClass kind basic negated => kind.holds basic n != negated

/-- Whether case can matter for a member. -/
def Item.cased (fold : Fold) : Item → Bool
  | one k => fold != .exact && (k > 0xffff || fold.cased k)
  | range first last =>
    fold != .exact && (last > 0xffff || (List.range (last + 1 - first)).any fun i => fold.cased (first + i))
  | .ofClass .. => false

/-! ## Tests -/

/-- A test on one character. -/
structure Test where
  /-- The set. -/
  items : List Item
  /-- Whether the character has to be outside of the set. -/
  negated : Bool
  /-- How case is treated. -/
  fold : Fold
  deriving Repr, DecidableEq

/-- Whether a character passes a test. -/
def Test.holds (t : Test) (c : Char) : Bool :=
  let n := t.fold.apply c.toNat
  t.items.any (·.holds t.fold n) != t.negated

/-- The test of a set; case is looked at only if it can matter. -/
def Test.ofItems (fold : Fold) (negated : Bool) (items : List Item) : Test :=
  ⟨items, negated, if items.any (·.cased fold) then fold else .exact⟩

/-- The test of one character; unlike in a larger set, its case is always folded. -/
def Test.literal (fold : Fold) (negated : Bool) (n : Nat) : Test :=
  if fold.cased n then
    let low := fold.apply n
    let others := if fold == .full then caseSiblings low else []
    ⟨(low :: others).map fun k => .range k k, negated, fold⟩
  else ⟨[.range n n], negated, .exact⟩

/-- Any character but the line feed. -/
def Test.notLineFeed : Test := ⟨[.one 0x0a], true, .exact⟩

/-- Any character. -/
def Test.any : Test := ⟨[], true, .exact⟩

end ConfigAudit.Pattern
