/-
# Tables of code points

Unicode properties are sets of code points, and a set of code points is written here as a list
of ranges.  A table is stored as one line of text: hexadecimal numbers, each the distance from
the end of the range before it, so that seven hundred ranges fit in a few thousand characters.

* `RangeTable.contains` : membership, by binary search;
* `CaseTable.apply` : a character map given as runs of equal distance.
-/

namespace ConfigAudit.Text

/-! ## Reading the written form -/

/-- The value of a hexadecimal digit. -/
def hexValue? (c : Char) : Option Nat :=
  if '0' ≤ c ∧ c ≤ '9' then some (c.toNat - '0'.toNat)
  else if 'a' ≤ c ∧ c ≤ 'f' then some (c.toNat - 'a'.toNat + 10)
  else if 'A' ≤ c ∧ c ≤ 'F' then some (c.toNat - 'A'.toNat + 10)
  else none

/-- The number spelled by hexadecimal digits; other characters are skipped. -/
def hexNumber (cs : List Char) : Nat :=
  cs.foldl (fun n c => match hexValue? c with
    | some d => n * 16 + d
    | none => n) 0

/-- A hexadecimal number with an optional minus sign. -/
def hexInteger (cs : List Char) : Int :=
  match cs with
  | '-' :: rest => - (hexNumber rest : Int)
  | _ => (hexNumber cs : Int)

/-- Cuts characters at blanks; `word` holds the open word in reverse. -/
def wordsFrom (word : List Char) : List Char → List (List Char)
  | [] => if word.isEmpty then [] else [word.reverse]
  | c :: rest =>
    if c.isWhitespace then
      if word.isEmpty then wordsFrom [] rest else word.reverse :: wordsFrom [] rest
    else wordsFrom (c :: word) rest

/-- The hexadecimal numbers of a text, separated by blanks. -/
def hexIntegers (s : String) : List Int := (wordsFrom [] s.toList).map hexInteger

/-! ## Sets of code points -/

/-- A set of code points as ascending, disjoint, closed ranges. -/
structure RangeTable where
  /-- First and last code point of each range. -/
  ranges : Array (Nat × Nat)

namespace RangeTable

/-- Turns distances into ranges: a gap, then the length less one. -/
def ofGaps : Nat → List Int → List (Nat × Nat)
  | base, gap :: len :: rest =>
    let lo := base + gap.toNat
    let hi := lo + len.toNat
    (lo, hi) :: ofGaps hi rest
  | _, _ => []

/-- Reads a table from its written form. -/
def read (s : String) : RangeTable := ⟨(ofGaps 0 (hexIntegers s)).toArray⟩

/-- Reads a table of ten-element ranges, of which only the first members are written. -/
def readTens (s : String) : RangeTable :=
  let starts := (hexIntegers s).foldl
    (fun (acc : Nat × List (Nat × Nat)) d =>
      let lo := acc.1 + d.toNat
      (lo, (lo, lo + 9) :: acc.2)) (0, [])
  ⟨starts.2.reverse.toArray⟩

/-- The range that holds `n`, looked for between two indices. -/
def search (t : RangeTable) (n : Nat) (lo hi : Nat) : Option (Nat × Nat) :=
  if _h : lo < hi then
    let mid := (lo + hi) / 2
    match t.ranges[mid]? with
    | none => none
    | some (a, b) =>
      if n < a then search t n lo mid
      else if b < n then search t n (mid + 1) hi
      else some (a, b)
  else none
termination_by hi - lo
decreasing_by all_goals omega

/-- The range that holds `n`. -/
def find? (t : RangeTable) (n : Nat) : Option (Nat × Nat) := t.search n 0 t.ranges.size

/-- Whether `n` lies in one of the ranges. -/
def contains (t : RangeTable) (n : Nat) : Bool := (t.find? n).isSome

end RangeTable

/-! ## Character maps -/

/-- A run of code points that a map moves by the same distance. -/
structure CaseRun where
  /-- First code point of the run. -/
  first : Nat
  /-- Last code point of the run. -/
  last : Nat
  /-- Distance between two members of the run. -/
  stride : Nat
  /-- How far each member is moved. -/
  shift : Int

/-- A map on code points, the identity outside of its runs. -/
structure CaseTable where
  /-- The runs, ascending by first code point. -/
  runs : Array CaseRun

namespace CaseTable

/-- Turns distances into runs: gap, length less one, stride, shift. -/
def ofGaps : Nat → List Int → List CaseRun
  | base, gap :: len :: stride :: shift :: rest =>
    let first := base + gap.toNat
    let last := first + len.toNat * stride.toNat
    ⟨first, last, stride.toNat, shift⟩ :: ofGaps last rest
  | _, _ => []

/-- Reads a map from its written form. -/
def read (s : String) : CaseTable := ⟨(ofGaps 0 (hexIntegers s)).toArray⟩

/-- The run that may move `n`, looked for between two indices. -/
def search (t : CaseTable) (n : Nat) (lo hi : Nat) : Option CaseRun :=
  if _h : lo < hi then
    let mid := (lo + hi) / 2
    match t.runs[mid]? with
    | none => none
    | some r =>
      if n < r.first then search t n lo mid
      else if r.last < n then search t n (mid + 1) hi
      else some r
  else none
termination_by hi - lo
decreasing_by all_goals omega

/-- The image of a code point. -/
def apply (t : CaseTable) (n : Nat) : Nat :=
  match t.search n 0 t.runs.size with
  | some r => if (n - r.first) % r.stride = 0 then ((n : Int) + r.shift).toNat else n
  | none => n

end CaseTable

end ConfigAudit.Text
