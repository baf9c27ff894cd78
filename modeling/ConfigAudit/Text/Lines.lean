/-
# Lines, blanks and substrings

The operations on text that configurations go through: cutting into lines, stripping blanks,
joining, and looking for one text inside another.  All are defined on lists of characters, where
they are structural, and lifted to strings.

* `splitLines` : a line ends at any line end, CR LF counting once, and the last line need not end;
* `strip` : no blank at either end is left;
* `occursIn` : substring occurrence.
-/
import ConfigAudit.Text.Classes

namespace ConfigAudit.Text

/-! ## Lines -/

/-- Cuts characters into lines; `line` holds the characters of the open line in reverse. -/
def linesFrom (line : List Char) : List Char → List (List Char)
  | [] => if line.isEmpty then [] else [line.reverse]
  | '\r' :: '\n' :: rest => line.reverse :: linesFrom [] rest
  | c :: rest => if isLineEnd c then line.reverse :: linesFrom [] rest else linesFrom (c :: line) rest

/-- The lines of a text, without their line ends. -/
def splitLines (s : String) : List String := (linesFrom [] s.toList).map String.ofList

/-- Joins texts, with a separator between two of them. -/
def join (sep : String) (parts : List String) : String := sep.intercalate parts

/-- Joins lines with a line feed between two of them. -/
def joinLines (lines : List String) : String := join "\n" lines

/-! ## Blanks -/

/-- Drops the blanks at the front. -/
def stripLeft (cs : List Char) : List Char := cs.dropWhile isBlank

/-- Drops the blanks at the end. -/
def stripRight (cs : List Char) : List Char := (cs.reverse.dropWhile isBlank).reverse

/-- Drops the blanks at both ends. -/
def strip (s : String) : String := String.ofList (stripRight (stripLeft s.toList))

/-- The number of blanks at the front. -/
def indentation (s : String) : Nat := (s.toList.takeWhile isBlank).length

/-- Whether nothing is left after stripping. -/
def isBlankText (s : String) : Bool := s.toList.all isBlank

/-! ## Parts of a text -/

/-- Whether the second list begins with the first. -/
def startsWith : List Char → List Char → Bool
  | [], _ => true
  | _ :: _, [] => false
  | a :: as, b :: bs => a == b && startsWith as bs

/-- Whether the first list occurs in the second. -/
def occurs (needle : List Char) : List Char → Bool
  | [] => needle.isEmpty
  | c :: rest => startsWith needle (c :: rest) || occurs needle rest

/-- Whether one text occurs in another. -/
def occursIn (needle hay : String) : Bool := occurs needle.toList hay.toList

/-- Whether a text begins with another. -/
def beginsWith (s front : String) : Bool := startsWith front.toList s.toList

/-- Whether a text ends with another. -/
def endsWith (s back : String) : Bool := startsWith back.toList.reverse s.toList.reverse

/-- The last `n` characters of a text. -/
def lastChars (n : Nat) (s : String) : String :=
  let cs := s.toList
  String.ofList (cs.drop (cs.length - n))

/-- The first `n` characters of a text. -/
def firstChars (n : Nat) (s : String) : String := String.ofList (s.toList.take n)

/-- Drops the first `n` characters of a text. -/
def dropChars (n : Nat) (s : String) : String := String.ofList (s.toList.drop n)

/-- Cuts characters at a separator; `part` holds the open part in reverse. -/
def partsFrom (sep : Char) (part : List Char) : List Char → List (List Char)
  | [] => [part.reverse]
  | c :: rest => if c == sep then part.reverse :: partsFrom sep [] rest
    else partsFrom sep (c :: part) rest

/-- The parts of a text between the occurrences of a character. -/
def splitAt (sep : Char) (s : String) : List String :=
  (partsFrom sep [] s.toList).map String.ofList

/-- The upper-case form that is used to compare names: letters whose upper case is made of
basic letters are mapped to it, and other characters keep their one-to-one form. -/
def upperName (s : String) : String :=
  String.ofList <| s.toList.flatMap fun c => match c.toNat with
    | 0xdf => ['S', 'S']
    | 0xfb00 => ['F', 'F']
    | 0xfb01 => ['F', 'I']
    | 0xfb02 => ['F', 'L']
    | 0xfb03 => ['F', 'F', 'I']
    | 0xfb04 => ['F', 'F', 'L']
    | 0xfb05 => ['S', 'T']
    | 0xfb06 => ['S', 'T']
    | n => [Char.ofNat (upperCode n)]

/-- The lower-case form that is used to compare names. -/
def lowerName (s : String) : String :=
  String.ofList <| s.toList.flatMap fun c => match c.toNat with
    | 0x130 => ['i', Char.ofNat 0x307]
    | n => [Char.ofNat (lowerCode n)]

end ConfigAudit.Text
