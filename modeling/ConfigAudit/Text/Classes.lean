/-
# Classes of characters

The classes that reading and showing text depend on, with the members that Unicode 14 gives
them.  Blank characters and line ends are few and are listed; the other classes are tables.

* `isBlank` : what stripping removes;
* `half`, `isWhole` : what cannot be encoded;
* `isPrintable` : what a quoted text shows as it is;
* `isAlphanumeric`, `digitValue?` : letters, numbers and the decimal digits of every script;
* `isNameStart`, `isNameRest` : the characters of identifiers;
* `lower`, `upper`, `isCased` : one-to-one case maps.
-/
import ConfigAudit.Text.Table

namespace ConfigAudit.Text

/-! ## Blank characters and line ends -/

/-- White space: the blanks of every script, the line ends and the four separators below them. -/
def isBlank (c : Char) : Bool :=
  let n := c.toNat
  (0x09 ≤ n && n ≤ 0x0d) || (0x1c ≤ n && n ≤ 0x20) || n == 0x85 || n == 0xa0 || n == 0x1680 ||
    (0x2000 ≤ n && n ≤ 0x200a) || n == 0x2028 || n == 0x2029 || n == 0x202f || n == 0x205f ||
    n == 0x3000

/-- The characters that end a line of text. -/
def isLineEnd (c : Char) : Bool :=
  let n := c.toNat
  (0x0a ≤ n && n ≤ 0x0d) || (0x1c ≤ n && n ≤ 0x1e) || n == 0x85 || n == 0x2028 || n == 0x2029

/-! ## Halves of characters -/

/-- What stands for half a character.  An escape can spell one, and it goes through everything that
is done with texts, but it cannot be encoded.  Texts here are made of whole characters, so that the
halves take the places of as many characters for private use. -/
def half (code : Nat) : Char := Char.ofNat (code + 0xea800)

/-- Whether a character stands for half of one. -/
def isHalf (c : Char) : Bool := 0xf8000 ≤ c.toNat && c.toNat < 0xf8800

/-- The code of the half that a character stands for. -/
def halfCode (c : Char) : Nat := c.toNat - 0xea800

/-- Halves are no blanks. -/
theorem not_isBlank_of_isHalf {c : Char} (h : isHalf c = true) : isBlank c = false := by
  simp only [isHalf, Bool.and_eq_true, decide_eq_true_eq] at h
  simp only [isBlank, Bool.or_eq_false_iff, Bool.and_eq_false_iff, decide_eq_false_iff_not,
    beq_eq_false_iff_ne]
  omega

/-- Whether a text has no halves of characters. -/
def isWhole (s : String) : Bool := !s.toList.any isHalf

/-! ## Tables -/

/-- Code points that are controls, separators other than the space, or not assigned. -/
def unprintableTable : RangeTable := RangeTable.read
  "0 1f 60 21 d 0 2cb 1 7 3 8 0 2 0 15 0 18e 0 27 1 33 1 4 0 38 7 1c 3 7 10 17 0 c1 0 31 1 3c 1 66
    d 3c 1 32 1 10 0 1d 1 2 0 c 4 20 8 4b 0 a2 0 9 1 3 1 17 0 8 0 2 2 5 1 a 1 3 1 5 7 2 3 3 0 6 1 1a
    1 4 0 7 3 3 1 17 0 8 0 3 0 3 0 3 1 2 0 6 3 3 1 4 2 2 6 5 0 2 6 12 9 4 0 a 0 4 0 17 0 8 0 3 0 6 1
    b 0 4 0 4 1 2 e 5 1 d 6 8 0 4 0 9 1 3 1 17 0 8 0 3 0 6 1 a 1 3 1 4 6 4 3 3 0 6 1 13 9 3 0 7 2 4
    0 5 2 3 0 2 0 3 2 3 2 4 2 d 3 6 2 4 0 5 1 2 5 2 d 16 4 e 0 4 0 18 0 11 1 a 0 4 0 5 6 3 0 4 1 2 1
    5 1 b 6 17 0 4 0 18 0 b 0 6 1 a 0 4 0 5 6 3 5 3 0 5 1 b 0 3 c e 0 4 0 34 0 4 0 7 3 11 1 1b 0 4 0
    13 2 19 0 a 0 2 1 8 2 2 3 7 0 2 0 9 5 b 1 4 b 3b 3 1e 24 3 0 2 0 6 0 19 0 2 0 18 1 6 0 2 0 7 1 b
    1 5 1f 49 0 25 3 28 0 25 0 10 0 e 24 c7 0 2 4 2 1 17a 0 5 1 8 0 2 0 5 1 2a 0 5 1 22 0 5 1 8 0 2
    0 5 1 10 0 3a 0 5 1 44 1 21 2 1b 5 57 1 7 1 281 0 1d 2 5a 6 17 8 19 8 15 b e 0 4 0 3 b 5f 1 b 5
    b 5 f 0 c 5 5a 6 2c 4 47 9 20 0 d 3 d 3 2 2 2b 1 6 a 2d 3 1b 5 c 2 3f 1 42 0 1e 1 c 5 b 5 f 1 20
    30 4e 2 30 0 75 7 3d 2 10 2 3d 6 2c 1 c 7 2c 4 217 1 7 1 27 1 7 1 9 0 2 0 2 0 2 0 20 1 36 0 10 0
    f 1 7 0 14 1 4 0 a 10 19 7 30 10 3 1 1c 0 e 2 22 e 22 e 8d 3 298 18 c 14 715 1 21 0 15e 4 2e 0 2
    4 2 1 39 6 3 d 19 8 8 0 8 0 8 0 8 0 8 0 8 0 8 0 8 0 7f 21 1b 0 5a b d7 19 d 4 40 0 57 1 68 4 2c
    0 5f 0 55 b 30 0 726e 2 38 8 15d 13 b9 7 cc 4 3 0 2 0 6 17 3c 2 b 5 39 7 47 7 d 5 75 a 1f 2 4f 0
    c 3 22 0 38 8 f 1 b 1 68 17 1d 9 7 1 7 1 7 8 8 0 8 0 3d 3 7f 1 b 5 2ba5 b 18 3 32 2103 16f 1 6b
    25 8 b 6 4 1b 0 6 0 2 0 3 0 3 0 7e f 1be 1 37 6 2 1f 2b 5 34 0 14 0 5 3 6 0 88 3 bf 2 7 1 7 1 7
    1 4 2 8 0 8 c 3 1 d 0 1b 0 14 0 3 0 10 1 f 21 7c 4 4 3 2e 2 59 0 e 2 2 2e 2f 81 1e 2 32 e 1d 3
    25 8 1f 4 2c 4 1f 0 26 3 f 29 9f 1 b 5 25 3 25 3 29 7 35 a d 0 10 0 8 0 3 0 c 0 10 0 8 0 3 42
    138 8 17 9 9 17 7 0 2b 0 a 44 7 1 2 0 2d 0 3 2 2 1 18 0 49 7 a 2f 14 0 3 4 22 2 1c 4 2 3f 39 3
    15 1 33 0 3 4 9 0 4 0 1e 1 4 3 b 6 a 6 41 1f 28 3 d 8 37 2 1e 1 1c 4 1b 6 5 b 8 4f 4a 36 34 c 34
    6 2f 7 b 125 20 0 2b 0 4 1 3 4d 29 7 2b 15 1b 25 1d 13 18 8 4f 3 25 8 3f 0 6 c 1a 6 b 5 36 0 13
    7 28 8 61 0 15 a 13 0 2d 40 8 0 2 0 5 0 10 0 c 5 3c 4 b 5 5 0 9 1 3 1 17 0 8 0 3 0 6 0 b 1 3 1 4
    1 2 5 2 4 8 1 8 2 6 8a 5d 0 6 1d 49 7 b a5 37 1 27 21 46 a b 5 e 12 3b 5 b 35 1c 1 10 3 18 b8 3d
    63 54 b 9 1 2 1 9 0 3 0 1f 0 3 1 d 8 b 45 9 1 2f 1 c 1a 49 7 54 c 4a 106 a 0 2e 0 f 9 1e 2 21 1
    17 0 f 48 8 0 3 0 2d 2 2 0 3 0 a 7 b 5 7 0 3 0 26 0 3 0 7 6 b 135 1a b6 2 e 33 c 39c 65 70 0 6 a
    c5 a4b 64 c 430 fd0 248 21b8 23a 6 20 0 b 3 52 0 b 5 1f 1 7 9 47 9 b 0 8 0 16 4 14 2af 5c 64 4c
    3 3a 6 12 3f 6 a 3 d 17f9 7 4d7 29 a 22e6 5 0 8 0 3 0 124 2c 4 10 5 7 18d 903 6c 4 e 2 a 6 b 1 5
    125f 2f 1 18 8 75 3b f7 9 28 1 4b 7 71 14 47 99 15 b 58 8 1a 86 56 0 48 0 3 1 2 1 3 1 5 0 d 0 2
    0 8 0 42 0 5 1 9 0 8 0 1d 0 5 0 6 0 2 2 8 0 155 1 125 1 2bf e 6 0 10 44f 20 e0 8 0 12 1 8 0 3 0
    6 d4 2e 2 f 1 b 3 3 13f 20 10 3b 4 2 4df 8 0 5 0 3 0 10 0 c6 1 11 28 4d 3 b 3 3 310 45 4b 3e c1
    5 0 1c 0 3 0 2 1 2 0 b 0 5 0 2 0 2 5 2 3 2 0 2 0 2 0 4 0 3 0 2 1 2 0 2 0 2 0 2 0 2 0 3 0 2 1 5 0
    8 0 5 0 5 0 2 0 b 0 12 4 4 0 6 0 12 33 3 10d 2d 3 65 b 10 1 10 0 10 0 26 9 af 37 1e c 2d 3 a 6 3
    d 7 99 3d9 4 11 2 e 2 75 b 5a 6 d 3 2 e d 3 39 7 b 5 29 7 1f 1 3 4d 155 b f 1 6 2 6 2 8 8 1e 2 c
    4 7 9 b 5 9 7 8 8 94 0 38 24 b 405 a6e1 1f 103a 6 df 1 1683 d 1d32 c1e 21f 5e1 134c aedb4 f1
    2fe0f"

/-- Code points of letters, decimal digits and other numbers. -/
def alphanumericTable : RangeTable := RangeTable.read
  "30 9 8 19 7 19 30 0 8 1 2 0 4 1 2 2 2 16 2 1e 2 1c9 5 b f 4 8 0 2 0 82 4 2 1 3 3 2 0 7 0 2 2 2 0
    2 13 2 52 2 8a 9 a5 2 25 3 0 7 28 48 1a 5 3 2e 2a 16 9 5 1 2 62 2 0 10 1 8 e 3 0 11 0 2 1d 1e 58
    c 0 f 2a a 1 5 0 6 15 5 0 a 0 4 0 18 18 8 a 6 17 2 5 12 29 3b 35 4 0 13 0 8 9 5 9 2 f 5 7 3 1 3
    15 2 6 2 0 4 3 4 0 11 0 e 1 2 2 5 b 3 5 3 0 9 5 5 1 3 15 2 6 2 1 2 1 2 1 20 3 2 0 8 9 3 2 11 8 2
    2 2 15 2 6 2 1 2 4 4 0 13 0 10 1 5 9 a 0 c 7 3 1 3 15 2 6 2 1 2 4 4 0 1f 1 2 2 5 9 2 6 c 0 2 5 4
    2 2 3 4 1 2 0 2 1 4 1 4 2 4 b 17 0 16 c 13 7 2 2 2 16 2 f 4 0 1b 2 3 0 3 1 5 9 9 6 2 0 5 7 2 2 2
    16 2 9 2 4 4 0 20 1 2 1 5 9 2 1 12 8 2 2 2 28 3 0 11 0 6 2 2 9 5 12 2 5 6 11 4 17 2 8 2 0 3 6 20
    9 12 2f 2 1 d 6 a 9 28 1 2 0 2 4 2 17 2 0 2 9 2 1 a 0 3 4 2 0 a 9 3 3 21 0 20 13 d 7 2 23 1c 4
    74 2a 15 a 7 5 5 3 4 0 4 1 8 2 5 c d 0 2 9 7 25 2 0 6 0 3 2a 2 14c 2 3 3 6 2 0 2 3 3 28 2 3 3 20
    2 3 3 6 2 0 2 3 3 e 2 38 2 3 3 42 f 13 4 f 11 55 3 5 4 26b 3 10 2 19 6 4a 4 a 8 11 e 12 f 11 f c
    2 2 10 33 24 0 5 0 4 9 7 9 17 9 7 58 8 4 3 21 2 0 6 45 b 1e 28 27 3 4 c 2b 5 19 7 a 26 16 a 34
    2c 9 7 9 e 0 5e 2e 12 7 4 9 2a 1d e 37 1b 23 1d 9 4 30 3 8 8 2a 3 2 2a 3 2 5 2 1 4 0 6 bf 41 115
    3 5 3 25 3 5 3 7 2 0 2 0 2 0 2 1e 3 34 2 6 2 0 4 2 2 6 4 3 3 5 5 c 6 2 2 6 74 1 3 5 6 a 7 c 66 0
    5 0 3 9 2 0 4 4 7 0 2 0 2 0 2 3 2 a 3 3 6 4 5 0 2 39 2d7 3b 4f 15 277 1d 46d e4 7 3 4 1 a 0 3 25
    2 0 6 0 3 37 8 0 11 16 a 6 2 6 2 6 2 6 2 6 2 6 2 6 2 6 51 0 1d6 2 1a 8 8 4 3 4 5 55 7 2 2 59 2 3
    6 2a 2 5d 4 3 b 1f 31 f 21 9 1f 7 2 e 21 9 28 e 141 19bf 41 568c 44 2d 3 10c 4 1b 15 2e 11 1e 3
    4f 28 8 3 66 3 3f 6 1 2 0 2 4 19 f 2 2 2 3 2 16 e 5 b 33 f 31 1d 9 19 5 4 0 2 1 2 25 b 16 1a 1c
    8 2e 1d a 7 4 2 18 2 28 18 2 2 7 5 9 7 16 4 0 4 31 2 0 4 1 3 4 3 0 2 0 19 2 3 a 8 2 d 5 3 5 3 5
    a 6 2 6 2 2a 2 d 7 72 e 9 7 2ba3 d 16 5 30 2105 16d 3 69 27 6 d 4 6 0 2 9 2 c 2 4 2 0 2 1 2 1 2
    6b 22 16a 13 3f 3 35 29 b 75 4 2 86 14 9 8 19 7 19 c 58 4 5 3 5 3 5 3 2 24 b 2 19 2 12 2 1 2 e 3
    d 23 7a d 2c d 38 12 1 f5 1c 4 30 11 1a 5 23 a 1d 6 25 b 1d 3 23 5 7 2 4 2b 9d 3 9 7 23 5 23 5
    27 9 33 d a 2 e 2 6 2 1 2 a 2 e 2 6 2 1 44 136 a 15 b 7 19 5 2 29 2 8 46 5 3 0 2 2b 2 1 4 0 3 16
    3 1e 3 25 9 8 31 12 2 1 6 20 5 19 47 37 5 13 3 2e 10 3 2 2 2 1c b 8 18 1e 2 1f 21 7 2 1b 7 4 11
    35 b 15 3 1a 6 19 18 6 51 48 38 32 e 32 8 29 d 9 127 1e 2 29 7 1 4f 27 9 15 c 3 1c 11 2f 1b 15
    16 d 34 1b 1d 2 1 3 0 e 2c 21 18 8 9 a 23 10 9 5 0 3 0 9 22 4 0 d 2f f 3 c a 2 0 5 13 c 11 2 18
    55 6 2 0 2 3 2 e 2 9 8 2e 12 9 c 7 3 1 3 15 2 6 2 1 2 4 4 0 13 0 d 4 9f 34 13 3 6 9 6 2 1f 2f 15
    1 2 0 9 9 a7 2e 2a 3 25 2f 15 0 c 9 27 2a e 0 8 9 37 1a 16 b 5 6 ba 2b 75 52 d 7 3 0 3 7 2 1 2
    17 10 0 2 0 f 9 47 7 3 26 11 0 2 0 1d 0 b 27 8 0 16 0 c 2d 14 0 13 48 108 8 2 24 12 0 10 1c 6 1d
    71 6 2 1 2 25 16 0 a 9 7 5 2 1 2 1f f 0 8 9 137 12 be 0 10 14 2c 399 67 6e 12 c3 a4d 60 10 42e
    fd2 246 21ba 238 8 1e 2 9 7 4e 2 9 7 1d 13 2f 11 3 d 9 2 6 2 14 6 12 2b1 56 6a 4a 6 0 43 c 41 1
    2 0 1d 17f7 9 4d5 2b 8 22e8 3 2 6 2 1 2 122 2e 2 12 3 9 18b 905 6a 6 c 4 8 8 9 1647 13 6d 18 88
    54 2 46 2 1 3 0 3 1 3 3 2 b 2 0 2 6 2 40 2 3 3 7 2 6 2 1b 2 3 2 4 2 0 4 6 2 153 3 18 2 18 2 1e 2
    18 2 1e 2 18 2 1e 2 18 2 1e 2 18 2 7 3 31 701 1e 1e2 2c b 6 3 9 5 0 142 1d 13 2b 5 9 4e7 6 2 3 2
    1 2 e 2 c4 3 8 31 43 8 0 5 9 318 3a 2 2 2 3 4d 2c 2 e c3 3 2 1a 2 1 2 0 3 0 2 9 2 3 2 0 2 0 7 0
    5 0 2 0 2 0 2 2 2 1 2 0 3 0 2 0 2 0 2 0 2 0 2 1 2 0 3 3 2 6 2 3 2 3 2 0 2 9 2 10 6 2 2 4 2 10
    245 c ae4 9 407 a6df 21 1038 8 dd 3 1681 f 1d30 c20 21d 5e3 134a"

/-- The decimal digits: ten code points in each script that has them. -/
def digitTable : RangeTable := RangeTable.readTens
  "30 630 90 d0 1a6 80 80 80 80 80 80 80 80 80 6a 80 50 120 50 750 30 136 8a b0 10 c0 60 90 10 89d0
    2b0 30 d0 20 60 1a0 5320 590 890 336 8a 46 9a 120 160 80 180 70 70 1b0 70 300 100 50 4cc0 60 90
    6c7e a a a a 94a 1b0 660 12a0"

/-- Code points that can begin an identifier. -/
def nameStartTable : RangeTable := RangeTable.read
  "41 19 5 0 2 19 30 0 b 0 5 0 6 16 2 1e 2 1c9 5 b f 4 8 0 2 0 82 4 2 1 4 2 2 0 7 0 2 2 2 0 2 13 2
    52 2 8a 9 a5 2 25 3 0 7 28 48 1a 5 3 2e 2a 24 1 2 62 2 0 10 1 8 1 b 2 3 0 11 0 2 1d 1e 58 c 0 19
    20 a 1 5 0 6 15 5 0 a 0 4 0 18 18 8 a 6 17 2 5 12 29 3b 35 4 0 13 0 8 9 10 f 5 7 3 1 3 15 2 6 2
    0 4 3 4 0 11 0 e 1 2 2 f 1 b 0 9 5 5 1 3 15 2 6 2 1 2 1 2 1 20 3 2 0 14 2 11 8 2 2 2 15 2 6 2 1
    2 4 4 0 13 0 10 1 18 0 c 7 3 1 3 15 2 6 2 1 2 4 4 0 1f 1 2 2 10 0 12 0 2 5 4 2 2 3 4 1 2 0 2 1 4
    1 4 2 4 b 17 0 35 7 2 2 2 16 2 f 4 0 1b 2 3 0 3 1 1f 0 5 7 2 2 2 16 2 9 2 4 4 0 20 1 2 1 10 1 12
    8 2 2 2 28 3 0 11 0 6 2 9 2 19 5 6 11 4 17 2 8 2 0 3 6 3b 2f 2 0 e 6 3b 1 2 0 2 4 2 17 2 0 2 9 2
    0 b 0 3 4 2 0 16 3 21 0 40 7 2 23 1c 4 74 2a 15 0 11 5 5 3 4 0 4 1 8 2 5 c d 0 12 25 2 0 6 0 3
    2a 2 14c 2 3 3 6 2 0 2 3 3 28 2 3 3 20 2 3 3 6 2 0 2 3 3 e 2 38 2 3 3 42 26 f 11 55 3 5 4 26b 3
    10 2 19 6 4a 4 a 8 11 e 12 f 11 f c 2 2 10 33 24 0 5 0 44 58 8 28 2 0 6 45 b 1e 32 1d 3 4 c 2b 5
    19 37 16 a 34 53 0 5e 2e 12 7 37 1d e 1 b 2b 1b 23 2a 2 b 23 3 8 8 2a 3 2 2a 3 2 5 2 1 4 0 6 bf
    41 115 3 5 3 25 3 5 3 7 2 0 2 0 2 0 2 1e 3 34 2 6 2 0 4 2 2 6 4 3 3 5 5 c 6 2 2 6 75 0 e 0 11 c
    66 0 5 0 3 9 2 0 3 5 7 0 2 0 2 0 2 f 3 3 6 4 5 0 12 28 a78 e4 7 3 4 1 d 25 2 0 6 0 3 37 8 0 11
    16 a 6 2 6 2 6 2 6 2 6 2 6 2 6 2 6 227 2 1a 8 8 4 3 4 5 55 7 2 2 59 2 3 6 2a 2 5d 12 1f 31 f 201
    19bf 41 568c 44 2d 3 10c 4 f b 1 15 2e 11 1e 3 4f 28 8 3 66 3 3f 6 1 2 0 2 4 19 f 2 2 2 3 2 16
    1e 33 f 31 3f 5 4 0 2 1 c 1b b 16 1a 1c 8 2e 1d 0 11 4 2 9 b 4 2 28 18 2 2 7 15 16 4 0 4 31 2 0
    4 1 3 4 3 0 2 0 19 2 3 a 8 2 d 5 3 5 3 5 a 6 2 6 2 2a 2 d 7 72 1e 2ba3 d 16 5 30 2105 16d 3 69
    27 6 d 4 6 0 2 9 2 c 2 4 2 0 2 1 2 1 2 6b 22 8a 7 d9 13 3f 3 35 29 9 78 0 2 0 4 0 2 0 2 0 2 0 2
    7d 25 19 7 19 c 37 3 1e 4 5 3 5 3 5 3 2 24 b 2 19 2 12 2 1 2 e 3 d 23 7a 46 34 10c 1c 4 30 30 1f
    e 1d 6 25 b 1d 3 23 5 7 2 4 2b 9d 13 23 5 23 5 27 9 33 d a 2 e 2 6 2 1 2 a 2 e 2 6 2 1 44 136 a
    15 b 7 19 5 2 29 2 8 46 5 3 0 2 2b 2 1 4 0 3 16 b 16 a 1e 42 12 2 1 b 15 b 19 47 37 7 1 41 0 10
    3 2 2 2 1c 2b 1c 4 1c 24 7 2 1b 1c 35 b 15 b 12 e 11 6f 48 38 32 e 32 e 23 15d 29 7 1 4f 1c b 0
    9 15 2b 11 2f 14 1c 16 d 34 3a 1 3 0 e 2c 21 18 1b 23 1e 0 3 0 9 22 4 0 d 2f f 3 16 0 2 0 24 11
    2 18 55 6 2 0 2 3 2 e 2 9 8 2e 27 7 3 1 3 15 2 6 2 1 2 4 4 0 13 0 d 4 9f 34 13 3 15 2 1f 2f 15 1
    2 0 b9 2e 2a 3 25 2f 15 0 3c 2a e 0 48 1a 26 6 ba 2b 75 3f 20 7 3 0 3 7 2 1 2 17 10 0 2 0 5f 7 3
    26 11 0 2 0 1d 0 b 27 8 0 16 0 c 2d 14 0 13 48 108 8 2 24 12 0 32 1d 71 6 2 1 2 25 16 0 1a 5 2 1
    2 1f f 0 148 12 be 0 50 399 67 6e 12 c3 a4d 60 10 42e fd2 246 21ba 238 8 1e 12 4e 12 1d 13 2f 11
    3 20 14 6 12 2b1 3f 81 4a 6 0 43 c 41 1 2 0 1d 17f7 9 4d5 2b 8 22e8 3 2 6 2 1 2 122 2e 2 12 3 9
    18b 905 6a 6 c 4 8 8 9 1767 54 2 46 2 1 3 0 3 1 3 3 2 b 2 0 2 6 2 40 2 3 3 7 2 6 2 1b 2 3 2 4 2
    0 4 6 2 153 3 18 2 18 2 1e 2 18 2 1e 2 18 2 1e 2 18 2 1e 2 18 2 7 735 1e 1e2 2c b 6 11 0 142 1d
    13 2b 4f5 6 2 3 2 1 2 e 2 c4 3c 43 8 0 4b5 3 2 1a 2 1 2 0 3 0 2 9 2 3 2 0 2 0 7 0 5 0 2 0 2 0 2
    2 2 1 2 0 3 0 2 0 2 0 2 0 2 0 2 1 2 0 3 3 2 6 2 3 2 3 2 0 2 9 2 10 6 2 2 4 2 10 1145 a6df 21
    1038 8 dd 3 1681 f 1d30 c20 21d 5e3 134a"

/-- Code points that can continue an identifier. -/
def nameRestTable : RangeTable := RangeTable.read
  "30 9 8 19 5 0 2 19 30 0 b 0 2 0 3 0 6 16 2 1e 2 1c9 5 b f 4 8 0 2 0 12 74 2 1 4 2 2 0 7 4 2 0 2
    13 2 52 2 8a 2 4 3 a5 2 25 3 0 7 28 9 2c 2 0 2 1 2 1 2 0 9 1a 5 3 1e a 6 49 5 65 2 7 3 9 2 12 3
    0 11 3a 3 64 f 35 5 0 3 0 3 2d 13 1b 5 a 6 17 2 5 a 49 2 80 3 9 2 12 2 7 3 1 3 15 2 6 2 0 4 3 3
    8 3 1 3 3 9 0 5 1 2 4 3 b b 0 2 0 3 2 2 5 5 1 3 15 2 6 2 1 2 1 2 1 3 0 2 4 5 1 3 2 4 0 8 3 2 0 8
    f c 2 2 8 2 2 2 15 2 6 2 1 2 4 3 9 2 2 2 2 3 0 10 3 3 9 a 6 2 2 2 7 3 1 3 15 2 6 2 1 2 4 3 8 3 1
    3 2 8 2 5 1 2 4 3 9 2 0 11 1 2 5 4 2 2 3 4 1 2 0 2 1 4 1 4 2 4 b 5 4 4 2 2 3 3 0 7 0 f 9 11 c 2
    2 2 16 2 f 3 8 2 2 2 3 8 1 2 2 3 0 3 3 3 9 11 3 2 7 2 2 2 16 2 9 2 4 3 8 2 2 2 3 8 1 7 1 2 3 3 9
    2 1 e c 2 2 2 32 2 2 2 4 6 3 8 4 3 9 b 5 2 2 2 11 4 17 2 8 2 0 3 6 4 0 5 5 2 0 2 7 7 9 3 1 e 39
    6 e 2 9 28 1 2 0 2 4 2 17 2 0 2 16 3 4 2 0 2 5 3 9 3 3 21 0 18 1 7 9 c 0 2 0 2 0 5 9 2 23 5 13 2
    11 2 23 a 0 3a 49 7 4d 3 25 2 0 6 0 3 2a 2 14c 2 3 3 6 2 0 2 3 3 28 2 3 3 20 2 3 3 6 2 0 2 3 3 e
    2 38 2 3 3 42 3 2 a 8 f f 11 55 3 5 4 26b 3 10 2 19 6 4a 4 a 8 15 a 15 c 13 d c 2 2 2 1 d 53 4 0
    5 1 3 9 22 2 2 a 7 58 8 2a 6 45 b 1e 2 b 5 b b 27 3 4 c 2b 5 19 7 a 26 1b 5 3e 2 1c 3 a 7 9 e 0
    9 d 2 f 32 4c 4 9 12 8 d 73 d 37 9 9 4 30 3 8 8 2a 3 2 11 2 2 26 6 215 3 5 3 25 3 5 3 7 2 0 2 0
    2 0 2 1e 3 34 2 6 2 0 4 2 2 6 4 3 3 5 5 c 6 2 2 6 43 1 14 0 1d 0 e 0 11 c 34 c 5 0 4 b 12 0 5 0
    3 9 2 0 3 5 7 0 2 0 2 0 2 f 3 3 6 4 5 0 12 28 a78 e4 7 8 d 25 2 0 6 0 3 37 8 0 10 17 a 6 2 6 2 6
    2 6 2 6 2 6 2 6 2 6 2 1f 206 2 1a e 2 4 3 4 5 55 3 1 3 2 2 59 2 3 6 2a 2 5d 12 1f 31 f 201 19bf
    41 568c 44 2d 3 10c 4 1b 15 2f 5 9 2 72 26 8 3 66 3 3f 6 1 2 0 2 4 19 35 5 0 14 33 d 45 b 9 7 17
    4 0 2 30 3 23 d 1c 4 40 f a 7 1e 2 36 a d 3 9 7 16 4 48 19 2 3 f 3 4 b 5 3 5 3 5 a 6 2 6 2 2a 2
    d 7 7a 2 1 3 9 7 2ba3 d 16 5 30 2105 16d 3 69 27 6 d 4 6 b 2 c 2 4 2 0 2 1 2 1 2 6b 22 8a 7 d9
    13 3f 3 35 29 9 7 f 11 f 4 1 19 2 22 0 2 0 4 0 2 0 2 0 2 0 2 7d 14 9 8 19 5 0 2 19 c 58 4 5 3 5
    3 5 3 2 24 b 2 19 2 12 2 1 2 e 3 d 23 7a 46 34 89 0 83 1c 4 30 10 0 20 1f e 1d 6 2a 6 1d 3 23 5
    7 2 4 2b 9d 3 9 7 23 5 23 5 27 9 33 d a 2 e 2 6 2 1 2 a 2 e 2 6 2 1 44 136 a 15 b 7 19 5 2 29 2
    8 46 5 3 0 2 2b 2 1 4 0 3 16 b 16 a 1e 42 12 2 1 b 15 b 19 47 37 7 1 41 3 2 1 6 7 2 2 2 1c 3 2 5
    0 21 1c 4 1c 24 7 2 1d 1a 35 b 15 b 12 e 11 6f 48 38 32 e 32 e 27 9 9 147 29 2 1 4 1 4f 1c b 0 9
    20 20 15 2b 14 1c 16 a 46 20 f a 3b 8 0 e 18 8 9 7 34 2 9 5 3 9 23 3 0 a 44 5 3 2 c 2 0 24 11 2
    24 7 0 42 6 2 0 2 3 2 e 2 9 8 3a 6 9 7 3 2 7 3 1 3 15 2 6 2 1 2 4 2 9 3 1 3 2 3 0 7 0 6 6 3 6 4
    4 8c 4a 6 9 5 3 1f 45 2 0 9 9 a7 35 3 8 18 5 23 40 4 0 c 9 27 38 8 9 37 1a 3 e 5 9 7 6 ba 3a 66
    49 16 7 3 0 3 7 2 1 2 1d 2 1 3 8 d 9 47 7 3 2d 3 7 2 1 1c 3e 9 0 9 49 4 0 13 48 108 8 2 2c 2 8
    10 9 19 1d 3 15 2 d 4a 6 2 1 2 2b 4 0 2 1 2 8 9 9 7 5 2 1 2 24 2 1 2 5 8 9 137 16 ba 0 50 399 67
    6e 12 c3 a4d 60 10 42e fd2 246 21ba 238 8 1e 2 9 7 4e 2 9 7 1d 3 4 c 36 a 3 d 9 a 14 6 12 2b1 3f
    81 4a 5 38 8 10 41 1 2 1 c 1 f 17f7 9 4d5 2b 8 22e8 3 2 6 2 1 2 122 2e 2 12 3 9 18b 905 6a 6 c 4
    8 8 9 4 1 1262 2d 3 16 21f 4 4 5 9 7 3 6 1f 3 95 2 1bc 54 2 46 2 1 3 0 3 1 3 3 2 b 2 0 2 6 2 40
    2 3 3 7 2 6 2 1b 2 3 2 4 2 0 4 6 2 153 3 18 2 18 2 1e 2 18 2 1e 2 18 2 1e 2 18 2 1e 2 18 2 7 3
    31 201 36 5 31 9 0 f 0 17 4 2 e 451 1e e2 6 2 10 3 6 2 1 2 4 d6 2c 4 d 3 9 5 0 142 1e 12 39 4e7
    6 2 3 2 1 2 e 2 c4 c 6 2a 4b 5 9 4a7 3 2 1a 2 1 2 0 3 0 2 9 2 3 2 0 2 0 7 0 5 0 2 0 2 0 2 2 2 1
    2 0 3 0 2 0 2 0 2 0 2 0 2 1 2 0 3 3 2 6 2 3 2 3 2 0 2 9 2 10 6 2 2 4 2 10 d35 9 407 a6df 21 1038
    8 dd 3 1681 f 1d30 c20 21d 5e3 134a aedb6 ef"

/-- The one-to-one map to lower case. -/
def lowerTable : CaseTable := CaseTable.read
  "41 19 1 20 66 16 1 20 2 6 1 20 22 17 2 1 2 0 1 -c7 2 2 2 1 3 7 2 1 3 16 2 1 2 0 1 -79 1 2 2 1 4
    0 1 d2 1 1 2 1 2 0 1 ce 1 0 1 1 2 1 1 cd 1 0 1 1 3 0 1 4f 1 0 1 ca 1 0 1 cb 1 0 1 1 2 0 1 cd 1 0
    1 cf 2 0 1 d3 1 0 1 d1 1 0 1 1 4 0 1 d3 1 0 1 d5 2 0 1 d6 1 2 2 1 2 0 1 da 1 0 1 1 2 0 1 da 3 0
    1 1 2 0 1 da 1 0 1 1 2 1 1 d9 1 1 2 1 2 0 1 db 1 0 1 1 4 0 1 1 8 0 1 2 1 0 1 1 2 0 1 2 1 0 1 1 2
    0 1 2 1 8 2 1 3 8 2 1 3 0 1 2 1 1 2 1 2 0 1 -61 1 0 1 -38 1 13 2 1 2 0 1 -82 2 8 2 1 8 0 1 2a2b
    1 0 1 1 2 0 1 -a3 1 0 1 2a28 3 0 1 1 2 0 1 -c3 1 0 1 45 1 0 1 47 1 4 2 1 122 1 2 1 4 0 1 1 9 0 1
    74 7 0 1 26 2 2 1 25 2 0 1 40 2 1 1 3f 2 10 1 20 2 8 1 20 24 0 1 8 9 b 2 1 6 0 1 -3c 3 0 1 1 2 0
    1 -7 1 0 1 1 3 2 1 -82 1 f 1 50 1 1f 1 20 31 10 2 1 a 1a 2 1 2 0 1 f 1 6 2 1 3 2f 2 1 3 25 1 30
    b4a 25 1 1c60 2 0 1 1c60 6 0 1 1c60 2d3 4f 1 97d0 1 5 1 8 89b 2a 1 -bc0 3 2 1 -bc0 141 4a 2 1 a
    0 1 -1dbf 2 2f 2 1 a 7 1 -8 9 5 1 -8 b 7 1 -8 9 7 1 -8 9 5 1 -8 c 3 2 -8 9 7 1 -8 19 7 1 -8 9 7
    1 -8 9 7 1 -8 9 1 1 -8 1 1 1 -4a 1 0 1 -9 c 3 1 -56 1 0 1 -9 c 1 1 -8 1 1 1 -64 d 1 1 -8 1 1 1
    -70 1 0 1 -7 c 1 1 -80 1 1 1 -7e 1 0 1 -9 12a 0 1 -1d5d 4 0 1 -20bf 1 0 1 -2046 7 0 1 1c 2e f 1
    10 14 0 1 1 333 19 1 1a 731 2f 1 30 31 0 1 1 2 0 1 -29f7 1 0 1 -ee6 1 0 1 -29e7 3 2 2 1 2 0 1
    -2a1c 1 0 1 -29fd 1 0 1 -2a1f 1 0 1 -2a1e 2 0 1 1 3 0 1 1 9 1 1 -2a3f 1 31 2 1 9 1 2 1 5 0 1 1
    794e 16 2 1 14 d 2 1 88 6 2 1 4 1e 2 1 b 1 2 1 2 0 1 -8a04 1 4 2 1 5 0 1 1 2 0 1 -a528 3 1 2 1 4
    9 2 1 2 0 1 -a544 1 0 1 -a54f 1 0 1 -a54b 1 0 1 -a541 1 0 1 -a544 2 0 1 -a512 1 0 1 -a52a 1 0 1
    -a515 1 0 1 3a0 1 7 2 1 2 0 1 -30 1 0 1 -a543 1 0 1 -8a38 1 1 2 1 7 0 1 1 6 1 2 1 1d 0 1 1 572c
    19 1 20 4c6 27 1 28 89 23 1 28 9d a 1 27 2 e 1 27 2 6 1 27 2 1 1 27 6eb 32 1 40 bee 1f 1 20 5581
    1f 1 20 7aa1 21 1 22"

/-- The one-to-one map to upper case. -/
def upperTable : CaseTable := CaseTable.read
  "61 19 1 -20 3b 0 1 2e7 2b 16 1 -20 2 6 1 -20 1 0 1 79 2 17 2 -1 2 0 1 -e8 2 2 2 -1 3 7 2 -1 3 16
    2 -1 3 2 2 -1 1 0 1 -12c 1 0 1 c3 3 1 2 -1 3 0 1 -1 4 0 1 -1 6 0 1 -1 3 0 1 61 4 0 1 -1 1 0 1 a3
    4 0 1 82 3 2 2 -1 3 0 1 -1 5 0 1 -1 3 0 1 -1 4 1 2 -1 3 0 1 -1 4 0 1 -1 2 0 1 38 6 0 1 -1 1 0 1
    -2 2 0 1 -1 1 0 1 -2 2 0 1 -1 1 0 1 -2 2 7 2 -1 1 0 1 -4f 2 8 2 -1 3 0 1 -1 1 0 1 -2 2 0 1 -1 4
    13 2 -1 4 8 2 -1 9 0 1 -1 3 1 1 2a3f 2 0 1 -1 5 4 2 -1 1 0 1 2a1f 1 0 1 2a1c 1 0 1 2a1e 1 0 1
    -d2 1 0 1 -ce 2 1 1 -cd 2 0 1 -ca 2 0 1 -cb 1 0 1 a54f 4 0 1 -cd 1 0 1 a54b 2 0 1 -cf 2 0 1 a528
    1 0 1 a544 2 0 1 -d1 1 0 1 -d3 1 0 1 a544 1 0 1 29f7 1 0 1 a541 3 0 1 -d3 2 0 1 29fd 1 0 1 -d5 3
    0 1 -d6 8 0 1 29e7 3 0 1 -da 2 0 1 a543 1 0 1 -da 4 0 1 a52a 1 0 1 -da 1 0 1 -45 1 1 1 -d9 1 0 1
    -47 6 0 1 -db b 0 1 a515 1 0 1 a512 a7 0 1 54 2c 1 2 -1 4 0 1 -1 4 2 1 82 2f 0 1 -26 1 2 1 -25 2
    10 1 -20 1 0 1 -1f 1 8 1 -20 1 0 1 -40 1 1 1 -3f 2 0 1 -3e 1 0 1 -39 4 0 1 -2f 1 0 1 -36 1 0 1
    -8 2 b 2 -1 1 0 1 -56 1 0 1 -50 1 0 1 7 1 0 1 -74 2 0 1 -60 3 0 1 -1 3 0 1 -1 35 1f 1 -20 1 f 1
    -50 2 10 2 -1 a 1a 2 -1 3 6 2 -1 1 0 1 -f 2 2f 2 -1 32 25 1 -30 b4a 2a 1 bc0 3 2 1 bc0 2f9 5 1
    -8 883 0 1 -186e 1 0 1 -186d 1 0 1 -1864 1 1 1 -1862 1 0 1 -1863 1 0 1 -185c 1 0 1 -1825 1 0 1
    89c2 f1 0 1 8a04 4 0 1 ee6 11 0 1 8a38 73 4a 2 -1 6 0 1 -3b 6 2f 2 -1 1 7 1 8 9 5 1 8 b 7 1 8 9
    7 1 8 9 5 1 8 c 3 2 8 9 7 1 8 9 1 1 4a 1 3 1 56 1 1 1 64 1 1 1 80 1 1 1 70 1 1 1 7e 3 7 1 8 9 7
    1 8 9 7 1 8 9 1 1 8 2 0 1 9 b 0 1 -1c25 5 0 1 9 d 1 1 8 f 1 1 8 4 0 1 7 e 0 1 9 15b 0 1 -1c 22 f
    1 -10 5 0 1 -1 34c 19 1 -1a 747 2f 1 -30 2 0 1 -1 4 0 1 -2a2b 1 0 1 -2a28 2 2 2 -1 7 0 1 -1 3 0
    1 -1 b 31 2 -1 9 1 2 -1 5 0 1 -1 d 25 1 -1c60 2 0 1 -1c60 6 0 1 -1c60 7914 16 2 -1 14 d 2 -1 88
    6 2 -1 4 1e 2 -1 b 1 2 -1 3 4 2 -1 5 0 1 -1 5 1 2 -1 1 0 1 30 3 9 2 -1 c 7 2 -1 5 1 2 -1 7 0 1
    -1 6 1 2 -1 1d 0 1 -1 35d 0 1 -3a0 1d 4f 1 -97d0 5382 19 1 -20 4ce 27 1 -28 89 23 1 -28 9c a 1
    -27 2 e 1 -27 2 6 1 -27 2 1 1 -27 704 32 1 -40 bce 1f 1 -20 5581 1f 1 -20 7aa3 21 1 -22"

/-! ## Queries -/

/-- Characters that a quoted text shows as they are. -/
def isPrintable (c : Char) : Bool :=
  if c.toNat < 0x7f then 0x20 ≤ c.toNat else !unprintableTable.contains c.toNat

/-- Letters and numbers. -/
def isAlphanumeric (c : Char) : Bool :=
  if c.toNat < 0x80 then c.isAlphanum else alphanumericTable.contains c.toNat

/-- The value of a decimal digit of any script. -/
def digitValue? (c : Char) : Option Nat :=
  if c.toNat < 0x80 then
    if c.isDigit then some (c.toNat - 0x30) else none
  else (digitTable.find? c.toNat).map fun r => c.toNat - r.1

/-- Decimal digits of any script. -/
def isDecimal (c : Char) : Bool := (digitValue? c).isSome

/-- Characters that can begin an identifier. -/
def isNameStart (c : Char) : Bool :=
  if c.toNat < 0x80 then c.isAlpha || c == '_' else nameStartTable.contains c.toNat

/-- Characters that can continue an identifier. -/
def isNameRest (c : Char) : Bool :=
  if c.toNat < 0x80 then c.isAlphanum || c == '_' else nameRestTable.contains c.toNat

/-- Whether a text is an identifier. -/
def isName (s : String) : Bool :=
  match s.toList with
  | [] => false
  | c :: rest => isNameStart c && rest.all isNameRest

/-- The lower-case form of a code point, itself if it has none. -/
def lowerCode (n : Nat) : Nat :=
  if n < 0x80 then (if 0x41 ≤ n ∧ n ≤ 0x5a then n + 32 else n) else lowerTable.apply n

/-- The upper-case form of a code point, itself if it has none. -/
def upperCode (n : Nat) : Nat :=
  if n < 0x80 then (if 0x61 ≤ n ∧ n ≤ 0x7a then n - 32 else n) else upperTable.apply n

/-- Lower-case characters whose upper-case form is made of several characters. -/
def manifoldRanges : List (Nat × Nat) :=
  [(0xdf, 0xdf), (0x149, 0x149), (0x1f0, 0x1f0), (0x390, 0x390), (0x3b0, 0x3b0), (0x587, 0x587),
   (0x1e96, 0x1e9a), (0x1f50, 0x1f50), (0x1f52, 0x1f52), (0x1f54, 0x1f54), (0x1f56, 0x1f56),
   (0x1f80, 0x1f87), (0x1f90, 0x1f97), (0x1fa0, 0x1fa7), (0x1fb2, 0x1fb4), (0x1fb6, 0x1fb7),
   (0x1fc2, 0x1fc4), (0x1fc6, 0x1fc7), (0x1fd2, 0x1fd3), (0x1fd6, 0x1fd7), (0x1fe2, 0x1fe4),
   (0x1fe6, 0x1fe7), (0x1ff2, 0x1ff4), (0x1ff6, 0x1ff7), (0xfb00, 0xfb06), (0xfb13, 0xfb17)]

/-- Whether a code point has another form in lower or upper case. -/
def isCased (n : Nat) : Bool :=
  lowerCode n != n || upperCode n != n || manifoldRanges.any fun r => r.1 ≤ n && n ≤ r.2

end ConfigAudit.Text
