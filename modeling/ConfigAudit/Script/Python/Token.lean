/-
# Tokens of Python scripts

The words that a script is made of: names, numbers, texts, keywords and marks, and the beginnings
and ends of lines and blocks.

* `Token` : a word with its line;
* `Token.meaning` : what a token says;
* `LexFault` : what can be wrong with words, brackets and indentation.
-/
import ConfigAudit.Text.Normal
import ConfigAudit.Text.Quoted

namespace ConfigAudit.Python

/-! ## Tokens -/

/-- The kinds of tokens; keywords and marks are kinds of their own. -/
inductive Label where
  /-- A name that is no keyword. -/
  | name
  /-- A number. -/
  | number
  /-- A text with its quotes. -/
  | string
  /-- The end of a line. -/
  | newline
  /-- The beginning of a block. -/
  | indent
  /-- The end of a block. -/
  | dedent
  /-- The end of the script. -/
  | finish
  /-- A keyword. -/
  | word (s : String)
  /-- A mark. -/
  | mark (s : String)
  deriving Repr, DecidableEq

/-- A token. -/
structure Token where
  /-- Its kind. -/
  label : Label
  /-- How it is written. -/
  text : String
  /-- The line that it begins on. -/
  line : Nat
  /-- How many brackets are open behind it. -/
  depth : Nat

/-- What a token says: a name is the same in all its forms, other tokens are as they are written. -/
def Token.meaning (t : Token) : String :=
  if t.label = .name then Text.normalForm t.text else t.text

/-- The keywords. -/
def keywords : List String :=
  ["False", "None", "True", "and", "as", "assert", "async", "await", "break", "class", "continue",
   "def", "del", "elif", "else", "except", "finally", "for", "from", "global", "if", "import",
   "in", "is", "lambda", "nonlocal", "not", "or", "pass", "raise", "return", "try", "while",
   "with", "yield"]

/-- The kind of a word. -/
def wordLabel (s : String) : Label := if keywords.contains s then .word s else .name

/-! ## Faults -/

/-- Why a script cannot be divided into tokens. -/
inductive LexCause where
  /-- A bracket closes nothing. -/
  | unmatched (c : Char)
  /-- A bracket closes another kind of bracket, perhaps on a line before. -/
  | mismatched (c opening : Char) (line : Option Nat)
  /-- Brackets are nested too deeply. -/
  | nesting
  /-- A text does not end where it has to. -/
  | unterminated (triple : Bool) (line : Nat)
  /-- A number is ill-formed. -/
  | number (kind : String)
  /-- A number has a digit that its kind does not have. -/
  | digit (c : Char) (kind : String)
  /-- A number begins with zeros. -/
  | zeros
  /-- A character has no place in a name. -/
  | character (c : Char)
  /-- A character that cannot be seen has no place in a script. -/
  | unprintable (c : Char)
  /-- A backslash at the end of a line is followed by something. -/
  | continuation
  /-- The script ends within a line. -/
  | ended
  /-- A block ends at a column where none began. -/
  | dedent
  /-- Blanks and tabs do not tell how deep a block is. -/
  | tabs
  /-- Blocks are nested too deeply. -/
  | depth
  /-- A bracket is still open at the end. -/
  | unclosed (c : Char)

/-- The number of a character as it is shown: at least four digits. -/
def codeText (c : Char) : String :=
  String.ofList ((Text.hexPadded (if c.toNat < 0x10000 then 4 else if c.toNat < 0x100000 then 5
    else 6) c.toNat).map Char.toUpper)

/-- The wording of a cause. -/
def LexCause.message : LexCause → String
  | unmatched c => "unmatched '" ++ c.toString ++ "'"
  | mismatched c opening line => "closing parenthesis '" ++ c.toString ++
      "' does not match opening parenthesis '" ++ opening.toString ++ "'" ++
      line.elim "" fun n => " on line " ++ toString n
  | nesting => "too many nested parentheses"
  | unterminated triple line => "unterminated " ++ (if triple then "triple-quoted " else "") ++
      "string literal (detected at line " ++ toString line ++ ")"
  | number kind => "invalid " ++ kind ++ " literal"
  | digit c kind => "invalid digit '" ++ c.toString ++ "' in " ++ kind ++ " literal"
  | zeros => "leading zeros in decimal integer literals are not permitted; " ++
      "use an 0o prefix for octal integers"
  | character c => "invalid character '" ++ c.toString ++ "' (U+" ++ codeText c ++ ")"
  | unprintable c => "invalid non-printable character U+" ++ codeText c
  | continuation => "unexpected character after line continuation character"
  | ended => "unexpected EOF while parsing"
  | dedent => "unindent does not match any outer indentation level"
  | tabs => "inconsistent use of tabs and spaces in indentation"
  | depth => "too many levels of indentation"
  | unclosed c => "'" ++ c.toString ++ "' was never closed"

/-- Whether a cause concerns a word or a bracket itself, and not the layout of lines; such a cause
goes before faults of sentences wherever it is found. -/
def LexCause.isStrong : LexCause → Bool
  | continuation | ended | dedent | tabs | depth | unclosed _ => false
  | _ => true

/-- A cause with its line, and the brackets that were open. -/
structure LexFault where
  /-- The cause. -/
  cause : LexCause
  /-- The line. -/
  line : Nat
  /-- The open brackets with their lines, the innermost one first. -/
  brackets : List (Char × Nat)

end ConfigAudit.Python
