/-
# Ill-formed patterns

Why a text is not a regular expression, and where.  A position is a number of characters from
the start of the pattern; in a pattern of several lines the line and column are told as well.

* `Pattern.Cause` : the causes and their wording;
* `Pattern.Fault` : a cause with its place, or a limit that is exceeded.
-/
import ConfigAudit.Text.Quoted

namespace ConfigAudit.Pattern

/-- Why a text is not a regular expression. -/
inductive Cause where
  /-- A backslash ends the pattern. -/
  | escapeAtEnd
  /-- An escape without a meaning. -/
  | badEscape (escape : String)
  /-- A numeric escape with too few digits. -/
  | incompleteEscape (escape : String)
  /-- An octal escape above the largest byte. -/
  | octalRange (escape : String)
  /-- A character name without its opening brace. -/
  | missingBrace
  /-- A name that no character has. -/
  | unknownCharacter (name : String)
  /-- A name is empty. -/
  | missingName (what : String)
  /-- A name is not closed. -/
  | unterminatedName (terminator : Char)
  /-- A group is referred to inside itself. -/
  | openGroup
  /-- A look-behind refers to a group of its own. -/
  | ownGroup
  /-- There is no group of that number. -/
  | unknownGroup (number : Nat)
  /-- There is no group of that name. -/
  | unknownGroupName (name : String)
  /-- A group name is no identifier. -/
  | badGroupName (name : String)
  /-- The number zero does not name a group. -/
  | badGroupNumber
  /-- A group name is used twice. -/
  | repeatedGroupName (name : String) (new old : Nat)
  /-- A character set is not closed. -/
  | unterminatedSet
  /-- A range whose ends are out of order or no characters. -/
  | badRange (first last : String)
  /-- A repeat whose bounds are out of order. -/
  | repeatOrder
  /-- A repeat with nothing before it. -/
  | nothingToRepeat
  /-- A repeat of a repeat. -/
  | multipleRepeat
  /-- The pattern ends inside a group's opening. -/
  | unexpectedEnd
  /-- An unknown kind of group. -/
  | unknownExtension (opening : String)
  /-- A comment is not closed. -/
  | unterminatedComment
  /-- A group is not closed. -/
  | unterminatedGroup
  /-- A condition with more than two branches. -/
  | tooManyBranches
  /-- Flags for the whole pattern stand inside it. -/
  | misplacedFlags
  /-- The locale flag. -/
  | localeFlag
  /-- Two character type flags together. -/
  | incompatibleFlags
  /-- Flags are not followed by a dash, colon or parenthesis. -/
  | unfinishedFlags
  /-- A letter that is no flag. -/
  | unknownFlag
  /-- A flag of the whole pattern is turned on in a part. -/
  | globalFlagOn
  /-- A flag of the whole pattern is turned off in a part. -/
  | globalFlagOff
  /-- No flag follows the dash. -/
  | missingFlag
  /-- A character type flag is turned off. -/
  | typeFlagOff
  /-- Flags that are turned off are not followed by a colon. -/
  | missingColon
  /-- A flag is turned on and off. -/
  | contradictoryFlags
  /-- A closing parenthesis without an opening one. -/
  | unbalanced
  /-- A look-behind whose width is not fixed. -/
  | variableWidth
  /-- A look-behind that is too wide. -/
  | excessiveWidth
  /-- A repeat in a template pattern. -/
  | templateRepeat (mode : String)
  deriving Repr, DecidableEq

/-- The wording of a cause. -/
def Cause.message : Cause → String
  | escapeAtEnd => "bad escape (end of pattern)"
  | badEscape e => "bad escape " ++ e
  | incompleteEscape e => "incomplete escape " ++ e
  | octalRange e => "octal escape value " ++ e ++ " outside of range 0-0o377"
  | missingBrace => "missing \x7b"
  | unknownCharacter name => "undefined character name " ++ Text.quote name
  | missingName what => "missing " ++ what
  | unterminatedName terminator =>
      "missing " ++ String.ofList [terminator] ++ ", unterminated name"
  | openGroup => "cannot refer to an open group"
  | ownGroup => "cannot refer to group defined in the same lookbehind subpattern"
  | unknownGroup number => "invalid group reference " ++ toString number
  | unknownGroupName name => "unknown group name " ++ Text.quote name
  | badGroupName name => "bad character in group name " ++ Text.quote name
  | badGroupNumber => "bad group number"
  | repeatedGroupName name new old => "redefinition of group name " ++ Text.quote name ++
      " as group " ++ toString new ++ "; was group " ++ toString old
  | unterminatedSet => "unterminated character set"
  | badRange first last => "bad character range " ++ first ++ "-" ++ last
  | repeatOrder => "min repeat greater than max repeat"
  | nothingToRepeat => "nothing to repeat"
  | multipleRepeat => "multiple repeat"
  | unexpectedEnd => "unexpected end of pattern"
  | unknownExtension opening => "unknown extension " ++ opening
  | unterminatedComment => "missing ), unterminated comment"
  | unterminatedGroup => "missing ), unterminated subpattern"
  | tooManyBranches => "conditional backref with more than two branches"
  | misplacedFlags => "global flags not at the start of the expression"
  | localeFlag => "bad inline flags: cannot use 'L' flag with a str pattern"
  | incompatibleFlags => "bad inline flags: flags 'a', 'u' and 'L' are incompatible"
  | unfinishedFlags => "missing -, : or )"
  | unknownFlag => "unknown flag"
  | globalFlagOn => "bad inline flags: cannot turn on global flag"
  | globalFlagOff => "bad inline flags: cannot turn off global flag"
  | missingFlag => "missing flag"
  | typeFlagOff => "bad inline flags: cannot turn off flags 'a', 'u' and 'L'"
  | missingColon => "missing :"
  | contradictoryFlags => "bad inline flags: flag turned on and off"
  | unbalanced => "unbalanced parenthesis"
  | variableWidth => "look-behind requires fixed-width pattern"
  | excessiveWidth => "looks too much behind"
  | templateRepeat mode => "internal: unsupported template operator " ++ mode

/-- A place in a pattern. -/
structure Place where
  /-- Characters before the place. -/
  index : Nat
  /-- Line and column, in a pattern of several lines. -/
  lineColumn : Option (Nat × Nat)
  deriving Repr, DecidableEq

/-- The place behind the first `index` characters of a pattern. -/
def Place.ofIndex (pattern : List Char) (index : Nat) : Place :=
  let before := pattern.take index
  let line := before.count '\n' + 1
  let column := (before.reverse.takeWhile (· != '\n')).length + 1
  ⟨index, if pattern.contains '\n' then some (line, column) else none⟩

/-- What is wrong with a pattern. -/
inductive Fault where
  /-- The pattern is ill-formed. -/
  | illFormed (cause : Cause) (place : Option Place)
  /-- A repeat count is beyond the limit of the matcher. -/
  | repetitionLimit
  /-- A repeat count has too many digits to be read. -/
  | countLength (digits : Nat)
  /-- The pattern asks for basic characters and for all characters. -/
  | flagConflict
  deriving Repr, DecidableEq

/-- The wording of a fault. -/
def Fault.message : Fault → String
  | illFormed cause none => cause.message
  | illFormed cause (some p) => cause.message ++ " at position " ++ toString p.index ++
      (p.lineColumn.elim "" fun lc =>
        " (line " ++ toString lc.1 ++ ", column " ++ toString lc.2 ++ ")")
  | repetitionLimit => "the repetition number is too large"
  | countLength digits => "Exceeds the limit (4300 digits) for integer string conversion: " ++
      "value has " ++ toString digits ++
      " digits; use sys.set_int_max_str_digits() to increase the limit"
  | flagConflict => "ASCII and UNICODE flags are incompatible"

end ConfigAudit.Pattern
