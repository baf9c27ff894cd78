/-
# What can go wrong in a document

A fault has a problem, the place where it shows, and often a context with a place of its own.

* `Mark` : places;
* `Yaml.Context`, `Yaml.Problem` : what was being done, and what is wrong;
* `Yaml.Fault` : a fault, with `Yaml.Fault.message`.
-/
import ConfigAudit.Text.Lines
import ConfigAudit.Text.Quoted

namespace ConfigAudit

/-- A place in a text. -/
structure Mark where
  /-- The number of characters before it. -/
  index : Nat
  /-- The number of lines before its line. -/
  line : Nat
  /-- The number of characters before it in its line. -/
  column : Nat
  deriving Repr, DecidableEq, Inhabited

/-- Whether two marks are the same place of a page. -/
def Mark.samePlace (a b : Mark) : Bool := a.line == b.line && a.column == b.column

/-- A place as it is shown to authors. -/
def Mark.text (file : String) (m : Mark) : String :=
  "  in \x22" ++ file ++ "\x22, line " ++ toString (m.line + 1) ++ ", column " ++
    toString (m.column + 1)

namespace Yaml

/-- The steps from a text to a value. -/
inductive Layer where
  /-- Characters become tokens. -/
  | tokens
  /-- Tokens become nodes. -/
  | form
  /-- Nodes refer to each other. -/
  | references
  /-- Nodes become values. -/
  | values
  deriving Repr, DecidableEq

/-- What was being done. -/
inductive Context where
  /-- Something was being read. -/
  | scanning (what : String)
  /-- The structure of something was being found. -/
  | parsing (what : String)
  /-- A value was being built. -/
  | constructing (what : String)
  /-- The end of the only document was expected. -/
  | singleDocument
  /-- An anchor was given a second time. -/
  | duplicateAnchor (name : String)

/-- The wording of a context. -/
def Context.message : Context → String
  | scanning what => "while scanning " ++ what
  | parsing what => "while parsing " ++ what
  | constructing what => "while constructing " ++ what
  | singleDocument => "expected a single document in the stream"
  | duplicateAnchor name => "found duplicate anchor " ++ Text.quote name ++ "; first occurrence"

/-- What is wrong. -/
inductive Problem where
  /-- No token begins with the character. -/
  | cannotStart (c : Char)
  /-- A key has no value. -/
  | missingColon
  /-- Something has no place here. -/
  | notAllowed (what : String)
  /-- Another character was expected. -/
  | expected (what : String) (found : Char)
  /-- An indentation of zero. -/
  | zeroIndentation
  /-- No character is escaped like this. -/
  | unknownEscape (c : Char)
  /-- A quoted text does not end. -/
  | endOfText
  /-- A document ends within a quoted text. -/
  | documentSeparator
  /-- An escaped address is no text. -/
  | address (cause : String)
  /-- The version is given twice. -/
  | duplicateVersion
  /-- The version is not known. -/
  | incompatibleVersion
  /-- A handle is given twice. -/
  | duplicateHandle (handle : String)
  /-- A handle is not given. -/
  | undefinedHandle (handle : String)
  /-- Another token was expected. -/
  | expectedToken (what verb found : String)
  /-- No node has the anchor. -/
  | undefinedAlias (name : String)
  /-- The anchor is used again. -/
  | secondOccurrence
  /-- There is one more document. -/
  | anotherDocument
  /-- No value has the tag. -/
  | unknownTag (tag : String)
  /-- Another kind of node was expected. -/
  | expectedNode (what found : String)
  /-- A key cannot be one. -/
  | unhashableKey
  /-- A single entry was expected. -/
  | entryCount (n : Nat)
  /-- Coded bytes are not coded in plain characters. -/
  | codedText (cause : String)
  /-- Coded bytes are not complete. -/
  | codedBytes (cause : String)

/-- A character as it is shown to authors. -/
def quoteChar (c : Char) : String := Text.quote (String.singleton c)

/-- The wording of a problem. -/
def Problem.message : Problem → String
  | cannotStart c => "found character " ++ quoteChar c ++ " that cannot start any token"
  | missingColon => "could not find expected ':'"
  | notAllowed what => what ++ " are not allowed here"
  | expected what found => "expected " ++ what ++ ", but found " ++ quoteChar found
  | zeroIndentation => "expected indentation indicator in the range 1-9, but found 0"
  | unknownEscape c => "found unknown escape character " ++ quoteChar c
  | endOfText => "found unexpected end of stream"
  | documentSeparator => "found unexpected document separator"
  | address cause => cause
  | duplicateVersion => "found duplicate YAML directive"
  | incompatibleVersion => "found incompatible YAML document (version 1.* is required)"
  | duplicateHandle handle => "duplicate tag handle " ++ Text.quote handle
  | undefinedHandle handle => "found undefined tag handle " ++ Text.quote handle
  | expectedToken what verb found =>
      "expected " ++ what ++ ", but " ++ verb ++ " " ++ Text.quote found
  | undefinedAlias name => "found undefined alias " ++ Text.quote name
  | secondOccurrence => "second occurrence"
  | anotherDocument => "but found another document"
  | unknownTag tag => "could not determine a constructor for the tag " ++ Text.quote tag
  | expectedNode what found => "expected " ++ what ++ ", but found " ++ found
  | unhashableKey => "found unhashable key"
  | entryCount n => "expected a single mapping item, but found " ++ toString n ++ " items"
  | codedText cause => "failed to convert base64 data into ascii: " ++ cause
  | codedBytes cause => "failed to decode base64 data: " ++ cause

/-- A fault of a document. -/
inductive Fault where
  /-- A problem at a place, with a context. -/
  | marked (layer : Layer) (context : Option (Context × Mark)) (problem : Problem) (mark : Mark)
  /-- A character that documents do not contain. -/
  | character (code position : Nat)
  /-- An escaped number that is no character. -/
  | codePoint (code : Nat)

/-- The wording of a fault in a file. -/
def Fault.message (file : String) : Fault → String
  | marked _ none problem mark => Text.joinLines [problem.message, mark.text file]
  | marked _ (some (context, place)) problem mark =>
    Text.joinLines ([context.message] ++
      (if place.samePlace mark then [] else [place.text file]) ++
      [problem.message, mark.text file])
  | character code position =>
    "unacceptable character #x" ++ String.ofList (Text.hexPadded 4 code) ++
      ": special characters are not allowed\n  in \x22" ++ file ++ "\x22, position " ++
      toString position
  | codePoint code =>
    if code < 0x80000000 then "chr() arg not in range(0x110000)"
    else "Python int too large to convert to C int"

end Yaml

end ConfigAudit
