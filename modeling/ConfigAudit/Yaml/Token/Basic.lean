/-
# Tokens of documents

What a document is made of on the lowest level: marks of structure, names, tags and scalars.

* `TokenKind`, `Token` : the tokens;
* `TokenKind.label` : how a token is named in messages.
-/
import ConfigAudit.Yaml.Cursor

namespace ConfigAudit.Yaml

/-- What a token is. -/
inductive TokenKind where
  /-- The version that a document is written for. -/
  | version (major : Nat)
  /-- A handle for tags, with what it stands for. -/
  | handle (name front : String)
  /-- An instruction of another kind. -/
  | instruction
  /-- The beginning of a document. -/
  | documentStart
  /-- The end of a document. -/
  | documentEnd
  /-- The end of all documents. -/
  | streamEnd
  /-- The beginning of an indented sequence. -/
  | blockSequence
  /-- The beginning of an indented mapping. -/
  | blockMapping
  /-- The end of an indented collection. -/
  | blockEnd
  /-- The beginning of a bracketed sequence. -/
  | flowSequence
  /-- The end of a bracketed sequence. -/
  | flowSequenceEnd
  /-- The beginning of a bracketed mapping. -/
  | flowMapping
  /-- The end of a bracketed mapping. -/
  | flowMappingEnd
  /-- The mark before a member of an indented sequence. -/
  | entry
  /-- The mark between members of a bracketed collection. -/
  | comma
  /-- The mark before a key. -/
  | key
  /-- The mark before a value. -/
  | value
  /-- A reference to an anchor. -/
  | anchorRef (name : String)
  /-- An anchor. -/
  | anchor (name : String)
  /-- A tag, with its handle if it has one. -/
  | tag (handle : Option String) (suffix : String)
  /-- A scalar, which may be written without quotes. -/
  | scalar (text : String) (plain : Bool)

/-- How a token is named in messages. -/
def TokenKind.label : TokenKind → String
  | version _ => "<directive>"
  | handle .. => "<directive>"
  | instruction => "<directive>"
  | documentStart => "<document start>"
  | documentEnd => "<document end>"
  | streamEnd => "<stream end>"
  | blockSequence => "<block sequence start>"
  | blockMapping => "<block mapping start>"
  | blockEnd => "<block end>"
  | flowSequence => "["
  | flowSequenceEnd => "]"
  | flowMapping => "\x7b"
  | flowMappingEnd => "\x7d"
  | entry => "-"
  | comma => ","
  | key => "?"
  | value => ":"
  | anchorRef _ => "<alias>"
  | anchor _ => "<anchor>"
  | tag .. => "<tag>"
  | scalar .. => "<scalar>"

/-- A token with its place. -/
structure Token where
  /-- What it is. -/
  kind : TokenKind
  /-- Where it begins. -/
  start : Mark
  /-- Where it ends. -/
  stop : Mark

end ConfigAudit.Yaml
