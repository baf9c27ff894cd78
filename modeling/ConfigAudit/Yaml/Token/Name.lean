/-
# Names, tags and instructions

* `nameToken` : anchors and references to them;
* `tagToken` : tags;
* `instructionToken` : the lines before a document that say how it is read.
-/
import ConfigAudit.Yaml.Token.Scalar
import ConfigAudit.Text.Encoded

namespace ConfigAudit.Yaml

/-! ## Anchors -/

/-- The characters that can follow the name of an anchor. -/
def endsName (c : Char) : Bool := endsToken c || "?:,]\x7d%@\x60".toList.contains c

/-- Reads an anchor or a reference to one. -/
def nameToken (isAlias : Bool) (c : Cursor) : Except Fault (Token × Cursor) := do
  let start := c.mark
  let context := Context.scanning (if isAlias then "an alias" else "an anchor")
  let problem (x : Char) := Problem.expected "alphabetic or numeric character" x
  let (name, c) := c.next.span isNameChar
  if name.isEmpty then within context start (problem c.peek) c
  if !endsName c.peek then within context start (problem c.peek) c
  let name := String.ofList name
  return (⟨if isAlias then .anchorRef name else .anchor name, start, c.mark⟩, c)

/-! ## Tags -/

/-- The characters of addresses. -/
def isAddressChar (c : Char) : Bool :=
  c.isAlphanum || "-;/?:@&=+$,_.!~*\x27()[]%".toList.contains c

/-- Reads escaped bytes of an address. -/
def escapedBytes (what : String) (start : Mark) :
    Nat → List UInt8 → Cursor → Except Fault (List UInt8 × Cursor)
  | 0, bytes, c => .ok (bytes, c)
  | fuel + 1, bytes, c =>
    if c.peek == '%' then
      let c := c.next
      let digits := (c.rest.take 2).takeWhile isHexDigit
      if digits.length < 2 then
        within (.scanning what) start
          (.expected "URI escape sequence of 2 hexadecimal numbers" (c.peekAt digits.length)) c
      else
        escapedBytes what start fuel (bytes ++ [UInt8.ofNat (hexNumber digits)]) (c.skip 2)
    else .ok (bytes, c)

/-- The text of escaped bytes. -/
def bytesText (what : String) (start : Mark) (bytes : List UInt8) (c : Cursor) :
    Except Fault (List Char) :=
  match Utf8.decode bytes with
  | .ok (cs, []) => .ok cs
  | .ok (cs, b :: left) =>
    let position := Utf8.length cs
    within (.scanning what) start
      (.address (Utf8Fault.message ⟨b.toNat, position, left.length + 1, .truncated⟩)) c
  | .error f => within (.scanning what) start (.address f.message) c

/-- Reads the characters of an address; `text` holds those before in reverse. -/
def addressFrom (what : String) (start : Mark) :
    Nat → List (List Char) → Cursor → Except Fault (List (List Char) × Cursor)
  | 0, text, c => .ok (text, c)
  | fuel + 1, text, c => do
    let (word, c) := c.span fun x => isAddressChar x && x != '%'
    let text := if word.isEmpty then text else word :: text
    if c.peek == '%' then
      let (bytes, behind) ← escapedBytes what start (c.rest.length + 1) [] c
      let cs ← bytesText what start bytes c
      addressFrom what start fuel (cs :: text) behind
    else return (text, c)

/-- Reads an address. -/
def address (what : String) (start : Mark) (c : Cursor) : Except Fault (String × Cursor) := do
  let (text, c) ← addressFrom what start (c.rest.length + 1) [] c
  if text.isEmpty then within (.parsing what) start (.expected "URI" c.peek) c
  return (assemble text, c)

/-- Reads the handle of a tag. -/
def tagHandle (what : String) (start : Mark) (c : Cursor) : Except Fault (String × Cursor) := do
  if c.peek != '!' then within (.scanning what) start (.expected "'!'" c.peek) c
  if c.peekAt 1 == ' ' then return ("!", c.next)
  let (name, behind) := c.next.span isNameChar
  if behind.peek != '!' then within (.scanning what) start (.expected "'!'" behind.peek) behind
  return (String.ofList ('!' :: name ++ ['!']), behind.next)

/-- Whether a tag has a handle of its own: a second exclamation mark stands in its word. -/
def hasHandle (c : Cursor) : Bool :=
  (c.next.rest.takeWhile fun x => !endsWord x).contains '!'

/-- Reads the parts of a tag. -/
def tagParts (start : Mark) (c : Cursor) : Except Fault (Option String × String × Cursor) := do
  if c.peekAt 1 == '<' then
    let (suffix, c) ← address "a tag" start (c.skip 2)
    if c.peek != '>' then within (.parsing "a tag") start (.expected "'>'" c.peek) c
    return (none, suffix, c.next)
  if endsToken (c.peekAt 1) then return (none, "!", c.next)
  let (handle, c) ← if hasHandle c then tagHandle "a tag" start c else pure ("!", c.next)
  let (suffix, c) ← address "a tag" start c
  return (some handle, suffix, c)

/-- Reads a tag. -/
def tagToken (c : Cursor) : Except Fault (Token × Cursor) := do
  let start := c.mark
  let (handle, suffix, c) ← tagParts start c
  if !endsWord c.peek then within (.scanning "a tag") start (.expected "' '" c.peek) c
  return (⟨.tag handle suffix, start, c.mark⟩, c)

/-! ## Instructions -/

/-- What instructions are called in faults. -/
def instructionName : String := "a directive"

/-- A fault of an instruction. -/
def inInstruction {α : Type} (start : Mark) (what : String) (c : Cursor) : Except Fault α :=
  within (.scanning instructionName) start (.expected what c.peek) c

/-- Reads a number of a version. -/
def versionNumber (start : Mark) (c : Cursor) : Except Fault (Nat × Cursor) := do
  let (digits, c) := c.span Char.isDigit
  if digits.isEmpty then inInstruction start "a digit" c
  return (digits.foldl (fun n x => 10 * n + (x.toNat - 0x30)) 0, c)

/-- Reads a version. -/
def versionOf (start : Mark) (c : Cursor) : Except Fault (TokenKind × Cursor) := do
  let (major, c) ← versionNumber start c.skipSpaces
  if c.peek != '.' then inInstruction start "a digit or '.'" c
  let (_, c) ← versionNumber start c.next
  if !endsWord c.peek then inInstruction start "a digit or ' '" c
  return (.version major, c)

/-- Reads a handle with what it stands for. -/
def handleOf (start : Mark) (c : Cursor) : Except Fault (TokenKind × Cursor) := do
  let (name, c) ← tagHandle instructionName start c.skipSpaces
  if c.peek != ' ' then inInstruction start "' '" c
  let (front, c) ← address instructionName start c.skipSpaces
  if !endsWord c.peek then inInstruction start "' '" c
  return (.handle name front, c)

/-- Reads an instruction. -/
def instructionToken (c : Cursor) : Except Fault (Token × Cursor) := do
  let start := c.mark
  let what := "alphabetic or numeric character"
  let (name, c) := c.next.span isNameChar
  if name.isEmpty then inInstruction start what c
  if !endsWord c.peek then inInstruction start what c
  let (kind, c) ← match String.ofList name with
    | "YAML" => versionOf start c
    | "TAG" => handleOf start c
    | _ => pure (.instruction, c.skipLine)
  let stop := c.mark
  let c ← restOfLine (.scanning instructionName) start c
  return (⟨kind, start, stop⟩, c)

end ConfigAudit.Yaml
