/-
# Reading patterns

The notation of patterns: a text is read as a sequence of tokens, a token being one character or
a backslash with the character behind it, with one token of foresight.  What cannot be read is
reported with its place.

* `Cursor` : the state of reading;
* `Part` : one member of a sequence, with what later members need to know of it;
* `read` : reads a whole pattern.
-/
import ConfigAudit.Pattern.Node
import ConfigAudit.Text.Names
import ConfigAudit.Text.Lines
import ConfigAudit.Decimal.Read

namespace ConfigAudit.Pattern

open Text

/-! ## Flags -/

/-- How a pattern is to be understood. -/
structure Flags where
  /-- Case does not matter. -/
  ignoreCase : Bool := false
  /-- Line anchors hold at inner lines. -/
  multiline : Bool := false
  /-- The dot stands for line feeds too. -/
  dotAll : Bool := false
  /-- Blanks and comments are skipped. -/
  verbose : Bool := false
  /-- Classes hold basic characters only. -/
  basic : Bool := false
  /-- Classes hold characters of all scripts; this is also the default. -/
  scripts : Bool := false
  /-- Repetitions are refused. -/
  template : Bool := false
  deriving Repr, DecidableEq

namespace Flags

/-- The flag of a letter. -/
def ofLetter? : Char → Option Flags
  | 'i' => some { ignoreCase := true }
  | 'm' => some { multiline := true }
  | 's' => some { dotAll := true }
  | 'x' => some { verbose := true }
  | 'a' => some { basic := true }
  | 'u' => some { scripts := true }
  | 't' => some { template := true }
  | _ => none

/-- The flags of either. -/
def union (a b : Flags) : Flags :=
  ⟨a.ignoreCase || b.ignoreCase, a.multiline || b.multiline, a.dotAll || b.dotAll,
   a.verbose || b.verbose, a.basic || b.basic, a.scripts || b.scripts, a.template || b.template⟩

/-- Whether two sets of flags have a common one. -/
def meet (a b : Flags) : Bool :=
  (a.ignoreCase && b.ignoreCase) || (a.multiline && b.multiline) || (a.dotAll && b.dotAll) ||
  (a.verbose && b.verbose) || (a.basic && b.basic) || (a.scripts && b.scripts) ||
  (a.template && b.template)

/-- Flags with some turned on and others turned off; the two kinds of classes exclude each other. -/
def adjust (f on off : Flags) : Flags :=
  ⟨(f.ignoreCase || on.ignoreCase) && !off.ignoreCase,
   (f.multiline || on.multiline) && !off.multiline,
   (f.dotAll || on.dotAll) && !off.dotAll,
   (f.verbose || on.verbose) && !off.verbose,
   if on.basic then true else if on.scripts then false else f.basic,
   if on.scripts then true else if on.basic then false else f.scripts,
   f.template⟩

/-- Whether a flag chooses a kind of classes. -/
def choosesClasses (f : Flags) : Bool := f.basic || f.scripts

/-- How case is treated. -/
def fold (f : Flags) : Fold :=
  if f.ignoreCase then (if f.basic then .basic else .full) else .exact

end Flags

/-! ## The state of reading -/

/-- The state of reading a pattern. -/
structure Cursor where
  /-- The whole pattern. -/
  pattern : List Char
  /-- The token ahead; empty at the end. -/
  next : List Char
  /-- The text behind the token ahead. -/
  rest : List Char
  /-- Characters up to the end of the token ahead. -/
  index : Nat
  /-- The widths of the groups, the latest first; nothing for one that is still open. -/
  groups : List (Option Width)
  /-- The names of groups. -/
  names : List (String × Nat)
  /-- The number of groups before the look-behind that is being read. -/
  behindLimit : Option Nat
  /-- Conditions on groups by number, with their places, the latest first. -/
  conditions : List (Nat × Nat)

/-- A step of reading. -/
abbrev Reading := StateT Cursor (Except Fault)

/-- Reports a cause at a place. -/
def failAt {α : Type} (cause : Cause) (index : Nat) : Reading α := do
  throw (.illFormed cause (some (Place.ofIndex (← get).pattern index)))

/-- The place of the token ahead. -/
def place : Reading Nat := do
  let c ← get
  return c.index - c.next.length

/-- Reports a cause some characters before the token ahead. -/
def fail {α : Type} (cause : Cause) (back : Nat := 0) : Reading α := do
  failAt cause ((← place) - back)

/-- Moves on by one token. -/
def advance : Reading Unit := do
  let c ← get
  match c.rest with
  | [] => set { c with next := [] }
  | '\\' :: [] => failAt .escapeAtEnd (c.pattern.length - 1)
  | '\\' :: d :: rest => set { c with next := ['\\', d], rest := rest, index := c.index + 2 }
  | d :: rest => set { c with next := [d], rest := rest, index := c.index + 1 }

/-- The token ahead. -/
def peek : Reading (List Char) := return (← get).next

/-- Takes the token ahead. -/
def take : Reading (List Char) := do
  let t ← peek
  advance
  return t

/-- Takes the token ahead if it is the given character. -/
def accept (c : Char) : Reading Bool := do
  if (← peek) == [c] then
    advance
    return true
  return false

/-- Takes at most `n` characters of a class. -/
def takeSome (p : Char → Bool) : Nat → Reading (List Char)
  | 0 => return []
  | n + 1 => do
    match ← peek with
    | [c] => if p c then advance; return c :: (← takeSome p n) else return []
    | _ => return []

/-- Takes all characters up to a terminator, and the terminator; `what` is what they name. -/
def takeUntil (terminator : Char) (what : String) : Nat → List Char → Reading String
  | 0, _ => fail .unexpectedEnd
  | fuel + 1, acc => do
    let t ← take
    if t.isEmpty then
      if acc.isEmpty then fail (.missingName what)
      else fail (.unterminatedName terminator) acc.length
    else if t == [terminator] then
      if acc.isEmpty then fail (.missingName what) 1
      else return String.ofList acc
    else takeUntil terminator what fuel (acc ++ t)

/-- Takes a name up to a terminator. -/
def takeName (terminator : Char) (what : String) : Reading String := do
  takeUntil terminator what ((← get).rest.length + 3) []

/-! ## Escapes -/

/-- What an escape stands for. -/
inductive Escaped where
  /-- A character. -/
  | literal (n : Nat)
  /-- A class of characters. -/
  | ofClass (kind : Class) (negated : Bool)
  /-- A place. -/
  | anchor (place : Char)
  /-- The text of a group. -/
  | group (number : Nat)

/-- Octal digits. -/
def isOctal (c : Char) : Bool := '0' ≤ c && c ≤ '7'

/-- Hexadecimal digits. -/
def isHex (c : Char) : Bool := (hexValue? c).isSome

/-- The number spelled by digits of a base. -/
def numberIn (base : Nat) (cs : List Char) : Nat :=
  cs.foldl (fun n c => n * base + (hexValue? c).getD 0) 0

/-- The character of a one-letter escape. -/
def controlEscape? : Char → Option Nat
  | 'a' => some 7
  | 'f' => some 12
  | 'n' => some 10
  | 'r' => some 13
  | 't' => some 9
  | 'v' => some 11
  | '\\' => some 92
  | _ => none

/-- The class of a one-letter escape. -/
def classEscape? : Char → Option Escaped
  | 'd' => some (.ofClass .digit false)
  | 'D' => some (.ofClass .digit true)
  | 's' => some (.ofClass .blank false)
  | 'S' => some (.ofClass .blank true)
  | 'w' => some (.ofClass .word false)
  | 'W' => some (.ofClass .word true)
  | _ => none

/-- Reports an escape without a meaning. -/
def badEscape {α : Type} (escape : List Char) : Reading α :=
  fail (.badEscape (String.ofList escape)) escape.length

/-- Reads the digits of a hexadecimal escape. -/
def hexEscape (escape : List Char) (digits : Nat) : Reading Escaped := do
  let ds ← takeSome isHex digits
  let whole := escape ++ ds
  if ds.length ≠ digits then fail (.incompleteEscape (String.ofList whole)) whole.length
  let n := numberIn 16 ds
  if n > 0x10ffff then badEscape whole
  return .literal n

/-- Reads the name of a character. -/
def nameEscape : Reading Escaped := do
  if !(← accept '\x7b') then fail .missingBrace
  let name ← takeName '\x7d' "character name"
  match characterNamed? name with
  | some n => return .literal n
  | none => fail (.unknownCharacter name) (name.length + 4)

/-- The escapes that mean the same inside and outside of sets. -/
def commonEscape? (escape : List Char) (c : Char) : Option (Reading Escaped) :=
  match c with
  | 'x' => some (hexEscape escape 2)
  | 'u' => some (hexEscape escape 4)
  | 'U' => some (hexEscape escape 8)
  | 'N' => some nameEscape
  | _ => none

/-- An escape of a character that is no letter or digit stands for the character. -/
def plainEscape (escape : List Char) (c : Char) : Reading Escaped :=
  if c.isAlpha then badEscape escape else return .literal c.toNat

/-- Reads an escape inside a set. -/
def setEscape (c : Char) : Reading Escaped := do
  let escape := ['\\', c]
  if c == 'b' then return .literal 8
  if let some n := controlEscape? c then return .literal n
  if let some e := classEscape? c then return e
  if let some r := commonEscape? escape c then return ← r
  if isOctal c then
    let whole := escape ++ (← takeSome isOctal 2)
    let n := numberIn 8 (whole.drop 1)
    if n > 0o377 then fail (.octalRange (String.ofList whole)) whole.length
    return .literal n
  if c.isDigit then badEscape escape
  plainEscape escape c

/-- Whether a group is closed. -/
def isClosed (number : Nat) : Reading Bool := do
  let c ← get
  if number = 0 then return false
  return (c.groups.reverse[number - 1]?).any Option.isSome

/-- The number of the next group. -/
def nextGroup : Reading Nat := return (← get).groups.length + 1

/-- A look-behind can refer only to groups that were closed before it. -/
def checkBehind (number : Nat) : Reading Unit := do
  if let some limit := (← get).behindLimit then
    if !(← isClosed number) then fail .openGroup
    if number ≥ limit then fail .ownGroup

/-- Notes the number of groups before a look-behind that is in no other one, and says whether it is
such a one. -/
def enterBehind (behind : Bool) : Reading Bool := do
  let outermost := behind && (← get).behindLimit.isNone
  if outermost then
    let limit ← nextGroup
    modify fun c => { c with behindLimit := some limit }
  return outermost

/-- Forgets the number behind the look-behind. -/
def leaveBehind (outermost : Bool) : Reading Unit :=
  if outermost then modify fun c => { c with behindLimit := none } else return ()

/-- Reads an escape of a digit: an octal number or the number of a group. -/
def digitEscape (c : Char) : Reading Escaped := do
  let mut escape := ['\\', c]
  match ← peek with
  | [d] =>
    if d.isDigit then
      escape := escape ++ (← take)
      match ← peek with
      | [e] =>
        if isOctal c && isOctal d && isOctal e then
          escape := escape ++ (← take)
          let n := numberIn 8 (escape.drop 1)
          if n > 0o377 then fail (.octalRange (String.ofList escape)) escape.length
          return .literal n
      | _ => pure ()
  | _ => pure ()
  let number := numberIn 10 (escape.drop 1)
  if number < (← nextGroup) then
    if !(← isClosed number) then fail .openGroup escape.length
    checkBehind number
    return .group number
  fail (.unknownGroup number) (escape.length - 1)

/-- Reads an escape outside of sets. -/
def escapeOf (c : Char) : Reading Escaped := do
  let escape := ['\\', c]
  if "AbBZ".toList.contains c then return .anchor c
  if let some e := classEscape? c then return e
  if let some n := controlEscape? c then return .literal n
  if let some r := commonEscape? escape c then return ← r
  if c == '0' then return .literal (numberIn 8 (← takeSome isOctal 2))
  if c.isDigit then digitEscape c
  else plainEscape escape c

/-! ## Members of sequences -/

/-- What a repetition needs to know of the member before it. -/
inductive Role where
  /-- A place, which cannot be repeated. -/
  | anchor
  /-- A repetition, which cannot be repeated again. -/
  | loop
  /-- Any other member. -/
  | other
  deriving Repr, DecidableEq

/-- One member of a sequence. -/
structure Part where
  /-- Its expression. -/
  node : Node
  /-- Its width. -/
  width : Width
  /-- Its role. -/
  role : Role
  /-- The members that it is made of: the characters of each that is a plain set. -/
  sets : List (Option (List Item))

namespace Part

/-- A member that is no set. -/
def of (node : Node) (width : Width) : Part := ⟨node, width, .other, [none]⟩

/-- A character. -/
def literal (flags : Flags) (n : Nat) : Part :=
  ⟨.one (Test.literal flags.fold false n), .one, .other, [some [.one n]]⟩

/-- A set of characters. -/
def set (flags : Flags) (negated : Bool) (items : List Item) : Part :=
  match items with
  | [.one n] =>
    if negated then ⟨.one (Test.literal flags.fold true n), .one, .other, [none]⟩
    else literal flags n
  | _ => ⟨.one (Test.ofItems flags.fold negated items), .one, .other,
      [if negated then none else some items]⟩

/-- A place. -/
def anchor (a : Anchor) : Part := ⟨.anchor a, .zero, .anchor, [none]⟩

/-- A repetition of a member. -/
def loop (mode : Mode) (least : Nat) (most : Option Nat) (p : Part) : Part :=
  ⟨.loop mode least most p.node, p.width.times least most, .loop, [none]⟩

/-- Members in a row. -/
def sequence (parts : List Part) : Part :=
  ⟨Node.ofList (parts.map (·.node)), parts.foldl (fun w p => w.add p.width) .zero, .other,
    parts.flatMap (·.sets)⟩

/-- The characters of a member that is one plain set. -/
def plainSet? (p : Part) : Option (List Item) :=
  match p.sets with
  | [some items] => some items
  | _ => none

/-- Alternatives; if each is a plain set, so is the whole. -/
def alternatives (flags : Flags) : List Part → Part
  | [p] => p
  | parts =>
    let sets := parts.map plainSet?
    if sets.all Option.isSome then
      let items := (sets.flatMap (·.getD [])).eraseDups
      ⟨.one (Test.ofItems flags.fold false items), .one, .other, [some items]⟩
    else
      let width := match parts with
        | [] => .zero
        | p :: rest => rest.foldl (fun w q => w.either q.width) p.width
      .of (Node.oneOf (parts.map (·.node))) width

end Part

/-- The place of a one-letter escape. -/
def anchorOf (flags : Flags) (c : Char) : Anchor :=
  match c with
  | 'A' => .textStart
  | 'Z' => .textEnd
  | 'b' => .boundary flags.basic
  | _ => .noBoundary flags.basic

/-- The member that an escape stands for. -/
def partOfEscape (flags : Flags) (e : Escaped) : Reading Part := do
  match e with
  | .literal n => return .literal flags n
  | .ofClass kind negated => return .set flags false [.ofClass kind flags.basic negated]
  | .anchor c => return .anchor (anchorOf flags c)
  | .group number =>
    let width := (((← get).groups.reverse[number - 1]?).getD none).getD .zero
    return .of (.repeated number flags.fold) width

/-! ## Sets -/

/-- The set member that an escape stands for. -/
def itemOfEscape (flags : Flags) : Escaped → Item
  | .literal n => .one n
  | .ofClass kind negated => .ofClass kind flags.basic negated
  | .anchor c => .one c.toNat
  | .group n => .one n

/-- Reads one member of a set from its first token. -/
def setMember (flags : Flags) : List Char → Reading Item
  | ['\\', c] => return itemOfEscape flags (← setEscape c)
  | [c] => return .one c.toNat
  | _ => fail .unterminatedSet

/-- Reads the members of a set; the opening is at `start`, `acc` holds members in reverse. -/
def setMembers (flags : Flags) (start : Nat) : Nat → List Item → Reading (List Item)
  | 0, _ => fail .unterminatedSet
  | fuel + 1, acc => do
    let this ← take
    if this.isEmpty then failAt .unterminatedSet start
    if this == [']'] && !acc.isEmpty then return acc.reverse
    let first ← setMember flags this
    if ← accept '-' then
      let that ← take
      if that.isEmpty then failAt .unterminatedSet start
      if that == [']'] then return (.one 0x2d :: first :: acc).reverse
      let last ← setMember flags that
      match first, last with
      | .one lo, .one hi =>
        if hi < lo then
          fail (.badRange (String.ofList this) (String.ofList that)) (this.length + 1 + that.length)
        setMembers flags start fuel (.range lo hi :: acc)
      | _, _ =>
        fail (.badRange (String.ofList this) (String.ofList that)) (this.length + 1 + that.length)
    else setMembers flags start fuel (first :: acc)

/-- Reads a set behind its opening bracket. -/
def setOf (flags : Flags) : Reading Part := do
  let start := (← place) - 1
  let negated ← accept '^'
  let items ← setMembers flags start ((← get).rest.length + 3) []
  return .set flags negated items.eraseDups

/-! ## Repetitions -/

/-- The count that digits spell; no digit counts as none. -/
def countOf (digits : List Char) : Reading Nat := do
  if Decimal.digitLimit < digits.length then throw (.countLength digits.length)
  let n := numberIn 10 digits
  if n ≥ 4294967295 then throw .repetitionLimit
  return n

/-- The bounds of a repetition in braces, if what follows the brace is one. -/
def bracedBounds : Reading (Option (Nat × Option Nat)) := do
  let saved ← get
  let here ← place
  let lo ← takeSome Char.isDigit (saved.rest.length + 1)
  let comma ← accept ','
  let hi ← if comma then takeSome Char.isDigit (saved.rest.length + 1) else pure lo
  if !(← accept '\x7d') then
    set saved
    return none
  let least ← countOf lo
  if hi.isEmpty then return some (least, none)
  let most ← countOf hi
  if most < least then failAt .repeatOrder here
  return some (least, some most)

/-- The bounds of a repetition, if the token starts one. -/
def boundsOf (c : Char) : Reading (Option (Nat × Option Nat)) := do
  match c with
  | '?' => return some (0, some 1)
  | '*' => return some (0, none)
  | '+' => return some (1, none)
  | _ => if (← peek) == ['\x7d'] then return none else bracedBounds

/-- How a repetition chooses its count, from the sign behind it. -/
def modeOf : Reading Mode := do
  if ← accept '?' then return .lazy
  if ← accept '+' then return .possessive
  return .greedy

/-- Repeats the last of the members (`parts`, in reverse); the sign is at `start`. -/
def repeatLast (start : Nat) (least : Nat) (most : Option Nat) (parts : List Part) :
    Reading (List Part) := do
  match parts with
  | [] => failAt .nothingToRepeat start
  | p :: rest =>
    if p.role == .anchor then failAt .nothingToRepeat start
    if p.role == .loop then failAt .multipleRepeat start
    return .loop (← modeOf) least most p :: rest

/-! ## Flags in patterns -/

/-- Letters, as far as they can stand for a flag. -/
def isFlagLetter : List Char → Bool
  | [c] => isNameStart c && c != '_'
  | _ => false

/-- The flag of a token. -/
def flagOf? : List Char → Option Flags
  | [c] => Flags.ofLetter? c
  | _ => none

/-- Whether a token is a flag, be it a forbidden one. -/
def isFlag (t : List Char) : Bool := t == ['L'] || (flagOf? t).isSome

/-- Reads flags to be turned on, from the token `t`; answers the token that ends them. -/
def flagsOn : Nat → List Char → Flags → Reading (List Char × Flags)
  | 0, _, _ => fail .unexpectedEnd
  | fuel + 1, t, on => do
    if t == ['L'] then fail .localeFlag
    let flag := (flagOf? t).getD {}
    let on := on.union flag
    if flag.choosesClasses && on.basic && on.scripts then fail .incompatibleFlags
    let t ← take
    if t.isEmpty then fail .unfinishedFlags
    if t == [')'] || t == ['-'] || t == [':'] then return (t, on)
    if !isFlag t then
      fail (if isFlagLetter t then .unknownFlag else .unfinishedFlags) t.length
    flagsOn fuel t on

/-- Reads flags to be turned off, from the token `t`, up to a colon. -/
def flagsOff : Nat → List Char → Flags → Reading Flags
  | 0, _, _ => fail .unexpectedEnd
  | fuel + 1, t, off => do
    let flag := (flagOf? t).getD {}
    if t == ['L'] || flag.choosesClasses then fail .typeFlagOff
    let off := off.union flag
    let t ← take
    if t.isEmpty then fail .missingColon
    if t == [':'] then return off
    if !isFlag t then
      fail (if isFlagLetter t then .unknownFlag else .missingColon) t.length
    flagsOff fuel t off

/-- Reads flags from the token `t`: those to be turned on, and those to be turned off unless they
are for the whole pattern. -/
def flagsFrom (t : List Char) : Reading (Flags × Option Flags) := do
  let fuel := (← get).rest.length + 3
  let (ending, on) ← if t == ['-'] then pure (t, {}) else flagsOn fuel t {}
  if ending == [')'] then return (on, none)
  if on.template then fail .globalFlagOn 1
  let off ← if ending == ['-'] then do
      let t ← take
      if t.isEmpty then fail .missingFlag
      if !isFlag t then
        fail (if isFlagLetter t then .unknownFlag else .missingFlag) t.length
      flagsOff fuel t {}
    else pure {}
  if off.template then fail .globalFlagOff 1
  if on.meet off then fail .contradictoryFlags 1
  return (on, some off)

/-! ## Groups -/

/-- Opens a group. -/
def openGroup (name : Option String) : Reading Nat := do
  let number ← nextGroup
  modify fun c => { c with groups := none :: c.groups }
  if let some n := name then
    if let some old := (← get).names.lookup n then
      fail (.repeatedGroupName n number old) (n.length + 1)
    modify fun c => { c with names := (n, number) :: c.names }
  return number

/-- Closes a group. -/
def closeGroup (number : Nat) (width : Width) : Reading Unit :=
  modify fun c =>
    { c with groups := c.groups.set (c.groups.length - number) (some width) }

/-- Takes the closing parenthesis of what was opened at `start`. -/
def closing (start : Nat) : Reading Unit := do
  if !(← accept ')') then failAt .unterminatedGroup start

/-- Skips a comment that was opened at `start`. -/
def skipComment (start : Nat) : Nat → Reading Unit
  | 0 => failAt .unterminatedComment start
  | fuel + 1 => do
    if (← peek).isEmpty then failAt .unterminatedComment start
    if (← take) == [')'] then return ()
    skipComment start fuel

/-- Skips a comment up to the end of its line. -/
def skipLine : Nat → Reading Unit
  | 0 => return ()
  | fuel + 1 => do
    let t ← take
    if t.isEmpty || t == ['\n'] then return ()
    skipLine fuel

/-- Reads a reference to a group by name, behind its opening. -/
def namedReference (flags : Flags) : Reading Part := do
  let name ← takeName ')' "group name"
  if !isName name then fail (.badGroupName name) (name.length + 1)
  match (← get).names.lookup name with
  | none => fail (.unknownGroupName name) (name.length + 1)
  | some number =>
    if !(← isClosed number) then fail .openGroup (name.length + 1)
    checkBehind number
    partOfEscape flags (.group number)

/-- Reads the group of a condition. -/
def conditionGroup : Reading Nat := do
  let name ← takeName ')' "group name"
  let number ← do
    if isName name then
      match (← get).names.lookup name with
      | none => fail (.unknownGroupName name) (name.length + 1)
      | some number => pure number
    else
      match Decimal.readInteger (strip name) with
      | none => fail (.badGroupName name) (name.length + 1)
      | some n =>
        if Decimal.digitLimit < (name.toList.filter isDecimal).length then
          fail (.badGroupName name) (name.length + 1)
        if n < 0 then fail (.badGroupName name) (name.length + 1)
        if n = 0 then fail .badGroupNumber (name.length + 1)
        if n ≥ 2147483647 then fail (.unknownGroup n.toNat) (name.length + 1)
        let here := (← place) - name.length - 1
        modify fun c =>
          if (c.conditions.lookup n.toNat).isSome then c
          else { c with conditions := (n.toNat, here) :: c.conditions }
        pure n.toNat
  checkBehind number
  return number

/-- What the opening of a group says. -/
inductive Opening where
  /-- A group whose text is kept, perhaps under a name. -/
  | capture (name : Option String)
  /-- A group of which only the first success counts. -/
  | atomic
  /-- A group with flags of its own. -/
  | flags (on off : Flags)
  /-- A look at what follows or precedes. -/
  | look (behind negated : Bool)
  /-- A condition. -/
  | condition
  /-- A complete member. -/
  | part (p : Part)
  /-- Nothing: a comment. -/
  | nothing
  /-- Flags of the whole pattern. -/
  | global (on : Flags)

/-- Reads the opening of a group, behind its parenthesis at `start`. -/
def openingOf (flags : Flags) (start : Nat) : Reading Opening := do
  if !(← accept '?') then return .capture none
  let t ← take
  match t with
  | [] => fail .unexpectedEnd
  | ['P'] =>
    if ← accept '<' then
      let name ← takeName '>' "group name"
      if !isName name then fail (.badGroupName name) (name.length + 1)
      return .capture (some name)
    if ← accept '=' then return .part (← namedReference flags)
    let t ← take
    if t.isEmpty then fail .unexpectedEnd
    fail (.unknownExtension ("?P" ++ String.ofList t)) (t.length + 2)
  | [':'] => return .flags {} {}
  | ['#'] =>
    skipComment start ((← get).rest.length + 3)
    return .nothing
  | ['='] => return .look false false
  | ['!'] => return .look false true
  | ['<'] =>
    let t ← take
    match t with
    | [] => fail .unexpectedEnd
    | ['='] => return .look true false
    | ['!'] => return .look true true
    | _ => fail (.unknownExtension ("?<" ++ String.ofList t)) (t.length + 2)
  | ['('] => return .condition
  | ['>'] => return .atomic
  | _ =>
    if isFlag t || t == ['-'] then
      match ← flagsFrom t with
      | (on, none) => return .global on
      | (on, some off) => return .flags on off
    fail (.unknownExtension ("?" ++ String.ofList t)) (t.length + 1)

/-! ## Sequences and alternatives -/

/-- The characters that a verbose pattern skips. -/
def isSkipped (c : Char) : Bool := c == ' ' || (0x09 ≤ c.toNat && c.toNat ≤ 0x0d)

/-- The places that stand for themselves. -/
def signAnchor (flags : Flags) (c : Char) : Anchor :=
  if c == '^' then (if flags.multiline then .lineStart else .textStart)
  else (if flags.multiline then .lineEnd else .lastLineEnd)

/-- What comes next in an alternative. -/
inductive Member where
  /-- Nothing: the alternative ends. -/
  | none
  /-- Blanks or a comment. -/
  | skipped
  /-- A member that is complete. -/
  | part (p : Part)
  /-- The last member, repeated; the sign for that was at a place. -/
  | repeated (start least : Nat) (most : Option Nat)
  /-- Flags of the whole pattern, which were at a place. -/
  | global (start : Nat) (on : Flags)
  /-- A group, which was opened at a place. -/
  | group (start : Nat) (opening : Opening)

/-- What an opening begins. -/
def Opening.member (start : Nat) : Opening → Member
  | nothing => .skipped
  | global on => .global start on
  | opening => .group start opening

/-- Reads a single character. -/
def memberOfSign (flags : Flags) (c : Char) : Reading Member := do
  let start ← place
  advance
  if flags.verbose && isSkipped c then return .skipped
  else if flags.verbose && c == '#' then
    skipLine ((← get).rest.length + 3)
    return .skipped
  else if c == '*' || c == '+' || c == '?' || c == '\x7b' then
    match ← boundsOf c with
    | none => return .part (.literal flags c.toNat)
    | some (least, most) => return .repeated start least most
  else if c == '.' then
    return .part (.of (.one (if flags.dotAll then .any else .notLineFeed)) .one)
  else if c == '^' || c == '$' then return .part (.anchor (signAnchor flags c))
  else return .part (.literal flags c.toNat)

/-- Reads what comes next in an alternative, a group as far as its opening. -/
def nextMember (flags : Flags) : Reading Member := do
  match ← peek with
  | [] => return .none
  | [c] =>
    if c == '|' || c == ')' then return .none
    else if c == '[' then
      advance
      return .part (← setOf flags)
    else if c == '(' then
      let start ← place
      advance
      return (← openingOf flags start).member start
    else memberOfSign flags c
  | [mark, c] =>
    if mark != '\\' then fail .unexpectedEnd
    advance
    return .part (← partOfEscape flags (← escapeOf c))
  | _ => fail .unexpectedEnd

mutual

/-- Reads alternatives up to the end of their group, and answers the flags that hold behind the
first; `outer` at the outermost level. -/
def alternatives : Nat → Bool → Flags → Reading (Part × Flags)
  | 0, _, _ => fail .unexpectedEnd
  | fuel + 1, outer, flags => do
    let (first, flags) ← sequence fuel outer flags []
    return (← branches fuel flags [first], flags)

/-- Reads the alternatives behind the first; `acc` holds those read, in reverse. -/
def branches : Nat → Flags → List Part → Reading Part
  | 0, _, _ => fail .unexpectedEnd
  | fuel + 1, flags, acc => do
    if ← accept '|' then
      let (p, _) ← sequence fuel false flags []
      branches fuel flags (p :: acc)
    else return Part.alternatives flags acc.reverse

/-- Reads members up to the end of their alternative, and answers the flags that hold there; `acc`
holds those read, in reverse, and `first` says that flags of the whole pattern are welcome. -/
def sequence : Nat → Bool → Flags → List Part → Reading (Part × Flags)
  | 0, _, _, _ => fail .unexpectedEnd
  | fuel + 1, first, flags, acc => do
    match ← nextMember flags with
    | .none => return (Part.sequence acc.reverse, flags)
    | .skipped => sequence fuel first flags acc
    | .part p => sequence fuel first flags (p :: acc)
    | .repeated start least most =>
      let acc ← repeatLast start least most acc
      sequence fuel first flags acc
    | .global start on =>
      if !first || !acc.isEmpty then failAt .misplacedFlags start
      sequence fuel first (flags.union on) acc
    | .group start opening =>
      let p ← group fuel flags start opening
      sequence fuel first flags (p :: acc)

/-- Reads a group behind its opening, which was at `start`. -/
def group : Nat → Flags → Nat → Opening → Reading Part
  | 0, _, _, _ => fail .unexpectedEnd
  | fuel + 1, flags, start, opening => do
    match opening with
    | .capture name =>
      let number ← openGroup name
      let (p, _) ← alternatives fuel false flags
      closing start
      closeGroup number p.width
      return .of (.capture number p.node) p.width
    | .atomic =>
      let (p, _) ← alternatives fuel false flags
      closing start
      return .of (.atomic p.node) p.width
    | .flags on off =>
      let (p, _) ← alternatives fuel false (flags.adjust on off)
      closing start
      let sets := if on == {} && off == {} then p.sets else [none]
      return ⟨p.node, p.width, .other, sets⟩
    | .look behind negated =>
      let outermost ← enterBehind behind
      let (p, _) ← alternatives fuel false flags
      leaveBehind outermost
      closing start
      return .of (if behind then .behind negated p.width p.node else .ahead negated p.node) .zero
    | .condition =>
      let number ← conditionGroup
      let (yes, _) ← sequence fuel false flags []
      if ← accept '|' then
        let (no, _) ← sequence fuel false flags []
        if (← peek) == ['|'] then fail .tooManyBranches
        closing start
        return .of (.choose number yes.node no.node) (yes.width.either no.width)
      closing start
      return .of (.choose number yes.node .empty) ⟨0, yes.width.greatest⟩
    | .part p => return p
    | .nothing => return .sequence []
    | .global _ => return .sequence []

end

/-! ## Whole patterns -/

/-- The whole pattern has been read, its flags go together, and its conditions are on groups that
it has. -/
def checkEnd (flags : Flags) : Reading Unit := do
  let c ← get
  if flags.basic && flags.scripts then throw .flagConflict
  if !c.next.isEmpty then fail .unbalanced
  for (number, here) in c.conditions.reverse do
    if number > c.groups.length then failAt (.unknownGroup number) here

/-- Reads a whole pattern under the given flags. -/
def wholePattern (flags : Flags) : Reading Node := do
  advance
  let opened ← get
  let (p, flags) ← alternatives (4 * opened.pattern.length + 16) true flags
  checkEnd flags
  match p.node.defect? flags.template with
  | some cause => throw (.illFormed cause none)
  | none => return p.node

/-- Reads a pattern under the given flags. -/
def read (flags : Flags) (pattern : String) : Except Fault Node :=
  ((wholePattern flags).run' ⟨pattern.toList, [], pattern.toList, 0, [], [], none, []⟩)

end ConfigAudit.Pattern
