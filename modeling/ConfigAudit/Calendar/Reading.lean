/-
# Reading moments

The written forms of date and time that are accepted: calendar dates and numbered weeks, with or
without dashes; any one character before the time; hours, minutes and seconds with or without
colons, a decimal fraction cut to six digits; and an offset in the same notation.

* `Reading.dateLength` : where the date ends, which the first characters decide;
* `Reading.clock?` : a time of day, and whether something is left behind it;
* `readMoment` : the whole.
-/
import ConfigAudit.Calendar.Moment

namespace ConfigAudit

/-- Why a text is not a moment. -/
inductive MomentFault where
  /-- The text has no accepted form. -/
  | form
  /-- The offset is a day or more. -/
  | offsetTooLarge (offset : Int)
  /-- The year is not between 1 and 9999. -/
  | year (n : Nat)
  /-- The month is not between 1 and 12. -/
  | month
  /-- The month has no such day. -/
  | day
  /-- The hour is not between 0 and 23. -/
  | hour
  /-- The minute is not between 0 and 59. -/
  | minute
  /-- The second is not between 0 and 59. -/
  | second
  deriving Repr, DecidableEq

namespace Reading

/-! ## Digits -/

/-- The number spelled by the first `n` characters, which must be digits, and the rest. -/
def digits? : Nat → List Char → Option (Nat × List Char) := go 0
where
  /-- Continues a number. -/
  go (acc : Nat) : Nat → List Char → Option (Nat × List Char)
    | 0, cs => some (acc, cs)
    | _ + 1, [] => none
    | n + 1, c :: cs => if c.isDigit then go (acc * 10 + (c.toNat - 0x30)) n cs else none

/-! ## Dates -/

/-- How many characters the date takes: the fifth and sixth tell a week from a month, and a week
without dashes has a day when the digits behind it can not be read in pairs. -/
def dateLength (cs : List Char) : Nat :=
  let n := cs.length
  if n = 7 then 7
  else if cs[4]? = some '-' then
    if cs[5]? = some 'W' then
      if n > 8 ∧ cs[8]? = some '-' then
        if n > 10 ∧ (cs[10]?.elim false Char.isDigit) then 8 else 10
      else 8
    else 10
  else if cs[4]? = some 'W' then
    let pos := 7 + ((cs.drop 7).takeWhile Char.isDigit).length
    if pos < 9 then pos else if pos % 2 = 0 then 7 else 8
  else 8

/-- The day of a week, behind the letter that announces the week. -/
def weekDate? (dashed : Bool) (year : Nat) (cs : List Char) : Option Date := do
  let (week, cs) ← digits? 2 cs
  match cs with
  | [] => Date.ofWeek? year week 1
  | c :: rest =>
    let cs ← if dashed then (if c = '-' then some rest else none) else some (c :: rest)
    let (day, _) ← digits? 1 cs
    Date.ofWeek? year week day

/-- Year, month and day as written; they need not name a day of the calendar. -/
def date? (cs : List Char) : Option Date := do
  let (year, cs) ← digits? 4 cs
  let (dashed, cs) := match cs with
    | '-' :: rest => (true, rest)
    | _ => (false, cs)
  match cs with
  | 'W' :: rest => weekDate? dashed year rest
  | _ =>
    let (month, cs) ← digits? 2 cs
    let cs ← if dashed then (match cs with
      | '-' :: rest => some rest
      | _ => none) else some cs
    let (day, cs) ← digits? 2 cs
    if cs.isEmpty then some ⟨year, month, day⟩ else none

/-! ## Times -/

/-- A decimal fraction of a second, in microseconds, and whether something is left behind it. -/
def fraction? (cs : List Char) : Option (Nat × Bool) := do
  let k := min 6 cs.length
  let (n, rest) ← digits? k cs
  return (n * Nat.pow 10 (6 - k), !(rest.dropWhile Char.isDigit).isEmpty)

/-- Reads the fields of a time from field number `i` on.  One character more than the fields need
counts as left behind; further characters must fit the notation. -/
def fields? (colons : Bool) (got : List Nat) : Nat → List Char → Option (List Nat × Nat × Bool)
  | 0, cs => do
    let (micro, left) ← fraction? cs
    return (got.reverse, micro, left)
  | k + 1, cs => do
    let (n, cs) ← digits? 2 cs
    match cs with
    | [] => return ((n :: got).reverse, 0, false)
    | [_] => return ((n :: got).reverse, 0, true)
    | c :: rest =>
      let colons := if got.isEmpty then c == ':' else colons
      if colons && c == ':' then fields? colons (n :: got) k rest
      else if c == '.' || c == ',' then
        let (micro, left) ← fraction? rest
        return ((n :: got).reverse, micro, left)
      else if !colons then fields? colons (n :: got) k (c :: rest)
      else none

/-- A time of day as written, and whether something is left behind it. -/
def clock? (cs : List Char) : Option (Clock × Bool) := do
  let (parts, micro, left) ← fields? true [] 3 cs
  return (⟨parts[0]?.getD 0, parts[1]?.getD 0, parts[2]?.getD 0, micro⟩, left)

/-- Whether a character begins the offset. -/
def beginsOffset (c : Char) : Bool := c == '+' || c == '-' || c == 'Z'

/-- A time of day and the offset behind it. -/
def time? (cs : List Char) : Option (Clock × Option Int) := do
  let (clock, left) ← clock? (cs.takeWhile (!beginsOffset ·))
  match cs.dropWhile (!beginsOffset ·) with
  | [] => if left then none else some (clock, none)
  | ['Z'] => some (clock, some 0)
  | 'Z' :: _ => none
  | sign :: rest =>
    let (o, left) ← clock? rest
    if left then none
    -- an offset of less than a second counts as none
    let seconds := o.micros - o.micro
    let size : Int := if seconds = 0 then 0 else o.micros
    some (clock, some (if sign = '-' then -size else size))

end Reading

open Reading

/-- Checks that the fields name a moment. -/
def Moment.check (m : Moment) : Except MomentFault Moment :=
  let d := m.date
  let c := m.clock
  let tooLarge := match m.offset with
    | some o => if o.natAbs < 86400000000 then none else some o
    | none => none
  match tooLarge with
  | some o => .error (.offsetTooLarge o)
  | none =>
    if d.year < 1 ∨ 9999 < d.year then .error (.year d.year)
    else if d.month < 1 ∨ 12 < d.month then .error .month
    else if d.day < 1 ∨ Date.monthLength d.year d.month < d.day then .error .day
    else if 23 < c.hour then .error .hour
    else if 59 < c.minute then .error .minute
    else if 59 < c.second then .error .second
    else .ok m

/-- Reads a moment in any of the accepted forms. -/
def readMoment (s : String) : Except MomentFault Moment :=
  let cs := s.toList
  if cs.length < 7 then .error .form else
  let n := dateLength cs
  match date? (cs.take n) with
  | none => .error .form
  | some d =>
    match cs.drop n with
    | [] => Moment.check ⟨d, Clock.midnight, none⟩
    | _ :: time => match time? time with
      | none => .error .form
      | some (clock, offset) => Moment.check ⟨d, clock, offset⟩

end ConfigAudit
