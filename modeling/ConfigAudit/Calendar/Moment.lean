/-
# Moments in time

A moment is a date, a time of day to the microsecond, and perhaps an offset from universal time.
A moment without an offset is read as universal time wherever it is compared.

* `Moment.instant` : microseconds on the universal time line;
* `Moment.isBefore` : the order of two moments;
* `Moment.text` : the written form, which `Calendar.Reading` reads back.
-/
import ConfigAudit.Calendar.Date

namespace ConfigAudit

/-- A time of day. -/
structure Clock where
  /-- Hour, from 0 to 23. -/
  hour : Nat
  /-- Minute, from 0 to 59. -/
  minute : Nat
  /-- Second, from 0 to 59. -/
  second : Nat
  /-- Microsecond, from 0 to 999999. -/
  micro : Nat
  deriving Repr, DecidableEq, Inhabited

/-- A date and a time of day, with the offset from universal time in microseconds if known. -/
structure Moment where
  /-- The day. -/
  date : Date
  /-- The time of that day. -/
  clock : Clock
  /-- Microseconds ahead of universal time. -/
  offset : Option Int
  deriving Repr, DecidableEq, Inhabited

namespace Clock

/-- Midnight. -/
def midnight : Clock := ⟨0, 0, 0, 0⟩

/-- Microseconds since midnight. -/
def micros (c : Clock) : Nat := ((c.hour * 60 + c.minute) * 60 + c.second) * 1000000 + c.micro

/-- Hours, minutes and seconds, and the microseconds if there are any. -/
def text (c : Clock) : String :=
  Date.padded 2 c.hour ++ ":" ++ Date.padded 2 c.minute ++ ":" ++ Date.padded 2 c.second ++
    (if c.micro = 0 then "" else "." ++ Date.padded 6 c.micro)

/-- The clock that shows some microseconds since midnight. -/
def ofMicros (n : Nat) : Clock :=
  ⟨n / 3600000000, n / 60000000 % 60, n / 1000000 % 60, n % 1000000⟩

end Clock

namespace Moment

/-! ## Order -/

/-- Microseconds of a day. -/
def dayMicros : Int := 86400000000

/-- The fields of a moment as one count, without regard to the offset. -/
def localMicros (m : Moment) : Int := (m.date.ordinal : Int) * dayMicros + m.clock.micros

/-- The place of a moment on the universal time line. -/
def instant (m : Moment) : Int := m.localMicros - m.offset.getD 0

/-- Whether one moment comes strictly before another. -/
def isBefore (a b : Moment) : Bool := a.instant < b.instant

/-- The same fields, read as universal time if no offset is known. -/
def assumeUniversal (m : Moment) : Moment := { m with offset := some (m.offset.getD 0) }

/-- The same fields with the offset forgotten. -/
def withoutOffset (m : Moment) : Moment := { m with offset := none }

/-- The day that universal time is usually counted from. -/
def epoch : Date := ⟨1970, 1, 1⟩

/-- The moment, in universal time, of some microseconds since the epoch. -/
def ofEpoch (micros : Nat) : Moment :=
  ⟨Date.ofOrdinal (epoch.ordinal + micros / 86400000000), Clock.ofMicros (micros % 86400000000),
    some 0⟩

/-- Assuming universal time does not move a moment. -/
theorem instant_assumeUniversal (m : Moment) : m.assumeUniversal.instant = m.instant := by
  simp [assumeUniversal, instant, localMicros]

/-- Two moments are the same if they agree as instants, or as fields when neither has an offset;
a moment with an offset is never the same as one without. -/
def same (a b : Moment) : Bool :=
  match a.offset, b.offset with
  | none, none => a.localMicros == b.localMicros
  | some _, some _ => a.instant == b.instant
  | _, _ => false

/-! ## Text -/

/-- The written form of an offset. -/
def offsetText (o : Int) : String :=
  let sign := if o < 0 then "-" else "+"
  let n := o.natAbs
  let micro := n % 1000000
  let second := n / 1000000 % 60
  let minute := n / 60000000 % 60
  let hour := n / 3600000000
  sign ++ Date.padded 2 hour ++ ":" ++ Date.padded 2 minute ++
    (if second = 0 ∧ micro = 0 then "" else ":" ++ Date.padded 2 second) ++
    (if micro = 0 then "" else "." ++ Date.padded 6 micro)

/-- The written form with a given separator between date and time. -/
def textWith (separator : String) (m : Moment) : String :=
  m.date.text ++ separator ++ m.clock.text ++ (m.offset.elim "" offsetText)

/-- The standard written form. -/
def text (m : Moment) : String := textWith "T" m

/-- The first moment of a day in universal time. -/
def ofDate (d : Date) : Moment := ⟨d, Clock.midnight, some 0⟩

end Moment

end ConfigAudit
