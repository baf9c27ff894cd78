/-
# Calendar dates

Dates of the Gregorian calendar from year 1 to year 9999, also before it was introduced, and the
count of days that orders them.

* `Date.ordinal` : days since the last day before year 1;
* `ofOrdinal` : the date of a day count;
* `ofWeek` : the date of a day in a numbered week.
-/

namespace ConfigAudit

/-- A day of the calendar. -/
structure Date where
  /-- Year, from 1. -/
  year : Nat
  /-- Month, from 1 to 12. -/
  month : Nat
  /-- Day of the month, from 1. -/
  day : Nat
  deriving Repr, DecidableEq, Inhabited

namespace Date

/-! ## Lengths -/

/-- Whether a year has a 29th of February. -/
def isLeap (y : Nat) : Bool := y % 4 == 0 && (y % 100 != 0 || y % 400 == 0)

/-- The number of days of a month. -/
def monthLength (y m : Nat) : Nat :=
  if m = 2 then (if isLeap y then 29 else 28)
  else if m = 4 ∨ m = 6 ∨ m = 9 ∨ m = 11 then 30
  else 31

/-- The number of days before the first month of a year. -/
def daysBeforeYear (y : Nat) : Nat :=
  let p := y - 1
  p * 365 + p / 4 - p / 100 + p / 400

/-- The number of days of a year before a month. -/
def daysBeforeMonth (y : Nat) : Nat → Nat
  | 0 => 0
  | 1 => 0
  | m + 2 => daysBeforeMonth y (m + 1) + monthLength y (m + 1)

/-- Whether year, month and day name a day of the calendar. -/
def isValid (d : Date) : Bool :=
  1 ≤ d.year && d.year ≤ 9999 && 1 ≤ d.month && d.month ≤ 12 &&
    1 ≤ d.day && d.day ≤ monthLength d.year d.month

/-! ## Day counts -/

/-- The day count: 1 for the first day of year 1. -/
def ordinal (d : Date) : Nat := daysBeforeYear d.year + daysBeforeMonth d.year d.month + d.day

/-- The day of the week of a date, 0 for Monday. -/
def weekday (d : Date) : Nat := (d.ordinal + 6) % 7

/-- Finds the month of a day of a year, from month `m` on. -/
def findMonth (y : Nat) : Nat → Nat → Nat → Nat × Nat
  | 0, m, day => (m, day)
  | fuel + 1, m, day =>
    if day ≤ monthLength y m then (m, day) else findMonth y fuel (m + 1) (day - monthLength y m)

/-- The date of a day count. -/
def ofOrdinal (n : Nat) : Date :=
  let k := n - 1
  let n400 := k / 146097
  let k := k % 146097
  let n100 := k / 36524
  let k := k % 36524
  let n4 := k / 1461
  let k := k % 1461
  let n1 := k / 365
  let k := k % 365
  let year := n400 * 400 + n100 * 100 + n4 * 4 + n1 + 1
  if n1 = 4 ∨ n100 = 4 then ⟨year - 1, 12, 31⟩
  else
    let (m, day) := findMonth year 11 1 (k + 1)
    ⟨year, m, day⟩

/-! ## Weeks -/

/-- The day count of the Monday of the first week of a year, the week of its first Thursday. -/
def firstMonday (y : Nat) : Nat :=
  let first := ordinal ⟨y, 1, 1⟩
  let w := (first + 6) % 7
  let monday := first - w
  if w > 3 then monday + 7 else monday

/-- Whether a year has 53 weeks: it begins on a Thursday, or is a leap year and begins on a
Wednesday. -/
def hasLongYear (y : Nat) : Bool :=
  let w := weekday ⟨y, 1, 1⟩
  w == 3 || (w == 2 && isLeap y)

/-- The date of a day, from 1 for Monday, of a week of a year. -/
def ofWeek? (y week day : Nat) : Option Date :=
  if y < 1 ∨ 9999 < y then none
  else if week < 1 ∨ 53 < week ∨ (week = 53 ∧ !hasLongYear y) then none
  else if day < 1 ∨ 7 < day then none
  else some (ofOrdinal (firstMonday y + (week - 1) * 7 + (day - 1)))

/-! ## Text -/

/-- A number with at least `width` digits. -/
def padded (width n : Nat) : String :=
  let ds := Nat.toDigits 10 n
  String.ofList (List.replicate (width - ds.length) '0' ++ ds)

/-- Year, month and day with dashes. -/
def text (d : Date) : String := padded 4 d.year ++ "-" ++ padded 2 d.month ++ "-" ++ padded 2 d.day

end Date

end ConfigAudit
