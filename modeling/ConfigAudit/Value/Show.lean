/-
# Values as text

Two texts of a value: the plain one, in which a text stands for itself, and the quoted one, which
shows its kind.  Members of sequences, sets and tables are always shown quoted.  Neither is written
for a value that holds an integer of too many digits.

* `Value.plain` : the text of a value in messages;
* `Value.quoted` : the text of a value that is quoted in messages;
* `Value.isSpellable` : whether a value has these texts.
-/
import ConfigAudit.Value.Basic
import ConfigAudit.Text.Quoted
import ConfigAudit.Decimal.Read
import ConfigAudit.Decimal.Shortest

namespace ConfigAudit

namespace Calendar

/-- The quoted form of a length of time. -/
def quotedDuration (micros : Int) : String :=
  let days := micros.fdiv 86400000000
  let rest := micros.fmod 86400000000
  let seconds := rest / 1000000
  let micro := rest % 1000000
  let part (name : String) (n : Int) : List String := if n = 0 then [] else [name ++ "=" ++ toString n]
  let parts := part "days" days ++ part "seconds" seconds ++ part "microseconds" micro
  "datetime.timedelta(" ++ (if parts.isEmpty then "0" else Text.join ", " parts) ++ ")"

/-- The quoted form of an offset. -/
def quotedOffset (o : Int) : String :=
  if o = 0 then "datetime.timezone.utc" else "datetime.timezone(" ++ quotedDuration o ++ ")"

/-- The quoted form of a date. -/
def quotedDate (d : Date) : String :=
  "datetime.date(" ++ Text.join ", " [toString d.year, toString d.month, toString d.day] ++ ")"

/-- The quoted form of a moment: seconds and microseconds only if they are not zero. -/
def quotedMoment (m : Moment) : String :=
  let c := m.clock
  let fields := [m.date.year, m.date.month, m.date.day, c.hour, c.minute] ++
    (if c.micro ≠ 0 then [c.second, c.micro] else if c.second ≠ 0 then [c.second] else [])
  let zone := m.offset.elim [] fun o => ["tzinfo=" ++ quotedOffset o]
  "datetime.datetime(" ++ Text.join ", " (fields.map toString ++ zone) ++ ")"

end Calendar

/-- The plain form of an outcome. -/
def Outcome.plain (o : Outcome) : String := "ResultOption." ++ o.name

/-- The quoted form of an outcome. -/
def Outcome.quoted (o : Outcome) : String := "<" ++ o.plain ++ ": " ++ Text.quote o.text ++ ">"

namespace Value

/-- The text of a truth value. -/
def flagText (b : Bool) : String := if b then "True" else "False"

mutual

/-- The quoted text of a value. -/
def quoted : Value → String
  | null => "None"
  | flag b => flagText b
  | int n => toString n
  | float x => Decimal.shortest x
  | text s => Text.quote s
  | bytes bs => Text.quoteBytes bs
  | date d => Calendar.quotedDate d
  | moment m => Calendar.quotedMoment m
  | outcome o => o.quoted
  | list xs => "[" ++ Text.join ", " (quotedAll xs) ++ "]"
  | pair a b => "(" ++ quoted a ++ ", " ++ quoted b ++ ")"
  | set xs => if xs.isEmpty then "set()" else "\x7b" ++ Text.join ", " (quotedAll xs) ++ "\x7d"
  | table es => "\x7b" ++ Text.join ", " (quotedEntries es) ++ "\x7d"

/-- The quoted texts of several values. -/
def quotedAll : List Value → List String
  | [] => []
  | x :: xs => quoted x :: quotedAll xs

/-- The quoted texts of the entries of a table. -/
def quotedEntries : List (Value × Value) → List String
  | [] => []
  | (k, v) :: rest => (quoted k ++ ": " ++ quoted v) :: quotedEntries rest

end

/-- The plain text of a value. -/
def plain : Value → String
  | text s => s
  | date d => d.text
  | moment m => m.textWith " "
  | outcome o => o.plain
  | v => v.quoted

/-- A text stands for itself. -/
@[simp] theorem plain_text (s : String) : plain (text s) = s := rfl

/-! ## Long integers -/

/-- Whether an integer has few enough digits to be written. -/
def isShort (n : Int) : Bool := (Nat.toDigits 10 n.natAbs).length ≤ Decimal.digitLimit

/-- An integer is short if it does not have too many digits. -/
theorem isShort_iff {n : Int} :
    isShort n = true ↔ (Nat.toDigits 10 n.natAbs).length ≤ Decimal.digitLimit := decide_eq_true_iff

mutual

/-- Whether all integers in a value can be written. -/
def isSpellable : Value → Bool
  | int n => isShort n
  | list xs => allSpellable xs
  | pair a b => isSpellable a && isSpellable b
  | set xs => allSpellable xs
  | table es => entriesSpellable es
  | _ => true

/-- Whether all integers in several values can be written. -/
def allSpellable : List Value → Bool
  | [] => true
  | x :: xs => isSpellable x && allSpellable xs

/-- Whether all integers in the entries of a table can be written. -/
def entriesSpellable : List (Value × Value) → Bool
  | [] => true
  | (k, v) :: rest => isSpellable k && isSpellable v && entriesSpellable rest

end

/-- Several values can be written if each of them can. -/
theorem allSpellable_iff {xs : List Value} :
    allSpellable xs = true ↔ ∀ x ∈ xs, x.isSpellable = true := by
  induction xs with
  | nil => simp [allSpellable]
  | cons x xs ih => simp [allSpellable, ih]

/-- Entries can be written if their keys and their values can. -/
theorem entriesSpellable_iff {es : List (Value × Value)} :
    entriesSpellable es = true ↔
      ∀ e ∈ es, e.1.isSpellable = true ∧ e.2.isSpellable = true := by
  induction es with
  | nil => simp [entriesSpellable]
  | cons e es ih => simp [entriesSpellable, ih]

/-- Texts can be written. -/
@[simp] theorem isSpellable_text (s : String) : isSpellable (text s) = true := by
  rw [isSpellable]
  all_goals nofun

end Value

end ConfigAudit
