/-
# The store

The store keeps policies, rules and exemptions in three tables of a database.  A rule names its
policy and an exemption its rule by id; the ids of policies and of rules are handed out by the
database, each one more than the largest that is there.

The store is reached through calls of the database, each of which can go wrong.

* `Store` : the rows of the tables;
* `nextId` : the id of a new row;
* `Weather` : the calls that go wrong;
* `columnInteger?`, `columnText?` : values in columns.
-/
import ConfigAudit.Exemption.Basic
import ConfigAudit.Value.Convert

namespace ConfigAudit

/-! ## Rows -/

/-- A stored policy. -/
structure PolicyRow where
  /-- The id. -/
  id : Int
  /-- The name. -/
  name : String
  /-- The groups that it is for, as a document. -/
  targets : Value

/-- A stored rule. -/
structure RuleRow where
  /-- The id. -/
  id : Int
  /-- The id of its policy. -/
  policy : Int
  /-- The name. -/
  name : String
  /-- The tag of its kind. -/
  tag : String
  /-- Whether it is switched on. -/
  enabled : Bool
  /-- The definition, as a document. -/
  definition : Value

/-- A stored exemption. -/
structure ExemptionRow where
  /-- The id of the rule. -/
  rule : Int
  /-- The id of the device. -/
  device : Int
  /-- When it ends, without an offset; never if there is none. -/
  expiry : Option Moment

/-- The rows of all tables. -/
structure Store where
  /-- The policies, in order of creation. -/
  policies : List PolicyRow
  /-- The rules, in order of creation. -/
  rules : List RuleRow
  /-- The exemptions. -/
  exemptions : List ExemptionRow

/-- The store without rows. -/
def Store.empty : Store := ⟨[], [], []⟩

/-- The largest of some ids, and 0 at least. -/
def largestId (ids : List Int) : Int := ids.foldl max 0

/-- The id of a new row. -/
def nextId (ids : List Int) : Int := largestId ids + 1

/-- Starting from a larger number, the largest id is no smaller. -/
theorem le_foldl_max (ids : List Int) (a : Int) : a ≤ ids.foldl max a := by
  induction ids generalizing a with
  | nil => exact Int.le_refl a
  | cons b ids ih => exact Int.le_trans (Int.le_max_left a b) (ih (max a b))

/-- No id is larger than the largest one. -/
theorem le_foldl_of_mem (ids : List Int) (a b : Int) (h : b ∈ ids) : b ≤ ids.foldl max a := by
  induction ids generalizing a with
  | nil => simp at h
  | cons c ids ih =>
    rcases List.mem_cons.1 h with rfl | h
    · exact Int.le_trans (Int.le_max_right a b) (le_foldl_max ids (max a b))
    · exact ih (max a c) h

/-- The id of a new row is not in use. -/
theorem nextId_not_mem (ids : List Int) : nextId ids ∉ ids := by
  intro h
  have := le_foldl_of_mem ids 0 _ h
  simp only [nextId, largestId] at this
  omega

/-! ## Troubles -/

/-- The calls of a database. -/
inductive DatabaseCall where
  /-- Changes are made lasting. -/
  | commit
  /-- Rows are looked for. -/
  | query
  /-- A row is looked for by its id. -/
  | get
  deriving Repr, DecidableEq

/-- Troubles with a database that are known as such. -/
inductive Trouble where
  /-- It is out of order. -/
  | outage (message : String)
  /-- It complains of a constraint. -/
  | integrity (message : String)

/-- The fault that it is. -/
def Trouble.fault : Trouble → DatabaseFault
  | outage message => .outage message
  | integrity message => .integrity message

/-- What is out of order at the calls of a database, which are counted. -/
abbrev Weather := Nat → DatabaseCall → Option Trouble

namespace Weather

/-- Weather in which nothing is out of order. -/
def calm : Weather := fun _ _ => none

/-- Weather in which one kind of calls goes wrong all the time, or none. -/
def steady (t : Option (DatabaseCall × Trouble)) : Weather := fun _ call =>
  match t with
  | some (c, trouble) => if c = call then some trouble else none
  | none => none

end Weather

/-! ## Columns -/

/-- Whether an integer fits into a column. -/
def fitsColumn (n : Int) : Bool := -0x8000000000000000 ≤ n && n < 0x8000000000000000

/-- The integer that a value means in a column of integers, if any. -/
def columnInteger? (v : Value) : Except DatabaseFault (Option Int) :=
  match v with
  | .null => .ok none
  | .int n => if fitsColumn n then .ok (some n) else .error .integerRange
  | .flag b => .ok (some (if b then 1 else 0))
  | .float x => match Decimal.Binary.ofFloat x with
    | .finite .. => .ok (((Decimal.Binary.ofFloat x).truncate?).filter fun n =>
        Value.equal (.int n) v)
    | _ => .ok none
  | .text s => .ok (Decimal.readInteger s)
  | .outcome _ | .bytes _ | .date _ | .moment _ => .ok none
  | .list _ | .pair _ _ | .set _ | .table _ => .error .comparison

/-- The text that a value becomes in a column of texts; nothing stays nothing. -/
def columnText? (v : Value) : Except DatabaseFault (Option String) :=
  match v with
  | .null => .ok none
  | .text s => .ok (some s)
  | .outcome o => .ok (some o.text)
  | .int n => if fitsColumn n then .ok (some (toString n)) else .error .integerRange
  | .flag b => .ok (some (if b then "1" else "0"))
  | .float x => .ok (if x != x then none else some (Decimal.shortest x))
  | .date d => .ok (some d.text)
  | .moment m => .ok (some (m.textWith " "))
  | .bytes _ | .list _ | .pair _ _ | .set _ | .table _ => .error .comparison

/-- A text stays the same in a column of texts. -/
@[simp] theorem columnText_text (s : String) : columnText? (.text s) = .ok (some s) := rfl

end ConfigAudit
