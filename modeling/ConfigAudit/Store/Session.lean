/-
# Sessions

A store is read and changed through a session of a database.  What an operation changes is deferred
at first; a commit writes what has been deferred and makes the rows lasting, and a rollback takes
back everything since the last commit.  The database can be out of order at any call with which
rows are looked for or changes are committed, also in the middle of an operation, and a change may
turn out not to be writable, or to break a constraint.  Then all rows are as they were at the last
commit, but the session is of no use before it has been rolled back.

* `Session`, `Pending` : what a session knows, and the changes that wait;
* `Session.Work` : steps with a session;
* `Session.commit`, `Session.undoing` : the two ways out of an operation.
-/
import ConfigAudit.Store.Rows

namespace ConfigAudit

/-! ## Reports -/

/-- A fault that the store reports in its own words, but for integers that are too large. -/
def StoreTask.report (task : StoreTask) : DatabaseFault → Fault
  | .integerRange => .database .integerRange
  | f => .storage (.failed task f)

/-- The same, with a broken constraint reported as a name that is used twice. -/
def StoreTask.reportTwice (task : StoreTask) (policy : Option PolicyRow) (name : Value) :
    DatabaseFault → Fault
  | .integrity _ => match policy with
    | some p => .duplicateRule (.text p.name) name
    | none => .value (.noOperation "NoneType" "name")
  | f => task.report f

/-! ## Changes that wait -/

/-- A change that waits to be written. -/
inductive Pending where
  /-- A new policy. -/
  | newPolicy (name : Value) (targets : List Value)
  /-- A new rule of a policy. -/
  | newRule (policy : Int) (r : Rule)
  /-- A rule in the place of another one. -/
  | changedRule (id policy : Int) (r : Rule)
  /-- An exemption, in the place of the one for the same pair. -/
  | enteredExemption (rule : Int) (device : Option Int) (expiry : Option Moment)
  /-- A policy that goes. -/
  | deletedPolicy (policy : Int)
  /-- A rule that goes. -/
  | deletedRule (rule : Int)
  /-- An exemption that goes. -/
  | deletedExemption (rule device : Int)
  /-- The row of a rule, as another program might write it. -/
  | foreignRule (policy name tag enabled definition : Value)

/-- Writes a change into the tables, whose constraints are looked after. -/
def Pending.write (s : Store) : Pending → Except DatabaseFault Store
  | newPolicy name targets => do
    let row ← s.newPolicyRow name targets
    return { s with policies := s.policies ++ [row] }
  | newRule policy r => do
    let row ← Store.ruleRow (nextId (s.rules.map (·.id))) policy r
    if s.hasRuleNamed policy row.name then throw (.integrity "")
    return { s with rules := s.rules ++ [row] }
  | changedRule id policy r => do
    let row ← Store.ruleRow id policy r
    if s.rules.any fun x => x.id != id && x.policy == policy && x.name == row.name then
      throw (.integrity "")
    return { s with rules := Store.replaceRule row s.rules }
  | enteredExemption rule device expiry => match device with
    | some device =>
      return { s with exemptions := Store.enterRow ⟨rule, device, expiry⟩ s.exemptions }
    | none => throw (.integrity "")
  | deletedPolicy policy => return { s with policies := s.policies.filter (·.id != policy) }
  | deletedRule rule => return { s with rules := s.rules.filter (·.id != rule) }
  | deletedExemption rule device =>
    return { s with exemptions := s.exemptions.filter fun e => !Store.isRowFor rule device e }
  | foreignRule policy name tag enabled definition => do
    let definition ← storedForm definition
    match ← columnInteger? policy, ← columnText? name, ← columnText? tag with
    | some policy, some name, some tag =>
      if s.hasRuleNamed policy name then throw (.integrity "")
      let id := nextId (s.rules.map (·.id))
      return { s with rules := s.rules ++ [⟨id, policy, name, tag, enabled.truthy, definition⟩] }
    | _, _, _ => throw (.integrity "")

/-! ## Sessions -/

/-- What a caller has passed to an operation. -/
inductive Passed where
  /-- No object. -/
  | nothing
  /-- A rule. -/
  | rule (r : Rule)
  /-- An exemption. -/
  | exemption (e : Exemption)

/-- A session of a database. -/
structure Session where
  /-- The rows as they were at the last commit, which is what other sessions read. -/
  stored : Store
  /-- The rows as this session reads them. -/
  rows : Store
  /-- The changes that wait to be written. -/
  pending : List Pending
  /-- Why the session is of no use, if it is not. -/
  broken : Option DatabaseFault
  /-- How many calls there have been. -/
  calls : Nat
  /-- The object that has been passed. -/
  passed : Passed

namespace Session

/-- A new session. -/
def opened (s : Store) : Session := ⟨s, s, [], none, 0, .nothing⟩

/-! ## Steps -/

section Steps

variable {ε α : Type}

/-- Steps with a session: they answer or fail, and leave the session in some state. -/
abbrev Work (ε α : Type) := EStateM ε Session α

/-- What steps come to, whatever becomes of the session. -/
def outcome (s : Session) (p : Work ε α) : Except ε α :=
  match p s with
  | .ok a _ => .ok a
  | .error e _ => .error e

/-- An answer that does not depend on the session. -/
def answer : Except ε α → Work ε α
  | .ok a => fun s => .ok a s
  | .error e => fun s => .error e s

/-- What the session reads. -/
def read : Work ε Store := fun s => .ok s.rows s

/-- Why a session that is broken does not answer. -/
def brokenMessage (f : DatabaseFault) : String :=
  "This Session's transaction has been rolled back due to a previous exception during flush. " ++
    "To begin a new transaction with this Session, first issue Session.rollback(). " ++
    "Original exception was: " ++ (f.cause?.getD "")

/-- A call of the database. -/
def reach (w : Weather) (call : DatabaseCall) : Work DatabaseFault Unit := fun s =>
  match w s.calls call, s.broken with
  | some t, _ => .error t.fault { s with calls := s.calls + 1 }
  | none, some f => .error (.outage (brokenMessage f)) { s with calls := s.calls + 1 }
  | none, none => .ok () { s with calls := s.calls + 1 }

/-- Defers a change. -/
def defer (p : Pending) : Work ε Unit := fun s => .ok () { s with pending := s.pending ++ [p] }

/-- Deletes the exemptions from a rule at once, and counts them. -/
def dropExemptions (w : Weather) (rule : Int) : Work DatabaseFault Nat := do
  reach w .query
  fun s => .ok (s.rows.exemptions.countP (·.rule == rule)) { s with
    rows := { s.rows with exemptions := s.rows.exemptions.filter (·.rule != rule) } }

/-- Writes all changes that wait; if one cannot be written, all is as at the last commit, and the
session is broken. -/
def write : Work DatabaseFault Unit := fun s =>
  match s.pending.foldlM Pending.write s.rows with
  | .ok rows => .ok () { s with rows := rows, pending := [] }
  | .error f => .error f { s with rows := s.stored, pending := [], broken := some f }

/-- Writes all changes that wait and makes the rows lasting. -/
def commit (w : Weather) : Work DatabaseFault Unit := do
  reach w .commit
  write
  fun s => .ok () { s with stored := s.rows }

/-- Takes back everything since the last commit. -/
def rollback (s : Session) : Session := { s with rows := s.stored, pending := [], broken := none }

/-- Steps whose faults are reported. -/
def reporting (report : DatabaseFault → Fault) (p : Work DatabaseFault α) : Work Fault α := fun s =>
  match p s with
  | .ok a s' => .ok a s'
  | .error f s' => .error (report f) s'

/-- Steps that are taken back if they fail; only an integer that is too large is no fault of the
database and passes by. -/
def undoing (report : DatabaseFault → Fault) (p : Work DatabaseFault α) : Work Fault α := fun s =>
  match p s with
  | .ok a s' => .ok a s'
  | .error .integerRange s' => .error (report .integerRange) s'
  | .error f s' => .error (report f) s'.rollback

end Steps

end Session

end ConfigAudit
