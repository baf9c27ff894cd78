/-
# Stored exemptions

* `Session.addExemption`, `Session.removeExemption` : changes;
* `Session.loadExemptions` : the register of all exemptions, or of those of some devices.

The database keeps the date and the time of an expiry and forgets its offset.
-/
import ConfigAudit.Store.Rules

namespace ConfigAudit

namespace Session

variable (w : Weather)

/-- Stores an exemption from a stored rule; the one for the same pair is looked for first. -/
def addExemption (e : Exemption) : Work Fault Exemption := do
  let r ← findRule w e.rule
  undoing StoreTask.saveExemption.report do
    reach w .get
    let device ← answer (columnInteger? e.device)
    defer (.enteredExemption r.id device (e.expiry.map Moment.withoutOffset))
    commit w
  return e

/-- Removes the exemption of a pair, and says whether there was one. -/
def removeExemption (rule device : Value) : Work Fault Bool :=
  undoing StoreTask.removeExemption.report do
    reach w .get
    match ← answer (columnInteger? rule), ← answer (columnInteger? device) with
    | some n, some d =>
      if (← read).exemptions.any (Store.isRowFor n d) then
        defer (.deletedExemption n d)
        commit w
        return true
      else return false
    | _, _ => return false

/-- Loads exemptions, all or those of some devices. -/
def loadExemptions (limit : Option Nat) (devices : Option (List Value)) : Work Fault Register := do
  let ids ← reporting StoreTask.loadExemptions.report do
    reach w .query
    answer (Store.restriction limit devices)
  return (← read).registerOf ids

end Session

end ConfigAudit
