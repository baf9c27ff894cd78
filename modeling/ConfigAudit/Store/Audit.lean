/-
# Audits from the store

A request names devices by their snapshots and perhaps some policies.  The policies and the
exemptions of these devices are loaded from the store, and the devices are audited in one run.

* `auditDevices` : audits devices against stored policies;
* `auditDevice` : audits one device.

Nothing is out of order while an audit lasts, and a query carries as many ids as there are.
-/
import ConfigAudit.Run.Schedule
import ConfigAudit.Store.Exemptions

namespace ConfigAudit

/-- A report with the journal of its audit. -/
structure AuditReport where
  /-- The report. -/
  report : Report
  /-- The notes that were left. -/
  journal : Journal

/-- The ids of snapshots. -/
def snapshotIds : List Value → Except ValueFault (List Int)
  | [] => .ok []
  | d :: rest => do
    let id ← (← d.index "id").toInteger
    return id :: (← snapshotIds rest)

/-- The devices of snapshots. -/
def devicesOfSnapshots : List Value → Except ValueFault (List Device)
  | [] => .ok []
  | d :: rest => do
    let device ← Device.ofValue d
    return device :: (← devicesOfSnapshots rest)

/-- The policies that a new session loads from a store. -/
def Store.loadPolicies (s : Store) (ids : Option (List Value)) : Except Fault (List Policy) :=
  (Session.opened s).outcome (Session.loadPolicies .calm .standard none ids)

/-- The exemptions that a new session loads from a store. -/
def Store.loadExemptions (s : Store) (devices : Option (List Value)) : Except Fault Register :=
  (Session.opened s).outcome (Session.loadExemptions .calm none devices)

/-- Audits devices against the stored policies of some ids, or all; the store may not be there. -/
def auditDevices (g : Setting) (runner : Runner) (store : Except StorageFault Store)
    (devices : List Value) (policies : Option (List Value)) : Except Fault AuditReport := do
  match store with
  | .error f => throw (.storage f)
  | .ok s =>
    let policies ← s.loadPolicies policies
    let ids ← snapshotIds devices
    let exemptions ← s.loadExemptions (some (ids.map .int))
    let devices ← devicesOfSnapshots devices
    let (_, journal, report) := runner.run g policies (devices.map fun d => ⟨d, some exemptions⟩)
    return ⟨← report, journal⟩

/-- Audits one device against the stored policies of some ids, or all. -/
def auditDevice (g : Setting) (runner : Runner) (store : Except StorageFault Store)
    (device : Value) (policies : Option (List Value)) : Except Fault AuditReport := do
  discard (device.get "name")
  auditDevices g runner store [device] policies

end ConfigAudit
