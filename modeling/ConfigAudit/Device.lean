/-
# Devices

A device is described by a snapshot: who it is, what drives it, which groups it belongs to, and
the configuration data that was fetched from it.  A device is checked together with the register
of exemptions that it has to consult.

* `Device.ofValue` : reads a device from a document;
* `Device.configuration` : configuration data under a name;
* `Device.payload` : the document form that scripts see.
-/
import ConfigAudit.Exemption.Register

namespace ConfigAudit

/-- A snapshot of a device. -/
structure Device where
  /-- Its id. -/
  id : Int
  /-- Its name. -/
  name : Value
  /-- What drives it. -/
  driver : Value
  /-- The family of devices that it belongs to. -/
  family : Value
  /-- The groups that it belongs to. -/
  groups : List Value
  /-- Its configuration data. -/
  attributes : List (Value × Value)

namespace Device

/-- Reads a device from a document. -/
def ofValue (data : Value) : Except ValueFault Device := do
  let id ← (← data.index "id").toInteger
  let name ← data.index "name"
  let driver ← data.getOr "driver" (.text "")
  let family ← data.getOr "family" (.text "")
  let groups ← (← data.getOr "groups" (.list [])).memberSet
  let attributes ← data.getOr "attributes" (.table [])
  let attributes ← if attributes.truthy then attributes.toEntries else pure []
  return ⟨id, name, driver, family, groups, attributes⟩

/-- The configuration data under a name, if it is there and not nothing. -/
def configuration? (d : Device) (name : Value) : Except ValueFault (Option Value) := do
  let key ← name.asKey
  match Value.lookup key d.attributes with
  | none => return none
  | some .null => return none
  | some v => return some v

/-- The configuration data under a name. -/
def configuration (d : Device) (name : Value) : Except Fault Value := do
  match ← d.configuration? name with
  | some v => return v
  | none => throw (.evaluation (.missingConfiguration (← d.name.spell) (← name.spell)))

/-- The document form that scripts see. -/
def payload (d : Device) : Except ValueFault Value := do
  return .record [("id", .int d.id), ("name", d.name), ("driver", d.driver), ("family", d.family),
    ("groups", .list (← Value.sorted d.groups)), ("config", .table d.attributes)]

end Device

/-- A device with the register of exemptions that it has to consult, if any. -/
structure Subject where
  /-- The device. -/
  device : Device
  /-- The exemptions. -/
  register : Option Register

namespace Subject

/-- Whether the device is excused from a rule at an instant. -/
def isExempted (s : Subject) (rule : Value) (now : Moment) : Except ValueFault Bool :=
  match s.register with
  | none => .ok false
  | some r => do
    let rule ← rule.asKey
    return r.isExempted rule (.int s.device.id) now

end Subject

end ConfigAudit
