/-
# Files of policies and devices

* `loadPolicies` : the policies and exemptions of a file;
* `loadDevices` : the devices of a file.
-/
import ConfigAudit.Files
import ConfigAudit.Policy.Document

namespace ConfigAudit

/-- The document of a file; a file that holds none stops the audit. -/
def loadDocument (files : Files) (path : String) : Except Fault Value := do
  match ← files.bytes? path with
  | none => throw (.run (.missingFile (tidyPath path)))
  | some bytes => match readFile path bytes with
    | .ok v => .ok v
    | .error (.yaml _ (.codePoint n)) => .error (.yaml (tidyPath path) (.codePoint n))
    | .error (.yaml file f) => .error (.run (.invalidFile file (f.message file)))
    | .error f => .error f

/-- The policies and exemptions of a file. -/
def loadPolicies (g : PolicyReading) (files : Files) (path : String) : Except Fault PolicySet :=
  inRuleFile path do PolicySet.ofValue g (← loadDocument files path)

/-- Reads devices one after the other; what is wrong with one stops the audit. -/
def devicesOf (path : String) : List Value → Except Fault (List Device)
  | [] => .ok []
  | entry :: rest => do
    let d ← match Device.ofValue entry with
      | .ok d => pure d
      | .error f => match f.family with
        | .key | .kind | .value => throw (.run (.invalidDevice path f.message))
        | .attribute | .overflow | .index => throw (.value f)
    return d :: (← devicesOf path rest)

/-- The devices of a document: those that it lists, or the only one that it is. -/
def devicesIn (path : String) (data : Value) : Except Fault (List Device) := do
  match data with
  | .table es =>
    match Value.lookup (.text "devices") es with
    | some v => devicesOf path (← (orEmpty v).members)
    | none => devicesOf path [data]
  | _ => throw (.run (.noDevices path))

/-- The devices of a file. -/
def loadDevices (files : Files) (path : String) : Except Fault (List Device) := do
  devicesIn path (← loadDocument files path)

end ConfigAudit
