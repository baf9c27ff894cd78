/-
# Exemptions

An exemption excuses one device from one rule, for good or up to an instant.

* `Exemption.isActive` : whether an exemption still holds at an instant;
* `Exemption.record` : its document form;
* `readExpiry` : reads the instant from a document.
-/
import ConfigAudit.Fault
import ConfigAudit.Value.Convert

namespace ConfigAudit

/-- An exemption of a device from a rule. -/
structure Exemption where
  /-- The id of the rule. -/
  rule : Value
  /-- The id of the device. -/
  device : Value
  /-- When it ends, if ever. -/
  expiry : Option Moment

namespace Exemption

/-- Whether an exemption holds at an instant: one that ends at that very instant does not. -/
def isActive (e : Exemption) (now : Moment) : Bool := e.expiry.all fun m => now.isBefore m

/-- An exemption without an end always holds. -/
@[simp] theorem isActive_forever (r d : Value) (now : Moment) : isActive ⟨r, d, none⟩ now = true := rfl

/-- An exemption with an end holds strictly before it. -/
@[simp] theorem isActive_until (r d : Value) (m now : Moment) :
    isActive ⟨r, d, some m⟩ now = now.isBefore m := rfl

/-- Whether an exemption concerns a pair of a rule and a device. -/
def isFor (rule device : Value) (e : Exemption) : Bool :=
  Value.equal e.rule rule && Value.equal e.device device

/-- Whether two exemptions agree in all they say. -/
def same (a b : Exemption) : Bool :=
  Value.equal a.rule b.rule && Value.equal a.device b.device &&
    match a.expiry, b.expiry with
    | none, none => true
    | some m, some n => m.same n
    | _, _ => false

/-- The document form of an expiry. -/
def expiryValue (e : Option Moment) : Value := e.elim .null fun m => .text m.text

/-- The document form of an exemption. -/
def record (e : Exemption) : Value :=
  .record [("rule_id", e.rule), ("device_id", e.device), ("expiration_date", expiryValue e.expiry)]

end Exemption

/-! ## Reading expiries -/

/-- Spells out a final mark of universal time. -/
def spellUniversal (s : String) : String :=
  if Text.endsWith s "Z" then String.ofList (s.toList.take (s.toList.length - 1)) ++ "+00:00" else s

/-- Reads an expiry: nothing, a moment, or the text of one; without an offset it is universal
time. -/
def readExpiry (v : Value) : Except Fault (Option Moment) :=
  match v with
  | .null => .ok none
  | .moment m => .ok (some m.assumeUniversal)
  | v =>
    if Value.equal v (.text "") then .ok none
    else match v.spell with
      | .error f => .error (.value f)
      | .ok s => match readMoment (spellUniversal (Text.strip s)) with
        | .ok m => .ok (some m.assumeUniversal)
        | .error _ => .error (.run (.invalidDate v))

/-- Nothing is no expiry. -/
theorem readExpiry_null : readExpiry .null = .ok none := rfl

/-- A moment is its own expiry, in universal time. -/
theorem readExpiry_moment (m : Moment) : readExpiry (.moment m) = .ok (some m.assumeUniversal) := rfl

end ConfigAudit
