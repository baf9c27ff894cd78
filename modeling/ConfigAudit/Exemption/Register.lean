/-
# The register of exemptions

All exemptions, at most one for each pair of a rule and a device, in the order in which the pairs
came in.  A pair that is entered again keeps its place; one that is removed and entered again
goes last.

* `Register.add`, `Register.remove`, `Register.clearRule`, `Register.purge` : changes;
* `Register.find?`, `Register.isExempted` : questions.
-/
import ConfigAudit.Exemption.Basic

namespace ConfigAudit

/-- Exemptions in the order in which their pairs came in. -/
structure Register where
  /-- The exemptions. -/
  entries : List Exemption

namespace Register

/-! ## Changes -/

/-- The empty register. -/
def empty : Register := ⟨[]⟩

/-- Enters an exemption into a list, in the place of the one for the same pair. -/
def insert (e : Exemption) : List Exemption → List Exemption
  | [] => [e]
  | x :: xs => if x.isFor e.rule e.device then e :: xs else x :: insert e xs

/-- Enters an exemption. -/
def add (r : Register) (e : Exemption) : Register := ⟨insert e r.entries⟩

/-- The register of several exemptions, entered one after the other. -/
def ofList (es : List Exemption) : Register := es.foldl add empty

/-- Takes the exemption of a pair out of a list. -/
def erase (rule device : Value) : List Exemption → List Exemption
  | [] => []
  | x :: xs => if x.isFor rule device then xs else x :: erase rule device xs

/-- Removes the exemption of a pair, and says whether there was one. -/
def remove (r : Register) (rule device : Value) : Register × Bool :=
  (⟨erase rule device r.entries⟩, r.entries.any (·.isFor rule device))

/-- Removes the exemptions with a property, and counts them. -/
def dropIf (r : Register) (p : Exemption → Bool) : Register × Nat :=
  (⟨r.entries.filter fun e => !p e⟩, (r.entries.filter p).length)

/-- Removes all exemptions of a rule, and counts them. -/
def clearRule (r : Register) (rule : Value) : Register × Nat :=
  r.dropIf fun e => Value.equal e.rule rule

/-- Removes all exemptions that no longer hold, and counts them. -/
def purge (r : Register) (now : Moment) : Register × Nat := r.dropIf fun e => !e.isActive now

/-! ## Questions -/

/-- The exemption of a pair. -/
def find? (r : Register) (rule device : Value) : Option Exemption :=
  r.entries.find? (·.isFor rule device)

/-- Whether a device is excused from a rule at an instant. -/
def isExempted (r : Register) (rule device : Value) (now : Moment) : Bool :=
  (r.find? rule device).any (·.isActive now)

/-- The exemptions of a rule. -/
def forRule (r : Register) (rule : Value) : List Exemption :=
  r.entries.filter fun e => Value.equal e.rule rule

/-- The exemptions of a device. -/
def forDevice (r : Register) (device : Value) : List Exemption :=
  r.entries.filter fun e => Value.equal e.device device

/-- The number of exemptions. -/
def size (r : Register) : Nat := r.entries.length

/-- Whether the register holds exactly this exemption. -/
def holds (r : Register) (e : Exemption) : Bool := (r.find? e.rule e.device).any (·.same e)

/-- Nothing is exempted in the empty register. -/
@[simp] theorem isExempted_empty (rule device : Value) (now : Moment) :
    isExempted empty rule device now = false := rfl

/-! ## Keys -/

/-- A pair of ids as a key; ids that cannot be keys are refused. -/
def asKeys (rule device : Value) : Except ValueFault (Value × Value) := do
  return (← rule.asKey, ← device.asKey)

/-- The id that a plain value stands for. -/
def identity : Value → Except ValueFault Value
  | .int n => .ok (.int n)
  | .flag b => .ok (.flag b)
  | v => .error (.noOperation v.fullKind "id")

end Register

end ConfigAudit
