/-
# Handing out ids

A document may give ids to some of its policies and rules and leave others without.  Ids that are
given are kept; the others receive the smallest positive numbers that the document uses nowhere,
in order.

* `IdPool.make` : learns which ids a document asks for;
* `IdPool.allocate` : the id of the next entry.
-/
import ConfigAudit.Fault
import ConfigAudit.Value.Convert

namespace ConfigAudit

/-- The ids of a document, as far as they are known. -/
structure IdPool where
  /-- What the ids are for. -/
  label : String
  /-- The ids that the document asks for anywhere. -/
  reserved : List Int
  /-- The ids that are taken. -/
  claimed : List Int
  /-- Where the search for a free id goes on. -/
  cursor : Int

namespace IdPool

/-- The first number from `n` on that is not taken; `fuel` bounds the search. -/
def firstFree (taken : List Int) : Nat → Int → Int
  | 0, n => n
  | fuel + 1, n => if n ∈ taken then firstFree taken fuel (n + 1) else n

/-- The next free id: as many steps as there are taken ids are enough to find one. -/
def nextFree (p : IdPool) : Int :=
  let taken := p.reserved ++ p.claimed
  firstFree taken (taken.length + 1) p.cursor

/-- The id that a value asks for, if it is set. -/
def asked (v : Value) : Except ValueFault (List Int) := do
  if v.truthy then return [← v.toInteger]
  return []

/-- The pool of a document that asks for the given ids. -/
def make (label : String) (reserved : List Int) : IdPool := ⟨label, reserved, [], 1⟩

/-- The id of an entry that asks for one, or for none. -/
def allocate (p : IdPool) (requested : Value) : Except Fault (Int × IdPool) :=
  if requested.truthy then do
    let id ← requested.toInteger
    if id ∈ p.claimed then throw (Fault.run (.duplicateId p.label id)).worded
    return (id, { p with claimed := id :: p.claimed })
  else
    let id := p.nextFree
    .ok (id, { p with claimed := id :: p.claimed, cursor := id })

end IdPool

end ConfigAudit
