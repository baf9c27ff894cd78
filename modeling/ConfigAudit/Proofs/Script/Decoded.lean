/-
# What can be read

Of all values only those that have a place in the exchange format are ever read from a text: no
outcome, no date and no set, and no table whose keys are not texts.

* `Json.Decoded` : these values;
* `Json.DecodesWithin` : that reading within a bound comes to them, part by part;
* `Json.decoded_of_parse` : that reading comes to them.
-/
import ConfigAudit.Proofs.Chain
import ConfigAudit.Script.Json

namespace ConfigAudit

namespace Json

/-- The values that can be read. -/
inductive Decoded : Value → Prop where
  /-- Nothing. -/
  | null : Decoded .null
  /-- A truth value. -/
  | flag (b : Bool) : Decoded (.flag b)
  /-- An integer. -/
  | int (n : Int) : Decoded (.int n)
  /-- A floating-point number. -/
  | float (x : Float) : Decoded (.float x)
  /-- A text. -/
  | text (s : String) : Decoded (.text s)
  /-- A list. -/
  | list {xs : List Value} (members : ∀ x ∈ xs, Decoded x) : Decoded (.list xs)
  /-- A table. -/
  | table {es : List (Value × Value)} (keys : ∀ e ∈ es, ∃ k, e.1 = .text k)
      (members : ∀ e ∈ es, Decoded e.2) : Decoded (.table es)

/-- Putting a value under a text keeps to keys that are texts. -/
theorem texts_of_mem_put {k : String} {v : Value} {es : List (Value × Value)}
    (hes : ∀ e ∈ es, ∃ k, e.1 = .text k) : ∀ e ∈ Value.put (.text k) v es, ∃ k, e.1 = .text k := by
  induction es with
  | nil =>
      intro e he
      cases List.mem_singleton.1 he
      exact ⟨k, rfl⟩
  | cons first rest ih =>
      obtain ⟨hfirst, hrest⟩ := List.forall_mem_cons.1 hes
      rw [Value.put]
      split
      · exact List.forall_mem_cons.2 ⟨hfirst, hrest⟩
      · exact List.forall_mem_cons.2 ⟨hfirst, ih hrest⟩

/-- Putting a value into a table keeps to the values that can be read. -/
theorem decoded_of_mem_put {k v : Value} {es : List (Value × Value)} (hv : Decoded v)
    (hes : ∀ e ∈ es, Decoded e.2) : ∀ e ∈ Value.put k v es, Decoded e.2 := by
  induction es with
  | nil =>
      intro e he
      cases List.mem_singleton.1 he
      exact hv
  | cons first rest ih =>
      obtain ⟨hfirst, hrest⟩ := List.forall_mem_cons.1 hes
      rw [Value.put]
      split
      · exact List.forall_mem_cons.2 ⟨hv, hrest⟩
      · exact List.forall_mem_cons.2 ⟨hfirst, ih hrest⟩

/-- What is found in a table can be read if the table can. -/
theorem Decoded.lookup {key v : Value} {es : List (Value × Value)} (h : Decoded (.table es))
    (found : Value.lookup key es = some v) : Decoded v := by
  cases h with
  | table keys members =>
      clear keys
      induction es with
      | nil => cases found
      | cons first rest ih =>
          obtain ⟨hfirst, hrest⟩ := List.forall_mem_cons.1 members
          rw [Value.lookup] at found
          split at found
          · cases found
            exact hfirst
          · exact ih found hrest

/-- Words stand for such values. -/
theorem decoded_of_wordValue? {cs rest : List Char} {v : Value}
    (h : wordValue? cs = some (v, rest)) : Decoded v := by
  obtain ⟨w, hw, hword⟩ := List.exists_of_findSome?_eq_some h
  obtain ⟨rest', _, heq⟩ := Option.map_eq_some_iff.1 hword
  obtain ⟨rfl, _⟩ := Prod.mk.inj heq
  have hall : ∀ w ∈ words, Decoded w.2 := by
    simp only [words, List.forall_mem_cons]
    exact ⟨.null, .flag _, .flag _, .float _, .float _, .float _, nofun⟩
  exact hall w hw

/-- Something is there. -/
theorem expected_eq_ok_iff {α : Type} {o : Option α} {a : α} :
    expected o = .ok a ↔ o = some a := by
  cases o <;> simp [expected]

/-- Numbers are such values. -/
theorem decoded_of_parseNumber {cs rest : List Char} {v : Value}
    (h : parseNumber cs = .ok (v, rest)) : Decoded v := by
  unfold parseNumber at h
  obtain ⟨_, _, h⟩ := bind_eq_ok_iff.1 h
  simp only at h
  split at h
  · split at h
    · cases h
    · obtain ⟨n, _, h⟩ := bind_eq_ok_iff.1 h
      cases h
      exact .int n
  · obtain ⟨x, _, h⟩ := bind_eq_ok_iff.1 h
    cases h
    exact .float x

/-- What is read within a bound is such a value. -/
structure DecodesWithin (fuel : Nat) : Prop where
  /-- A value. -/
  value : ∀ cs v rest, parseValue fuel cs = .ok (v, rest) → Decoded v
  /-- The elements of a list, behind others. -/
  elements : ∀ acc cs v rest, (∀ x ∈ acc, Decoded x) → parseElements fuel acc cs = .ok (v, rest) →
    Decoded v
  /-- The entries of a table, behind others. -/
  entries : ∀ acc cs v rest, (∀ e ∈ acc, ∃ k, e.1 = .text k) → (∀ e ∈ acc, Decoded e.2) →
    parseEntries fuel acc cs = .ok (v, rest) → Decoded v

namespace DecodesWithin

variable {fuel : Nat} {cs rest : List Char} {v : Value}

/-- A value is read from its parts. -/
theorem parseValue_succ (within : DecodesWithin fuel)
    (h : parseValue (fuel + 1) cs = .ok (v, rest)) : Decoded v := by
  rw [parseValue.eq_def] at h
  simp only at h
  split at h
  · cases h
  · split at h
    · cases h
      exact .list (List.forall_mem_nil _)
    · exact within.elements [] _ _ _ (List.forall_mem_nil _) h
  · split at h
    · cases h
      exact .table (List.forall_mem_nil _) (List.forall_mem_nil _)
    · exact within.entries [] _ _ _ (List.forall_mem_nil _) (List.forall_mem_nil _) h
  · split at h
    · obtain ⟨r, _, heq⟩ := Option.map_eq_some_iff.1 (expected_eq_ok_iff.1 h)
      cases heq
      exact .text r.1
    · split at h
      · rename_i hword
        cases h
        exact decoded_of_wordValue? hword
      · exact decoded_of_parseNumber h

/-- Elements are read one after the other. -/
theorem parseElements_succ (within : DecodesWithin fuel) {acc : List Value}
    (hacc : ∀ x ∈ acc, Decoded x) (h : parseElements (fuel + 1) acc cs = .ok (v, rest)) :
    Decoded v := by
  rw [parseElements] at h
  obtain ⟨⟨x, rest'⟩, hx, h⟩ := bind_eq_ok_iff.1 h
  have hall : ∀ y ∈ x :: acc, Decoded y :=
    List.forall_mem_cons.2 ⟨within.value _ _ _ hx, hacc⟩
  simp only at h
  split at h
  · exact within.elements _ _ _ _ hall h
  · cases h
    exact .list fun y hy => hall y (List.mem_reverse.1 hy)
  · cases h

/-- Entries are read one after the other. -/
theorem parseEntries_succ (within : DecodesWithin fuel) {acc : List (Value × Value)}
    (hkeys : ∀ e ∈ acc, ∃ k, e.1 = .text k) (hacc : ∀ e ∈ acc, Decoded e.2)
    (h : parseEntries (fuel + 1) acc cs = .ok (v, rest)) : Decoded v := by
  rw [parseEntries.eq_def] at h
  simp only at h
  split at h
  · split at h
    · obtain ⟨⟨key, rest'⟩, _, h⟩ := bind_eq_ok_iff.1 h
      simp only at h
      split at h
      · obtain ⟨⟨x, rest''⟩, hx, h⟩ := bind_eq_ok_iff.1 h
        have hkeys' := texts_of_mem_put (k := key) (v := x) hkeys
        have hall := decoded_of_mem_put (k := .text key) (within.value _ _ _ hx) hacc
        simp only at h
        split at h
        · exact within.entries _ _ _ _ hkeys' hall h
        · cases h
          exact .table hkeys' hall
        · cases h
      · cases h
    · cases h
  · cases h

end DecodesWithin

/-- Whatever the bound is, what is read is such a value. -/
theorem decodesWithin (fuel : Nat) : DecodesWithin fuel := by
  induction fuel with
  | zero =>
      refine ⟨?_, ?_, ?_⟩
      · intro cs v rest h
        cases h
      · intro acc cs v rest _ h
        cases h
      · intro acc cs v rest _ _ h
        cases h
  | succ fuel ih =>
      exact ⟨fun _ _ _ => ih.parseValue_succ, fun _ _ _ _ => ih.parseElements_succ,
        fun _ _ _ _ => ih.parseEntries_succ⟩

/-- **What is read.**  A value that is read is made of nothing, truth values, numbers and texts. -/
theorem decoded_of_parse {s : String} {v : Value} (h : parse s = .ok v) : Decoded v := by
  obtain ⟨⟨v', rest⟩, hread, hrest⟩ := bind_eq_ok_iff.1 h
  have hdecoded := (decodesWithin _).value _ _ _ hread
  simp only at hrest
  split at hrest
  · cases hrest
    exact hdecoded
  · cases hrest

end Json

end ConfigAudit
