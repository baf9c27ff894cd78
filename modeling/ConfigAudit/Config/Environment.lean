/-
# Variables in configurations

A text of a configuration can refer to a variable of the environment by its name, which is a word
behind a dollar sign or anything between braces behind one.  Variables that are not set are left
as they are written.

* `Environment` : the variables;
* `Environment.expand` : a text with its variables replaced;
* `Environment.expandAll` : a document with its texts expanded; keys are left alone.
-/
import ConfigAudit.Value.Convert

namespace ConfigAudit

/-- The variables of an environment. -/
abbrev Environment := List (String × String)

namespace Environment

/-- The characters of words. -/
def isWord (c : Char) : Bool := c.isAlphanum || c == '_'

/-- The characters up to a closing brace, and those behind it. -/
def braced? (name : List Char) : List Char → Option (List Char × List Char)
  | [] => none
  | c :: rest =>
    if c == '\x7d' then some (name.reverse, rest) else braced? (c :: name) rest

/-- The name of the variable behind a dollar sign, if there is one, and its length as it is
written. -/
def reference? (cs : List Char) : Option (String × Nat) :=
  match cs with
  | '\x7b' :: rest => (braced? [] rest).map fun r => (String.ofList r.1, r.1.length + 2)
  | cs =>
    let word := cs.takeWhile isWord
    if word.isEmpty then none else some (String.ofList word, word.length)

/-- Replaces variables; `skip` is the number of characters that have been dealt with. -/
def expandFrom (env : Environment) (skip : Nat) : List Char → List Char
  | [] => []
  | c :: rest =>
    match skip with
    | n + 1 => expandFrom env n rest
    | 0 =>
      if c == '$' then
        match reference? rest with
        | some (name, n) => match env.lookup name with
          | some value => value.toList ++ expandFrom env n rest
          | none => c :: rest.take n ++ expandFrom env n rest
        | none => c :: expandFrom env 0 rest
      else c :: expandFrom env 0 rest

/-- A text with its variables replaced. -/
def expand (env : Environment) (s : String) : String := String.ofList (expandFrom env 0 s.toList)

/-- The names that a text refers to. -/
def references : List Char → List String
  | [] => []
  | c :: rest =>
    let here := if c == '$' then (reference? rest).map (·.1) else none
    here.toList ++ references rest

mutual

/-- A document with its texts expanded; keys are left alone. -/
def expandAll (env : Environment) : Value → Value
  | .text s => .text (env.expand s)
  | .list xs => .list (expandItems env xs)
  | .table es => .table (expandEntries env es)
  | v => v

/-- The members of a sequence, expanded. -/
def expandItems (env : Environment) : List Value → List Value
  | [] => []
  | x :: xs => expandAll env x :: expandItems env xs

/-- The entries of a table, expanded. -/
def expandEntries (env : Environment) : List (Value × Value) → List (Value × Value)
  | [] => []
  | (k, v) :: es => (k, expandAll env v) :: expandEntries env es

end

end Environment

end ConfigAudit
