/-
# What can go wrong with a value

A value is asked for more than its kind offers: a key, a member, a number.  Each way to fail is
a cause of its own, with what the message needs to know.

* `ValueFault` : the causes;
* `Family` : the few classes of causes that callers tell apart;
* `ValueFault.message` : the wording;
* `Value.spell` : the text of a value, if it has one.
-/
import ConfigAudit.Value.Show

namespace ConfigAudit

/-- A cause of failure in the use of a value. -/
inductive ValueFault where
  /-- A table has no such key. -/
  | missingKey (key : Value)
  /-- The kind of value has no such operation. -/
  | noOperation (kind name : String)
  /-- The value cannot be a key or a member of a set. -/
  | unhashable (kind : String)
  /-- The value has no members to go through. -/
  | notIterable (kind : String)
  /-- The value has no members to pick one from. -/
  | notSubscriptable (kind : String)
  /-- A text has no members under names. -/
  | textIndex
  /-- A sequence has no members under names. -/
  | sequenceIndex (kind : String)
  /-- The value is no table. -/
  | notMapping (kind : String)
  /-- A member that should be a key and a value has another length. -/
  | entryLength (index length : Nat)
  /-- A member that should be a key and a value is no sequence. -/
  | entryKind (index : Nat)
  /-- A text is no integer. -/
  | integerText (base : Nat) (v : Value)
  /-- A text has too many digits for an integer. -/
  | integerLength (digits : Nat)
  /-- An integer has too many digits to be written. -/
  | integerSize
  /-- A value of this kind is no integer. -/
  | integerKind (kind : String)
  /-- Not-a-number is no integer. -/
  | integerNaN
  /-- An infinity is no integer. -/
  | integerInfinite
  /-- A text is no number. -/
  | floatText (v : Value)
  /-- A value of this kind is no number. -/
  | floatKind (kind : String)
  /-- An integer is beyond the floating-point numbers. -/
  | floatRange
  /-- A member of a sequence to be joined is no text. -/
  | joinKind (index : Nat) (kind : String)
  /-- Two values have no order. -/
  | incomparable (operator left right : String)
  /-- A moment with an offset and one without have no order. -/
  | incomparableMoments
  /-- A date and a moment have no order. -/
  | incomparableDates (left right : String)
  /-- A text has no such position. -/
  | textPosition
  /-- A value of this kind cannot be part of a text. -/
  | containment (kind : String)
  /-- The left side of a containment test has a kind of its own. -/
  | bytesContainment (kind : String)
  /-- An outcome is not one of the known ones. -/
  | unknownOutcome (v : Value)
  /-- A date must be given as a text. -/
  | dateKind
  /-- An audit needs a worker. -/
  | tooFewWorkers
  /-- A value of this kind cannot be written. -/
  | unwritable (kind : String)
  /-- A value of this kind cannot be written as a key. -/
  | unwritableKey (kind : String)
  /-- A script must not have null characters. -/
  | nullCharacter
  /-- A time is too long to be waited for. -/
  | timeRange
  /-- A process would have to be waited for too long, perhaps longer than can be told. -/
  | waitRange (untold : Bool)

/-- The classes of causes that callers tell apart. -/
inductive Family where
  /-- A key is missing. -/
  | key
  /-- A value has the wrong kind. -/
  | kind
  /-- A value of the right kind is not acceptable. -/
  | value
  /-- A value lacks an operation. -/
  | attribute
  /-- A number is out of range. -/
  | overflow
  /-- A position is out of range. -/
  | index
  deriving Repr, DecidableEq

namespace ValueFault

/-- The class of a cause. -/
def family : ValueFault → Family
  | missingKey _ => .key
  | noOperation .. => .attribute
  | entryLength .. | integerText .. | integerLength _ | integerSize | integerNaN => .value
  | floatText _ | unknownOutcome _ | tooFewWorkers | nullCharacter => .value
  | integerInfinite | floatRange | timeRange | waitRange _ => .overflow
  | textPosition => .index
  | _ => .kind

/-- The wording of a cause. -/
def message : ValueFault → String
  | missingKey key => key.quoted
  | noOperation kind name => "'" ++ kind ++ "' object has no attribute '" ++ name ++ "'"
  | unhashable kind => "unhashable type: '" ++ kind ++ "'"
  | notIterable kind => "'" ++ kind ++ "' object is not iterable"
  | notSubscriptable kind => "'" ++ kind ++ "' object is not subscriptable"
  | textIndex => "string indices must be integers, not 'str'"
  | sequenceIndex kind => kind ++ " indices must be integers or slices, not str"
  | notMapping kind => "'" ++ kind ++ "' object is not a mapping"
  | entryLength index length => "dictionary update sequence element #" ++ toString index ++
      " has length " ++ toString length ++ "; 2 is required"
  | entryKind index => "cannot convert dictionary update sequence element #" ++ toString index ++
      " to a sequence"
  | integerText base v => "invalid literal for int() with base " ++ toString base ++ ": " ++
      Text.firstChars 200 v.quoted
  | integerLength digits => "Exceeds the limit (4300 digits) for integer string conversion: " ++
      "value has " ++ toString digits ++
      " digits; use sys.set_int_max_str_digits() to increase the limit"
  | integerKind kind =>
      "int() argument must be a string, a bytes-like object or a real number, not '" ++ kind ++ "'"
  | integerSize => "Exceeds the limit (4300 digits) for integer string conversion; " ++
      "use sys.set_int_max_str_digits() to increase the limit"
  | integerNaN => "cannot convert float NaN to integer"
  | integerInfinite => "cannot convert float infinity to integer"
  | floatText v => "could not convert string to float: " ++ v.quoted
  | floatKind kind => "float() argument must be a string or a real number, not '" ++ kind ++ "'"
  | floatRange => "int too large to convert to float"
  | joinKind index kind => "sequence item " ++ toString index ++ ": expected str instance, " ++
      kind ++ " found"
  | incomparable operator left right => "'" ++ operator ++
      "' not supported between instances of '" ++ left ++ "' and '" ++ right ++ "'"
  | incomparableMoments => "can't compare offset-naive and offset-aware datetimes"
  | incomparableDates left right => "can't compare " ++ left ++ " to " ++ right
  | textPosition => "string index out of range"
  | containment kind => "argument of type '" ++ kind ++ "' is not iterable"
  | bytesContainment kind => "'in <string>' requires string as left operand, not " ++ kind
  | unknownOutcome v => "Unknown compliance result: " ++ v.quoted
  | dateKind => "fromisoformat: argument must be str"
  | tooFewWorkers => "max_workers must be at least 1"
  | unwritable kind => "Object of type " ++ kind ++ " is not JSON serializable"
  | unwritableKey kind => "keys must be str, int, float, bool or None, not " ++ kind
  | nullCharacter => "source code string cannot contain null bytes"
  | timeRange => "timestamp out of range for platform time_t"
  | waitRange untold =>
      if untold then "timestamp too large to convert to C _PyTime_t" else "timeout is too large"

end ValueFault

namespace Value

/-- Writes a value in plain form. -/
def spell (v : Value) : Except ValueFault String :=
  if v.isSpellable then .ok v.plain else .error .integerSize

/-- Writes a value in plain form; an outcome is the text that it is written as. -/
def spellText (v : Value) : Except ValueFault String :=
  match v.asText? with
  | some s => .ok s
  | none => v.spell

variable {v : Value} {s : String}

/-- A value is written exactly if it can be, and then in plain form. -/
theorem spell_eq_ok_iff : v.spell = .ok s ↔ v.isSpellable = true ∧ s = v.plain := by
  unfold spell
  split
  · rename_i h
    simp only [Except.ok.injEq, h, true_and]
    exact eq_comm
  · rename_i h
    simp [h]

/-- What can be written is written in plain form. -/
theorem spell_of_isSpellable (h : v.isSpellable = true) : v.spell = .ok v.plain :=
  spell_eq_ok_iff.2 ⟨h, rfl⟩

/-- What cannot be written has too long an integer. -/
theorem spell_of_not_isSpellable (h : v.isSpellable = false) : v.spell = .error .integerSize := by
  simp [spell, h]

end Value

end ConfigAudit
