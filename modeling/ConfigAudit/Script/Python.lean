/-
# Which Python scripts are acceptable

A script has to be well-formed, may import only the allowed modules, wherever it does so, and has
to define the function that is called.

* `Python.forbidden?` : the first import that is not allowed;
* `Python.defectOf?` : what is wrong with the statements of a script;
* `Python.unread?`, `Python.defect?` : why a script is not read, and what is wrong with it.
-/
import ConfigAudit.Fault
import ConfigAudit.Script.Sandbox
import ConfigAudit.Script.Python.Reader
import ConfigAudit.Text.Encoded

namespace ConfigAudit.Python

/-- The function that every script has to define. -/
def requiredFunction : String := "check"

/-- Whether a module may be imported, by the part of its name before the first point. -/
def isAllowed (name : String) : Bool :=
  allowedModules.contains (String.ofList (name.toList.takeWhile (· != '.')))

/-- The first import that is not allowed. -/
def forbidden? (ss : List Statement) : Option String :=
  ((Statement.walk ss).flatMap Statement.imports).find? fun name => !isAllowed name

/-- Whether a script defines the function that is called. -/
def definesCheck (ss : List Statement) : Bool := ss.any (Statement.defines requiredFunction)

/-- What is wrong with the statements of a script. -/
def defectOf? (ss : List Statement) : Option RuleDefect :=
  match forbidden? ss with
  | some name => some (.forbiddenImport name)
  | none => if definesCheck ss then none else some .missingCheck

/-- The characters of a script; a mark of the encoding before bytes does not count. -/
def charactersOf (script : Value) : Except Utf8Fault (List Char) :=
  match script with
  | .bytes bs => (Utf8.decodeAll bs).map fun
    | '\ufeff' :: cs => cs
    | cs => cs
  | v => .ok ((v.asText?.getD "").toList)

/-- Whether a null character, or a null byte, is in a script. -/
def hasNull (script : Value) : Bool :=
  match script with
  | .bytes bs => bs.contains 0
  | v => (v.asText?.getD "").toList.contains '\x00'

/-- Why nothing is read of a script, if so: it has half a character, or a null one. -/
def unread? (script : Value) : Option Fault :=
  match Text.halves? (script.asText?.getD "") with
  | some fault => some (.halves fault)
  | none => if hasNull script then some (.value .nullCharacter) else none

/-- What is wrong with a script, if it is read. -/
def defect? (script : Value) : Except Fault (Option RuleDefect) :=
  match unread? script with
  | some f => .error f
  | none => match charactersOf script with
    | .error f => .ok (some (.scriptNotation (some 1) ("(unicode error) " ++ f.message)))
    | .ok cs => match statementsOf cs with
      | .error d => .ok (some (.scriptNotation (some d.line) d.message))
      | .ok ss => .ok (defectOf? ss)

end ConfigAudit.Python
