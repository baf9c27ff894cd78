/-
# Sandboxes for scripts

A script is run by an interpreter in a process of its own.  The sandbox says which interpreter is
started, with what input and for how long, and makes sense of how it ends.

* `Sandbox.checkCall` : the call that runs a script on a device;
* `Sandbox.answerOf` : the answer of a process that has ended;
* `Sandbox.check` : a script's result, with the messages it left;
* `Sandbox.interpret` : the verdict that a result stands for.
-/
import ConfigAudit.Script.Json
import ConfigAudit.CheckResult
import ConfigAudit.Decimal.Shortest

namespace ConfigAudit

/-- The languages of scripts. -/
inductive Language where
  /-- Python. -/
  | python
  /-- JavaScript. -/
  | javascript
  deriving Repr, DecidableEq

namespace Language

/-- The name of a language. -/
def name : Language → String
  | python => "python"
  | javascript => "javascript"

/-- The flags that make an interpreter run a program from its command line. -/
def flags : Language → List String
  | python => ["-I", "-c"]
  | javascript => ["-e"]

/-- The language of a name. -/
def ofName? (v : Value) : Option Language :=
  [python, javascript].find? fun l => Value.equal (.text l.name) v

end Language

/-- The modules that scripts may import. -/
def allowedModules : List String :=
  ["collections", "functools", "ipaddress", "itertools", "json", "math", "re", "string"]

/-! ## Processes -/

/-- A call of an interpreter. -/
structure Invocation where
  /-- The program that is started. -/
  executable : Value
  /-- Its flags, which the program to run follows. -/
  flags : List String
  /-- What it is fed. -/
  input : String
  /-- How many seconds it may take. -/
  timeout : Float

/-- The number of words of a command line. -/
def Invocation.wordCount (i : Invocation) : Nat := i.flags.length + 2

/-- How a process ends. -/
inductive Ending where
  /-- It does not end in time. -/
  | timeout
  /-- It cannot be started. -/
  | unavailable (number : Int) (cause : String) (path : Option String)
  /-- It ends by itself. -/
  | exited (status : Int) (output complaint : String)
  /-- It ends by itself, and what it has written is no text. -/
  | garbled (fault : Utf8Fault)
  /-- The call breaks off. -/
  | broken (fault : ValueFault)

/-- The wording of a refusal to start a process. -/
def refusal (number : Int) (cause : String) (path : Option String) : String :=
  "[Errno " ++ toString number ++ "] " ++ cause ++ path.elim "" fun p => ": " ++ Text.quote p

/-- What runs the calls. -/
abbrev Interpreter := Invocation → Ending

/-- Whether there is a process at all. -/
def Ending.isStarted : Ending → Bool
  | .unavailable .. | .broken _ => false
  | _ => true

/-- How many milliseconds can be waited for at a time. -/
def waitLimit : Float := 2147483647

/-- How many milliseconds can be told to a clock. -/
def clockLimit : Float := 9223372036854

/-- How many milliseconds of a limit in seconds are left when some seconds have been spent. -/
def timeLeft (timeout spent : Float) : Float := (timeout - spent) * 1000

/-- Whether a process can be waited for, if its limit is this one and so many seconds have been
spent before the waiting begins. -/
def isAwaitable (timeout spent : Float) : Bool := timeLeft timeout spent ≤ waitLimit

/-- What becomes of the calls of an interpreter that is waited for.  If more time is left to a
process than can be waited for, the call breaks off, whatever the process does. -/
def Interpreter.awaited (run : Interpreter) (spent : Float) : Interpreter := fun i =>
  if (run i).isStarted && !isAwaitable i.timeout spent then
    .broken (.waitRange (clockLimit < timeLeft i.timeout spent))
  else run i

/-! ## Sandboxes -/

/-- A sandbox. -/
structure Sandbox where
  /-- The language of its scripts. -/
  language : Language
  /-- The program of the interpreter. -/
  executable : Value
  /-- How many seconds a script may take. -/
  timeout : Float

/-- How many characters of a complaint are shown. -/
def complaintLength : Nat := 500

namespace Sandbox

/-- The call that feeds a document to the interpreter. -/
def call (s : Sandbox) (document : Value) : Except ValueFault Invocation := do
  return ⟨s.executable, s.language.flags, ← Json.write document, s.timeout⟩

/-- The fields that only some languages are fed. -/
def extraFields (s : Sandbox) : List (String × Value) :=
  match s.language with
  | .python => [("modules", .list (allowedModules.map .text))]
  | .javascript => []

/-- The call that runs a script on a device, given as a document. -/
def checkCall (s : Sandbox) (script device : Value) : Except ValueFault Invocation := do
  let limit ← Value.integerOfFloat (s.timeout * 1000)
  s.call (.record ([("mode", .text "check"), ("script", script), ("device", device),
    ("timeout_ms", .int limit)] ++ s.extraFields))

/-- The call that has a script read but not run. -/
def readCall (s : Sandbox) (script : Value) : Except ValueFault Invocation :=
  s.call (.record [("mode", .text "validate"), ("script", script)])

/-- The answer of a process: a table. -/
def answerOf (s : Sandbox) (ending : Ending) : Except Fault (List (Value × Value)) :=
  let language := s.language.name
  match ending with
  | .timeout => .error (.script (.timeout language (Decimal.sixDigits s.timeout)))
  | .unavailable number cause path =>
    match s.executable.spell with
    | .ok executable => .error (.script (.unavailable language executable (refusal number cause path)))
    | .error f => .error (.value f)
  | .exited status output complaint =>
    if status ≠ 0 then
      .error (.script (.exitStatus language status
        (Text.lastChars complaintLength (Text.strip complaint))))
    else match Json.parse output with
      | .ok (.table es) => .ok es
      | .error (.integerLength digits) => .error (.value (.integerLength digits))
      | _ => .error (.script (.invalidOutput language))
  | .garbled fault => .error (.encoding fault)
  | .broken fault => .error (.value fault)

/-- The value under a name in an answer. -/
def under (name : String) (answer : List (Value × Value)) : Option Value :=
  Value.lookup (.text name) answer

/-- The result of a script, with the messages that it left. -/
def check (s : Sandbox) (run : Interpreter) (script device : Value) :
    Except Fault (Value × List String) := do
  let invocation ← s.checkCall script device
  let answer ← s.answerOf (run invocation)
  let messages ← ((under "messages" answer).getD (.list [])).members
  if !((under "ok" answer).getD .null).truthy then
    throw (.script (.reported s.language.name
      ((under "error" answer).getD (.text "unknown error")).plain))
  return ((under "result" answer).getD .null, messages.map Value.plain)

/-- The outcome that a script reports. -/
def reported (v : Value) : Except Fault Outcome :=
  match Outcome.ofValue v with
  | .error _ => .error (.script (.invalidResult v))
  | .ok o => if o.isVerdict then .ok o else .error (.script (.reserved o))

/-- The verdict that a result stands for: an outcome, or a table with an outcome and a comment. -/
def interpret (result : Value) : Except Fault Value := do
  let (result, comment) := match result with
    | .table es => ((under "result" es).getD .null, (under "comment" es).getD .null)
    | v => (v, .null)
  let o ← reported result
  let comment := match comment with
    | .null => .null
    | c => .text c.plain
  return .pair (.outcome o) comment

/-- Has a script read by the interpreter. -/
def readWith (s : Sandbox) (run : Interpreter) (script name : Value) : Except Fault Unit := do
  let invocation ← s.readCall script
  match s.answerOf (run invocation) with
  | .error (.script f) => throw (.rule (.unvalidated f) name)
  | .error f => throw f
  | .ok answer =>
    if !((under "ok" answer).getD .null).truthy then
      throw (.rule (.refused ((under "error" answer).getD .null)) name)

end Sandbox

end ConfigAudit
