/-
# What can go wrong

The causes of failure of the audit itself: rules that are defined wrongly, rules that cannot be
evaluated, documents that describe no policies, a store that cannot be read.  Each cause is a
constructor, and its wording is a function of it.

* `RuleDefect` : why a rule is not acceptable;
* `ScriptFault`, `EvaluationFault` : why a rule has no verdict;
* `RunFault` : why an audit cannot proceed;
* `StorageFault` : why the store cannot do what it is asked;
* `Fault` : any of them, and the causes below them.
-/
import ConfigAudit.Value.Fault
import ConfigAudit.Calendar.Reading
import ConfigAudit.Pattern.Fault
import ConfigAudit.Text.Encoded
import ConfigAudit.Yaml.Fault

namespace ConfigAudit

/-- The wording of a text that is no moment. -/
def MomentFault.message (s : String) : MomentFault → String
  | form => "Invalid isoformat string: " ++ Text.quote s
  | offsetTooLarge o => "offset must be a timedelta strictly between -timedelta(hours=24) and " ++
      "timedelta(hours=24), not " ++ Calendar.quotedDuration o ++ "."
  | year n => "year " ++ toString n ++ " is out of range"
  | month => "month must be in 1..12"
  | day => "day is out of range for month"
  | hour => "hour must be in 0..23"
  | minute => "minute must be in 0..59"
  | second => "second must be in 0..59"

/-! ## Scripts -/

/-- Why a script gives no verdict. -/
inductive ScriptFault where
  /-- The script reports an error of its own. -/
  | reported (language error : String)
  /-- The interpreter does not end in time. -/
  | timeout (language seconds : String)
  /-- The interpreter cannot be started. -/
  | unavailable (language executable cause : String)
  /-- The interpreter ends with a failure. -/
  | exitStatus (language : String) (status : Int) (complaint : String)
  /-- The answer of the interpreter has no meaning. -/
  | invalidOutput (language : String)
  /-- The script reports something that is no outcome. -/
  | invalidResult (v : Value)
  /-- The script reports an outcome that is not its own to report. -/
  | reserved (o : Outcome)
  /-- No interpreter is known for the language. -/
  | noInterpreter (language : Value)

/-- The wording of a script's failure. -/
def ScriptFault.message : ScriptFault → String
  | reported language error => language ++ " script error: " ++ error
  | timeout language seconds => language ++ " script exceeded " ++ seconds ++ "s"
  | unavailable language executable cause =>
      language ++ " interpreter not available (" ++ executable ++ "): " ++ cause
  | exitStatus language status complaint =>
      language ++ " sandbox exited with status " ++ toString status ++ ": " ++ complaint
  | invalidOutput language => language ++ " sandbox returned invalid output"
  | invalidResult v => "Script returned an invalid result: " ++ v.quoted
  | reserved o => "Script cannot report " ++ o.name
  | noInterpreter language => "No sandbox for script language '" ++ language.plain ++ "'"

/-! ## Rules -/

/-- Why a rule is not acceptable. -/
inductive RuleDefect where
  /-- The definition has fields that the kind does not know. -/
  | unknownFields (kind names : String)
  /-- The definition has no type. -/
  | missingType
  /-- A field of a text rule is no text. -/
  | fieldKind (label kind : String)
  /-- A text rule names no configuration attribute. -/
  | missingField
  /-- A text rule has no text. -/
  | missingText
  /-- A field of a text rule is no regular expression. -/
  | illFormed (label pattern : String) (fault : Pattern.Fault)
  /-- A script rule has no script. -/
  | emptyScript (language : String)
  /-- A script cannot be parsed. -/
  | scriptNotation (line : Option Nat) (cause : String)
  /-- A script imports what it may not. -/
  | forbiddenImport (name : String)
  /-- A script does not define what is called. -/
  | missingCheck
  /-- The interpreter could not be asked. -/
  | unvalidated (fault : ScriptFault)
  /-- The interpreter refuses the script. -/
  | refused (error : Value)
  /-- A stored rule could not be rebuilt. -/
  | unusable (reason : Value)
  /-- A defect of a rule in a file. -/
  | inFile (path : String) (rule : Value) (defect : RuleDefect)

/-- The wording of a defect. -/
def RuleDefect.message : RuleDefect → String
  | unknownFields kind names => "Unknown field(s) for " ++ kind ++ " rule: " ++ names
  | missingType => "Rule definition has no type"
  | fieldKind label kind => "Text rule " ++ label ++ " must be a string, got " ++ kind
  | missingField => "Text rule has no configuration field"
  | missingText => "Text rule has no text to look for"
  | illFormed label pattern fault =>
      "Invalid " ++ label ++ " regular expression '" ++ pattern ++ "': " ++ fault.message
  | emptyScript language => language ++ " rule has an empty script"
  | scriptNotation line cause =>
      "Python syntax error line " ++ line.elim "None" toString ++ ": " ++ cause
  | forbiddenImport name => "Python script may not import '" ++ name ++ "'"
  | missingCheck => "Python script does not define a check(device) function"
  | unvalidated fault => "Cannot validate JavaScript: " ++ fault.message
  | refused error => "JavaScript error: " ++ error.plain
  | unusable reason => reason.plain
  | inFile path rule defect =>
      path ++ (if rule.truthy then " (rule '" ++ rule.plain ++ "')" else "") ++ ": " ++
        defect.message

/-- Why the logic of a rule gives no verdict. -/
inductive EvaluationFault where
  /-- The device lacks the configuration data. -/
  | missingConfiguration (device name : String)
  /-- The rule stands for one that could not be rebuilt. -/
  | unusable (reason : String)
  /-- The rule always fails. -/
  | boom (name : String)

/-- The wording of an evaluation's failure. -/
def EvaluationFault.message : EvaluationFault → String
  | missingConfiguration device name =>
      "Device " ++ device ++ " has no '" ++ name ++ "' configuration data"
  | unusable reason => "Invalid rule definition: " ++ reason
  | boom name => "boom in " ++ name

/-! ## Audits -/

/-- Why an audit cannot proceed. -/
inductive RunFault where
  /-- A file does not exist. -/
  | missingFile (path : String)
  /-- A file holds no document. -/
  | invalidFile (path cause : String)
  /-- A document holds no policies. -/
  | noPolicies
  /-- The ids of a document cannot be read. -/
  | invalidPolicies (cause : String)
  /-- A policy cannot be built. -/
  | invalidPolicy (name : Value) (cause : String)
  /-- A policy has no name. -/
  | namelessPolicy
  /-- An id is used twice. -/
  | duplicateId (label : String) (id : Int)
  /-- A value is no date. -/
  | invalidDate (v : Value)
  /-- A document holds no devices. -/
  | noDevices (path : String)
  /-- A device cannot be built. -/
  | invalidDevice (path cause : String)

/-- The wording of an audit's failure. -/
def RunFault.message : RunFault → String
  | missingFile path => "File not found: " ++ path
  | invalidFile path cause => "Invalid YAML in " ++ path ++ ": " ++ cause
  | noPolicies => "Policies document must contain a 'policies' list"
  | invalidPolicies cause => "Invalid policies document: " ++ cause
  | invalidPolicy name cause => "Invalid entry in policy '" ++ name.plain ++ "': " ++ cause
  | namelessPolicy => "Every policy needs a name"
  | duplicateId label id => "Duplicate " ++ label ++ " id " ++ toString id
  | invalidDate v => "Invalid date: " ++ v.quoted
  | noDevices path => "Device file " ++ path ++ " must contain a mapping"
  | invalidDevice path cause => "Invalid device entry in " ++ path ++ ": " ++ cause

/-! ## Stores -/

/-- Why a database does not answer. -/
inductive DatabaseFault where
  /-- It is out of order. -/
  | outage (message : String)
  /-- A row would break a constraint; there may be more to say. -/
  | integrity (message : String)
  /-- A value cannot be compared with a column. -/
  | comparison
  /-- A value of this kind cannot be written into a column. -/
  | unwritable (kind : String)
  /-- An integer is too large for a column. -/
  | integerRange
  /-- A query carries more values than the database takes. -/
  | tooManyValues

/-- What a database says about its fault; nothing if that is its own affair. -/
def DatabaseFault.cause? : DatabaseFault → Option String
  | outage message => some message
  | integrity message => if message.isEmpty then none else some message
  | comparison | tooManyValues => none
  | unwritable kind => some ("(builtins.TypeError) Object of type " ++ kind ++
      " is not JSON serializable")
  | integerRange => some "Python int too large to convert to SQLite INTEGER"

/-- What a store is asked to do. -/
inductive StoreTask where
  /-- To create a policy. -/
  | createPolicy (name : Value)
  /-- To delete a policy. -/
  | deletePolicy (id : Value)
  /-- To load policies. -/
  | loadPolicies
  /-- To find a policy. -/
  | loadPolicy (id : Value)
  /-- To find a rule. -/
  | loadRule (id : Value)
  /-- To save a new rule. -/
  | saveRule (name : Value)
  /-- To save a changed rule. -/
  | updateRule (id : Value)
  /-- To delete a rule. -/
  | deleteRule (id : Value)
  /-- To save an exemption. -/
  | saveExemption
  /-- To remove an exemption. -/
  | removeExemption
  /-- To load exemptions. -/
  | loadExemptions

/-- The wording of a task. -/
def StoreTask.text : StoreTask → String
  | createPolicy name => "create policy '" ++ name.plain ++ "'"
  | deletePolicy id => "delete policy " ++ id.plain
  | loadPolicies => "load policies"
  | loadPolicy id => "load policy " ++ id.plain
  | loadRule id => "load rule " ++ id.plain
  | saveRule name => "save rule '" ++ name.plain ++ "'"
  | updateRule id => "update rule " ++ id.plain
  | deleteRule id => "delete rule " ++ id.plain
  | saveExemption => "save exemption"
  | removeExemption => "remove exemption"
  | loadExemptions => "load exemptions"

/-- The values that the wording of a task shows. -/
def StoreTask.shown : StoreTask → List Value
  | createPolicy v | deletePolicy v | loadPolicy v | loadRule v | saveRule v | updateRule v
  | deleteRule v => [v]
  | loadPolicies | saveExemption | removeExemption | loadExemptions => []

/-- Why a store cannot do what it is asked. -/
inductive StorageFault where
  /-- There is no such policy. -/
  | policyNotFound (id : Value)
  /-- There is no such rule. -/
  | ruleNotFound (id : Value)
  /-- The database does not answer. -/
  | failed (task : StoreTask) (fault : DatabaseFault)
  /-- The store is not there. -/
  | unavailable (message : String)

/-- The wording of a store's fault. -/
def StorageFault.message : StorageFault → String
  | policyNotFound id => "Policy " ++ id.plain ++ " not found"
  | ruleNotFound id => "Rule " ++ id.plain ++ " not found"
  | failed task fault => "Could not " ++ task.text ++ fault.cause?.elim "" (": " ++ ·)
  | unavailable message => message

/-! ## Configurations -/

/-- Why a configuration is not acceptable. -/
inductive ConfigFault where
  /-- There is no such file. -/
  | missingFile (path : String)
  /-- The root of a configuration is no mapping. -/
  | rootKind (kind : String)
  /-- An audit needs a worker. -/
  | workers (n : Int)
  /-- Evaluations need some time. -/
  | timeout (x : Float)
  /-- No level of messages has the name. -/
  | level (v : String)
  /-- A message cannot be laid out like this. -/
  | layout (s : String)
  /-- A file lies in a directory that does not exist. -/
  | noDirectory (path : String)
  /-- There is a file where a directory should be. -/
  | fileInPlace (path : String)
  /-- A directory should be made inside of a file. -/
  | notDirectory (path : String)
  /-- There is a directory where a file should be. -/
  | directoryInPlace (path : String)

/-- The wording of a configuration's fault. -/
def ConfigFault.message : ConfigFault → String
  | missingFile path => "Configuration file not found: " ++ path
  | rootKind kind => "Configuration root must be a mapping, got " ++ kind
  | workers n => "runner.max_workers must be at least 1, got " ++ toString n
  | timeout x => "runner.evaluation_timeout must be positive, got " ++ Decimal.shortest x
  | level v => "Invalid log level: " ++ v ++
      ". Must be one of: DEBUG, INFO, WARNING, ERROR, CRITICAL"
  | layout s => "Invalid format '" ++ s ++ "' for '%' style"
  | noDirectory path => "[Errno 2] No such file or directory: " ++ Text.quote path
  | fileInPlace path => "[Errno 17] File exists: " ++ Text.quote path
  | notDirectory path => "[Errno 20] Not a directory: " ++ Text.quote path
  | directoryInPlace path => "[Errno 21] Is a directory: " ++ Text.quote path

/-- Why a setting is not acceptable. -/
inductive SettingProblem where
  /-- It is no truth value. -/
  | flag
  /-- It is no whole number. -/
  | whole
  /-- It has too many digits. -/
  | wholeSize
  /-- It is no number. -/
  | number

/-- The name of a problem. -/
def SettingProblem.name : SettingProblem → String
  | flag => "bool_parsing"
  | whole => "int_parsing"
  | wholeSize => "int_parsing_size"
  | number => "float_parsing"

/-! ## All causes -/

/-- A cause of failure. -/
inductive Fault where
  /-- A value is not what it should be. -/
  | value (fault : ValueFault)
  /-- A text is no moment. -/
  | moment (s : String) (fault : MomentFault)
  /-- A text is no pattern. -/
  | pattern (fault : Pattern.Fault)
  /-- A pattern is no text. -/
  | patternKind
  /-- A pattern is made of bytes. -/
  | bytesPattern
  /-- A rule is not acceptable. -/
  | rule (defect : RuleDefect) (name : Value)
  /-- A rule cannot be evaluated. -/
  | evaluation (fault : EvaluationFault)
  /-- A script fails. -/
  | script (fault : ScriptFault)
  /-- A kind of rules reports what it may not. -/
  | invalidVerdict (kind : String) (verdict : Value)
  /-- A kind of rules does not report a verdict with a comment. -/
  | verdictShape (count : Option Nat) (kind : String)
  /-- A rule cannot even be asked. -/
  | crash (message : String)
  /-- A rule name is used twice in a policy. -/
  | duplicateRule (policy name : Value)
  /-- No kind of rules has this tag. -/
  | unknownKind (kind : Value)
  /-- The kinds of rules can no longer change. -/
  | frozenKinds (kind : String)
  /-- The store cannot do what it is asked. -/
  | storage (fault : StorageFault)
  /-- The database complains to the caller. -/
  | database (fault : DatabaseFault)
  /-- An audit cannot proceed. -/
  | run (fault : RunFault)
  /-- The bytes of a file are no text. -/
  | encoding (fault : Utf8Fault)
  /-- A text has halves of characters, which cannot be encoded. -/
  | halves (fault : HalfFault)
  /-- A file holds no document. -/
  | yaml (file : String) (fault : Yaml.Fault)
  /-- A configuration is not acceptable. -/
  | config (fault : ConfigFault)
  /-- Settings are not acceptable. -/
  | settings (problems : List (String × SettingProblem))

/-- The wording of a cause. -/
def Fault.message : Fault → String
  | value fault => fault.message
  | moment s fault => fault.message s
  | pattern fault => fault.message
  | patternKind => "first argument must be string or compiled pattern"
  | bytesPattern => "cannot use a bytes pattern on a string-like object"
  | rule defect _ => defect.message
  | evaluation fault => fault.message
  | script fault => fault.message
  | invalidVerdict kind v => "Rule kind '" ++ kind ++ "' reported invalid verdict " ++ v.quoted
  | verdictShape none kind => "cannot unpack non-iterable " ++ kind ++ " object"
  | verdictShape (some n) _ =>
      if n < 2 then "not enough values to unpack (expected 2, got " ++ toString n ++ ")"
      else "too many values to unpack (expected 2)"
  | crash message => message
  | duplicateRule policy name =>
      "Policy '" ++ policy.plain ++ "' already has a rule named '" ++ name.plain ++ "'"
  | unknownKind kind => "Unknown rule type: " ++ kind.plain
  | frozenKinds kind => "Cannot register rule kind '" ++ kind ++ "' after startup"
  | storage fault => fault.message
  | database fault => fault.cause?.getD ""
  | run fault => fault.message
  | encoding fault => fault.message
  | halves fault => fault.message
  | yaml file fault => fault.message file
  | config fault => fault.message
  | settings problems => Text.join "," (problems.map fun p => p.1 ++ ":" ++ p.2.name)

/-- The values that the wording of a cause shows. -/
def Fault.shown : Fault → List Value
  | invalidVerdict _ verdict => [verdict]
  | duplicateRule policy name => [policy, name]
  | unknownKind kind => [kind]
  | run (.duplicateId _ id) => [.int id]
  | run (.invalidPolicy name _) => [name]
  | run (.invalidDate v) => [v]
  | rule (.inFile _ name _) _ => [name]
  | config (.workers n) => [.int n]
  | storage (.failed task _) => task.shown
  | _ => []

/-- A cause as it arises: its wording is written down at once, and if that cannot be done, this is
the cause. -/
def Fault.worded (f : Fault) : Fault :=
  if Value.allSpellable f.shown then f else .value .integerSize

/-- Whether a cause belongs to the audit itself: rules, scripts, policies, devices, the store. -/
def Fault.stopsAudit : Fault → Bool
  | rule .. | evaluation _ | script _ | duplicateRule .. | unknownKind _ | frozenKinds _ => true
  | storage _ | run _ => true
  | _ => false

/-- Lifts a cause in the use of a value. -/
def orValueFault {α : Type} : Except ValueFault α → Except Fault α
  | .ok a => .ok a
  | .error f => .error (.value f)

instance : MonadLift (Except ValueFault) (Except Fault) := ⟨orValueFault⟩

end ConfigAudit
