/-
# Configurations

A configuration says how many workers an audit has and how long an evaluation may take, which
interpreters run scripts, and where messages go.

* `Configuration.ofValue` : reads a configuration from a document;
* `loadConfiguration` : reads the document of a configuration file.
-/
import ConfigAudit.Files
import ConfigAudit.Config.Environment
import ConfigAudit.Script.Sandbox

namespace ConfigAudit

/-- How audits are carried out. -/
structure RunnerConfig where
  /-- The number of workers. -/
  workers : Int
  /-- How many seconds an evaluation may take. -/
  timeout : Float

/-- How scripts are run. -/
structure SandboxConfig where
  /-- The interpreter of Python scripts. -/
  python : Value
  /-- The interpreter of JavaScript scripts. -/
  javascript : Value
  /-- How many seconds a script may take. -/
  timeout : Float

/-- What becomes of messages. -/
structure LoggingConfig where
  /-- The least level that is reported. -/
  level : Value
  /-- The directory for files of messages; none if it is not set. -/
  directory : Value

/-- A configuration. -/
structure Configuration where
  /-- How audits are carried out. -/
  runner : RunnerConfig
  /-- How scripts are run. -/
  sandbox : SandboxConfig
  /-- What becomes of messages. -/
  logging : LoggingConfig

/-! ## Reading -/

namespace RunnerConfig

/-- A configuration with at least one worker and some time. -/
def check (c : RunnerConfig) : Except Fault RunnerConfig :=
  if c.workers < 1 then .error (Fault.config (.workers c.workers)).worded
  else if c.timeout ≤ 0.0 then .error (.config (.timeout c.timeout))
  else .ok c

/-- Reads the part on audits. -/
def ofValue (data : Value) : Except Fault RunnerConfig := do
  let workers ← (← data.getOr "max_workers" (.int 4)).toInteger
  let timeout ← (← data.getOr "evaluation_timeout" (.float 60.0)).toNumber
  check ⟨workers, timeout⟩

/-- A configuration that is read asks for a worker, and its time is not at most zero. -/
theorem accepted_of_ofValue {data : Value} {c : RunnerConfig} (h : ofValue data = .ok c) :
    1 ≤ c.workers ∧ ¬ c.timeout ≤ 0.0 := by
  -- reading fails, or ends with the check
  have checked : ∃ c', check c' = .ok c := by
    simp only [ofValue, bind, Except.bind] at h
    split at h
    · cases h
    · split at h
      · cases h
      · split at h
        · cases h
        · split at h
          · cases h
          · exact ⟨_, h⟩
  obtain ⟨c', h⟩ := checked
  unfold check at h
  split at h
  · cases h
  · rename_i enough
    split at h
    · cases h
    · rename_i positive
      cases h
      exact ⟨Int.not_lt.1 enough, positive⟩

end RunnerConfig

/-- Reads the part on scripts; `python` is the interpreter unless another one is given. -/
def SandboxConfig.ofValue (python : String) (data : Value) : Except ValueFault SandboxConfig := do
  let python ← data.getOr "python_executable" (.text python)
  let javascript ← data.getOr "node_executable" (.text "node")
  let timeout ← (← data.getOr "timeout" (.float 30.0)).toNumber
  return ⟨python, javascript, timeout⟩

/-- Reads the part on messages. -/
def LoggingConfig.ofValue (data : Value) : Except ValueFault LoggingConfig := do
  return ⟨← data.getOr "level" (.text "INFO"), ← data.getOr "log_dir" (.text "")⟩

namespace Configuration

/-- A part of a configuration, which may be missing. -/
def section? (data : Value) (name : String) : Except ValueFault Value := do
  let v ← data.getOr name (.table [])
  return if v.truthy then v else .table []

/-- Reads a configuration. -/
def ofValue (python : String) (data : Value) : Except Fault Configuration := do
  let runner ← RunnerConfig.ofValue (← section? data "runner")
  let sandbox ← SandboxConfig.ofValue python (← section? data "sandbox")
  let logging ← LoggingConfig.ofValue (← section? data "logging")
  return ⟨runner, sandbox, logging⟩

/-- The configuration that is used when there is none. -/
def standard (python : String) : Configuration :=
  ⟨⟨4, 60.0⟩, ⟨.text python, .text "node", 30.0⟩, ⟨.text "INFO", .text ""⟩⟩

/-- The sandboxes of the languages. -/
def sandboxes (c : Configuration) (l : Language) : Sandbox :=
  match l with
  | .python => ⟨l, c.sandbox.python, c.sandbox.timeout⟩
  | .javascript => ⟨l, c.sandbox.javascript, c.sandbox.timeout⟩

end Configuration

/-- The sandbox of a language, which has to be known. -/
def findSandbox (sandboxes : Language → Sandbox) (language : Value) : Except Fault Sandbox := do
  let key ← language.asKey
  match Language.ofName? key with
  | some l => return sandboxes l
  | none => throw (.script (.noInterpreter language))

/-! ## Files -/

/-- The document of a configuration file, with its variables replaced. -/
def loadConfiguration (files : Files) (env : Environment) (path : String) :
    Except Fault Value := do
  match ← files.bytes? path with
  | none => throw (.config (.missingFile path))
  | some bytes =>
    match ← readFile path bytes with
    | .null => return .table []
    | .table es => return env.expandAll (.table es)
    | v => throw (.config (.rootKind v.kind))

end ConfigAudit
