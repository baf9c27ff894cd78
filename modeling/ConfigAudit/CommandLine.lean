/-
# The command

The command audits the devices of some files against the policies of another.  It prints a line
for each result and a summary, and its exit status tells whether a device has a problem (1),
whether the audit could not begin (2), or whether all is well (0).

* `Printed` : what the command leaves behind;
* `Command.run` : what the command does with its arguments.
-/
import ConfigAudit.Config.Basic
import ConfigAudit.Logging.Level
import ConfigAudit.Policy.File
import ConfigAudit.Run.Schedule

namespace ConfigAudit

/-- What the command leaves behind. -/
structure Printed where
  /-- The exit status. -/
  status : Nat
  /-- What is printed. -/
  output : String
  /-- What is complained about. -/
  complaint : String
  deriving Repr, DecidableEq

/-- What the command finds around it. -/
structure Surroundings where
  /-- The files. -/
  files : Files
  /-- The path of the configuration. -/
  configPath : String
  /-- The variables of the environment. -/
  environment : Environment
  /-- The interpreter of Python scripts unless the configuration names one. -/
  python : String
  /-- The current instant. -/
  now : Moment
  /-- What runs the calls of the sandboxes. -/
  interpreter : Interpreter

namespace Command

/-- How the command is used. -/
def usage : String := "Usage: python -m netcomply <policies.yaml> <device.yaml> [...]"

/-- Where the configuration is. -/
def configPath : String := "/etc/netcomply/config.yaml"

/-- A complaint that ends the command. -/
def refuse (message : String) : Printed := ⟨2, "", message ++ "\n"⟩

/-- The configuration in force: the one of the file, or the standard one if there is no file. -/
def configuration (s : Surroundings) : Except Fault Configuration :=
  match loadConfiguration s.files s.environment s.configPath with
  | .ok data => Configuration.ofValue s.python data
  | .error (.config (.missingFile _)) => .ok (.standard s.python)
  | .error f => .error f

/-- The configuration in force, once messages are reported from its level on and the sandboxes with
its interpreters are set up. -/
def prepare (s : Surroundings) : Except Fault Configuration := do
  let c ← configuration s
  discard (Level.ofValue c.logging.level)
  discard c.sandbox.python.spell
  discard c.sandbox.javascript.spell
  return c

/-- The devices of several files, in order. -/
def devices (files : Files) : List String → Except Fault (List Device)
  | [] => .ok []
  | path :: rest => do
    let here ← loadDevices files path
    return here ++ (← devices files rest)

/-- What is to be audited: the policies and exemptions of a file, and the devices of others. -/
def load (g : PolicyReading) (files : Files) (path : String) (paths : List String) :
    Except Fault (PolicySet × List Device) := do
  let set ← loadPolicies g files path
  return (set, ← devices files paths)

/-- What is printed of a report. -/
def ofReport (r : Report) : Except Fault Printed := do
  let lines ← r.lines
  return ⟨if r.failures.isEmpty then 0 else 1, String.join (lines.map (· ++ "\n")), ""⟩

/-- Audits devices as a configuration says. -/
def audit (g : Setting) (c : RunnerConfig) (set : PolicySet) (ds : List Device) :
    Except Fault Report := do
  let runner ← Runner.make c.workers c.timeout Runner.defaultPoll
  (runner.run g set.policies (ds.map fun d => ⟨d, some set.exemptions⟩)).2.2

/-- What the command does with its arguments: the file of policies and the files of devices. -/
def run (s : Surroundings) : List String → Except Fault Printed
  | path :: paths@(_ :: _) => do
    let c ← prepare s
    let g : Setting := ⟨s.now, c.sandboxes, s.interpreter⟩
    match load ⟨.standard, true, g⟩ s.files path paths with
    | .ok (set, ds) => ofReport (← audit g c.runner set ds)
    | .error f => if f.stopsAudit then return refuse ("Error: " ++ f.message) else throw f
  | _ => .ok (refuse usage)

/-- Without a file of devices, the command says how it is used. -/
theorem run_of_short (s : Surroundings) (args : List String) (h : args.length < 2) :
    run s args = .ok (refuse usage) := by
  match args, h with
  | [], _ => rfl
  | [_], _ => rfl

end Command

end ConfigAudit
