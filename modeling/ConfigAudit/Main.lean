/-
# The program

The program reads its files and the variables of its environment, and leaves what the command
prints.  It starts no processes: scripts that need an interpreter report that there is none.

* `main` : the program.
-/
import ConfigAudit.CommandLine
import Std.Time.DateTime.Timestamp

namespace ConfigAudit

/-- The bytes of the files that are there. -/
def readFiles (paths : List String) : IO (List (String × List UInt8)) :=
  paths.filterMapM fun (path : String) => do
    try
      let bytes ← IO.FS.readBinFile path
      return some (tidyPath path, bytes.toList)
    catch _ => return none

/-- The variables that a file refers to, as far as they are set. -/
def readVariables (bytes : List UInt8) : IO Environment := do
  let text := (readTextFile bytes).toOption.getD []
  (Environment.references text).filterMapM fun name => do
    return (← IO.getEnv name).map fun value => (name, value)

/-- The current moment. -/
def currentMoment : IO Moment := do
  let now ← Std.Time.Timestamp.now
  return .ofEpoch (now.toNanosecondsSinceUnixEpoch.toInt.toNat / 1000)

/-- The interpreter of a program that starts no processes. -/
def noInterpreter : Interpreter := fun call =>
  .unavailable 1 "Operation not permitted" (some call.executable.plain)

end ConfigAudit

open ConfigAudit in
/-- Audits the devices of some files against the policies of another. -/
def main (args : List String) : IO UInt32 := do
  let files ← readFiles (Command.configPath :: args)
  let environment ← readVariables ((files.lookup Command.configPath).getD [])
  let found : Surroundings :=
    ⟨.ofList files, Command.configPath, environment, "python3", ← currentMoment, noInterpreter⟩
  match Command.run found args with
  | .ok printed =>
    IO.print printed.output
    IO.eprint printed.complaint
    return printed.status.toUInt32
  | .error fault =>
    IO.eprintln fault.message
    return 1
