/-
# Files

The files of an audit, as a map from paths to bytes, and the texts in them.

* `Files` : what is found under paths;
* `tidyPath` : paths without idle parts;
* `Files.bytes?` : the bytes of a file;
* `readFile` : the document of a file.
-/
import ConfigAudit.Fault
import ConfigAudit.Yaml.Document

namespace ConfigAudit

/-- What is found under a path. -/
inductive Found where
  /-- A file. -/
  | file (bytes : List UInt8)
  /-- A directory. -/
  | directory
  deriving Repr, DecidableEq

/-- What is found under paths without idle parts. -/
abbrev Files := String → Option Found

/-- Whether a path leads to a directory that is always there: this one or one above. -/
def isAbove (path : String) : Bool :=
  path == "." || path == "/" || (Text.splitAt '/' path).all (· == "..")

/-- Files from a list of paths and bytes; the directories are those that they are in. -/
def Files.ofList (files : List (String × List UInt8)) : Files := fun path =>
  match files.lookup path with
  | some bytes => some (.file bytes)
  | none =>
    if isAbove path || files.any fun f => Text.beginsWith f.1 (path ++ "/") then some .directory
    else none

/-- A path without idle parts: empty ones, and those that stay where they are. -/
def tidyPath (path : String) : String :=
  let parts := (Text.splitAt '/' path).filter fun s => !s.isEmpty && s != "."
  let root := if Text.beginsWith path "//" && !Text.beginsWith path "///" then "//"
    else if Text.beginsWith path "/" then "/" else ""
  let body := root ++ Text.join "/" parts
  if body.isEmpty then "." else body

/-- The bytes of a file, if there is one; a directory cannot be read. -/
def Files.bytes? (files : Files) (path : String) : Except Fault (Option (List UInt8)) :=
  match files (tidyPath path) with
  | none => .ok none
  | some (.file bytes) => .ok (some bytes)
  | some .directory => .error (.config (.directoryInPlace (tidyPath path)))

/-- The document in the bytes of a file. -/
def readFile (path : String) (bytes : List UInt8) : Except Fault Value :=
  match readTextFile bytes with
  | .error f => .error (.encoding f)
  | .ok cs => match Yaml.readDocument cs with
    | .ok v => .ok v
    | .error (.malformed f) => .error (.yaml (tidyPath path) f)
    | .error (.value f) => .error (.value f)
    | .error (.moment f) => .error (.moment "" f)

end ConfigAudit
