/-
# Loggers

Messages are left with loggers.  A logger has a name under the common root, a level, and handlers
that write messages to the console or to a file; messages also reach the handlers of the loggers
above.  Setting up a logger gives it a level, and handlers unless it has some.

* `loggerName` : the full name of a logger;
* `LogBook.configure` : sets up a logger;
* `LogBook.leave` : leaves a message.
-/
import ConfigAudit.Files
import ConfigAudit.Logging.Layout
import ConfigAudit.Logging.Level

namespace ConfigAudit

/-! ## Names -/

/-- The name of the logger above all others. -/
def rootLogger : String := "netcomply"

/-- The full name of a logger. -/
def loggerName (name : String) : String :=
  if name == rootLogger || Text.beginsWith name (rootLogger ++ ".") then name
  else rootLogger ++ "." ++ name

/-- The full name of the logger that a value names. -/
def loggerNameOf (name : Value) : Except ValueFault String :=
  match name.asText? with
  | some s => .ok (loggerName s)
  | none => .error (.noOperation name.fullKind "startswith")

/-- The beginnings of a name before its separators, the longest one first; `done` is what lies
before the rest, in reverse. -/
def beginnings (separator : Char) (done : List Char) : List Char → List String
  | [] => []
  | c :: rest =>
    beginnings separator (c :: done) rest ++
      (if c == separator && !done.isEmpty then [String.ofList done.reverse] else [])

/-- The names of a logger and of those above it, from the nearest one on. -/
def lineage (name : String) : List String := name :: beginnings '.' [] name.toList

/-! ## Handlers -/

/-- A file of messages, which is put aside when it grows too large. -/
structure LogFile where
  /-- Its path. -/
  path : String
  /-- How messages are written. -/
  layout : Layout
  /-- The size in bytes that is not to be reached; none if it is not positive. -/
  capacity : Int
  /-- How many files are kept aside. -/
  backups : Int

/-- What becomes of messages. -/
inductive Handler where
  /-- They are dropped. -/
  | silent
  /-- They go to a file. -/
  | file (f : LogFile)
  /-- They go to the console. -/
  | console (layout : Layout)

namespace Handler

/-- The name of a handler's kind, as it is shown to developers. -/
def title : Handler → String
  | silent => "NullHandler"
  | file _ => "RotatingFileHandler"
  | console _ => "StreamHandler"

/-- Whether a handler writes to a file. -/
def isFile : Handler → Bool
  | file _ => true
  | _ => false

/-- Whether a handler writes to the console. -/
def isConsole : Handler → Bool
  | console _ => true
  | _ => false

end Handler

/-! ## Written files -/

/-- The files and directories that messages are written to, under tidy paths. -/
structure LogDisk where
  /-- The directories. -/
  directories : List String
  /-- The files with what is in them. -/
  files : List (String × String)

namespace LogDisk

/-- No files, and no directory but the current one. -/
def empty : LogDisk := ⟨["."], []⟩

/-- What is in a file. -/
def content? (d : LogDisk) (path : String) : Option String := d.files.lookup path

/-- Gives a file another content. -/
def write (d : LogDisk) (path content : String) : LogDisk :=
  { d with files := (path, content) :: d.files.filter fun f => f.1 != path }

/-- Removes a file. -/
def delete (d : LogDisk) (path : String) : LogDisk :=
  { d with files := d.files.filter fun f => f.1 != path }

/-- Makes sure that a file exists. -/
def touch (d : LogDisk) (path : String) : LogDisk :=
  if (d.content? path).isSome then d else d.write path ""

/-- Gives a file another name, if it exists. -/
def rename (d : LogDisk) (path other : String) : LogDisk :=
  match d.content? path with
  | some s => (d.delete path).write other s
  | none => d

/-- Drops the directories that a path leaves again; `done` holds the parts before, in reverse. -/
def foldParts (absolute : Bool) (done : List String) : List String → List String
  | [] => done.reverse
  | part :: rest =>
    if part == ".." then
      match done with
      | [] => foldParts absolute (if absolute then [] else [part]) rest
      | last :: before =>
        if last == ".." then foldParts absolute (part :: done) rest
        else foldParts absolute before rest
    else foldParts absolute (part :: done) rest

/-- The place that a path leads to, without directories that it leaves again. -/
def placeOf (path : String) : String :=
  let tidy := tidyPath path
  let root :=
    if Text.beginsWith tidy "//" then "//" else if Text.beginsWith tidy "/" then "/" else ""
  let parts := (Text.splitAt '/' tidy).filter fun part => !part.isEmpty
  let body := root ++ Text.join "/" (foldParts (!root.isEmpty) [] parts)
  if body.isEmpty then "." else body

/-- A path and the paths of the directories that it lies in, the outermost one first. -/
def pathsTo (path : String) : List String := (beginnings '/' [] path.toList).reverse ++ [path]

/-- Makes sure that a directory exists, with all that it lies in. -/
def makeDirectory (d : LogDisk) (path : String) : Except Fault LogDisk :=
  let isFile (p : String) : Bool := (d.content? (placeOf p)).isSome
  let steps := pathsTo path
  if isFile path then .error (.config (.fileInPlace path))
  else match (steps.dropWhile fun p => !isFile p)[1]? with
    | some p => .error (.config (.notDirectory p))
    | none => .ok { d with directories := steps.map placeOf ++ d.directories }

/-- Makes sure that a file exists; the directories that it lies in have to be there, and it must
not be a directory itself. -/
def create (d : LogDisk) (path : String) : Except Fault LogDisk :=
  let above := (pathsTo path).dropLast
  if above.any fun p => (d.content? p).isSome then .error (.config (.notDirectory path))
  else if above.any fun p => !isAbove p && !d.directories.contains p then
    .error (.config (.noDirectory path))
  else if d.directories.contains path then .error (.config (.directoryInPlace path))
  else .ok (d.touch path)

/-- The names and contents of the files in a directory, if there is one. -/
def directory? (d : LogDisk) (path : String) : Option (List (String × String)) :=
  let path := placeOf path
  if d.directories.contains path then
    let front := if path == "." then "" else path ++ "/"
    some (d.files.filterMap fun f =>
      let name := Text.dropChars front.length f.1
      if Text.beginsWith f.1 front && !name.contains '/' then some (name, f.2) else none)
  else none

/-- Puts the files aside under the next numbers: `n` first, down to 1. -/
def shift (path : String) : Nat → LogDisk → LogDisk
  | 0, d => d
  | n + 1, d =>
    shift path n (d.rename (path ++ "." ++ toString (n + 1)) (path ++ "." ++ toString (n + 2)))

/-- Begins a file anew, and keeps some of its predecessors aside. -/
def rotate (d : LogDisk) (f : LogFile) : LogDisk :=
  if 0 < f.backups then
    ((shift f.path (f.backups.toNat - 1) d).rename f.path (f.path ++ ".1")).touch f.path
  else d.touch f.path

/-- Whether a line would make a file too large; the line counts by characters. -/
def isFull (d : LogDisk) (f : LogFile) (line : String) : Bool :=
  0 < f.capacity &&
    decide (f.capacity ≤ (((d.content? f.path).getD "").utf8ByteSize + line.length : Nat))

/-- Adds a line to a file. -/
def append (d : LogDisk) (f : LogFile) (line : String) : LogDisk :=
  let d := if d.isFull f line then d.rotate f else d
  d.write f.path (((d.content? f.path).getD "") ++ line)

end LogDisk

/-! ## Loggers -/

/-- A logger. -/
structure Logger where
  /-- The least level that it lets through; the one of the logger above if there is none. -/
  level : Option Level
  /-- What becomes of its messages. -/
  handlers : List Handler

/-- A logger that has not been set up. -/
def Logger.bare : Logger := ⟨none, []⟩

/-- What is asked of a logger that is set up. -/
structure LogRequest where
  /-- Its name. -/
  name : Value
  /-- Its level. -/
  level : Value
  /-- The directory of its file; no file if it is empty. -/
  directory : String
  /-- The format of its messages, unless empty. -/
  format : String
  /-- The form of times, unless empty. -/
  times : String
  /-- Whether messages go to the console. -/
  console : Bool
  /-- The size in bytes that its file is not to reach. -/
  capacity : Int
  /-- How many files are kept aside. -/
  backups : Int

/-- Loggers, and what they have written. -/
structure LogBook where
  /-- The loggers that have been set up, under their names. -/
  loggers : List (String × Logger)
  /-- The files. -/
  disk : LogDisk
  /-- The lines on the console. -/
  console : String

namespace LogBook

/-- A book in which no logger has been set up. -/
def empty : LogBook := ⟨[], .empty, ""⟩

/-- The logger of a name. -/
def logger (b : LogBook) (name : String) : Logger := (b.loggers.lookup name).getD .bare

/-- Changes the logger of a name. -/
def setLogger (b : LogBook) (name : String) (l : Logger) : LogBook :=
  { b with loggers := (name, l) :: b.loggers.filter fun e => e.1 != name }

/-! ## Setting up -/

/-- The path of a logger's file. -/
def filePath (directory name : String) : String :=
  LogDisk.placeOf (directory ++ "/" ++ name ++ ".log")

/-- The handlers that are asked for, if their directory and file can be made, and what becomes of
the disk. -/
def handlersFor (disk : LogDisk) (r : LogRequest) (name : String) :
    LogDisk × Except Fault (List Handler) :=
  match Layout.make r.format r.times with
  | .error f => (disk, .error f)
  | .ok layout =>
    let console := if r.console then [Handler.console layout] else []
    if r.directory.isEmpty then (disk, .ok console)
    else match disk.makeDirectory r.directory with
      | .error f => (disk, .error f)
      | .ok disk =>
        let path := filePath r.directory name
        match disk.create path with
        | .error f => (disk, .error f)
        | .ok disk => (disk, .ok (.file ⟨path, layout, r.capacity, r.backups⟩ :: console))

/-- Gives a logger a level, and handlers unless it has some. -/
def install (b : LogBook) (r : LogRequest) (name : String) (level : Level) :
    LogBook × Except Fault Unit :=
  let old := b.logger name
  let b := b.setLogger name { old with level := some level }
  if !old.handlers.isEmpty then (b, .ok ())
  else match handlersFor b.disk r name with
    | (disk, .error f) => ({ b with disk := disk }, .error f)
    | (disk, .ok handlers) =>
      ({ b with disk := disk }.setLogger name ⟨some level, handlers⟩, .ok ())

/-- Sets up a logger and answers its name.  A request with an unknown level changes nothing. -/
def configure (b : LogBook) (r : LogRequest) : LogBook × Except Fault String :=
  match loggerNameOf r.name with
  | .error f => (b, .error (.value f))
  | .ok name => match Level.ofValue r.level with
    | .error f => (b, .error f)
    | .ok level => match b.install r name level with
      | (b, .ok _) => (b, .ok name)
      | (b, .error f) => (b, .error f)

/-! ## Leaving messages -/

/-- The least level that a logger lets through, on the scale of all messages. -/
def threshold (b : LogBook) (name : String) : Int :=
  (((lineage name).findSome? fun n => (b.logger n).level).getD .warning).number

/-- Gives a message to a handler; one that cannot be written is dropped. -/
def handle (e : Entry) (b : LogBook) : Handler → LogBook
  | .silent => b
  | .console layout => match layout.render e with
    | some s => { b with console := b.console ++ s ++ "\n" }
    | none => b
  | .file f => match f.layout.render e with
    | some s => { b with disk := b.disk.append f (s ++ "\n") }
    | none => b

/-- Writes a message to the console as it is, if it is a warning or worse. -/
def lastResort (b : LogBook) (e : Entry) : LogBook :=
  match e.message.spell with
  | .ok s => if Level.warning.number ≤ e.level then { b with console := b.console ++ s ++ "\n" } else b
  | .error _ => b

/-- Leaves a message with a logger; the last resort is for messages that have no handler. -/
def leave (b : LogBook) (e : Entry) : LogBook :=
  if 0 < e.level ∧ b.threshold e.logger ≤ e.level then
    match (lineage e.logger).flatMap fun n => (b.logger n).handlers with
    | [] => b.lastResort e
    | handlers => handlers.foldl (handle e) b
  else b

end LogBook

end ConfigAudit
