/-
# The journal of an evaluation

Rules leave notes while they are evaluated.  A note has a level of importance and a message, and
the journal keeps all notes in order.

* `Note.line` : a note as a line of text;
* `Journal.messages` : the messages of a level or above;
* `Journal.text` : the whole journal.
-/
import ConfigAudit.Value.Show

namespace ConfigAudit

/-- The name of a level of importance. -/
def levelName (level : Int) : String :=
  if level = 50 then "CRITICAL"
  else if level = 40 then "ERROR"
  else if level = 30 then "WARNING"
  else if level = 20 then "INFO"
  else if level = 10 then "DEBUG"
  else if level = 0 then "NOTSET"
  else "Level " ++ toString level

/-- A note. -/
structure Note where
  /-- How important it is. -/
  level : Int
  /-- What it says. -/
  message : Value

namespace Note

/-- A note for authors of rules. -/
def debug (message : String) : Note := ⟨10, .text message⟩

/-- A note on an ordinary event. -/
def info (message : String) : Note := ⟨20, .text message⟩

/-- A note on something unusual. -/
def warning (message : String) : Note := ⟨30, .text message⟩

/-- A note on a failure. -/
def error (message : String) : Note := ⟨40, .text message⟩

/-- A note as a line of text. -/
def line (n : Note) : String := "[" ++ levelName n.level ++ "] " ++ n.message.plain

end Note

/-- Notes in the order in which they were left. -/
abbrev Journal := List Note

namespace Journal

/-- The messages of a level or above. -/
def messages (j : Journal) (least : Int) : List Value :=
  (j.filter fun n => decide (least ≤ n.level)).map (·.message)

/-- The lines of a journal. -/
def lines (j : Journal) : List String := j.map Note.line

/-- A journal as one text. -/
def text (j : Journal) : String := Text.joinLines j.lines

/-- Later notes come behind earlier ones. -/
@[simp] theorem lines_append (a b : Journal) : lines (a ++ b) = lines a ++ lines b :=
  List.map_append

end Journal

end ConfigAudit
