/-
# Reports of audits

What an audit leaves behind: the results in the order of the plan, whether it was cancelled, and
how many checks were still going on.  Results are counted by their outcomes; a result whose outcome
is only spelled cannot be counted, and then there is no summary.

* `Report.counts`, `Report.summary` : how many results have each outcome, and these if all results
  can be counted;
* `Report.failures` : the results to be reported as problems;
* `Report.lines` : what is printed of a report.
-/
import ConfigAudit.CheckResult

namespace ConfigAudit

/-- The report of an audit. -/
structure Report where
  /-- The results, in the order of the plan. -/
  results : List CheckResult
  /-- Whether the audit was cancelled. -/
  cancelled : Bool
  /-- How many checks were given up and still going on at the end. -/
  abandoned : Nat

namespace Report

/-- The number of results with an outcome. -/
def count (r : Report) (o : Outcome) : Nat := r.results.countP (·.outcome == o)

/-- How many results have each outcome. -/
def counts (r : Report) : List (Outcome × Nat) := Outcome.all.map fun o => (o, r.count o)

/-- The counts, if every result can be counted. -/
def summary (r : Report) : Except ValueFault (List (Outcome × Nat)) :=
  if r.results.any (·.spelled) then .error (.noOperation "str" "value") else .ok r.counts

/-- The results to be reported as problems. -/
def failures (r : Report) : List CheckResult := r.results.filter (·.isFailure)

/-- The results of a device. -/
def forDevice (r : Report) (id : Value) : List CheckResult :=
  r.results.filter fun x => Value.equal x.deviceId id

/-- The summary as a document. -/
def summaryRecord (r : Report) : Except ValueFault Value := do
  return .record ((← r.summary).map fun e => (e.1.text, .int e.2))

/-- What the last line of a printed report says. -/
def summaryLine (r : Report) : String :=
  "Summary: " ++ Text.join ", " (r.counts.map fun e => e.1.name ++ "=" ++ toString e.2)

/-- A line that is printed, if it can be encoded. -/
def encoded (line : String) : Except Fault String :=
  match Text.halves? line with
  | none => .ok line
  | some fault => .error (.halves fault)

/-- The lines of a printed report: one for each result, then the summary. -/
def lines (r : Report) : Except Fault (List String) := do
  let results ← r.results.mapM fun x => do encoded (← x.line)
  discard r.summary
  return results ++ [r.summaryLine]

end Report

end ConfigAudit
