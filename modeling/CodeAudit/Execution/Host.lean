import CodeAudit.Execution.Limits
import CodeAudit.Log
import CodeAudit.Numeric.Number

/-!
The host that runs child processes: how each child behaves, what time it is, and what was started and logged.
-/

namespace CodeAudit

/-- What becomes of the attempt to kill a group of processes. -/
inductive KillOutcome where
  | done
  | gone
  | denied
deriving DecidableEq, Inhabited

/-- How a child process behaves. -/
structure ChildPlan where
  /-- Why the child does not start at all. -/
  spawnError : Option String := none
  stdout : String := ""
  stderr : String := ""
  exitCode : Int := 0
  /-- Seconds until the child ends or the wait for it does. -/
  elapsed : Number := 0.0
  /-- Whether the child outlives the first wait. -/
  outlives : Bool := false
  /-- The text of the usage report that the child leaves. -/
  report : Option String := none
  kill : KillOutcome := .done
deriving Inhabited

/-- A child that was started, or that was to be. -/
structure Launch where
  /-- The interpreter, none for the standard one. -/
  interpreter : Option String
  source : List Char
  memoryMb : Number
  cpuSeconds : Int
  cores : Number
  /-- The time that each wait was given, none for no limit. -/
  waits : List (Option Number)
  kills : List String
deriving Inhabited

namespace Launch

/-- The three limits as the child's arguments write them. -/
def limitTexts (l : Launch) : List String :=
  [l.memoryMb.text, toString l.cpuSeconds, l.cores.text]

/-- The variables that a child finds in its environment besides its search path. -/
def environment : List (String × String) :=
  [("MALLOC_ARENA_MAX", "1"), ("LANG", "C.UTF-8")]

/-- Where the standard interpreter stands. -/
def standardInterpreter : String := "/usr/bin/python3"

/-- How an interpreter is named; the standard one has no path of its own. -/
def interpreterName (interpreter : Option String) : String :=
  match interpreter with
  | some path => if path = standardInterpreter then "<default>" else path
  | none => "<default>"

end Launch

/-- The state of the host: the time in seconds, the children to come, and those that were started. -/
structure Host where
  clock : Number := 0.0
  plans : List ChildPlan := []
  launches : List Launch := []
  log : List LogRecord := []
deriving Inhabited

namespace Host

/-- The behaviour of the next child; when none is planned it does nothing and ends well. -/
def nextPlan (h : Host) : ChildPlan × Host :=
  match h.plans with
  | [] => ({}, h)
  | p :: rest => (p, { h with plans := rest })

def started (h : Host) (l : Launch) : Host :=
  { h with launches := h.launches ++ [l] }

def logged (h : Host) (r : LogRecord) : Host :=
  { h with log := h.log ++ [r] }

def after (h : Host) (seconds : Number) : Host :=
  { h with clock := h.clock + seconds }

/-- The milliseconds since an earlier time. -/
def millisecondsSince (h : Host) (start : Number) : Double :=
  (h.clock.toDouble - start.toDouble) * 1000

end Host

end CodeAudit
