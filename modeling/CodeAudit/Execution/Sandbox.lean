import CodeAudit.Execution.Host
import CodeAudit.Execution.Signal
import CodeAudit.Execution.TestCase
import CodeAudit.Execution.Traceback
import CodeAudit.Finding.Basic
import CodeAudit.Safety

/-!
The sandbox: it runs a program in a child process within limits and tells how the run ended.
-/

namespace CodeAudit

/-- Why a time limit has no number of seconds. -/
inductive TimeFault where
  | range (fault : RangeFault)
  | infinite
  | notNumber
deriving DecidableEq

namespace TimeFault

def message : TimeFault → String
  | range fault => fault.message
  | infinite => "cannot convert float infinity to integer"
  | notNumber => "cannot convert float NaN to integer"

end TimeFault

/-- Why a run has no result. -/
inductive RunFault where
  | measure (fault : MeasureFault)
  | reading (fault : Reading.Fault)
  | limits (fault : Limits.Fault)
  | time (fault : TimeFault)
  /-- A measured value makes no finding. -/
  | finding (fault : Finding.Fault)

namespace RunFault

def message : RunFault → String
  | measure fault => fault.message
  | reading fault => fault.message
  | limits fault => fault.message
  | time fault => fault.message
  | finding fault => fault.message

end RunFault

/-- The canonical name of a language that can be run. -/
def canonicalLanguage? (language : Option String) : Option String :=
  match String.ofList (Text.lower (Text.strip (language.getD "").toList)) with
  | "python" | "py" | "python3" => some "python"
  | _ => none

/-- A language as messages show it. -/
def shownLanguage (language : Option String) : String :=
  language.getD "None"

/-- A runner of programs with its default limits. -/
structure Sandbox where
  limits : Limits := .standard
  maxCodeLength : Number := 100000
  /-- The interpreter, none for the standard one. -/
  interpreter : Option String := none
deriving Inhabited

namespace Sandbox

/-- An action on the host that may end without a result. -/
abbrev Action (α : Type) := ExceptT RunFault (StateM Host) α

/-- What a child that ran out of memory writes. -/
def memoryExhaustion : Regex :=
  .anyOf [Traceback.phrase "MemoryError", Traceback.phrase "Cannot allocate memory",
    Traceback.phrase "out of memory"]

/-- The error of a child that ended by a signal or without telling why. -/
def signalError (exitCode : Int) (stderr : List Char) : ExecutionError :=
  if exitCode < 0 then
    let name := Signal.name exitCode.natAbs
    if name == "SIGXCPU" then { type := "TimeoutError", message := "CPU time limit exceeded" }
    else if name == "SIGKILL" && memoryExhaustion.occursIn stderr then
      { type := "MemoryError", message := "Process was killed (memory limit exceeded)" }
    else { type := "ProcessError", message := s!"Process terminated by {name}" }
  else
    let last := (Text.outputLines stderr).reverse.find? (!Text.isBlankText ·)
    { type := "ProcessError"
      message := match last with
        | some line => String.ofList line
        | none => s!"Process exited with code {exitCode}" }

/-- The error of a child that ended by itself with a code other than zero. -/
def exitError (exitCode : Int) (stderr : List Char) (source : List Char) (offset : Nat) :
    Except Reading.Fault ExecutionError := do
  match ← Traceback.error? stderr (some "main.py") (Text.lines source) offset with
  | none => return signalError exitCode stderr
  | some error =>
    if exitCode < 0 && error.type == "ProcessError" then return signalError exitCode stderr
    else return error

def timeoutError (timeMs : Number) : ExecutionError :=
  { type := "TimeoutError", message := s!"Execution timed out after {timeMs.text}ms" }

/-- The seconds of a time limit, a finite number. -/
def seconds (timeMs : Number) : Except TimeFault Double := do
  match ← (timeMs.div? 1000).mapError .range with
  | .infinite _ => .error .infinite
  | .nan => .error .notNumber
  | x => .ok x

/-- The least whole number of seconds that is not less. -/
def wholeSeconds (x : Double) : Int :=
  x.toRat.ceil

/-- How the sandbox kills a child and what it started: the whole group, then the child alone if that is denied. -/
def killsFor (outcome : KillOutcome) : List String :=
  match outcome with
  | .denied => ["group SIGKILL", "process"]
  | _ => ["group SIGKILL"]

/-- What the log says of a group that could not be killed. -/
def killWarning : LogRecord :=
  ⟨.warning, "evaluator.executor", "Could not kill sandbox process group: [Errno 1] Operation not permitted"⟩

/-- The launch of a child by a plan, and the host after it. -/
def launched (interpreter : Option String) (limits : Limits) (timeout : Double) (source : List Char)
    (plan : ChildPlan) : Launch :=
  { interpreter := interpreter
    source := source
    memoryMb := limits.memoryMb
    cpuSeconds := wholeSeconds timeout + 1
    cores := limits.cores
    waits :=
      if plan.spawnError.isSome then []
      else if plan.outlives then [some (.double timeout), none] else [some (.double timeout)]
    kills := if plan.spawnError.isNone && plan.outlives then killsFor plan.kill else [] }

def stripRightText (s : String) : String :=
  String.ofList (Text.stripRight s.toList)

/-- The result of a child that ended by a plan after that time. -/
def resultOf (limits : Limits) (source : List Char) (offset : Nat) (flags : List String) (plan : ChildPlan)
    (elapsedMs : Double) : Except RunFault ExecutionResult := do
  let usage ← (Usage.ofReport plan.report elapsedMs).mapError .measure
  let errors ←
    if plan.outlives then pure [timeoutError limits.timeMs]
    else if plan.exitCode ≠ 0 then
      (exitError plan.exitCode plan.stderr.toList source offset).mapError .reading |>.map fun e => [e]
    else pure []
  return {
    success := plan.exitCode == 0 && !plan.outlives
    output := stripRightText plan.stdout
    stderr := stripRightText plan.stderr
    exitCode := some plan.exitCode
    timedOut := plan.outlives
    errors := errors
    usage := usage
    securityFlags := flags }

/-- Runs a program text in one child process. -/
def run (box : Sandbox) (limits : Limits) (source : List Char) (offset : Nat) (flags : List String) :
    Action ExecutionResult := do
  let timeout ← ((seconds limits.timeMs).mapError .time : Except RunFault Double)
  let host ← get
  let (plan, host) := host.nextPlan
  let host := host.started (launched box.interpreter limits timeout source plan)
  match plan.spawnError with
  | some reason =>
    let name := Launch.interpreterName box.interpreter
    set (host.logged ⟨.error, "evaluator.executor",
      s!"Failed to start sandbox interpreter '{name}': {reason}"⟩)
    return .failed "ExecutionError" s!"Failed to start interpreter: {reason}" flags
  | none =>
    let later := host.after plan.elapsed
    let later := if plan.outlives && plan.kill = .denied then later.logged killWarning else later
    set later
    (resultOf limits source offset flags plan (later.millisecondsSince host.clock) : Except RunFault _)

/-- Why a text cannot be run, if so. -/
def problem? (box : Sandbox) (code : Option (List Char)) (language : Option String) : Option String :=
  match code with
  | none | some [] => some "Code cannot be empty"
  | some code =>
    if (canonicalLanguage? language).isNone then
      some s!"Language '{shownLanguage language}' not supported. Only Python is currently supported."
    else if box.maxCodeLength.lt (.int code.length) then
      some s!"Code is too long ({code.length} characters, maximum {box.maxCodeLength.text})"
    else none

/-- Runs a program within given limits or the sandbox's own. -/
def execute (box : Sandbox) (code : Option (List Char)) (language : Option String)
    (limits : Option Limits) : Action ExecutionResult :=
  match box.problem? code language with
  | some problem => return .failed "ValidationError" problem []
  | none =>
    let code := code.getD []
    box.run (limits.getD box.limits) code 0 (SafetyAssessment.ofCode code).risks

/-- The limits of a test case: its own time, unless it is zero, and else the sandbox's. -/
def limitsFor (box : Sandbox) (c : TestCase) : Except RunFault Limits :=
  match c.timeoutMs with
  | some timeMs => if timeMs.isZero then .ok box.limits else (box.limits.withTime timeMs).mapError .limits
  | none => .ok box.limits

/-- Runs the test cases of a valid program up to a critical one that fails. -/
def runCases (box : Sandbox) (code : List Char) (flags : List String) :
    List TestCase → Action (List ExecutionResult)
  | [] => return []
  | c :: rest => do
    let limits ← (box.limitsFor c : Except RunFault Limits)
    let result ← box.run limits (c.source code) c.offset flags
    if c.critical && !result.success then return [result]
    else return result :: (← box.runCases code flags rest)

/-- Runs a program once for each test case, up to a critical one that fails. -/
def executeTests (box : Sandbox) (code : Option (List Char)) (cases : List TestCase)
    (language : Option String) : Action (List ExecutionResult) :=
  match box.problem? code language with
  | some problem => return [.failed "ValidationError" problem []]
  | none =>
    let code := code.getD []
    box.runCases code (SafetyAssessment.ofCode code).risks cases

/-- The sandbox with some of its default limits changed. -/
def setLimits (box : Sandbox) (fields : List (String × Number)) : Except Limits.Fault Sandbox := do
  let limits ← box.limits.change (← Limits.Changes.ofFields fields)
  return { box with limits := limits }

/-- How a probe of the interpreter ends. -/
inductive Probe where
  | exits (code : Int)
  | fails
deriving DecidableEq

/-- Whether the interpreter can be started at all. -/
def isAvailable : Probe → Bool
  | .exits code => code == 0
  | .fails => false

end Sandbox

end CodeAudit
