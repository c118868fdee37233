import CodeAudit.Json.Basic
import CodeAudit.Numeric.Reading

/-!
The child's own part: it limits itself, runs the candidate program, and leaves a report of what was used.
-/

namespace CodeAudit.Confinement

/-- The operating system as the child finds it. -/
structure System where
  /-- The text that tells the size of the process, none when it cannot be read. -/
  sizes : Option String
  pageSize : Int := 4096
  /-- The hard limits that are not infinite. -/
  hard : List (String × Int) := []
  /-- The limits that the platform knows. -/
  known : List String := ["RLIMIT_AS", "RLIMIT_CPU"]
  /-- The requests that the system refuses. -/
  refused : List String := []
  /-- Whether the platform has limits at all. -/
  hasLimits : Bool := true
  /-- The cores that the process may use, none when that cannot be restricted. -/
  cores : Option (List Int)
  /-- The greatest memory use so far, at each reading. -/
  peaks : List Number
  /-- The processor time so far, at each reading. -/
  times : List Number
  /-- Whether memory use is told in bytes and not in kilobytes. -/
  inBytes : Bool := false
  /-- The message of the error that the candidate ends with, if it does. -/
  candidateError : Option String := none

/-- The hard limit of that name, none when it is infinite. -/
def System.hardLimit? (s : System) (name : String) : Option Int :=
  (s.hard.find? (·.1 == name)).map (·.2)

/-- What the child asks of the system, in order. -/
inductive Call where
  | limit (name : String) (soft : Int) (hard : Option Int)
  | affinity (cores : List Int)
  /-- The target runs as the main program with those arguments. -/
  | run (target : String) (arguments : List String)
  | report (peakMb usedMb : Option Number) (cpuMs : Number)

/-- How the child ends other than well. -/
inductive Fault where
  | missingArgument
  | badNumber (fault : Reading.Fault)
  /-- A reading of what was used cannot be worked with. -/
  | badReading (fault : RangeFault)
  /-- The system does not grant what it is asked for. -/
  | refused (reason : String)
  | candidate (message : String)

def Fault.message : Fault → String
  | .missingArgument => "list index out of range"
  | .badNumber fault => fault.message
  | .badReading fault => fault.message
  | .refused reason => reason
  | .candidate message => message

/-- What a child was told to do. -/
structure Task where
  target : String
  reportFile : String
  memoryMb : Int
  cpuSeconds : Int
  cores : Int

def bytesPerMb : Int := 1024 * 1024

/-- The task that arguments give: a target, a file for the report and three whole numbers. -/
def Task.ofArguments (arguments : List String) : Except Fault Task := do
  let some target := arguments[0]? | throw .missingArgument
  let some reportFile := arguments[1]? | throw .missingArgument
  let number (i : Nat) : Except Fault Int := do
    let some text := arguments[i]? | throw .missingArgument
    (Reading.whole text.toList).mapError .badNumber
  let memoryMb ← number 2
  let cpuSeconds ← number 3
  let cores ← number 4
  return { target, reportFile, memoryMb, cpuSeconds, cores }

/-- The bytes of address space that the process has, zero when that cannot be told. -/
def addressSpace (s : System) : Int :=
  match s.sizes with
  | none => 0
  | some text =>
    match Text.words text.toList with
    | [] => 0
    | first :: _ =>
      match Reading.whole first with
      | .ok pages => pages * s.pageSize
      | .error _ => 0

/-- A limit that is not above the hard one. -/
def softLimit (value : Int) (hard : Option Int) : Int :=
  match hard with
  | some h => min value h
  | none => value

/-- The first so many items; a negative number leaves out as many at the end. -/
def firstCores (n : Int) (cores : List Int) : List Int :=
  if 0 ≤ n then cores.take n.toNat else cores.take (cores.length - (-n).toNat)

/-- The megabytes of a reading of memory use. -/
def megabytes (s : System) (reading : Number) : Except RangeFault Double :=
  reading.div? (.int (if s.inBytes then bytesPerMb else 1024))

/-- The reading with that number, the last one when there are not so many. -/
def reading (readings : List Number) (i : Nat) : Number :=
  (readings[i]?).getD (readings.getLast?.getD 0)

/-- The megabytes of memory in use at a reading, none where the platform does not tell. -/
def memoryAt (s : System) (i : Nat) : Except RangeFault (Option Double) :=
  if s.hasLimits then (megabytes s (reading s.peaks i)).map some else .ok none

/-- The report of what was used: the peak of memory, what it grew by from a first reading, and the processor time. -/
def usage (s : System) (base : Option Double) : Except RangeFault Call := do
  let cpuMs ← (← (reading s.times 1).sub? (reading s.times 0)).mul? 1000
  let peak ← memoryAt s 1
  let growth (p b : Double) : Number := .double (Double.maxFirst 0 (p - b))
  return .report (peak.map .double) (peak.bind fun p => base.map (growth p)) cpuMs

/-- What a child has done so far and what it complained about. -/
structure Record where
  calls : List Call := []
  complaints : List String := []

/-- A child at work. -/
abbrev Work (α : Type) := ExceptT Fault (StateM Record) α

namespace Work

def call (c : Call) : Work Unit :=
  modify fun r => { r with calls := r.calls ++ [c] }

def complain (text : String) : Work Unit :=
  modify fun r => { r with complaints := r.complaints ++ [text] }

/-- Asks the system for something that it may refuse. -/
def ask (s : System) (name refusal : String) (c : Call) : Work Unit := do
  call c
  if s.refused.contains name then throw (.refused refusal)

/-- Asks for one limit if the platform knows it. Limits are wanted, not needed: a refusal is only complained about. -/
def requestLimit (s : System) (name : String) (value : Int) : Work Unit := do
  if s.known.contains name then
    let hard := s.hardLimit? name
    try ask s name "not allowed to raise maximum limit" (.limit name (softLimit value hard) hard)
    catch fault => complain s!"sandbox: could not set {name}: {fault.message}\n"

/-- Asks for the lowest of the cores that the process may use, so many at most. -/
def requestCores (s : System) (most : Int) : Work Unit := do
  if let some cores := s.cores then
    try ask s "affinity" "denied" (.affinity (firstCores most (cores.mergeSort fun a b => decide (a ≤ b))))
    catch fault => complain s!"sandbox: could not restrict CPU cores: {fault.message}\n"

/-- Asks for all limits of a task. -/
def applyLimits (s : System) (t : Task) : Work Unit := do
  if s.hasLimits then
    requestLimit s "RLIMIT_AS" (addressSpace s + t.memoryMb * bytesPerMb)
    requestLimit s "RLIMIT_CPU" t.cpuSeconds
  requestCores s t.cores

/-- Runs the candidate, which may end with an error. -/
def runTarget (s : System) (t : Task) : Work Unit := do
  call (.run t.target [t.target])
  if let some message := s.candidateError then throw (.candidate message)

/-- Reports what was used since a first reading of memory. -/
def report (s : System) (base : Option Double) : Work Unit := do
  call (← ((usage s base).mapError .badReading : Except Fault Call))

/-- The whole life of a child with those arguments: limits, the candidate, and the report however the candidate
ends. -/
def live (s : System) (arguments : List String) : Work Unit := do
  let t ← (Task.ofArguments arguments : Except Fault Task)
  let base ← ((memoryAt s 0).mapError .badReading : Except Fault (Option Double))
  applyLimits s t
  try runTarget s t
  finally report s base

end Work

/-- What a child did, what it complained about, and how it ended if not well. -/
structure Trace where
  calls : List Call
  complaints : List String
  fault : Option Fault

/-- The trace of a child with those arguments. -/
def trace (s : System) (arguments : List String) : Trace :=
  let (ended, r) := (Work.live s arguments).run.run {}
  { calls := r.calls
    complaints := r.complaints
    fault := match ended with
      | .ok () => none
      | .error fault => some fault }

end CodeAudit.Confinement
