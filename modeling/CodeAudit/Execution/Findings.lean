import CodeAudit.Execution.Categories
import CodeAudit.Execution.Sandbox
import CodeAudit.Options
import CodeAudit.Text.Similarity

/-!
Findings from a run: its errors, what it used beyond the thresholds, and an output that is not the expected one.
-/

namespace CodeAudit.ExecutionFindings

/-- What to do about an error. -/
def fixes : List (String × String) := [
  ("TypeError", "Check operand and argument types; convert values explicitly"),
  ("IndexError", "Check sequence length before indexing"),
  ("KeyError", "Use dict.get() or check membership before reading a key"),
  ("NameError", "Define or import the name before using it"),
  ("AttributeError", "Verify the object actually provides this attribute"),
  ("ModuleNotFoundError", "Install the package or replace the import with an existing module"),
  ("ImportError", "Install the package or replace the import with an existing module"),
  ("TimeoutError", "Bound loops and long computations"),
  ("MemoryError", "Reduce data size or process it incrementally"),
  ("RecursionError", "Add a base case or convert the recursion to a loop"),
  ("ZeroDivisionError", "Guard divisors against zero"),
  ("SyntaxError", "Fix the syntax error")]

def fixFor (type : String) : String :=
  ((fixes.find? (·.1 == type)).map (·.2)).getD "Handle or prevent this exception"

/-- A finding of the execution detector. -/
def finding (subkind : Subkind) (severity : Severity) (confidence : Confidence) (evidence : List String)
    (description fix : String) : Finding :=
  { subkind := subkind
    severity := severity
    confidence := confidence
    evidence := evidence
    method := .execution
    impact := Impact.ofKind subkind.kind
    lines := .empty
    description := description
    errorMessage := none
    suggestedFix := some fix }

/-- The finding that an error of a run makes. -/
def ofError (e : ExecutionError) : Finding :=
  let slot := Slot.ofError e.type
  let line := e.line.filter (· ≠ 0)
  let told := if e.message.isEmpty then e.type else s!"{e.type}: {e.message}"
  let evidence := told :: (line.map fun n => s!"Raised at line {n}").toList
  { finding slot.subkind slot.severity slot.confidence evidence s!"Runtime {e.type}" (fixFor e.type) with
    lines := LineSet.ofList line.toList
    errorMessage := some e.message }

/-- How bad the use of so much memory is. -/
def memorySeverity (memoryMb : Number) : Severity :=
  if Number.lt 200 memoryMb then .critical
  else if Number.lt 128 memoryMb then .high
  else if Number.lt 64 memoryMb then .medium
  else .low

/-- How bad a run of so many milliseconds is. -/
def timeSeverity (timeMs : Number) : Severity :=
  if Number.lt 10000 timeMs then .critical
  else if Number.lt 5000 timeMs then .high
  else if Number.lt 3000 timeMs then .medium
  else .low

/-- The milliseconds from which on the share of the processor means something. -/
def minCpuSampleMs : Number := 1000

/-- The finding on memory, if the run used too much. -/
def ofMemory (usage : Usage) (options : Options) : Except MeasureFault (List Finding) := do
  if ← Usage.exceeds usage.memoryMb options.memoryThresholdMb then
    let used ← Usage.format usage.memoryMb
    let bound ← (options.memoryThresholdMb.fixed? 0).mapError .range
    let peak ←
      if usage.peakMb.isNull then pure []
      else do
        let peak ← Usage.format usage.peakMb
        pure [s!"Peak memory {peak}MB"]
    let severity := memorySeverity (usage.memoryMb.asNumber?.getD 0)
    return [finding .physicalConstraint severity (.of 0.9)
      (s!"Memory usage {used}MB exceeds {bound}MB" :: peak) "Excessive memory usage"
      "Use generators or memory-efficient data structures instead of holding everything in memory"]
  else return []

/-- The finding on time, if the run took too long. -/
def ofTime (usage : Usage) (options : Options) : Except RangeFault (List Finding) := do
  if options.timeThresholdMs.lt usage.timeMs then
    let taken ← usage.timeMs.fixed? 0
    let bound ← options.timeThresholdMs.fixed? 0
    return [finding .computationalBoundary (timeSeverity usage.timeMs) (.of 0.85)
      [s!"Execution time {taken}ms exceeds {bound}ms"] "Excessive execution time"
      "Reduce algorithmic complexity or cache repeated work"]
  else return []

/-- The finding on the processor, if a run of some length kept it busy. -/
def ofCpu (usage : Usage) (options : Options) : Except RangeFault (List Finding) := do
  if minCpuSampleMs.le usage.timeMs && options.cpuThreshold.lt usage.cpu then
    let share ← usage.cpu.fixed? 0
    let bound ← options.cpuThreshold.fixed? 0
    return [finding .computationalBoundary .medium (.of 0.7)
      [s!"CPU usage {share}% exceeds {bound}%"] "High CPU usage"
      "Reduce computational work or bound the hot loop"]
  else return []

/-- The findings on what a run used; one that timed out is reported by its error. -/
def ofUsage (r : ExecutionResult) (options : Options) : Except MeasureFault (List Finding) := do
  let memory ← ofMemory r.usage options
  if r.timedOut then return memory
  else
    let time ← (ofTime r.usage options).mapError .range
    let cpu ← (ofCpu r.usage options).mapError .range
    return memory ++ time ++ cpu

/-- How much of an output a finding quotes. -/
def quoteLength : Nat := 200

/-- The similarity below which an output is not the expected one. -/
def similarityThreshold : Double := 0.7

/-- The similarity below which that is bad. -/
def badSimilarity : Double := 0.3

/-- The similarity of an output and the expected one, blanks around them aside. -/
def outputSimilarity (actual expected : String) : Double :=
  Text.similarity (Text.strip actual.toList) (Text.strip expected.toList)

/-- The start of a text without the blanks around it. -/
def quote (s : String) : String :=
  String.ofList ((Text.strip s.toList).take quoteLength)

/-- The finding on an output that is not the expected one. -/
def ofOutput (r : ExecutionResult) (expected : String) : Except Finding.Fault (List Finding) :=
  let similarity := outputSimilarity r.output expected
  if similarity.lt similarityThreshold then
    let confidence := Number.double (Double.roundPlaces (1 - similarity) 4)
    match Confidence.ofNumber? confidence with
    | none => .error (.confidence confidence)
    | some c =>
      let shown := Decimal.fixed similarity 2
      .ok [finding .logicDeviation (if similarity.lt badSimilarity then .high else .medium) c
        [s!"Output differs from expected (similarity {shown})", s!"Expected: {quote expected}",
          s!"Actual: {quote r.output}"]
        "Output does not match expectation" "Review the algorithm against the expected behaviour"]
  else .ok []

/-- All findings from a run; one that did not come about has none. -/
def ofResult (r : ExecutionResult) (options : Options) : Except RunFault (List Finding) := do
  if !r.isVerified then return []
  let usage ← (ofUsage r options).mapError .measure
  let output ←
    match options.expectedOutput with
    | some expected => if r.success then (ofOutput r expected).mapError .finding else pure []
    | none => pure []
  return r.errors.map ofError ++ usage ++ output

end CodeAudit.ExecutionFindings
