import CodeAudit.Finding.Kind
import CodeAudit.Numeric.Number

/-!
Options of an analysis: which detectors run, what they report, and from which thresholds on.
-/

namespace CodeAudit

/-- The options of one analysis. -/
structure Options where
  confidenceThreshold : Number := 0.6
  focus : List Kind := Kind.all
  generateRecommendations : Bool := true
  enableExecution : Bool := true
  enableStatic : Bool := true
  enablePatterns : Bool := true
  maxTimeMs : Option Number := none
  memoryThresholdMb : Number := 100.0
  timeThresholdMs : Number := 3000.0
  cpuThreshold : Number := 80.0
  expectedOutput : Option String := none
deriving Inhabited

namespace Options

/-- Why options are refused. -/
inductive Fault where
  | confidence (got : Number)
  | time (got : Number)
  | cpu (got : Number)
  | focus (unknown : List String)
  | unknownField (field : String)

def Fault.message : Fault → String
  | .confidence got => s!"confidence_threshold must be within [0, 1], got {got.text}"
  | .time got => s!"execution_time_threshold_ms must be positive, got {got.text}"
  | .cpu got => s!"cpu_usage_threshold must be within (0, 100], got {got.text}"
  | .focus unknown =>
    let names := String.intercalate ", " unknown
    s!"Unknown focus categories: {names}"
  | .unknownField field => s!"DetectionOptions.__init__() got an unexpected keyword argument '{field}'"

/-- The names of the options that settings tell. -/
def settingNames : List String := [
  "confidence_threshold", "focus_categories", "generate_recommendations", "enable_execution_analysis",
  "enable_static_analysis", "enable_pattern_matching", "memory_threshold_mb", "execution_time_threshold_ms",
  "cpu_usage_threshold"]

/-- The names of all options. -/
def names : List String :=
  settingNames ++ ["max_execution_time_ms", "expected_output"]

/-- Names of options, unless one of them is unknown; the first such counts. -/
def checkNames (given : List String) : Except Fault Unit :=
  match given.find? (!names.contains ·) with
  | some field => .error (.unknownField field)
  | none => .ok ()

/-- The options with the kinds of that names in focus, unless a value is out of its range; the first fault counts. -/
def check (o : Options) (focus : List String) : Except Fault Options :=
  if !(Number.le 0 o.confidenceThreshold && o.confidenceThreshold.le 1) then
    .error (.confidence o.confidenceThreshold)
  else if o.timeThresholdMs.le 0 then .error (.time o.timeThresholdMs)
  else if !(Number.lt 0 o.cpuThreshold && o.cpuThreshold.le 100) then .error (.cpu o.cpuThreshold)
  else
    let unknown := focus.filter fun name => (Kind.ofName? name).isNone
    if unknown.isEmpty then .ok { o with focus := focus.filterMap Kind.ofName? }
    else .error (.focus unknown)

end Options

end CodeAudit
