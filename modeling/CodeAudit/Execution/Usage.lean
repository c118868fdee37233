import CodeAudit.Json.Reader

/-!
What a run used: its wall-clock time and the measures that the child process left in a report.
-/

namespace CodeAudit

/-- Why a value that a child left cannot be worked with. -/
inductive MeasureFault where
  | noMembers (type : String)
  | noArithmetic (operator left right : String)
  | noOrder (operator left right : String)
  | noRounding (type : String)
  | noFormat (type : String)
  | range (fault : RangeFault)
  | tooDeep (container : String)
deriving DecidableEq

namespace MeasureFault

def message : MeasureFault → String
  | noMembers type => s!"'{type}' object has no attribute 'get'"
  | noArithmetic operator left right =>
    s!"unsupported operand type(s) for {operator}: '{left}' and '{right}'"
  | noOrder operator left right =>
    s!"'{operator}' not supported between instances of '{left}' and '{right}'"
  | noRounding type => s!"type {type} doesn't define __round__ method"
  | noFormat type =>
    if type == "str" then "Unknown format code 'f' for object of type 'str'"
    else s!"unsupported format string passed to {type}.__format__"
  | range fault => fault.message
  | tooDeep container =>
    s!"maximum recursion depth exceeded while decoding a JSON {container} from a unicode string"

end MeasureFault

namespace Json

/-- The name of a value's type in messages. -/
def typeName : Json → String
  | null => "NoneType"
  | bool _ => "bool"
  | number (.int _) => "int"
  | number (.double _) => "float"
  | string _ => "str"
  | array _ => "list"
  | object _ => "dict"

/-- The number that a value counts as; a truth value counts as one or zero. -/
def asNumber? : Json → Option Number
  | number n => some n
  | bool b => some (.int (if b then 1 else 0))
  | _ => none

end Json

/-- What a run used. The two measures of memory are whatever the child wrote, null for no peak. -/
structure Usage where
  memoryMb : Json
  timeMs : Number
  cpu : Number
  peakMb : Json
  systemCalls : Option Int
deriving Inhabited

namespace Usage

/-- The usage of a run that only its time is known of. -/
def ofTime (timeMs : Number) : Usage :=
  ⟨(0.0 : Number), timeMs, 0.0, .null, none⟩

def zero : Usage := ofTime 0.0

/-- Whether a measure is greater than a number. -/
def exceeds (measure : Json) (bound : Number) : Except MeasureFault Bool :=
  match measure.asNumber? with
  | some n => .ok (bound.lt n)
  | none => .error (.noOrder ">" measure.typeName (Json.number bound).typeName)

/-- A measure with one decimal place. -/
def format (measure : Json) : Except MeasureFault String :=
  match measure.asNumber? with
  | some n => (n.fixed? 1).mapError .range
  | none => .error (.noFormat measure.typeName)

/-- A measure rounded for output. -/
def rounded (measure : Json) : Except MeasureFault Json :=
  match measure.asNumber? with
  | some n => .ok (n.roundPlaces 3)
  | none => .error (.noRounding measure.typeName)

/-- The share of the wall-clock time that the processor worked, in percent and at most one hundred. -/
def cpuShare (cpuTime : Json) (timeMs : Double) : Except MeasureFault Number :=
  if Double.lt 0 timeMs then
    match cpuTime.asNumber? with
    | none => .error (.noArithmetic "/" cpuTime.typeName "float")
    | some n => do
      let time ← n.toDouble?.mapError .range
      .ok (.double (Double.minFirst 100 (time / timeMs * 100)))
  else .ok 0.0

/-- A measure, zero when it is missing or empty. -/
def orZero (measure : Json) : Json :=
  if measure.isEmptyValue then (0.0 : Number) else measure

/-- The usage of a run of that time by the child's report; a report that is missing or no JSON is passed over. -/
def ofReport (report : Option String) (timeMs : Double) : Except MeasureFault Usage :=
  match report with
  | none => .ok (ofTime timeMs)
  | some text =>
    match Json.read text with
    | .error .malformed => .ok (ofTime timeMs)
    | .error (.tooDeep container) => .error (.tooDeep container)
    | .ok (.object members) => do
      let data := Json.object members
      let cpu ← cpuShare (orZero (data.get "cpuTimeMs")) timeMs
      .ok ⟨orZero (data.get "memoryMB"), timeMs, cpu, data.get "peakMemoryMB", none⟩
    | .ok other => .error (.noMembers other.typeName)

def toJson (u : Usage) : Except MeasureFault Json := do
  let memory ← rounded u.memoryMb
  let peak ← if u.peakMb.isNull then pure Json.null else rounded u.peakMb
  .ok (.object [
    ("memoryMB", memory),
    ("executionTimeMs", u.timeMs.roundPlaces 3),
    ("cpuUsage", u.cpu.roundPlaces 2),
    ("peakMemoryMB", peak),
    ("systemCalls", Json.orNull (fun n => .number (.int n)) u.systemCalls)])

end Usage

end CodeAudit
