import CodeAudit.Execution.Sandbox
import CodeAudit.Numeric.Reading
import CodeAudit.Options
import CodeAudit.Settings.Expansion

/-!
Typed settings: what a document says about the sandbox, the detection and the log. A section that is missing or holds
a value of the wrong type is replaced by the standard one, with a warning.
-/

namespace CodeAudit.Settings

/-- Why a section cannot be used. -/
inductive Fault where
  | noSection (name : List Char)
  | value (fault : Reading.Fault)
  | expansion (fault : ExpansionFault)
deriving DecidableEq

namespace Fault

def message : Fault → String
  | noSection name => Text.quotedText s!"Configuration section '{String.ofList name}' not found"
  | value fault => fault.message
  | expansion fault => fault.message

end Fault

/-- A section of a document that is there. -/
structure Section where
  document : Document
  name : List Char

namespace Section

def ofDocument (d : Document) (name : String) : Except Fault Section :=
  if (d.options? name.toList).isSome then .ok ⟨d, name.toList⟩ else .error (.noSection name.toList)

/-- The text of an option, none if it is not there. -/
def text? (s : Section) (key : String) : Except Fault (Option (List Char)) :=
  (s.document.get? s.name (Text.lower key.toList)).mapError .expansion

/-- The value of an option as a reader makes it of its text, or a standard value. -/
def read {α : Type} (s : Section) (key : String) (reader : List Char → Except Reading.Fault α)
    (standard : α) : Except Fault α := do
  match ← s.text? key with
  | some text => (reader text).mapError .value
  | none => return standard

def text (s : Section) (key standard : String) : Except Fault String :=
  s.read key (fun t => .ok (String.ofList t)) standard

def whole (s : Section) (key : String) (standard : Int) : Except Fault Int :=
  s.read key Reading.whole standard

def number (s : Section) (key : String) (standard : Double) : Except Fault Number := do
  return .double (← s.read key Reading.double standard)

def boolean (s : Section) (key : String) (standard : Bool) : Except Fault Bool :=
  s.read key Reading.boolean standard

end Section

/-- What runs may use, and with which interpreter. -/
structure SandboxSettings where
  memoryMb : Int := 128
  timeMs : Int := 5000
  cores : Int := 1
  maxCodeLength : Int := 100000
  /-- The interpreter, empty for the standard one. -/
  interpreter : String := ""
deriving DecidableEq, Inhabited

namespace SandboxSettings

def ofDocument (d : Document) : Except Fault SandboxSettings := do
  let s ← Section.ofDocument d "Sandbox"
  return {
    memoryMb := ← s.whole "MaxMemoryMB" 128
    timeMs := ← s.whole "MaxExecutionTimeMs" 5000
    cores := ← s.whole "MaxCpuCores" 1
    maxCodeLength := ← s.whole "MaxCodeLength" 100000
    interpreter := String.ofList (Text.strip (← s.text "Interpreter" "").toList) }

/-- The sandbox of these settings, unless a limit is not positive. -/
def sandbox (s : SandboxSettings) : Except Limits.Fault Sandbox := do
  return {
    limits := ← Limits.make s.memoryMb s.timeMs s.cores
    maxCodeLength := s.maxCodeLength
    interpreter := if s.interpreter.isEmpty then none else some s.interpreter }

end SandboxSettings

/-- The options of an analysis with the kinds in focus by name, and the number of workers. -/
structure DetectionSettings where
  confidenceThreshold : Number := 0.6
  enableExecution : Bool := true
  enableStatic : Bool := true
  enablePatterns : Bool := true
  generateRecommendations : Bool := true
  focus : List String := Kind.all.map Kind.name
  workers : Int := 4
  memoryThresholdMb : Number := 100.0
  timeThresholdMs : Number := 3000.0
  cpuThreshold : Number := 80.0
deriving DecidableEq, Inhabited

namespace DetectionSettings

/-- The names between the commas of a text in lower case; all kinds when there is none. -/
def focusOf (text : String) : List String :=
  let names := (Text.splitOn ',' text.toList).map Text.strip |>.filter (!·.isEmpty)
  if names.isEmpty then Kind.all.map Kind.name
  else names.map fun name => String.ofList (Text.lower name)

def ofDocument (d : Document) : Except Fault DetectionSettings := do
  let s ← Section.ofDocument d "Detection"
  let focus ← s.text "FocusCategories" (String.intercalate "," (Kind.all.map Kind.name))
  return {
    focus := focusOf focus
    confidenceThreshold := ← s.number "ConfidenceThreshold" 0.6
    enableExecution := ← s.boolean "EnableExecutionAnalysis" true
    enableStatic := ← s.boolean "EnableStaticAnalysis" true
    enablePatterns := ← s.boolean "EnablePatternMatching" true
    generateRecommendations := ← s.boolean "GenerateRecommendations" true
    workers := ← s.whole "MaxWorkers" 4
    memoryThresholdMb := ← s.number "MemoryThresholdMB" 100.0
    timeThresholdMs := ← s.number "ExecutionTimeThresholdMs" 3000.0
    cpuThreshold := ← s.number "CpuUsageThreshold" 80.0 }

/-- What a call may ask for instead of the settings. -/
structure Overrides where
  confidenceThreshold : Option Number := none
  focus : Option (List String) := none
  enableExecution : Option Bool := none
  maxTimeMs : Option Number := none
deriving DecidableEq, Inhabited

/-- The options of these settings with some of them replaced, unless a value is out of its range. -/
def options (s : DetectionSettings) (o : Overrides) : Except Options.Fault Options :=
  let draft : Options := {
    confidenceThreshold := o.confidenceThreshold.getD s.confidenceThreshold
    generateRecommendations := s.generateRecommendations
    enableExecution := o.enableExecution.getD s.enableExecution
    enableStatic := s.enableStatic
    enablePatterns := s.enablePatterns
    maxTimeMs := o.maxTimeMs
    memoryThresholdMb := s.memoryThresholdMb
    timeThresholdMs := s.timeThresholdMs
    cpuThreshold := s.cpuThreshold }
  draft.check (o.focus.getD s.focus)

end DetectionSettings

/-- Where the log is kept and from which level on. -/
structure LoggingSettings where
  fileLevel : String := "INFO"
  file : String := "halguard_run.log"
deriving DecidableEq, Inhabited

namespace LoggingSettings

def ofDocument (d : Document) : Except Fault LoggingSettings := do
  let s ← Section.ofDocument d "Logging"
  let level ← s.text "FileLogLevel" "INFO"
  return {
    fileLevel := String.ofList (Text.upper level.toList)
    file := ← s.text "LogFile" "halguard_run.log" }

/-- The level of the log file; a name that is no level stands for INFO. -/
def level (s : LoggingSettings) : LogLevel :=
  (LogLevel.ofName? s.fileLevel).getD .info

end LoggingSettings

/-- The warning on a section that was replaced. -/
def replacedWarning (name : String) (fault : Fault) : LogRecord :=
  ⟨.warning, "core.config_loader", s!"Error parsing {name} configuration, using defaults: {fault.message}"⟩

/-- A section's settings, or the standard ones with a warning; a value that does not expand fails. -/
def orStandard {α : Type} (name : String) (standard : α) (settings : Except Fault α) :
    ExceptT ExpansionFault (StateM Host) α :=
  match settings with
  | .ok a => return a
  | .error (.expansion fault) => throw fault
  | .error fault => do
    modify (·.logged (replacedWarning name fault))
    return standard

namespace Document

def sandbox (d : Document) : ExceptT ExpansionFault (StateM Host) SandboxSettings :=
  orStandard "Sandbox" {} (SandboxSettings.ofDocument d)

def detection (d : Document) : ExceptT ExpansionFault (StateM Host) DetectionSettings :=
  orStandard "Detection" {} (DetectionSettings.ofDocument d)

def logging (d : Document) : ExceptT ExpansionFault (StateM Host) LoggingSettings :=
  orStandard "Logging" {} (LoggingSettings.ofDocument d)

end Document

end CodeAudit.Settings
