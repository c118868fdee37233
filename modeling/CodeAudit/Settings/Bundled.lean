import CodeAudit.Settings.Document

/-!
The settings that apply when no others are named.
-/

namespace CodeAudit.Settings

/-- The name of the bundled settings. -/
def bundledName : String := "config.ini"

def bundledText : String :=
  "[Sandbox]
MaxMemoryMB = 128          ; address space the candidate program may add
MaxExecutionTimeMs = 5000  ; wall-clock deadline, enforced by killing the child
MaxCpuCores = 1
MaxCodeLength = 100000
Interpreter =              ; empty = the standard interpreter

[Detection]
ConfidenceThreshold = 0.6
EnableExecutionAnalysis = true
EnableStaticAnalysis = true
EnablePatternMatching = true
GenerateRecommendations = true
FocusCategories = mapping,naming,resource,logic
MaxWorkers = 4             ; thread pool size for batch analyses
MemoryThresholdMB = 100
ExecutionTimeThresholdMs = 3000  ; slower runs are reported as computational boundary findings
CpuUsageThreshold = 80     ; percent of one core, checked on runs of a second or more

[Logging]
FileLogLevel = INFO
LogFile = halguard_run.log
"

/-- The bundled settings as a document. -/
def bundled : Except DocumentFault Document :=
  Document.ofText bundledText.toList

end CodeAudit.Settings
