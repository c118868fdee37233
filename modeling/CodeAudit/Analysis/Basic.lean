import CodeAudit.Execution.Result
import CodeAudit.Finding.Recommendation
import CodeAudit.Rule.Scan
import CodeAudit.Safety

/-!
The result of an analysis: its findings with what follows from them, and how they were come by.
-/

namespace CodeAudit

/-- How an analysis was made. -/
structure Metadata where
  timeMs : Number := 0.0
  version : String := "1.0.0"
  language : String := "python"
  codeLength : Number := 0
  /-- Whether the code really ran. -/
  executed : Bool := false
  rulesChecked : Nat := 0
  /-- Statistics of the rules' matches, none when no scan came about. -/
  statistics : Option Statistics := none
  /-- The parts that failed, in the order in which they did. -/
  failed : List String := []
deriving Inhabited

namespace Metadata

def toJson (m : Metadata) : Json :=
  .object [
    ("analysisTimeMs", m.timeMs.roundPlaces 3),
    ("version", m.version),
    ("language", m.language),
    ("codeLength", m.codeLength),
    ("executionVerified", m.executed),
    ("patternsChecked", m.rulesChecked),
    ("patternStatistics", (m.statistics.map Statistics.toJson).getD (.object [])),
    ("failedDetectors", Json.strings m.failed)]

end Metadata

/-- The result of one analysis. -/
structure Analysis where
  rate : Number
  findings : List Finding
  impact : Impact
  recommendations : List Recommendation
  metadata : Metadata
  summary : Summary
  execution : Option ExecutionResult := none
  codeStructure : Option Structure := none
  safety : Option SafetyAssessment := none
deriving Inhabited

namespace Analysis

/-- The result that findings make with all that follows from them. -/
def ofFindings (fs : List Finding) (metadata : Metadata) : Analysis :=
  let rate := Risk.rateOf fs
  { rate := rate
    findings := fs
    impact := Impact.total (fs.map Finding.impact)
    recommendations := Recommendation.forFindings fs rate
    metadata := metadata
    summary := Summary.ofFindings fs rate }

/-- Whether a finding is critical. -/
def hasCritical (a : Analysis) : Bool :=
  a.findings.any (·.severity == .critical)

/-- The result as JSON, unless what the run used cannot be written. -/
def toJson (a : Analysis) : Except MeasureFault Json := do
  let execution ←
    match a.execution with
    | some r => r.toJson
    | none => pure .null
  return .object [
    ("overallHallucinationRate", a.rate.roundPlaces 4),
    ("categories", .array (a.findings.map Finding.toJson)),
    ("executionResult", execution),
    ("businessImpact", a.impact.toJson),
    ("recommendations", .array (a.recommendations.map Recommendation.toJson)),
    ("detectionMetadata", a.metadata.toJson),
    ("hasCriticalIssues", a.hasCritical),
    ("summary", a.summary.toJson),
    ("codeStructure", Json.orNull Structure.toJson a.codeStructure),
    ("safetyAssessment", Json.orNull SafetyAssessment.toJson a.safety)]

end Analysis

end CodeAudit
