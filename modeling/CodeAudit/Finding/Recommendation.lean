import CodeAudit.Finding.Risk

/-!
Advice for the findings of each kind: the fixes that the worst of them suggest, then a checklist.
-/

namespace CodeAudit

/-- Advice for one kind of finding. -/
structure Recommendation where
  kind : String
  priority : String
  title : String
  description : String
  actions : List String
  fixTime : String
  expectedImpact : String
deriving DecidableEq, Inhabited

namespace Recommendation

/-- The wording for a kind. -/
structure Template where
  title : String
  description : String
  checklist : List String

def template : Kind → Template
  | .mapping =>
    { title := "Data Type and Structure Issues"
      description := "Code contains potential data mapping problems"
      checklist := [
        "Add type checking and validation",
        "Verify data structure assumptions",
        "Test with edge cases and different data types"] }
  | .naming =>
    { title := "Identifier and Reference Issues"
      description := "Code contains potential naming and reference problems"
      checklist := [
        "Verify all variables and functions are defined",
        "Check import statements and module availability",
        "Review scope and naming conventions"] }
  | .resource =>
    { title := "Resource and Performance Issues"
      description := "Code may have resource consumption problems"
      checklist := [
        "Add resource limits and monitoring",
        "Optimize memory and CPU usage",
        "Implement proper error handling for resource constraints"] }
  | .logic =>
    { title := "Logic and Flow Issues"
      description := "Code contains potential logical inconsistencies"
      checklist := [
        "Review algorithm logic and flow",
        "Add proper termination conditions",
        "Test with various input scenarios"] }

/-- The rate above which a review of the whole code is advised. -/
def reviewRate : Number := 0.7

/-- How many suggested fixes go in front of the checklist. -/
def maxFixes : Nat := 3

/-- The advice to review all of the code. -/
def review : Recommendation :=
  { kind := "general"
    priority := "critical"
    title := "Critical Code Review Required"
    description := "Multiple serious issues detected that require immediate attention"
    actions := [
      "Conduct thorough code review",
      "Test with multiple input scenarios",
      "Consider alternative implementation approach"]
    fixTime := "2-4 hours"
    expectedImpact := "Prevent production issues and reduce debugging time" }

/-- How long the findings take to fix, by the hours that their impacts add up to. -/
def timeToFix (fs : List Finding) : String :=
  let hours := Number.sum (fs.map (·.impact.hours))
  if hours.lt 1 then "15-30 minutes"
  else if hours.lt 2 then "30-60 minutes"
  else if hours.lt 4 then "1-2 hours"
  else if hours.lt 8 then "2-4 hours"
  else "4+ hours"

/-- The distinct fixes that findings suggest, in their order. -/
def fixes (fs : List Finding) : List String :=
  fs.foldl
    (fun done f =>
      match f.suggestedFix with
      | some fix => if fix.isEmpty || done.contains fix then done else done ++ [fix]
      | none => done)
    []

/-- The advice for the findings of one kind, none when there are none. -/
def forKind? (fs : List Finding) (k : Kind) : Option Recommendation :=
  let group := Finding.ofKind k fs
  match Severity.worst? (group.map Finding.severity) with
  | none => none
  | some worst =>
    let fixes := fixes (Finding.sort group)
    some {
      kind := k.name
      priority := worst.name
      title := (template k).title
      description := (template k).description
      actions := fixes.take maxFixes ++ (template k).checklist.filter (!fixes.contains ·)
      fixTime := timeToFix group
      expectedImpact := s!"Resolve {group.length} {k.name} issue(s)" }

/-- The advice for some findings at a rate, in taxonomy order. -/
def forFindings (fs : List Finding) (rate : Number) : List Recommendation :=
  Kind.all.filterMap (forKind? fs) ++ if reviewRate.lt rate then [review] else []

/-- The advice for some findings at a rate, unless the hours of one kind cannot be added up. -/
def forFindings? (fs : List Finding) (rate : Number) : Except RangeFault (List Recommendation) := do
  for k in Kind.all do
    let _ ← Number.sum? ((Finding.ofKind k fs).map (·.impact.hours))
  return forFindings fs rate

def toJson (r : Recommendation) : Json :=
  .object [
    ("type", r.kind),
    ("priority", r.priority),
    ("title", r.title),
    ("description", r.description),
    ("actionItems", Json.strings r.actions),
    ("estimatedFixTime", r.fixTime),
    ("expectedImpact", r.expectedImpact)]

end Recommendation

end CodeAudit
