import CodeAudit.Finding.Basic
import CodeAudit.Structure

/-!
Findings that need no execution and no rule: code that does not parse, nests deeply or branches a lot.
-/

namespace CodeAudit

/-- What a parser says of a program text. -/
inductive ParseVerdict where
  | parses
  /-- An error with its message, its line and the text of that line. -/
  | refused (message : String) (line : Option Int) (text : Option String)
  /-- The parser itself gave up. -/
  | crashed (kind message : String)
deriving DecidableEq, Inhabited

namespace Static

/-- The deepest nesting that is not reported. -/
def maxNesting : Int := 5

/-- The greatest complexity that is not reported. -/
def maxComplexity : Int := 15

/-- A finding on the logic of a whole text. -/
def breakdown (severity : Severity) (confidence : Confidence) (evidence : List String)
    (description fix : String) : Finding :=
  { subkind := .logicBreakdown
    severity := severity
    confidence := confidence
    evidence := evidence
    method := .static
    impact := Impact.ofKind .logic
    lines := .empty
    description := description
    errorMessage := none
    suggestedFix := some fix }

/-- The finding for code that does not parse. -/
def parseFinding (message : String) (line : Option Int) (text : Option String) : Finding :=
  let number := line.getD 0
  let quoted := match text with
    | some t =>
      if t.isEmpty then [] else [s!"Line {number}: {String.ofList (Text.strip t.toList)}"]
    | none => []
  { breakdown .critical (.of 0.95) (s!"Syntax error: {message}" :: quoted) "Code does not parse"
      "Fix the syntax error before using this code" with
    lines := if number = 0 then .empty else LineSet.ofList [number]
    errorMessage := some message }

/-- The findings on the size of a structure. -/
def structureFindings (s : Structure) : List Finding :=
  (if maxNesting < s.nestingDepth then
    [breakdown .low (.of 0.6) [s!"Nesting depth {s.nestingDepth} exceeds {maxNesting}"]
      "Deeply nested code" "Extract nested blocks into functions or use early returns"]
  else []) ++
  (if maxComplexity < s.complexity then
    [breakdown .low (.of 0.6) [s!"Cyclomatic complexity {s.complexity} exceeds {maxComplexity}"]
      "Overly complex control flow" "Split the logic into smaller functions"]
  else [])

/-- All static findings, or the crash of the parser. -/
def findings (verdict : ParseVerdict) (s : Structure) : Except (String × String) (List Finding) :=
  match verdict with
  | .parses => .ok (structureFindings s)
  | .refused message line text => .ok (parseFinding message line text :: structureFindings s)
  | .crashed kind message => .error (kind, message)

end Static

end CodeAudit
