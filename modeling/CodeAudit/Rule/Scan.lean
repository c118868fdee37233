import CodeAudit.Rule.Catalog
import CodeAudit.Structure

/-!
A scan of a program text by some rules: their matches, the findings made of them, and the rules that failed.
-/

namespace CodeAudit

/-- A candidate of a rule that its evidence confirms; lines and columns count from one. -/
structure RuleMatch where
  ruleId : String
  confidence : Confidence
  startLine : Nat
  endLine : Nat
  startColumn : Nat
  endColumn : Nat
  evidence : List String
deriving DecidableEq, Inhabited

namespace RuleMatch

def toJson (m : RuleMatch) : Json :=
  .object [
    ("ruleId", m.ruleId),
    ("confidence", m.confidence.value),
    ("location", .object [
      ("startLine", m.startLine), ("endLine", m.endLine),
      ("startColumn", m.startColumn), ("endColumn", m.endColumn)]),
    ("evidence", Json.strings m.evidence)]

end RuleMatch

namespace Rule

/-- The match that a candidate on line `index` is, if there is evidence. -/
def matchOf (r : Rule) (src : Source) (index : Nat) (m : Regex.Found) :
    Except Reading.Fault (Option RuleMatch) := do
  let evidence ← r.evidence m src index
  if evidence.isEmpty then return none
  else
    return some {
      ruleId := r.id
      confidence := r.confidence
      startLine := index + 1
      endLine := if r.spansBlock then Source.blockEnd src.masked index + 1 else index + 1
      startColumn := m.start + 1
      endColumn := max m.stop (m.start + 1)
      evidence := evidence }

/-- The matches on line `index`. -/
def matchesOn (r : Rule) (src : Source) (index : Nat) (line : Source.Line) :
    Except Reading.Fault (List RuleMatch) := do
  return (← (r.expression.all line).mapM (r.matchOf src index)).filterMap fun m => m

/-- The matches on all lines from the first to the last, unless the evidence of a candidate fails. -/
def matchesIn (r : Rule) (src : Source) : Except Reading.Fault (List RuleMatch) := do
  let perLine ← src.masked.zipIdx.mapM fun (line, index) => r.matchesOn src index line
  return perLine.flatten

/-- The finding that a match of the rule makes. -/
def findingOf (r : Rule) (src : Source) (m : RuleMatch) : Finding :=
  let code := String.ofList (Text.strip (src.line (m.startLine - 1)))
  { subkind := r.subkind
    severity := r.severity
    confidence := m.confidence
    evidence := m.evidence ++ [s!"Line {m.startLine}: {code}"]
    method := .pattern
    impact := Impact.ofKind r.kind
    lines := LineSet.ofList [m.startLine]
    description := r.name
    errorMessage := none
    suggestedFix := some r.suggestedFix }

end Rule

/-- What some rules find in a program text. -/
structure PatternScan where
  found : List (RuleMatch × Finding)
  codeStructure : Structure
  confidence : Number
  /-- The rules that failed, with the reason. -/
  failed : List (String × Reading.Fault)

/-- Counts of matches by the kind and severity of their rules. -/
structure Statistics where
  total : Nat
  byKind : List (Kind × Nat)
  bySeverity : List (Severity × Nat)
  meanConfidence : Number

namespace Statistics

/-- The mean of some confidences, or `empty` when there are none. -/
def mean (empty : Number) (cs : List Confidence) : Number :=
  if cs.isEmpty then empty
  else .double (Number.div (Number.sum (cs.map (·.value))) (.int cs.length))

/-- The items that occur, with how often they do. -/
def tally {α : Type} [BEq α] (items : List α) : List (α × Nat) :=
  items.eraseDups.map fun a => (a, items.count a)

/-- Statistics of matches over the rules that made them; matches of other rules count in the totals only. -/
def ofMatches (rules : List Rule) (ms : List RuleMatch) : Statistics :=
  let used := ms.filterMap fun m => rules.find? (·.id == m.ruleId)
  { total := ms.length
    byKind := tally (used.map Rule.kind)
    bySeverity := tally (used.map Rule.severity)
    meanConfidence := mean 0.0 (ms.map RuleMatch.confidence) }

def toJson (s : Statistics) : Json :=
  .object [
    ("totalPatterns", s.total),
    ("byCategory", .object (s.byKind.map fun (k, n) => (k.name, (n : Json)))),
    ("bySeverity", .object (s.bySeverity.map fun (k, n) => (k.name, (n : Json)))),
    ("avgConfidence", s.meanConfidence)]

end Statistics

namespace PatternScan

def ruleMatches (s : PatternScan) : List RuleMatch :=
  s.found.map (·.1)

def findings (s : PatternScan) : List Finding :=
  s.found.map (·.2)

/-- The matches of one more rule, or its failure, after those of the rules before it. -/
def addRule (src : Source) (done : List (RuleMatch × Finding) × List (String × Reading.Fault)) (r : Rule) :
    List (RuleMatch × Finding) × List (String × Reading.Fault) :=
  match r.matchesIn src with
  | .ok ms => (done.1 ++ ms.map fun m => (m, r.findingOf src m), done.2)
  | .error fault => (done.1, done.2 ++ [(r.id, fault)])

/-- The scan of a text by some rules, each on its own; a text of blanks has no matches. -/
def ofCode (rules : List Rule) (codeStructure : Structure) (code : List Char) : PatternScan :=
  if Text.isBlankText code then ⟨[], codeStructure, 1.0, []⟩
  else
    let src := Source.ofText code
    let (found, failed) := rules.foldl (addRule src) ([], [])
    { found := found
      codeStructure := codeStructure
      confidence := Statistics.mean 1.0 (found.map (·.1.confidence))
      failed := failed }

def toJson (s : PatternScan) : Json :=
  .object [
    ("matches", .array (s.ruleMatches.map RuleMatch.toJson)),
    ("categories", .array (s.findings.map Finding.toJson)),
    ("codeStructure", s.codeStructure.toJson),
    ("confidence", s.confidence.roundPlaces 4),
    ("failedRules", Json.strings (s.failed.map (·.1)))]

end PatternScan

end CodeAudit
