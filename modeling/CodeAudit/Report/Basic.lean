import CodeAudit.Analysis.Basic
import CodeAudit.Report.Markup

/-!
The report on an analysis as blocks of marked-up text: a summary, the findings, the run and the advice.
-/

namespace CodeAudit

/-- A block of a report. -/
inductive Block where
  | panel (title body border : String)
  | table (title : String) (columns : List String) (rows : List (List String))
deriving DecidableEq, Inhabited

/-- A block as plain text. -/
def Block.text : Block → String
  | panel title body _ => Markup.plain s!"== {title} ==\n{body}\n"
  | table title columns rows =>
    let lines := (columns :: rows).map (String.intercalate " | ")
    Markup.plain (String.intercalate "\n" (s!"== {title} ==" :: lines) ++ "\n")

namespace Report

open Markup (escape styled)

/-- The lines of a block as one text. -/
def joined (ls : List String) : String :=
  String.intercalate "\n" ls

/-- The style of a severity's name, none for a name that is no severity. -/
def style? (severity : String) : Option String :=
  match severity with
  | "critical" => some "bold red"
  | "high" => some "red"
  | "medium" => some "yellow"
  | "low" => some "cyan"
  | _ => none

/-- How a level of risk is shown. -/
def riskLabel (risk : String) : String :=
  match risk with
  | "critical" => "[bold red]🛑 Critical risk[/bold red]"
  | "high" => "[red]⚠️ High risk[/red]"
  | "medium" => "[yellow]⚠️ Medium risk[/yellow]"
  | "low" => "[cyan]ℹ️ Low risk[/cyan]"
  | "none" => "[bold green]✅ No hallucinations detected[/bold green]"
  | other => other

/-- Dollars without cents; a cost that was not worked out shows as none at all. -/
def dollars (cost : Option Number) : Except RangeFault String :=
  match cost with
  | some c => (if c.isZero then 0 else c : Number).fixed? 0
  | none => .ok "0"

def summaryBlock (a : Analysis) (source : String) : Except RangeFault Block := do
  let s := a.summary
  let m := a.metadata
  let rate ← a.rate.percent?
  let hours ← a.impact.hours.fixed? 1
  let cost ← dollars a.impact.cost
  let executed := if m.executed then "yes" else "no"
  let time ← m.timeMs.fixed? 0
  let failed := String.intercalate ", " m.failed
  let body :=
    [riskLabel s.overallRisk,
      s!"[bold]Hallucination rate:[/bold] {rate}",
      s!"[bold]Findings:[/bold] {s.total} (critical {s.critical}, high {s.high}, medium {s.medium}, low {s.low})"] ++
    (s.mostCommon.map fun k => s!"[bold]Most common:[/bold] {k.name}").toList ++
    [s!"[bold]Estimated impact:[/bold] {hours}h, ${cost}",
      s!"[dim]{m.language} · {m.codeLength.text} chars · executed: {executed} · {time}ms · v{m.version}[/dim]"] ++
    if m.failed.isEmpty then [] else [s!"[yellow]Skipped after errors: {failed}[/yellow]"]
  return .panel s!"Detection Summary: {escape source}" (joined body) "bold"

/-- The row of a finding. -/
def findingRow (f : Finding) : List String :=
  let severity := f.severity.name
  let lines := String.intercalate ", " (f.lines.toList.map toString)
  [styled ((style? severity).getD "") severity, s!"{f.kind.name}/{f.subkind.name}",
    if lines.isEmpty then "-" else lines, f.confidence.value.fixed 2, f.method.name,
    escape (f.evidence.head?.getD f.description)]

def findingsBlock (fs : List Finding) : List Block :=
  if fs.isEmpty then []
  else
    [.table "Findings" ["Severity", "Category", "Lines", "Conf.", "Method", "Evidence"] (fs.map findingRow)]

/-- How much of an output is shown. -/
def outputLength : Nat := 500

/-- The line on an error of a run. -/
def errorLine (e : ExecutionError) : String :=
  let place := match e.line with
    | some n => if n = 0 then "" else s!" at line {n}"
    | none => ""
  s!"[red]{escape e.type}{place}:[/red] {escape e.message}"

def runBlock (r : ExecutionResult) : Except MeasureFault Block := do
  let status :=
    if r.timedOut then "[red]timed out[/red]"
    else if r.success then "[green]succeeded[/green]" else "[red]failed[/red]"
  let code := (r.exitCode.map toString).getD "None"
  let time ← (r.usage.timeMs.fixed? 0).mapError .range
  let memory ← Usage.format r.usage.memoryMb
  let cpu ← (r.usage.cpu.fixed? 0).mapError .range
  let output :=
    if r.output.isEmpty then []
    else ["[bold]Output:[/bold]", escape (String.ofList (r.output.toList.take outputLength))]
  let body :=
    [s!"Run {status} (exit code {code})", s!"Time: {time}ms · Memory: {memory}MB · CPU: {cpu}%"] ++
    r.errors.map errorLine ++ output
  return .panel "Execution" (joined body) "blue"

/-- The run, or why there was none. -/
def executionBlocks (a : Analysis) : Except MeasureFault (List Block) :=
  match a.execution, a.safety with
  | some r, _ => (runBlock r).map fun b => [b]
  | none, some safety =>
    if safety.allowExecution then .ok []
    else
      let risks := joined (safety.risks.map fun risk => s!"  - {escape risk}")
      .ok [.panel "Execution" s!"[yellow]Execution skipped by the safety gate.[/yellow]\n{risks}" "yellow"]
  | none, none => .ok []

def recommendationBlock (r : Recommendation) : Block :=
  let style := (style? r.priority).getD "bold"
  let title := styled style (escape r.title)
  let actions := r.actions.zipIdx.map fun (action, k) => s!"{k + 1}. {escape action}"
  let body :=
    [escape r.description, ""] ++ actions ++
    ["", s!"[dim]{escape r.expectedImpact} · est. {r.fixTime}[/dim]"]
  .panel s!"{title} ({r.priority})" (joined body) style

/-- The parts of the report on an analysis of the source of that name; one that cannot be written ends the report. -/
def parts (a : Analysis) (source : String) : List (Except MeasureFault (List Block)) := [
  ((summaryBlock a source).map fun b => [b]).mapError .range,
  .ok (findingsBlock a.findings),
  executionBlocks a,
  .ok (a.recommendations.map recommendationBlock)]

/-- The blocks of a whole report. -/
def blocks (a : Analysis) (source : String) : Except MeasureFault (List Block) := do
  return (← (parts a source).mapM id).flatten

end Report

end CodeAudit
