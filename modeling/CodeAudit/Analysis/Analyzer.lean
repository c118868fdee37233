import CodeAudit.Analysis.Basic
import CodeAudit.Execution.Findings
import CodeAudit.Static

/-!
The analyzer: it looks at a program's structure and safety, runs the enabled detectors one after the other and
makes one result of their findings. A part that fails is listed and the others go on.
-/

namespace CodeAudit

/-- A part of the analyzer that can be out of order. -/
inductive Part where
  | outline
  | safety
  | detector (method : Method)
deriving DecidableEq

/-- Why a detector has no findings to give. -/
inductive DetectorFault where
  | outOfOrder (reason : String)
  | parser (kind message : String)
  | run (fault : RunFault)

namespace DetectorFault

def message : DetectorFault → String
  | outOfOrder reason => reason
  | parser _ message => message
  | run fault => fault.message

end DetectorFault

/-- Why a program is not analysed at all. -/
inductive InputFault where
  | empty
  | language (given : Option String)
  | tooLong (length : Nat) (most : Number)
  /-- Several programs are to be analysed with no worker. -/
  | noWorkers
deriving DecidableEq

namespace InputFault

def message : InputFault → String
  | empty => "Code cannot be empty"
  | language given => s!"Language '{shownLanguage given}' not yet supported"
  | tooLong length most => s!"Code is too long ({length} characters, maximum {most.text})"
  | noWorkers => "max_workers must be greater than 0"

end InputFault

/-- A program to analyse. -/
structure Program where
  code : List Char
  /-- The canonical name of its language. -/
  language : String

/-- What an analyzer works with. -/
structure Analyzer where
  sandbox : Sandbox := {}
  rules : List Rule := Rule.catalog
  /-- The options of an analysis that is given none. -/
  options : Options := {}
  workers : Int := 4
  /-- What the parser of the language says of a text. -/
  parse : List Char → ParseVerdict := fun _ => .parses
  /-- Why a part is out of order, if it is. -/
  defect : Part → Option String := fun _ => none

/-- What the detectors look at. -/
structure Subject where
  program : Program
  options : Options
  codeStructure : Structure
  safety : Option SafetyAssessment

/-- What one detector gives, or several of them one after the other. -/
structure Outcome where
  findings : List Finding := []
  execution : Option ExecutionResult := none
  statistics : Option Statistics := none
  /-- The names of the detectors that failed. -/
  failed : List String := []
deriving Inhabited

namespace Outcome

/-- Two outcomes one after the other. -/
def append (o later : Outcome) : Outcome :=
  { findings := o.findings ++ later.findings
    execution := later.execution.or o.execution
    statistics := later.statistics.or o.statistics
    failed := o.failed ++ later.failed }

end Outcome

namespace Analyzer

/-- A detector at work: it may use the host and may fail. -/
abbrev Detection (α : Type) := ExceptT DetectorFault (StateM Host) α

/-- The warning on a rule that failed. -/
def ruleWarning (id : String) (fault : Reading.Fault) : LogRecord :=
  ⟨.warning, "detector.pattern_matcher", s!"Pattern rule '{id}' failed and was skipped: {fault.message}"⟩

/-- The warning on a structure analysis that failed. -/
def outlineWarning (reason : String) : LogRecord :=
  ⟨.warning, "detector.code_structure", s!"Code structure analysis failed: {reason}"⟩

/-- The warning on a safety assessment that failed. -/
def safetyWarning (reason : String) : LogRecord :=
  ⟨.warning, "core.orchestrator", s!"Safety assessment failed, execution will be skipped: {reason}"⟩

/-- The warning on a detector that failed. -/
def detectorWarning (method : Method) (fault : DetectorFault) : LogRecord :=
  ⟨.warning, "core.orchestrator", s!"{method.name} detection failed: {fault.message}"⟩

def warn (r : LogRecord) : StateM Host Unit :=
  modify (·.logged r)

/-- The scan by the analyzer's rules. -/
def detectPatterns (a : Analyzer) (s : Subject) : Detection Outcome := do
  let scan := PatternScan.ofCode a.rules s.codeStructure s.program.code
  scan.failed.forM fun (id, fault) => warn (ruleWarning id fault)
  return {
    findings := scan.findings
    statistics := some (Statistics.ofMatches a.rules scan.ruleMatches) }

/-- What the parser and the structure tell. -/
def detectStatic (a : Analyzer) (s : Subject) : Detection Outcome :=
  match Static.findings (a.parse s.program.code) s.codeStructure with
  | .ok findings => return { findings := findings }
  | .error (kind, message) => throw (.parser kind message)

/-- The limits of a run: another time where the options give one other than zero. -/
def runLimits (a : Analyzer) (o : Options) : Except RunFault Limits :=
  match o.maxTimeMs with
  | some timeMs =>
    if timeMs.isZero then .ok a.sandbox.limits else (a.sandbox.limits.withTime timeMs).mapError .limits
  | none => .ok a.sandbox.limits

/-- A run of the program and the findings from it. -/
def execute (a : Analyzer) (s : Subject) : Sandbox.Action Outcome := do
  let limits ← (a.runLimits s.options : Except RunFault Limits)
  let result ← a.sandbox.execute (some s.program.code) (some s.program.language) (some limits)
  let findings ← (ExecutionFindings.ofResult result s.options : Except RunFault (List Finding))
  return { findings := findings, execution := some result }

/-- A run of the program if the safety gate allows one. -/
def detectByExecution (a : Analyzer) (s : Subject) : Detection Outcome :=
  if s.safety.any (!·.allowExecution) then return {}
  else ExceptT.adapt .run (a.execute s)

/-- The work of one detector that is in order. -/
def detectBy (a : Analyzer) (s : Subject) : Method → Detection Outcome
  | .pattern => a.detectPatterns s
  | .static => a.detectStatic s
  | .execution => a.detectByExecution s

/-- The outcome of one detector, which lists itself if it fails. -/
def outcomeOf (a : Analyzer) (s : Subject) (method : Method) : StateM Host Outcome := do
  let result ←
    match a.defect (.detector method) with
    | some reason => pure (.error (.outOfOrder reason))
    | none => (a.detectBy s method).run
  match result with
  | .ok outcome => return outcome
  | .error fault => do
    warn (detectorWarning method fault)
    return { failed := [method.name] }

/-- The detectors that are to run, in order; without a safety assessment nothing is executed. -/
def methods (o : Options) (safety : Option SafetyAssessment) : List Method :=
  Method.all.filter fun
    | .pattern => o.enablePatterns
    | .static => o.enableStatic
    | .execution => o.enableExecution && safety.isSome

/-- The outcome of some detectors one after the other. -/
def outcomeOfAll (a : Analyzer) (s : Subject) : List Method → StateM Host Outcome
  | [] => return {}
  | method :: rest => do
    let first ← a.outcomeOf s method
    let later ← a.outcomeOfAll s rest
    return first.append later

/-- The structure of a program, an empty one if the part that finds it is out of order. -/
def outline (a : Analyzer) (code : List Char) : StateM Host Structure :=
  match a.defect .outline with
  | some reason => do
    warn (outlineWarning reason)
    return {}
  | none => return Structure.ofSource (Source.ofText code)

/-- The safety of a program, none if the gate is out of order. -/
def assess (a : Analyzer) (code : List Char) : StateM Host (Option SafetyAssessment) :=
  match a.defect .safety with
  | some reason => do
    warn (safetyWarning reason)
    return none
  | none => return some (SafetyAssessment.ofCode code)

/-- The findings of an outcome that an analysis reports. -/
def reported (o : Options) (outcome : Outcome) : List Finding :=
  Finding.keep o.confidenceThreshold o.focus (Finding.merge outcome.findings)

/-- The analysis of a program; it always comes to a result. -/
def analysisOf (a : Analyzer) (p : Program) (o : Options) : StateM Host Analysis := do
  let start := (← get).clock
  let codeStructure ← a.outline p.code
  let safety ← a.assess p.code
  let outcome ← a.outcomeOfAll ⟨p, o, codeStructure, safety⟩ (methods o safety)
  let metadata : Metadata := {
    timeMs := .double ((← get).millisecondsSince start)
    language := p.language
    codeLength := .int p.code.length
    executed := outcome.execution.any ExecutionResult.isVerified
    rulesChecked := if o.enablePatterns then a.rules.length else 0
    statistics := outcome.statistics
    failed := (if safety.isNone then ["safety"] else []) ++ outcome.failed }
  let made := Analysis.ofFindings (reported o outcome) metadata
  return { made with
    recommendations := if o.generateRecommendations then made.recommendations else []
    execution := outcome.execution
    codeStructure := some codeStructure
    safety := safety }

/-- The program that a text and a language make, unless there is a reason not to analyse it. -/
def program (a : Analyzer) (code : Option (List Char)) (language : Option String) :
    Except InputFault Program :=
  match code with
  | none | some [] => .error .empty
  | some code =>
    match canonicalLanguage? language with
    | none => .error (.language language)
    | some name =>
      if a.sandbox.maxCodeLength.lt (.int code.length) then .error (.tooLong code.length a.sandbox.maxCodeLength)
      else .ok ⟨code, name⟩

/-- The analysis of a text in a language with given options or the analyzer's own. -/
def analyze (a : Analyzer) (code : Option (List Char)) (language : Option String) (o : Option Options) :
    ExceptT InputFault (StateM Host) Analysis := do
  let p ← (a.program code language : Except InputFault Program)
  a.analysisOf p (o.getD a.options)

/-- The analyses of several texts in their order, after all of them are found fit. -/
def analyzeAll (a : Analyzer) (samples : List (Option (List Char) × Option String)) (o : Option Options) :
    ExceptT InputFault (StateM Host) (List Analysis) := do
  let programs ← (samples.mapM fun (code, language) => a.program code language : Except InputFault _)
  if a.workers < 1 then throw .noWorkers
  else programs.mapM fun p => a.analysisOf p (o.getD a.options)

end Analyzer

end CodeAudit
