import CodeAudit.Analysis.Analyzer
import CodeAudit.Proofs.Execution.Launch

/-!
The course of an analysis: the detectors are given what is known of the program before them, each is tried in its turn,
and the result is made of their outcome.
-/
namespace CodeAudit

open Outcome

namespace Analyzer

open Host (SameButLog)

section Before

variable (a : Analyzer) (code : List Char) (host : Host)

/-- The structure that the detectors are given. -/
def outlined : Structure :=
  if a.defect .outline = none then Structure.ofSource (Source.ofText code) else {}

/-- The safety that the detectors are given. -/
def assessed : Option SafetyAssessment :=
  if a.defect .safety = none then some (SafetyAssessment.ofCode code) else none

lemma run_outline : ∃ host', (a.outline code).run host = (a.outlined code, host') ∧ SameButLog host host' := by
  unfold outline outlined
  cases a.defect .outline with
  | some reason => exact ⟨_, rfl, .logged host _⟩
  | none => exact ⟨host, rfl, .refl host⟩

lemma run_assess : ∃ host', (a.assess code).run host = (a.assessed code, host') ∧ SameButLog host host' := by
  unfold assess assessed
  cases a.defect .safety with
  | some reason => exact ⟨_, rfl, .logged host _⟩
  | none => exact ⟨host, rfl, .refl host⟩

/-- What the detectors look at when a program is analysed. -/
def subject (p : Program) (o : Options) : Subject :=
  ⟨p, o, a.outlined p.code, a.assessed p.code⟩

/-- The detectors that run when a program is analysed, in their order. -/
def running (p : Program) (o : Options) : List Method :=
  methods o (a.assessed p.code)

end Before

section Detectors

variable (a : Analyzer) (s : Subject)

/-- What comes of a detector that is called, whether it is in order or not. -/
def attempt (method : Method) : StateM Host (Except DetectorFault Outcome) :=
  match a.defect (.detector method) with
  | some reason => pure (.error (.outOfOrder reason))
  | none => (a.detectBy s method).run

/-- The outcome of a detector is what comes of calling it; if it fails, the detector is listed. -/
lemma run_outcomeOf (method : Method) (host : Host) : (a.outcomeOf s method).run host =
    match (a.attempt s method).run host with
    | (.ok outcome, next) => (outcome, next)
    | (.error fault, next) => ({ failed := [method.name] }, next.logged (detectorWarning method fault)) := by
  unfold outcomeOf attempt
  cases a.defect (.detector method) with
  | some reason => rfl
  | none =>
    dsimp only
    rw [StateT.run_bind]
    rcases StateT.run (a.detectBy s method).run host with ⟨fault | outcome, next⟩
    · rfl
    · rfl

lemma attempt_of_defect {method : Method} {reason : String} (h : a.defect (.detector method) = some reason) :
    a.attempt s method = pure (.error (.outOfOrder reason)) := by
  unfold attempt
  rw [h]

lemma attempt_of_inOrder {method : Method} (h : a.defect (.detector method) = none) :
    a.attempt s method = (a.detectBy s method).run := by
  unfold attempt
  rw [h]

lemma run_warnAll (faults : List (String × Reading.Fault)) (host : Host) : ∃ host',
    (faults.forM fun (id, fault) => warn (ruleWarning id fault) : Detection PUnit).run host = (.ok ⟨⟩, host') ∧
      SameButLog host host' := by
  induction faults generalizing host with
  | nil => exact ⟨host, rfl, .refl host⟩
  | cons fault rest ih =>
    obtain ⟨host', hrun, hsame⟩ := ih (host.logged (ruleWarning fault.1 fault.2))
    exact ⟨host', hrun, (SameButLog.logged host _).trans hsame⟩

/-- What the rules find, which the state of the host has no part in. -/
def patternOutcome : Outcome :=
  let scan := PatternScan.ofCode a.rules s.codeStructure s.program.code
  { findings := scan.findings
    statistics := some (Statistics.ofMatches a.rules scan.ruleMatches) }

lemma run_detectPatterns (host : Host) : ∃ host',
    (a.detectPatterns s).run host = (.ok (a.patternOutcome s), host') ∧ SameButLog host host' := by
  obtain ⟨host', hrun, hsame⟩ := run_warnAll (PatternScan.ofCode a.rules s.codeStructure s.program.code).failed host
  refine ⟨host', ?_, hsame⟩
  unfold detectPatterns
  dsimp only
  rw [run_bind_of_ok hrun]
  rfl

/-- What the parser and the structure tell, on any host. -/
def staticOutcome : Except DetectorFault Outcome :=
  match Static.findings (a.parse s.program.code) s.codeStructure with
  | .ok findings => .ok { findings := findings }
  | .error (kind, message) => .error (.parser kind message)

lemma run_detectStatic (host : Host) : (a.detectStatic s).run host = (a.staticOutcome s, host) := by
  unfold detectStatic staticOutcome
  rcases Static.findings (a.parse s.program.code) s.codeStructure with ⟨kind, message⟩ | findings
  · rfl
  · rfl

/-- A detector that executes nothing writes to the log at most, and what comes of it is the same on any host. -/
lemma attempt_quiet {method : Method} (hne : method ≠ .execution) : ∃ result, ∀ host, ∃ host',
    (a.attempt s method).run host = (result, host') ∧ SameButLog host host' := by
  cases h : a.defect (.detector method) with
  | some reason =>
    rw [a.attempt_of_defect s h]
    exact ⟨_, fun host => ⟨host, rfl, .refl host⟩⟩
  | none =>
    rw [a.attempt_of_inOrder s h]
    cases method with
    | pattern => exact ⟨_, a.run_detectPatterns s⟩
    | static => exact ⟨_, fun host => ⟨host, a.run_detectStatic s host, .refl host⟩⟩
    | execution => exact absurd rfl hne

lemma attempt_sameButLog {method : Method} (hne : method ≠ .execution) (host : Host) :
    SameButLog host ((a.attempt s method).run host).2 := by
  obtain ⟨result, hquiet⟩ := a.attempt_quiet s hne
  obtain ⟨host', hrun, hsame⟩ := hquiet host
  rwa [hrun]

end Detectors

section Result

variable {o : Options} {outcome : Outcome} {r : Analysis}

/-- The result of an analysis with those options is made of that outcome of its detectors. -/
structure Reports (o : Options) (outcome : Outcome) (r : Analysis) : Prop where
  findings : r.findings = reported o outcome
  rate : r.rate = Risk.rateOf r.findings
  impact : r.impact = Impact.total (r.findings.map Finding.impact)
  summary : r.summary = Summary.ofFindings r.findings r.rate
  recommendations : r.recommendations =
    if o.generateRecommendations then Recommendation.forFindings r.findings r.rate else []
  execution : r.execution = outcome.execution
  statistics : r.metadata.statistics = outcome.statistics

/-- The result is made of the outcome of the detectors that run, on a host that nothing has happened to. -/
lemma run_analysisOf (a : Analyzer) (p : Program) (o : Options) (host : Host) : ∃ mid outcome r last,
    SameButLog host mid ∧ (a.outcomeOfAll (a.subject p o) (a.running p o)).run mid = (outcome, last) ∧
    (a.analysisOf p o).run host = (r, last) ∧ Reports o outcome r ∧
    r.codeStructure = some (a.outlined p.code) ∧ r.safety = a.assessed p.code ∧
    r.metadata.failed = (if a.defect .safety = none then [] else ["safety"]) ++ outcome.failed := by
  obtain ⟨host₁, houtline, hsame₁⟩ := a.run_outline p.code host
  obtain ⟨mid, hassess, hsame₂⟩ := a.run_assess p.code host₁
  -- the run as it is written, with what the first two parts give and leave
  let given := (a.outline p.code).run host
  let known := (a.assess p.code).run given.2
  let s : Subject := ⟨p, o, given.1, known.1⟩
  let ran := (a.outcomeOfAll s (methods o s.safety)).run known.2
  have hgiven : given = (a.outlined p.code, host₁) := houtline
  have hknown : known = (a.assessed p.code, mid) := by
    simp only [known, hgiven]
    exact hassess
  have hsafety : known.1 = a.assessed p.code := congrArg Prod.fst hknown
  have hs : s = a.subject p o := by
    simp only [s, hgiven, hknown]
    rfl
  refine ⟨mid, ran.1, ((a.analysisOf p o).run host).1, ran.2, hsame₁.trans hsame₂, ?_, rfl,
    ⟨rfl, rfl, rfl, rfl, rfl, rfl, rfl⟩, ?_, ?_, ?_⟩
  · simp only [ran, hs, hknown]
    rfl
  · exact congrArg some (congrArg Prod.fst hgiven)
  · exact hsafety
  · have hfailed : ((a.analysisOf p o).run host).1.metadata.failed =
        (if known.1.isNone then ["safety"] else []) ++ ran.1.failed := rfl
    rw [hfailed, hsafety, assessed]
    cases a.defect .safety with
    | some reason => rfl
    | none => rfl

end Result

end Analyzer
end CodeAudit
