import CodeAudit.Proofs.Analysis.Gate
import CodeAudit.Proofs.Finding.Retention

/-! What an analysis reports of the findings that the rules make. -/
namespace CodeAudit

open Outcome

lemma PatternScan.findings_eq (rules : List Rule) (first second : Structure) (code : List Char) :
    (ofCode rules first code).findings = (ofCode rules second code).findings := by
  unfold ofCode
  split
  · rfl
  · rfl

lemma Analysis.hasCritical_iff (r : Analysis) : r.hasCritical = true ↔ ∃ f ∈ r.findings, f.severity = .critical := by
  simp only [hasCritical, List.any_eq_true, beq_iff_eq]

namespace Analyzer

variable (a : Analyzer) (s : Subject) {p : Program} {o : Options} {f : Finding}

lemma findings_outcomeOf_pattern (h : a.defect (.detector .pattern) = none) (host : Host) :
    ((a.outcomeOf s .pattern).run host).1.findings =
      (PatternScan.ofCode a.rules s.codeStructure s.program.code).findings := by
  have hattempt : a.attempt s .pattern = (a.detectPatterns s).run := a.attempt_of_inOrder s h
  obtain ⟨host', hrun, -⟩ := a.run_detectPatterns s host
  rw [run_outcomeOf, hattempt]
  have hdetect : StateT.run (a.detectPatterns s).run host = (.ok (a.patternOutcome s), host') := hrun
  rw [hdetect]
  rfl

variable {a s} in
/-- What one of several detectors finds on any host, they find together. -/
lemma mem_findings_outcomeOfAll {method : Method} {methods : List Method} (hmethod : method ∈ methods)
    (h : ∀ host, f ∈ ((a.outcomeOf s method).run host).1.findings) (host : Host) :
    f ∈ ((a.outcomeOfAll s methods).run host).1.findings := by
  induction methods generalizing host with
  | nil => exact absurd hmethod List.not_mem_nil
  | cons first rest ih =>
    have happend : ((a.outcomeOfAll s (first :: rest)).run host).1.findings =
        ((a.outcomeOf s first).run host).1.findings ++
          ((a.outcomeOfAll s rest).run ((a.outcomeOf s first).run host).2).1.findings := rfl
    rw [happend, List.mem_append]
    rcases List.mem_cons.mp hmethod with rfl | hmethod
    · exact .inl (h host)
    · exact .inr (ih hmethod _)

/-- A critical finding of the rules that is sure enough and in focus makes a critical finding of the analysis. -/
lemma exists_critical_mem_analysisOf {codeStructure : Structure} (hinOrder : a.defect (.detector .pattern) = none)
    (henabled : o.enablePatterns = true) (hf : f ∈ (PatternScan.ofCode a.rules codeStructure p.code).findings)
    (hcritical : f.severity = .critical) (hsure : o.confidenceThreshold.le f.confidence.value = true)
    (hfocus : f.kind ∈ o.focus) (host : Host) :
    ∃ g ∈ ((a.analysisOf p o).run host).1.findings, g.key = f.key ∧ g.severity = .critical := by
  obtain ⟨mid, outcome, r, last, -, hall, hrun, hreports, -⟩ := a.run_analysisOf p o host
  rw [hrun, hreports.findings, reported]
  have hmethod : Method.pattern ∈ a.running p o := by simp [running, methods, Method.all, henabled]
  have hfound : ∀ host, f ∈ ((a.outcomeOf (a.subject p o) .pattern).run host).1.findings := by
    intro host
    rw [a.findings_outcomeOf_pattern _ hinOrder host, PatternScan.findings_eq _ _ codeStructure]
    exact hf
  have hmem := mem_findings_outcomeOfAll hmethod hfound mid
  rw [hall] at hmem
  exact Finding.exists_critical_mem_keep_merge hmem hcritical hsure hfocus

/-- The analysis of a fit program comes to a result. -/
lemma run_analyze {code : Option (List Char)} {language : Option String} {given : Option Options}
    (hp : a.program code language = .ok p) (host : Host) :
    (a.analyze code language given).run host =
      (.ok ((a.analysisOf p (given.getD a.options)).run host).1,
        ((a.analysisOf p (given.getD a.options)).run host).2) := by
  unfold analyze
  rw [hp, run_lift_ok_bind]
  rfl

end Analyzer
end CodeAudit
