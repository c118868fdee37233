import CodeAudit.Proofs.Analysis.Reporting
import CodeAudit.Proofs.Finding.Summary

/-!
Results of analyses in themselves: which findings they have and in which order, and that the summary, the level of risk
and the advice say the same of them.
-/
namespace CodeAudit

open Outcome

/-- A finding may stand before another one: it is more severe, or surer, or its first line is not a later one. -/
def Finding.Precedes (f g : Finding) : Prop :=
  g.severity.rank < f.severity.rank ∨ g.severity.rank = f.severity.rank ∧
    (g.confidence.toRat < f.confidence.toRat ∨
      g.confidence.toRat = f.confidence.toRat ∧ f.firstLine ≤ g.firstLine)

lemma Finding.precedes_of_rankKey_le {f g : Finding} (h : f.rankKey ≤ g.rankKey) : f.Precedes g := by
  simp only [rankKey, Prod.Lex.toLex_le_toLex, OrderDual.toDual_lt_toDual, OrderDual.toDual_inj] at h
  rcases h with hseverity | ⟨hseverity, hconfidence | ⟨hconfidence, hline⟩⟩
  · exact .inl hseverity
  · exact .inr ⟨hseverity.symm, .inl hconfidence⟩
  · exact .inr ⟨hseverity.symm, .inr ⟨hconfidence.symm, hline.elim le_of_lt fun h => h.1.le⟩⟩

namespace Analysis

/-- A result by those options is consistent in itself. -/
structure Consistent (o : Options) (r : Analysis) : Prop where
  sure : ∀ f ∈ r.findings, o.confidenceThreshold.le f.confidence.value = true
  inFocus : ∀ f ∈ r.findings, f.kind ∈ o.focus
  distinct : (r.findings.map Finding.key).Nodup
  sorted : r.findings.Pairwise Finding.Precedes
  total : r.summary.total = r.findings.length
  counts : r.summary.critical + r.summary.high + r.summary.medium + r.summary.low = r.findings.length
  hasCritical_iff : r.hasCritical = true ↔ 0 < r.summary.critical
  risk_eq_critical_iff : r.summary.overallRisk = "critical" ↔ 0 < r.summary.critical
  risk_eq_none_iff : r.summary.overallRisk = "none" ↔ r.findings = []
  mostCommon_eq_none_iff : r.summary.mostCommon = none ↔ r.findings = []
  /-- No kind is found more often than the most common one, and those before it in the taxonomy are found less often. -/
  mostCommon_most : ∀ k ∈ r.summary.mostCommon,
    (∀ k', (r.findings.map Finding.kind).count k' ≤ (r.findings.map Finding.kind).count k) ∧
      ∀ k', Kind.all.idxOf k' < Kind.all.idxOf k →
        (r.findings.map Finding.kind).count k' < (r.findings.map Finding.kind).count k
  advice : o.generateRecommendations = true → r.recommendations.map Recommendation.kind =
    (Kind.all.filter (· ∈ r.findings.map Finding.kind)).map Kind.name ++
      if Number.lt 0.7 r.rate then ["general"] else []

end Analysis

namespace Analyzer

open Analysis (Consistent)

variable {o : Options}

lemma Reports.consistent {outcome : Outcome} {r : Analysis} (h : Reports o outcome r) : Consistent o r := by
  have hfindings : r.findings = Finding.keep o.confidenceThreshold o.focus (Finding.merge outcome.findings) :=
    h.findings
  have hkept : ∀ f ∈ r.findings, o.confidenceThreshold.le f.confidence.value = true ∧ f.kind ∈ o.focus := by
    intro f hf
    rw [hfindings] at hf
    simpa using (List.mem_filter.mp hf).2
  have hsublist : r.findings.Sublist (Finding.merge outcome.findings) := hfindings ▸ List.filter_sublist
  have hcritical : .critical ∈ r.findings.map Finding.severity ↔ 0 < r.summary.critical := by
    rw [h.summary]
    exact List.count_pos_iff.symm
  constructor
  case sure => exact fun f hf => (hkept f hf).1
  case inFocus => exact fun f hf => (hkept f hf).2
  case distinct => exact (hsublist.map Finding.key).nodup (Finding.nodup_keys_merge outcome.findings)
  case sorted =>
    refine ((Finding.merge_pairwise outcome.findings).sublist hsublist).imp fun {f g} hfg => Finding.precedes_of_rankKey_le ?_
    exact hfg.elim le_of_lt fun hsame => hsame.1.le
  case total => rw [h.summary]; rfl
  case counts =>
    rw [h.summary]
    exact (Severity.count_add_count (r.findings.map Finding.severity)).trans (List.length_map _)
  case hasCritical_iff =>
    rw [← hcritical]
    simp [Analysis.hasCritical]
  case risk_eq_critical_iff =>
    rw [← hcritical, h.summary]
    exact Risk.levelName_eq_critical_iff.trans Risk.level?_eq_critical_iff
  case risk_eq_none_iff =>
    rw [h.summary]
    exact Risk.levelName_eq_none_iff.trans (Risk.level?_eq_none_iff.trans List.map_eq_nil_iff)
  case mostCommon_eq_none_iff =>
    rw [h.summary]
    exact Summary.mostCommonKind_eq_none_iff.trans List.map_eq_nil_iff
  case mostCommon_most =>
    intro k hk
    rw [h.summary] at hk
    exact Summary.mem_mostCommonKind hk
  case advice =>
    intro hgenerate
    rw [h.recommendations, if_pos hgenerate]
    exact Recommendation.kinds_forFindings r.findings r.rate

variable (a : Analyzer)

lemma analysisOf_consistent (p : Program) (o : Options) (host : Host) :
    Consistent o ((a.analysisOf p o).run host).1 := by
  obtain ⟨_, _, r, last, _, _, hrun, hreports, _⟩ := a.run_analysisOf p o host
  rw [hrun]
  exact hreports.consistent

lemma analyses_consistent (o : Options) (programs : List Program) (host : Host) : ∃ rs last,
    ((programs.mapM fun p => (a.analysisOf p o : ExceptT InputFault (StateM Host) Analysis)).run : StateM Host _) host =
      (.ok rs, last) ∧ rs.length = programs.length ∧ ∀ r ∈ rs, Consistent o r := by
  induction programs generalizing host with
  | nil => exact ⟨[], host, rfl, rfl, by simp⟩
  | cons p rest ih =>
    obtain ⟨rs, last, hrun, hlength, hall⟩ := ih ((a.analysisOf p o).run host).2
    refine ⟨((a.analysisOf p o).run host).1 :: rs, last, ?_, congrArg (· + 1) hlength,
      List.forall_mem_cons.mpr ⟨a.analysisOf_consistent p o host, hall⟩⟩
    have hfirst : ((a.analysisOf p o : ExceptT InputFault (StateM Host) Analysis).run : StateM Host _) host =
        (.ok ((a.analysisOf p o).run host).1, ((a.analysisOf p o).run host).2) := rfl
    rw [List.mapM_cons, run_bind_of_ok hfirst, run_bind_of_ok hrun]
    rfl

/-- Every result is consistent in itself: that of any valid program, and those of several programs, of which there is
one for each. -/
theorem results_consistent (a : Analyzer) (given : Option Options) (host : Host) :
    (∀ code language p, a.program code language = .ok p → ∃ r last,
      (a.analyze code language given).run host = (.ok r, last) ∧ Consistent (given.getD a.options) r) ∧
    ∀ samples programs, samples.mapM (fun (code, language) => a.program code language) = .ok programs →
      1 ≤ a.workers → ∃ rs last, (a.analyzeAll samples given).run host = (.ok rs, last) ∧
        rs.length = programs.length ∧ ∀ r ∈ rs, Consistent (given.getD a.options) r := by
  refine ⟨fun code language p hp => ?_, fun samples programs hprograms hworkers => ?_⟩
  · exact ⟨_, _, a.run_analyze hp host, a.analysisOf_consistent p _ host⟩
  · obtain ⟨rs, last, hrun, hlength, hall⟩ := a.analyses_consistent (given.getD a.options) programs host
    refine ⟨rs, last, ?_, hlength, hall⟩
    unfold analyzeAll
    rw [hprograms, run_lift_ok_bind, if_neg (not_lt.mpr hworkers)]
    exact hrun

/-- An analyzer whose parser finds every text wrong. -/
def strictAnalyzer : Analyzer :=
  { parse := fun _ => .refused "invalid syntax" (some 1) (some "x =") }

theorem refused_text_consistent : ∃ r last,
    (strictAnalyzer.analyze (some "x =".toList) (some "py") none).run {} = (.ok r, last) ∧ Consistent {} r ∧
      ∃ rs last', (strictAnalyzer.analyzeAll
          [(some "x =".toList, some "py"), (some "y".toList, some "Python3")] none).run {} = (.ok rs, last') ∧
        rs.length = 2 ∧ ∀ r ∈ rs, Consistent {} r := by
  obtain ⟨hone, hall⟩ := results_consistent strictAnalyzer none {}
  obtain ⟨r, last, hrun, hconsistent⟩ := hone (some "x =".toList) (some "py") ⟨"x =".toList, "python"⟩ rfl
  refine ⟨r, last, hrun, hconsistent, ?_⟩
  exact hall _ [⟨"x =".toList, "python"⟩, ⟨"y".toList, "python"⟩] rfl (by decide)

end Analyzer

end CodeAudit
