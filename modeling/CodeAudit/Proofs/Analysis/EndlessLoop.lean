import CodeAudit.Proofs.Analysis.Reporting
import CodeAudit.Proofs.Regex.Spelling
import CodeAudit.Proofs.Rule.Scan
import CodeAudit.Proofs.Safety.Scan
import CodeAudit.Proofs.Text.Classes

/-! Loops that only their bodies can end are looked for twice, by a rule and by the safety gate, each with its own
expressions for what leaves a loop. The gate forbids at least what the rule reports, and the report outlives merging
and filtering. -/
namespace CodeAudit

open Regex

section Expressions

variable {text : List Char}

/-- The rule knows every way out of a loop that the gate knows. -/
lemma occursIn_loopExit (h : Safety.loopExit.occursIn text = true) :
    Rule.Resource.loopExit.occursIn text = true := by
  have hgate : Safety.loopExit.refersBack = false := by decide
  have hrule : Rule.Resource.loopExit.refersBack = false := by decide
  obtain ⟨pre, w, post, htext, hspells⟩ := (find?_isSome_iff hgate).mp h
  refine (find?_isSome_iff hrule).mpr ⟨pre, w, post, htext, ?_⟩
  rcases hspells with hword | hcall
  · exact .inl hword
  · obtain ⟨u, v, rfl, ⟨u, b, rfl, ⟨u, word, rfl, hborder, hword⟩, hb⟩, hv⟩ := hcall
    refine .inr ⟨_, v, rfl, ⟨_, b, rfl, ⟨u, word, rfl, hborder, ?_⟩, hb⟩, hv⟩
    obtain ⟨name, hname, rfl⟩ := spells_oneOf.mp hword
    refine spells_oneOf.mpr ⟨name, ?_, rfl⟩
    simp only [List.mem_cons, List.not_mem_nil, or_false] at hname ⊢
    tauto

/-- The gate takes for the header of an endless loop what the rule takes for one. -/
lemma endlessLoop_of_infiniteLoop (h : (Rule.Resource.infiniteLoop.expression.find? text).isSome = true) :
    Safety.endlessLoop.startsText text = true ∧ Text.isBlankText text = false := by
  have hrule : Rule.Resource.infiniteLoop.expression.refersBack = false := by decide
  have hgate : Safety.endlessLoop.refersBack = false := by decide
  obtain ⟨pre, w, post, htext, hspells⟩ := (find?_isSome_iff hrule).mp h
  simp only [Rule.Resource.infiniteLoop, spells_append_assoc] at hspells
  obtain ⟨rfl, hheader⟩ := spells_start_append.mp hspells
  refine ⟨(startsText_iff hgate).mpr ⟨w, post, htext, ?_⟩, ?_⟩
  · simp only [Safety.endlessLoop, spells_append_assoc]
    exact hheader
  · obtain ⟨b, v, rfl, _, u, rest, rfl, hu, _⟩ := hheader
    rw [spells_text] at hu
    have hmem : 'w' ∈ text := by simp [htext, hu]
    exact Text.isBlankText_eq_false_of_mem hmem (by decide)

end Expressions

namespace Rule.Resource

variable {src : Source} {index : ℕ} {line : Source.Line} {m : RuleMatch}

/-- The gate forbids execution for a line on which the rule has a match. -/
lemma forbids_of_confirms (h : infiniteLoop.Confirms src index line m) :
    Text.isBlankText line = false ∧ Safety.Forbids src index line := by
  obtain ⟨c, hc, hevidence, hne⟩ := h.confirmed
  obtain ⟨hstarts, hblank⟩ := endlessLoop_of_infiniteLoop (find?_isSome_of_mem_all hc)
  refine ⟨hblank, .inr ⟨hstarts, ?_⟩⟩
  change (if (src.bodyTexts index).any loopExit.occursIn then .ok [] else _) = Except.ok m.evidence at hevidence
  split at hevidence
  · exact absurd (Except.ok.inj hevidence).symm hne
  · rename_i hnoExit
    rw [Bool.not_eq_true, List.any_eq_false] at hnoExit
    rw [List.any_eq_false]
    exact fun text htext hexit => hnoExit text htext (occursIn_loopExit hexit)

/-- A match of the rule in a scan by the catalog, with the finding made of it. -/
lemma exists_confirms_of_mem_found {codeStructure : Structure} {code : List Char} {f : Finding}
    (h : (m, f) ∈ (PatternScan.ofCode catalog codeStructure code).found) (hid : m.ruleId = infiniteLoop.id) :
    f = infiniteLoop.findingOf (Source.ofText code) m ∧
      ∃ index line, infiniteLoop.Confirms (Source.ofText code) index line m := by
  obtain ⟨r, hr, hf, index, line, hconfirms⟩ := PatternScan.exists_rule_of_mem_found h
  obtain rfl : r = infiniteLoop := eq_of_id_eq hr (by simp [catalog]) (hconfirms.ruleId.symm.trans hid)
  exact ⟨hf, index, line, hconfirms⟩

end Rule.Resource

namespace Analyzer

/-- An analysis with these options looks for endless loops and is to report them. -/
structure Watches (a : Analyzer) (o : Options) : Prop where
  rules : a.rules = Rule.catalog
  inOrder : a.defect (.detector .pattern) = none
  enabled : o.enablePatterns = true
  threshold : o.confidenceThreshold.le 0.9 = true
  focus : .resource ∈ o.focus

/-- The finding that the rule makes outlives merging and filtering: what it merges with under its key is not more
severe, and the line set is part of the key. -/
lemma Watches.exists_mem_findings {a : Analyzer} {p : Program} {o : Options} {codeStructure : Structure}
    {m : RuleMatch} {f : Finding} (h : Watches a o)
    (hfound : (m, f) ∈ (PatternScan.ofCode Rule.catalog codeStructure p.code).found)
    (hid : m.ruleId = Rule.Resource.infiniteLoop.id) (host : Host) :
    ∃ g ∈ ((a.analysisOf p o).run host).1.findings, g.severity = .critical ∧
      g.subkind = .computationalBoundary ∧ g.lines.toList = [(m.startLine : ℤ)] := by
  obtain ⟨rfl, index, line, hconfirms⟩ := Rule.Resource.exists_confirms_of_mem_found hfound hid
  let f := Rule.Resource.infiniteLoop.findingOf (Source.ofText p.code) m
  have hf : f ∈ (PatternScan.ofCode a.rules codeStructure p.code).findings := by
    rw [h.rules]
    exact List.mem_map_of_mem hfound
  have hconfidence : f.confidence.value = 0.9 := by
    change m.confidence.value = 0.9
    rw [hconfirms.confidence]
    decide +kernel
  have hsure : o.confidenceThreshold.le f.confidence.value = true := hconfidence ▸ h.threshold
  obtain ⟨g, hg, hkey, hcritical⟩ := a.exists_critical_mem_analysisOf h.inOrder h.enabled hf rfl hsure h.focus host
  obtain ⟨hsubkind, hlines, _⟩ := (Finding.key_eq_iff g f).mp hkey
  exact ⟨g, hg, hcritical, hsubkind, congrArg LineSet.toList hlines⟩

/-- A loop without a way out that the rule reports is a danger of high level on the same line, so nothing is
executed, and every analysis that watches out for it has a critical finding on just that line. -/
theorem endless_loop_forbidden_and_reported {codeStructure : Structure} {code : List Char} {m : RuleMatch}
    (hm : m ∈ (PatternScan.ofCode Rule.catalog codeStructure code).ruleMatches)
    (hid : m.ruleId = Rule.Resource.infiniteLoop.id) :
    (∃ d ∈ Safety.scan code, d.level = .high ∧ d.line = m.startLine) ∧
      (SafetyAssessment.ofCode code).allowExecution = false ∧
      ∀ (a : Analyzer) (p : Program) (language : Option String) (given : Option Options) (host : Host),
        a.program (some code) language = .ok p → Watches a (given.getD a.options) →
        ∃ r host', (a.analyze (some code) language given).run host = (.ok r, host') ∧ r.hasCritical = true ∧
          ∃ g ∈ r.findings, g.severity = .critical ∧ g.kind = .resource ∧ g.subkind = .computationalBoundary ∧
            g.lines.toList = [(m.startLine : ℤ)] := by
  obtain ⟨⟨m, f⟩, hfound, rfl⟩ := List.mem_map.mp hm
  obtain ⟨-, index, line, hconfirms⟩ := Rule.Resource.exists_confirms_of_mem_found hfound hid
  obtain ⟨hblank, hforbids⟩ := Rule.Resource.forbids_of_confirms hconfirms
  have hdanger : ∃ d ∈ Safety.scan code, d.level = .high ∧ d.line = m.startLine := by
    rw [hconfirms.startLine]
    exact Safety.exists_high_scan.mpr ⟨line, hconfirms.line_eq, hblank, hforbids⟩
  refine ⟨hdanger, SafetyAssessment.denied_of_high hdanger, ?_⟩
  intro a p language given host hp hwatches
  obtain ⟨hcode, _⟩ := problem?_of_program a hp
  cases hcode
  obtain ⟨g, hg, hcritical, hsubkind, hlines⟩ := hwatches.exists_mem_findings hfound hid host
  refine ⟨_, _, a.run_analyze hp host, ?_, g, hg, hcritical, ?_, hsubkind, hlines⟩
  · exact List.any_eq_true.mpr ⟨g, hg, by simp [hcritical]⟩
  · exact congrArg Subkind.kind hsubkind

/-- A loop whose only way out stands in a comment. -/
def commentedLoop : List Char := "while True:\n    # break\n    x = 1".toList

theorem commentedLoop_forbidden_and_reported :
    (∃ d ∈ Safety.scan commentedLoop, d.level = .high ∧ d.line = 1) ∧
      (SafetyAssessment.ofCode commentedLoop).allowExecution = false ∧
      ∃ r host', (({} : Analyzer).analyze (some commentedLoop) (some "python") none).run default = (.ok r, host') ∧
        r.hasCritical = true ∧ ∃ g ∈ r.findings, g.severity = .critical ∧ g.kind = .resource ∧
          g.subkind = .computationalBoundary ∧ g.lines.toList = [1] := by
  have hscan : (PatternScan.ofCode Rule.catalog {} commentedLoop).ruleMatches.map
      (fun m => (m.ruleId, m.startLine)) = [(Rule.Resource.infiniteLoop.id, 1)] := by decide +kernel
  obtain ⟨m, hm, heq⟩ := List.mem_map.mp (hscan ▸ List.mem_singleton_self _)
  obtain ⟨hid, hline⟩ := Prod.mk.inj heq
  obtain ⟨hdanger, hdenied, hreported⟩ := endless_loop_forbidden_and_reported hm hid
  have hp : ({} : Analyzer).program (some commentedLoop) (some "python") = .ok ⟨commentedLoop, "python"⟩ := by rfl
  have hwatches : Watches {} (Option.getD none ({} : Analyzer).options) :=
    ⟨rfl, rfl, rfl, by decide +kernel, by decide⟩
  rw [hline] at hdanger hreported
  exact ⟨hdanger, hdenied, hreported {} _ (some "python") none default hp hwatches⟩

end Analyzer
end CodeAudit
