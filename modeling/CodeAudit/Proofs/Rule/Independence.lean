import CodeAudit.Proofs.Distinct
import CodeAudit.Proofs.Rule.Numbers

/-! The rules of a scan do not touch each other. Each finds what it finds alone, or fails and leaves nothing behind but
its name; the findings and the statistics are in step with the matches that are left. -/
namespace CodeAudit

namespace Rule

variable {r : Rule} {src : Source}

/-- The rule cannot word the evidence of one of its candidates. -/
def FailsIn (r : Rule) (src : Source) : Prop :=
  ∃ line index, src.masked[index]? = some line ∧
    ∃ c ∈ r.expression.all line, ∃ fault, r.evidence c src index = .error fault

lemma failsIn_iff : r.FailsIn src ↔ ∃ fault, r.matchesIn src = .error fault := by
  rw [← Outcome.not_exists_ok_iff, exists_matchesIn_iff]
  simp only [FailsIn, ← Outcome.not_exists_ok_iff]
  push Not
  rfl

instance : Decidable (r.FailsIn src) :=
  decidable_of_iff ((r.matchesIn src).isOk = false) (by
    rw [failsIn_iff]
    cases r.matchesIn src <;> simp [Except.isOk, Except.toBool])

end Rule

namespace Statistics

lemma sum_tally {α : Type} [DecidableEq α] (items : List α) : ((tally items).map (·.2)).sum = items.length := by
  rw [tally, List.map_map]
  exact sum_count_eraseDups items

/-- Where every match is of one of the rules, none is left out of the counts. -/
lemma sum_counts_ofMatches {rules : List Rule} {ms : List RuleMatch} (h : ∀ m ∈ ms, ∃ r ∈ rules, r.id = m.ruleId) :
    ((ofMatches rules ms).byKind.map (·.2)).sum = ms.length ∧
      ((ofMatches rules ms).bySeverity.map (·.2)).sum = ms.length := by
  have hused : (ms.filterMap fun m => rules.find? (·.id == m.ruleId)).length = ms.length := by
    refine List.filterMap_length_eq_length.mpr fun m hm => ?_
    obtain ⟨r, hr, hid⟩ := h m hm
    exact List.find?_isSome.mpr ⟨r, hr, beq_iff_eq.mpr hid⟩
  constructor
  · rw [ofMatches, sum_tally, List.length_map, hused]
  · rw [ofMatches, sum_tally, List.length_map, hused]

end Statistics

namespace PatternScan

variable {rules : List Rule} {src : Source} {r : Rule} {code : List Char} {m : RuleMatch} {f : Finding}

/-- What the rule matches when no other rule is there. -/
def matchesAlone (codeStructure : Structure) (code : List Char) (r : Rule) : List RuleMatch :=
  (ofCode [r] codeStructure code).ruleMatches

lemma foundBy_of_failsIn (h : r.FailsIn src) : foundBy src r = [] := by
  obtain ⟨fault, hfault⟩ := Rule.failsIn_iff.mp h
  rw [foundBy, hfault]
  rfl

lemma map_failureOf? (rules : List Rule) :
    (rules.filterMap (failureOf? src)).map (·.1) = (rules.filter (·.FailsIn src)).map Rule.id := by
  induction rules with
  | nil => rfl
  | cons r rest ih =>
    by_cases hfails : r.FailsIn src
    · obtain ⟨fault, hfault⟩ := Rule.failsIn_iff.mp hfails
      have hfailure : failureOf? src r = some (r.id, fault) := failureOf?_eq_some.mpr ⟨rfl, hfault⟩
      rw [List.filterMap_cons_some hfailure, List.filter_cons_of_pos (by simpa using hfails), List.map_cons, ih,
        List.map_cons]
    · have hfailure : failureOf? src r = none := by
        refine Option.eq_none_iff_forall_not_mem.mpr fun ⟨id, fault⟩ hmem => hfails ?_
        exact Rule.failsIn_iff.mpr ⟨fault, (failureOf?_eq_some.mp hmem).2⟩
      rw [List.filterMap_cons_none hfailure, List.filter_cons_of_neg (by simpa using hfails), ih]

lemma flatMap_foundBy (rules : List Rule) :
    rules.flatMap (foundBy src) = (rules.filter (¬ ·.FailsIn src)).flatMap (foundBy src) := by
  induction rules with
  | nil => rfl
  | cons r rest ih =>
    by_cases hfails : r.FailsIn src
    · rw [List.flatMap_cons, foundBy_of_failsIn hfails, List.filter_cons_of_neg (by simpa using hfails), ih,
        List.nil_append]
    · rw [List.flatMap_cons, List.filter_cons_of_pos (by simpa using hfails), List.flatMap_cons, ih]

lemma matchesAlone_eq (hcode : Text.isBlankText code = false) (codeStructure : Structure) :
    matchesAlone codeStructure code r = (foundBy (.ofText code) r).map (·.1) := by
  rw [matchesAlone, ruleMatches, (ofCode_eq [r] codeStructure hcode).1, List.flatMap_singleton]

lemma exists_working_of_mem_found {codeStructure : Structure} (h : (m, f) ∈ (ofCode rules codeStructure code).found) :
    ∃ r ∈ rules, ¬ r.FailsIn (.ofText code) ∧ r.id = m.ruleId ∧ f = r.findingOf (.ofText code) m := by
  obtain ⟨r, hr, hf, ms, hms, hm⟩ := exists_matchesIn_of_mem_found h
  obtain ⟨index, line, hconfirms⟩ := Rule.exists_confirms hms hm
  refine ⟨r, hr, fun hfails => ?_, hconfirms.ruleId.symm, hf⟩
  obtain ⟨fault, hfault⟩ := Rule.failsIn_iff.mp hfails
  cases hfault.symm.trans hms

/-- Each match of a scan by some rules has its own finding, made by its rule, and is counted once by kind and once by
severity. -/
structure InStep (s : PatternScan) (rules : List Rule) (src : Source) : Prop where
  findings : List.Forall₂ (fun m f => ∃ r ∈ rules, r.id = m.ruleId ∧ f = r.findingOf src m) s.ruleMatches s.findings
  total : (Statistics.ofMatches rules s.ruleMatches).total = s.ruleMatches.length
  kinds : ((Statistics.ofMatches rules s.ruleMatches).byKind.map (·.2)).sum = s.ruleMatches.length
  severities : ((Statistics.ofMatches rules s.ruleMatches).bySeverity.map (·.2)).sum = s.ruleMatches.length

lemma inStep_ofCode (rules : List Rule) (codeStructure : Structure) (code : List Char) :
    (ofCode rules codeStructure code).InStep rules (.ofText code) := by
  have hknown : ∀ m ∈ (ofCode rules codeStructure code).ruleMatches, ∃ r ∈ rules, r.id = m.ruleId := by
    intro m hm
    obtain ⟨⟨m, f⟩, hfound, rfl⟩ := List.mem_map.mp hm
    obtain ⟨r, hr, -, hid, -⟩ := exists_working_of_mem_found hfound
    exact ⟨r, hr, hid⟩
  obtain ⟨hkinds, hseverities⟩ := Statistics.sum_counts_ofMatches hknown
  refine ⟨?_, rfl, hkinds, hseverities⟩
  refine List.forall₂_map_left_iff.mpr (List.forall₂_map_right_iff.mpr (List.forall₂_same.mpr fun ⟨m, f⟩ hfound => ?_))
  obtain ⟨r, hr, -, hid, hf⟩ := exists_working_of_mem_found hfound
  exact ⟨r, hr, hid, hf⟩

lemma failed_ofCode (hcode : Text.isBlankText code = false) (rules : List Rule) (codeStructure : Structure) :
    (ofCode rules codeStructure code).failed.map (·.1) = (rules.filter (·.FailsIn (.ofText code))).map Rule.id := by
  rw [(ofCode_eq rules codeStructure hcode).2, map_failureOf?]

/-- In a text that is not blank, the matches of a scan by rules with distinct names are what each rule that does not
fail finds alone, rule by rule. The rules that fail are told in their order, and a match of none of them is left; the
findings and the statistics are in step with the others. -/
theorem rules_act_alone (hids : (rules.map Rule.id).Nodup) (hcode : Text.isBlankText code = false)
    (codeStructure : Structure) :
    (ofCode rules codeStructure code).ruleMatches =
        (rules.filter (¬ ·.FailsIn (.ofText code))).flatMap (matchesAlone codeStructure code) ∧
      (ofCode rules codeStructure code).failed.map (·.1) =
        (rules.filter (·.FailsIn (.ofText code))).map Rule.id ∧
      (∀ m ∈ (ofCode rules codeStructure code).ruleMatches,
        m.ruleId ∉ (ofCode rules codeStructure code).failed.map (·.1)) ∧
      (ofCode rules codeStructure code).InStep rules (.ofText code) := by
  refine ⟨?_, failed_ofCode hcode rules codeStructure, fun m hm hmem => ?_, inStep_ofCode rules codeStructure code⟩
  · rw [ruleMatches, (ofCode_eq rules codeStructure hcode).1, flatMap_foundBy, List.map_flatMap]
    exact List.flatMap_congr fun r _ => (matchesAlone_eq hcode codeStructure).symm
  · obtain ⟨⟨m, f⟩, hfound, rfl⟩ := List.mem_map.mp hm
    obtain ⟨r, hr, hworks, hid, -⟩ := exists_working_of_mem_found hfound
    rw [failed_ofCode hcode] at hmem
    obtain ⟨q, hq, hqid⟩ := List.mem_map.mp hmem
    obtain ⟨hq, hfails⟩ := List.mem_filter.mp hq
    -- the names are distinct, so that the rule of the match would be the one that fails
    obtain rfl := List.inj_on_of_nodup_map hids hq hr (hqid.trans hid.symm)
    exact hworks (by simpa using hfails)

/-- A large range, a range whose bound is not read, and a name that is not defined. -/
def illegibleBelowLarge : List Char := "range(5000000)\nrange(²)\nlimit".toList

/-- The large range is found on its own line, and lost with the rule. -/
theorem rules_act_alone_illegibleBelowLarge :
    (Rule.catalog.map Rule.id).Nodup ∧ Text.isBlankText illegibleBelowLarge = false ∧
      (matchesAlone {} "range(5000000)".toList Rule.Resource.oversizedRange).length = 1 ∧
      (ofCode Rule.catalog {} illegibleBelowLarge).failed.map (·.1) = [Rule.Resource.oversizedRange.id] ∧
      ∀ m ∈ (ofCode Rule.catalog {} illegibleBelowLarge).ruleMatches, m.ruleId ≠ Rule.Resource.oversizedRange.id := by
  have hcode : Text.isBlankText illegibleBelowLarge = false := by decide +kernel
  have hfailed : (ofCode Rule.catalog {} illegibleBelowLarge).failed.map (·.1) = [Rule.Resource.oversizedRange.id] := by
    decide +kernel
  obtain ⟨-, -, hnone, -⟩ := rules_act_alone Rule.nodup_catalog_ids hcode {}
  rw [hfailed] at hnone
  exact ⟨Rule.nodup_catalog_ids, hcode, by decide +kernel, hfailed, fun m hm => by simpa using hnone m hm⟩

end PatternScan
end CodeAudit
