import CodeAudit.Proofs.Distinct
import CodeAudit.Proofs.Finding.Rate
import CodeAudit.Proofs.Finding.Strength
import CodeAudit.Proofs.Outcome
import Mathlib.Data.List.Count

/-! The actions that advice for one kind lists: the first fixes that its findings suggest, worst findings first, then
the checklist of the kind without what any of them suggests. A check that is suggested too late to be among the first
fixes is in neither part. -/
namespace CodeAudit

lemma Kind.name_injective : Function.Injective Kind.name := by
  intro k k'
  cases k <;> cases k' <;> decide

namespace Recommendation

/-- The fixes that findings suggest, as often as they do. -/
def suggestions (fs : List Finding) : List String :=
  (fs.filterMap Finding.suggestedFix).filter (· ≠ "")

/-- A fold that takes up the fix of a finding, unless it is there, takes up those of all. -/
lemma foldl_suggestions {step : List String → Finding → List String}
    (hstep : ∀ done f, step done f = Finding.appendNew done (suggestions [f])) (fs : List Finding) (done : List String) :
    fs.foldl step done = Finding.appendNew done (suggestions fs) := by
  induction fs generalizing done with
  | nil => rfl
  | cons f rest ih =>
    have hsplit : suggestions (f :: rest) = suggestions [f] ++ suggestions rest := by
      rw [suggestions, suggestions, suggestions, ← List.filter_append, ← List.filterMap_append]
      rfl
    rw [List.foldl_cons, hstep, ih, hsplit, Finding.appendNew, Finding.appendNew, Finding.appendNew, List.foldl_append]

lemma fixes_eq (fs : List Finding) : fixes fs = (suggestions fs).eraseDups := by
  have hfixes : fixes fs = Finding.appendNew [] (suggestions fs) := by
    refine foldl_suggestions (fun done f => ?_) fs []
    cases hfix : f.suggestedFix with
    | none => simp [suggestions, hfix, Finding.appendNew]
    | some fix =>
      by_cases hempty : fix = ""
      · simp [suggestions, hfix, hempty, Finding.appendNew]
      · simp [suggestions, hfix, hempty, Finding.appendNew]
  rw [hfixes, Finding.appendNew_eq]
  simp

section forKind?

variable {fs : List Finding} {k : Kind} {r : Recommendation}

/-- The fixes suggested for a kind, each one once, in the order of its sorted findings. -/
def distinctFixes (fs : List Finding) (k : Kind) : List String :=
  (suggestions (Finding.sort (Finding.ofKind k fs))).eraseDups

lemma forKind?_eq_some (h : forKind? fs k = some r) :
    (∃ worst, Severity.worst? ((Finding.ofKind k fs).map Finding.severity) = some worst ∧ r.priority = worst.name) ∧
      r.kind = k.name ∧ r.actions =
        (distinctFixes fs k).take 3 ++ (template k).checklist.filter (· ∉ distinctFixes fs k) := by
  unfold forKind? at h
  dsimp only at h
  cases hworst : Severity.worst? ((Finding.ofKind k fs).map Finding.severity) with
  | none =>
    rw [hworst] at h
    cases h
  | some worst =>
    rw [hworst] at h
    rw [← Option.some.inj h]
    refine ⟨⟨worst, rfl, rfl⟩, rfl, ?_⟩
    dsimp only
    rw [fixes_eq]
    congr 1
    refine List.filter_congr fun check _ => ?_
    simp [distinctFixes]

lemma nodup_checklist (k : Kind) : (template k).checklist.Nodup := by
  cases k <;> decide

/-- No part of the actions has an item twice, and the checklist's part has none of the fixes. -/
lemma nodup_actions (h : forKind? fs k = some r) : r.actions.Nodup := by
  have hfixes : (distinctFixes fs k).Nodup := nodup_eraseDups _
  obtain ⟨_, _, hactions⟩ := forKind?_eq_some h
  rw [hactions, List.nodup_append]
  refine ⟨hfixes.sublist (List.take_sublist _ _), (nodup_checklist k).filter _, ?_⟩
  rintro fix hfix check hcheck rfl
  exact of_decide_eq_true (List.mem_filter.mp hcheck).2 (List.mem_of_mem_take hfix)

/-- A check is there unless it is suggested behind the first three fixes. -/
lemma mem_actions_iff (h : forKind? fs k = some r) {check : String} (hcheck : check ∈ (template k).checklist) :
    check ∈ r.actions ↔ check ∉ (distinctFixes fs k).drop 3 := by
  have hfixes : (distinctFixes fs k).Nodup := nodup_eraseDups _
  have hcut := List.take_append_drop 3 (distinctFixes fs k)
  have hdisjoint := (List.nodup_append.mp (hcut ▸ hfixes)).2.2
  have hmem : check ∈ distinctFixes fs k ↔ check ∈ (distinctFixes fs k).take 3 ∨ check ∈ (distinctFixes fs k).drop 3 := by
    rw [← List.mem_append, hcut]
  obtain ⟨_, _, hactions⟩ := forKind?_eq_some h
  rw [hactions, List.mem_append, List.mem_filter, decide_eq_true_eq, hmem]
  constructor
  · rintro (hfirst | ⟨_, hnone⟩) hlater
    · exact hdisjoint check hfirst check hlater rfl
    · exact hnone (.inr hlater)
  · intro hlater
    by_cases hfirst : check ∈ (distinctFixes fs k).take 3
    · exact .inl hfirst
    · exact .inr ⟨hcheck, not_or.mpr ⟨hfirst, hlater⟩⟩

end forKind?

lemma forFindings?_eq_ok {fs : List Finding} {rate : Number} {rs : List Recommendation}
    (h : forFindings? fs rate = .ok rs) : rs = forFindings fs rate := by
  unfold forFindings? at h
  obtain ⟨_, _, h⟩ := Outcome.bind_eq_ok.mp h
  exact (Outcome.pure_eq_ok.mp h).symm

lemma forFindings?_eq_ok_of_sums {fs : List Finding} (rate : Number)
    (h : ∀ k, (Number.sum? ((Finding.ofKind k fs).map (·.impact.hours))).isOk = true) :
    forFindings? fs rate = .ok (forFindings fs rate) := by
  simp only [Outcome.isOk_iff] at h
  choose hours hsum using h
  simp only [forFindings?, Kind.all, List.forIn_cons, List.forIn_nil, hsum]
  rfl

/-- The advice named after a kind is the advice for its findings. -/
lemma forKind?_of_mem {fs : List Finding} {rate : Number} {k : Kind} {r : Recommendation}
    (h : r ∈ forFindings fs rate) (hk : r.kind = k.name) : forKind? fs k = some r := by
  rcases List.mem_append.mp h with hmem | hreview
  · obtain ⟨k', _, hr⟩ := List.mem_filterMap.mp hmem
    obtain ⟨_, hkind, _⟩ := forKind?_eq_some hr
    rwa [← Kind.name_injective (hkind.symm.trans hk)]
  · have hname : review.kind ≠ k.name := by
      cases k <;> decide
    split_ifs at hreview
    · exact absurd (List.mem_singleton.mp hreview ▸ hk) hname
    · cases hreview

/-- The actions for a kind are the first three of the distinct fixes that its sorted findings suggest, then the checks
that none of them is. No action is there twice, a check is there once unless it is a fix behind the third, and the
priority is the worst severity. -/
theorem actions_rank_fixes_before_checks (fs : List Finding) (rate : Number) (rs : List Recommendation)
    (hrs : forFindings? fs rate = .ok rs) (r : Recommendation) (hr : r ∈ rs) (k : Kind) (hk : r.kind = k.name) :
    r.actions = (distinctFixes fs k).take 3 ++ (template k).checklist.filter (· ∉ distinctFixes fs k) ∧
      r.actions.Nodup ∧
      (∀ check ∈ (template k).checklist,
        r.actions.count check = if check ∈ (distinctFixes fs k).drop 3 then 0 else 1) ∧
      ∃ f ∈ fs, f.kind = k ∧ r.priority = f.severity.name ∧
        ∀ g ∈ fs, g.kind = k → g.severity.rank ≤ f.severity.rank := by
  have hfor := forKind?_of_mem (forFindings?_eq_ok hrs ▸ hr) hk
  obtain ⟨⟨worst, hworst, hpriority⟩, _, hactions⟩ := forKind?_eq_some hfor
  refine ⟨hactions, nodup_actions hfor, fun check hcheck => ?_, ?_⟩
  · rw [(nodup_actions hfor).count, if_congr (mem_actions_iff hfor hcheck) rfl rfl, ite_not]
  · obtain ⟨hmem, hle⟩ := Severity.mem_worst? hworst
    obtain ⟨f, hf, rfl⟩ := List.mem_map.mp hmem
    obtain ⟨hf, hkind⟩ := List.mem_filter.mp hf
    refine ⟨f, hf, by simpa using hkind, hpriority, fun g hg hgk => hle _ (List.mem_map_of_mem ?_)⟩
    exact List.mem_filter.mpr ⟨hg, by simpa using hgk⟩

/-- Four reports of the logic, the last of which suggests a check of the list. -/
def fourSuggestions : List Finding :=
  ["first", "second", "third", "Review algorithm logic and flow"].map fun fix =>
    { Finding.logicReport .low (.of 0.5) with suggestedFix := some fix }

lemma distinctFixes_fourSuggestions : distinctFixes fourSuggestions .logic =
    ["first", "second", "third", "Review algorithm logic and flow"] := by
  have hsort : Finding.sort (Finding.ofKind .logic fourSuggestions) = fourSuggestions := by
    have hkind : Finding.ofKind .logic fourSuggestions = fourSuggestions := by decide +kernel
    rw [hkind]
    exact List.mergeSort_of_pairwise (by decide +kernel)
  rw [distinctFixes, hsort]
  decide +kernel

lemma exists_forFindings?_fourSuggestions :
    ∃ rs, forFindings? fourSuggestions 0 = .ok rs ∧ ∃ r ∈ rs, r.kind = Kind.logic.name := by
  refine ⟨forFindings fourSuggestions 0, forFindings?_eq_ok_of_sums 0 fun k => ?_, ?_⟩
  · cases k <;> decide +kernel
  · have hkinds := kinds_forFindings fourSuggestions 0
    have hlogic : Kind.logic.name ∈ (forFindings fourSuggestions 0).map Recommendation.kind := by
      rw [hkinds]
      decide +kernel
    exact List.mem_map.mp hlogic

/-- The first three fixes come before the two checks that none of the four is. -/
theorem actions_of_four_suggestions :
    ∃ rs, forFindings? fourSuggestions 0 = .ok rs ∧ ∃ r ∈ rs, r.kind = Kind.logic.name ∧
      r.actions = ["first", "second", "third", "Add proper termination conditions",
        "Test with various input scenarios"] := by
  obtain ⟨rs, hrs, r, hr, hk⟩ := exists_forFindings?_fourSuggestions
  obtain ⟨hactions, _⟩ := actions_rank_fixes_before_checks fourSuggestions 0 rs hrs r hr .logic hk
  refine ⟨rs, hrs, r, hr, hk, ?_⟩
  rw [hactions, distinctFixes_fourSuggestions]
  decide

/-- A check is not always there: it is left out for being a fix, and the fix for coming fourth. -/
theorem check_not_always_among_actions :
    ¬ ∀ (fs : List Finding) (rate : Number) (rs : List Recommendation), forFindings? fs rate = .ok rs →
      ∀ r ∈ rs, ∀ k : Kind, r.kind = k.name → ∀ check ∈ (template k).checklist, r.actions.count check = 1 := by
  intro h
  obtain ⟨rs, hrs, r, hr, hk⟩ := exists_forFindings?_fourSuggestions
  have hcheck : "Review algorithm logic and flow" ∈ (template .logic).checklist := by decide
  have hcount := h _ _ rs hrs r hr .logic hk _ hcheck
  have hmem : "Review algorithm logic and flow" ∈ r.actions :=
    List.count_pos_iff.mp (hcount ▸ Nat.one_pos)
  rw [mem_actions_iff (forKind?_of_mem (forFindings?_eq_ok hrs ▸ hr) hk) hcheck, distinctFixes_fourSuggestions] at hmem
  exact hmem (by decide)

end Recommendation
end CodeAudit
