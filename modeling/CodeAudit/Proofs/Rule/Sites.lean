import CodeAudit.Proofs.Rule.Scan

/-! Where a scan makes its matches, whatever evidence it words: the rules and places of the matches, rule by rule and
line by line, hang on the evidence only by whether there is any. -/
namespace CodeAudit

open Outcome

/-- The rule and the place of a match. -/
structure Site where
  ruleId : String
  startLine : ℕ
  endLine : ℕ
  startColumn : ℕ
  endColumn : ℕ
deriving DecidableEq

def RuleMatch.site (m : RuleMatch) : Site :=
  ⟨m.ruleId, m.startLine, m.endLine, m.startColumn, m.endColumn⟩

/-- The sites of the matches of a scan, in their order. -/
def PatternScan.sites (s : PatternScan) : List Site :=
  s.ruleMatches.map RuleMatch.site

namespace Rule

variable {r : Rule} {src other : Source}

/-- The site of a candidate on line `index`. -/
def siteAt (r : Rule) (src : Source) (index : ℕ) (m : Regex.Found) : Site where
  ruleId := r.id
  startLine := index + 1
  endLine := if r.spansBlock then Source.blockEnd src.masked index + 1 else index + 1
  startColumn := m.start + 1
  endColumn := max m.stop (m.start + 1)

/-- The site of a candidate that has evidence. -/
def siteOf? (r : Rule) (src : Source) (index : ℕ) (m : Regex.Found) : Except Reading.Fault (Option Site) :=
  ((r.evidence m src index).map List.isEmpty).map fun empty => if empty then none else some (r.siteAt src index m)

def sitesOn (r : Rule) (src : Source) (index : ℕ) (line : Source.Line) : Except Reading.Fault (List Site) :=
  ((r.expression.all line).mapM (r.siteOf? src index)).map (List.filterMap fun site => site)

def sitesIn (r : Rule) (src : Source) : Except Reading.Fault (List Site) :=
  (src.masked.zipIdx.mapM fun numbered => r.sitesOn src numbered.2 numbered.1).map List.flatten

/-- The sites of a rule's matches, none if the rule fails. -/
def sites (r : Rule) (src : Source) : List Site :=
  (r.sitesIn src).toOption.getD []

lemma matchOf_site (index : ℕ) (m : Regex.Found) :
    (r.matchOf src index m).map (Option.map RuleMatch.site) = r.siteOf? src index m := by
  unfold matchOf siteOf?
  cases r.evidence m src index with
  | error fault => rfl
  | ok evidence =>
    cases evidence with
    | nil => rfl
    | cons e es => rfl

lemma matchesOn_site (index : ℕ) (line : Source.Line) :
    (r.matchesOn src index line).map (List.map RuleMatch.site) = r.sitesOn src index line := by
  have hsites : ((r.expression.all line).mapM (r.matchOf src index)).map (List.map (Option.map RuleMatch.site)) =
      (r.expression.all line).mapM (r.siteOf? src index) := by
    simp only [mapM_map_eq, matchOf_site]
  unfold matchesOn sitesOn
  rw [← hsites]
  cases (r.expression.all line).mapM (r.matchOf src index) with
  | error fault => rfl
  | ok candidates =>
    refine congrArg Except.ok ?_
    rw [List.map_filterMap, List.filterMap_map]
    exact List.filterMap_congr fun candidate _ => by cases candidate <;> rfl

lemma matchesIn_site : (r.matchesIn src).map (List.map RuleMatch.site) = r.sitesIn src := by
  have hsites : (src.masked.zipIdx.mapM fun numbered => r.matchesOn src numbered.2 numbered.1).map
      (List.map (List.map RuleMatch.site)) =
        src.masked.zipIdx.mapM fun numbered => r.sitesOn src numbered.2 numbered.1 := by
    simp only [mapM_map_eq, matchesOn_site]
  unfold matchesIn sitesIn
  rw [← hsites]
  cases src.masked.zipIdx.mapM fun numbered => r.matchesOn src numbered.2 numbered.1 with
  | error fault => rfl
  | ok perLine => exact congrArg Except.ok List.map_flatten

/-- Evidence that never fails. -/
def Total (r : Rule) : Prop :=
  ∀ m src index, ∃ es, r.evidence m src index = .ok es

/-- The matches of such a rule are those of the candidates, one by one. -/
lemma exists_matchesIn_eq_of_total (h : r.Total) (src : Source) :
    ∃ f : ℕ → Regex.Found → Option RuleMatch, (∀ index m, r.matchOf src index m = .ok (f index m)) ∧
      r.matchesIn src = .ok (src.masked.zipIdx.flatMap fun numbered =>
        (r.expression.all numbered.1).filterMap (f numbered.2)) := by
  have htotal : ∀ index m, ∃ o, r.matchOf src index m = .ok o := by
    intro index m
    obtain ⟨es, hes⟩ := h m src index
    rw [matchOf, hes]
    cases es <;> exact ⟨_, rfl⟩
  choose f hf using htotal
  exact ⟨f, hf, matchesIn_eq hf⟩

lemma exists_siteOf?_eq (h : r.Total) (src : Source) (index : ℕ) (m : Regex.Found) :
    ∃ o, r.siteOf? src index m = .ok o := by
  obtain ⟨es, hes⟩ := h m src index
  rw [siteOf?, hes]
  exact ⟨_, rfl⟩

lemma eq_siteAt_of_siteOf? {index : ℕ} {m : Regex.Found} {o : Option Site} (h : r.siteOf? src index m = .ok o) :
    ∀ s ∈ o, s = r.siteAt src index m := by
  obtain ⟨empty, _, rfl⟩ := map_eq_ok.mp h
  cases empty with
  | true => simp
  | false => simp

/-- Its sites are those of the candidates, too. -/
lemma sites_of_total {f : ℕ → Regex.Found → Option Site} (h : ∀ index m, r.siteOf? src index m = .ok (f index m)) :
    r.sites src =
      src.masked.zipIdx.flatMap fun numbered => (r.expression.all numbered.1).filterMap (f numbered.2) := by
  have hon : ∀ index line, r.sitesOn src index line = .ok ((r.expression.all line).filterMap (f index)) := by
    intro index line
    have hall : (r.expression.all line).mapM (r.siteOf? src index) = .ok ((r.expression.all line).map (f index)) := by
      rw [mapM_congr fun m _ => h index m]
      exact List.mapM_pure
    rw [sitesOn, hall]
    refine congrArg Except.ok ?_
    rw [List.filterMap_map]
    rfl
  have hin : (src.masked.zipIdx.mapM fun numbered => r.sitesOn src numbered.2 numbered.1) =
      .ok (src.masked.zipIdx.map fun numbered => (r.expression.all numbered.1).filterMap (f numbered.2)) := by
    rw [mapM_congr fun numbered _ => hon numbered.2 numbered.1]
    exact List.mapM_pure
  rw [sites, sitesIn, hin, List.flatMap_def]
  rfl

section Congruence

variable (hmask : other.masked = src.masked)
include hmask

lemma siteOf?_congr {index : ℕ} {m : Regex.Found}
    (h : (r.evidence m other index).map List.isEmpty = (r.evidence m src index).map List.isEmpty) :
    r.siteOf? other index m = r.siteOf? src index m := by
  rw [siteOf?, siteOf?, h, siteAt, siteAt, hmask]

lemma sites_congr
    (h : ∀ index m, (r.evidence m other index).map List.isEmpty = (r.evidence m src index).map List.isEmpty) :
    r.sites other = r.sites src := by
  have hon : r.sitesOn other = r.sitesOn src := by
    funext index line
    rw [sitesOn, sitesOn, mapM_congr fun m _ => siteOf?_congr hmask (h index m)]
  rw [sites, sites, sitesIn, sitesIn, hmask, hon]

/-- A choice among the sites is the same if the candidates there have the same evidence. -/
lemma filter_sites_congr (htotal : r.Total) {p : Site → Bool}
    (h : ∀ index line, src.masked[index]? = some line → ∀ m ∈ r.expression.all line,
      p (r.siteAt src index m) = true → r.evidence m other index = r.evidence m src index) :
    (r.sites other).filter p = (r.sites src).filter p := by
  choose f hf using exists_siteOf?_eq htotal src
  choose g hg using exists_siteOf?_eq htotal other
  rw [sites_of_total hf, sites_of_total hg, hmask, List.filter_flatMap, List.filter_flatMap]
  refine List.flatMap_congr fun numbered hnumbered => ?_
  obtain ⟨line, index⟩ := numbered
  rw [List.filter_filterMap, List.filter_filterMap]
  refine List.filterMap_congr fun m hm => ?_
  by_cases hp : p (r.siteAt src index m) = true
  · have hevidence := h index line (List.mem_zipIdx_iff_getElem?.mp hnumbered) m hm hp
    have hsame := siteOf?_congr hmask (congrArg _ hevidence)
    rw [hf, hg] at hsame
    rw [Except.ok.inj hsame]
  · -- whatever the two candidates are, their site is not among the chosen
    have hnone : ∀ o : Option Site, (∀ s ∈ o, s = r.siteAt src index m) → o.filter p = none := by
      intro o ho
      cases o with
      | none => rfl
      | some s => simp [ho s rfl, hp]
    have hsite : r.siteAt other index m = r.siteAt src index m := by
      rw [siteAt, siteAt, hmask]
    rw [hnone _ (eq_siteAt_of_siteOf? (hf index m)), hnone _ (hsite ▸ eq_siteAt_of_siteOf? (hg index m))]

end Congruence

end Rule

namespace PatternScan

lemma map_site_foundBy (src : Source) (r : Rule) : (foundBy src r).map (fun found => found.1.site) = r.sites src := by
  unfold foundBy Rule.sites
  rw [← Rule.matchesIn_site]
  cases r.matchesIn src with
  | error fault => rfl
  | ok ms => simp [Except.map, Except.toOption]

lemma sites_ofCode (rules : List Rule) (codeStructure : Structure) {code : List Char}
    (h : Text.isBlankText code = false) :
    (ofCode rules codeStructure code).sites = rules.flatMap fun r => r.sites (Source.ofText code) := by
  rw [sites, ruleMatches, List.map_map, (ofCode_eq rules codeStructure h).1, List.map_flatMap]
  exact List.flatMap_congr fun r _ => map_site_foundBy _ r

end PatternScan
end CodeAudit
