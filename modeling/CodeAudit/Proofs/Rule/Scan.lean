import CodeAudit.Proofs.Outcome
import CodeAudit.Rule.Scan
import Mathlib.Data.List.Nodup

/-! Where the matches of a scan come from: each is made by one of the rules, of a candidate on a line that has
evidence. -/
namespace CodeAudit

open Outcome

namespace Rule

/-- A match of the rule with what it is made of. -/
structure Confirms (r : Rule) (src : Source) (index : ℕ) (line : Source.Line) (m : RuleMatch) : Prop where
  line_eq : src.masked[index]? = some line
  confirmed : ∃ c ∈ r.expression.all line, r.evidence c src index = .ok m.evidence ∧ m.evidence ≠ []
  ruleId : m.ruleId = r.id
  confidence : m.confidence = r.confidence
  startLine : m.startLine = index + 1

variable {r : Rule} {src : Source} {m : RuleMatch}

/-- A match is what some candidate on some line becomes. -/
lemma mem_matchesIn_iff {ms : List RuleMatch} (h : r.matchesIn src = .ok ms) :
    m ∈ ms ↔ ∃ index line, src.masked[index]? = some line ∧
      ∃ c ∈ r.expression.all line, r.matchOf src index c = .ok (some m) := by
  obtain ⟨perLine, hlines, h⟩ := bind_eq_ok.mp h
  obtain rfl := pure_eq_ok.mp h
  constructor
  · intro hm
    obtain ⟨onLine, honLine, hm⟩ := List.mem_flatten.mp hm
    obtain ⟨⟨line, index⟩, hline, honLine⟩ := mem_of_mapM_eq_ok hlines honLine
    obtain ⟨candidates, hcandidates, h⟩ := bind_eq_ok.mp honLine
    obtain rfl := pure_eq_ok.mp h
    obtain ⟨_, hcandidate, rfl⟩ := List.mem_filterMap.mp hm
    obtain ⟨c, hc, hmatch⟩ := mem_of_mapM_eq_ok hcandidates hcandidate
    exact ⟨index, line, List.mem_zipIdx_iff_getElem?.mp hline, c, hc, hmatch⟩
  · rintro ⟨index, line, hline, c, hc, hmatch⟩
    have hnumbered : (line, index) ∈ src.masked.zipIdx := List.mem_zipIdx_iff_getElem?.mpr hline
    obtain ⟨onLine, hmem, honLine⟩ := exists_mem_of_mapM_eq_ok hlines hnumbered
    obtain ⟨candidates, hcandidates, h⟩ := bind_eq_ok.mp honLine
    obtain rfl := pure_eq_ok.mp h
    obtain ⟨candidate, hcandidate, h⟩ := exists_mem_of_mapM_eq_ok hcandidates hc
    obtain rfl := Except.ok.inj (hmatch.symm.trans h)
    exact List.mem_flatten_of_mem hmem (List.mem_filterMap.mpr ⟨_, hcandidate, rfl⟩)

lemma matchOf_eq_ok_some_iff {index : ℕ} {c : Regex.Found} :
    r.matchOf src index c = .ok (some m) ↔ ∃ es, r.evidence c src index = .ok es ∧ es ≠ [] ∧ m = {
      ruleId := r.id
      confidence := r.confidence
      startLine := index + 1
      endLine := if r.spansBlock then Source.blockEnd src.masked index + 1 else index + 1
      startColumn := c.start + 1
      endColumn := max c.stop (c.start + 1)
      evidence := es } := by
  rw [matchOf, bind_eq_ok]
  refine exists_congr fun es => and_congr_right fun _ => ?_
  cases es with
  | nil => exact iff_of_false (fun h => by cases h) fun h => h.1 rfl
  | cons e es =>
    rw [and_iff_right (List.cons_ne_nil e es)]
    exact ⟨fun h => (Option.some.inj (Except.ok.inj h)).symm, fun h => congrArg (Except.ok ∘ some) h.symm⟩

lemma exists_confirms {ms : List RuleMatch} (h : r.matchesIn src = .ok ms) (hm : m ∈ ms) :
    ∃ index line, r.Confirms src index line m := by
  obtain ⟨index, line, hline, c, hc, hmatch⟩ := (mem_matchesIn_iff h).mp hm
  obtain ⟨es, hes, hne, rfl⟩ := matchOf_eq_ok_some_iff.mp hmatch
  exact ⟨index, line, hline, ⟨c, hc, hes, hne⟩, rfl, rfl, rfl⟩

/-- A candidate that has evidence is one of the matches. -/
lemma exists_mem_matchesIn {ms : List RuleMatch} (h : r.matchesIn src = .ok ms) {index : ℕ} {line : Source.Line}
    (hline : src.masked[index]? = some line) {c : Regex.Found} (hc : c ∈ r.expression.all line) {es : List String}
    (hes : r.evidence c src index = .ok es) (hne : es ≠ []) :
    ∃ m ∈ ms, m.ruleId = r.id ∧ m.startLine = index + 1 ∧ m.evidence = es :=
  ⟨_, (mem_matchesIn_iff h).mpr ⟨index, line, hline, c, hc, matchOf_eq_ok_some_iff.mpr ⟨es, hes, hne, rfl⟩⟩, rfl, rfl, rfl⟩

/-- The matches of a rule are those of its candidates one by one, if the evidence of none fails. -/
lemma matchesIn_eq {f : ℕ → Regex.Found → Option RuleMatch}
    (h : ∀ index m, r.matchOf src index m = .ok (f index m)) :
    r.matchesIn src = .ok (src.masked.zipIdx.flatMap fun numbered =>
      (r.expression.all numbered.1).filterMap (f numbered.2)) := by
  have hon : ∀ numbered : Source.Line × ℕ,
      r.matchesOn src numbered.2 numbered.1 = .ok ((r.expression.all numbered.1).filterMap (f numbered.2)) := by
    intro numbered
    have hall : (r.expression.all numbered.1).mapM (r.matchOf src numbered.2) =
        .ok ((r.expression.all numbered.1).map (f numbered.2)) := by
      rw [mapM_congr fun m _ => h numbered.2 m]
      exact List.mapM_pure
    rw [matchesOn, hall]
    refine congrArg Except.ok ?_
    rw [List.filterMap_map]
    rfl
  have hin : (src.masked.zipIdx.mapM fun numbered => r.matchesOn src numbered.2 numbered.1) =
      .ok (src.masked.zipIdx.map fun numbered => (r.expression.all numbered.1).filterMap (f numbered.2)) := by
    rw [mapM_congr fun numbered _ => hon numbered]
    exact List.mapM_pure
  rw [matchesIn, hin, List.flatMap_def]
  rfl

lemma nodup_catalog_ids : (catalog.map id).Nodup := by decide +kernel

lemma eq_of_id_eq {r q : Rule} (hr : r ∈ catalog) (hq : q ∈ catalog) (h : r.id = q.id) : r = q :=
  List.inj_on_of_nodup_map nodup_catalog_ids hr hq h

end Rule

namespace PatternScan

variable {rules : List Rule} {src : Source} {m : RuleMatch} {f : Finding}

/-- What a rule adds to a scan, nothing if it fails. -/
def foundBy (src : Source) (r : Rule) : List (RuleMatch × Finding) :=
  ((r.matchesIn src).toOption.getD []).map fun m => (m, r.findingOf src m)

/-- The failure that a rule adds to a scan, if it fails. -/
def failureOf? (src : Source) (r : Rule) : Option (String × Reading.Fault) :=
  match r.matchesIn src with
  | .ok _ => none
  | .error fault => some (r.id, fault)

lemma mem_foundBy {r : Rule} :
    (m, f) ∈ foundBy src r ↔ f = r.findingOf src m ∧ ∃ ms, r.matchesIn src = .ok ms ∧ m ∈ ms := by
  unfold foundBy
  cases r.matchesIn src with
  | ok ms => simp [Except.toOption, and_comm, eq_comm]
  | error fault => simp [Except.toOption]

lemma failureOf?_eq_some {r : Rule} {id : String} {fault : Reading.Fault} :
    failureOf? src r = some (id, fault) ↔ r.id = id ∧ r.matchesIn src = .error fault := by
  unfold failureOf?
  cases r.matchesIn src with
  | ok ms => simp
  | error other => simp

/-- The run over all rules, by induction on them: each adds what it finds, or its failure, to those before it. -/
lemma foldl_addRule (rules : List Rule) (done : List (RuleMatch × Finding) × List (String × Reading.Fault)) :
    rules.foldl (addRule src) done =
      (done.1 ++ rules.flatMap (foundBy src), done.2 ++ rules.filterMap (failureOf? src)) := by
  induction rules generalizing done with
  | nil => simp
  | cons r rest ih =>
    rw [List.foldl_cons, ih, List.flatMap_cons, List.filterMap_cons]
    unfold addRule foundBy failureOf?
    cases r.matchesIn src with
    | ok ms => simp [Except.toOption]
    | error fault => simp [Except.toOption]

lemma ofCode_eq (rules : List Rule) (codeStructure : Structure) {code : List Char}
    (h : Text.isBlankText code = false) :
    (ofCode rules codeStructure code).found = rules.flatMap (foundBy (Source.ofText code)) ∧
      (ofCode rules codeStructure code).failed = rules.filterMap (failureOf? (Source.ofText code)) := by
  unfold ofCode
  rw [h, if_neg Bool.false_ne_true]
  dsimp only
  rw [foldl_addRule]
  exact ⟨rfl, rfl⟩

/-- The matches of a scan by the catalog that are a rule's own are those that the rule makes. -/
lemma filter_ruleMatches_eq {r : Rule} (hr : r ∈ Rule.catalog) {code : List Char} (hcode : Text.isBlankText code = false)
    {ms : List RuleMatch} (hms : r.matchesIn (Source.ofText code) = .ok ms) (codeStructure : Structure) :
    (ofCode Rule.catalog codeStructure code).ruleMatches.filter (·.ruleId == r.id) = ms := by
  have hids : ∀ q, ∀ m ∈ (foundBy (Source.ofText code) q).map (·.1), m.ruleId = q.id := by
    rintro q m hm
    obtain ⟨⟨m, f⟩, hfound, rfl⟩ := List.mem_map.mp hm
    obtain ⟨-, ms, hms, hm⟩ := mem_foundBy.mp hfound
    obtain ⟨_, _, hconfirms⟩ := Rule.exists_confirms hms hm
    exact hconfirms.ruleId
  have hown : (foundBy (Source.ofText code) r).map (·.1) = ms := by
    rw [foundBy, hms, List.map_map]
    exact List.map_id ms
  obtain ⟨before, after, hsplit⟩ := List.append_of_mem hr
  have hnodup : ((before ++ r :: after).map Rule.id).Nodup := hsplit ▸ Rule.nodup_catalog_ids
  have hother : ∀ q ∈ before ++ after,
      ((foundBy (Source.ofText code) q).map (·.1)).filter (·.ruleId == r.id) = [] := by
    intro q hq
    refine List.filter_eq_nil_iff.mpr fun m hm hid => ?_
    have hsame : q.id = r.id := (hids q m hm).symm.trans (beq_iff_eq.mp hid)
    rw [List.map_append, List.map_cons, List.nodup_middle, List.nodup_cons, ← List.map_append] at hnodup
    exact hnodup.1 (hsame ▸ List.mem_map_of_mem hq)
  have hmatches : (ofCode Rule.catalog codeStructure code).ruleMatches =
      Rule.catalog.flatMap fun q => (foundBy (Source.ofText code) q).map (·.1) := by
    rw [ruleMatches, (ofCode_eq _ codeStructure hcode).1, List.map_flatMap]
  rw [hmatches, hsplit, List.flatMap_append, List.flatMap_cons, List.filter_append, List.filter_append,
    List.filter_flatMap, List.filter_flatMap, List.flatMap_eq_nil_iff.mpr fun q hq => hother q (List.mem_append_left _ hq),
    List.flatMap_eq_nil_iff.mpr fun q hq => hother q (List.mem_append_right _ hq), hown, List.append_nil, List.nil_append]
  exact List.filter_eq_self.mpr fun m hm => beq_iff_eq.mpr (hids r m (hown ▸ hm))

/-- A scan finds what its rules find in the text. -/
lemma exists_matchesIn_of_mem_found {codeStructure : Structure} {code : List Char}
    (h : (m, f) ∈ (ofCode rules codeStructure code).found) :
    ∃ r ∈ rules, f = r.findingOf (Source.ofText code) m ∧
      ∃ ms, r.matchesIn (Source.ofText code) = .ok ms ∧ m ∈ ms := by
  cases hcode : Text.isBlankText code with
  | true =>
    rw [ofCode, hcode] at h
    exact absurd h List.not_mem_nil
  | false =>
    rw [(ofCode_eq rules codeStructure hcode).1] at h
    obtain ⟨r, hr, hfound⟩ := List.mem_flatMap.mp h
    exact ⟨r, hr, mem_foundBy.mp hfound⟩

lemma exists_rule_of_mem_found {codeStructure : Structure} {code : List Char}
    (h : (m, f) ∈ (ofCode rules codeStructure code).found) :
    ∃ r ∈ rules, f = r.findingOf (Source.ofText code) m ∧
      ∃ index line, r.Confirms (Source.ofText code) index line m := by
  obtain ⟨r, hr, hf, ms, hms, hm⟩ := exists_matchesIn_of_mem_found h
  exact ⟨r, hr, hf, Rule.exists_confirms hms hm⟩

end PatternScan
end CodeAudit
