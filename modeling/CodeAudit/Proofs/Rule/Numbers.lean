import CodeAudit.Proofs.Rule.Literal
import CodeAudit.Proofs.Rule.Total
import CodeAudit.Proofs.Source.Block

/-! Which rules of a scan fail. A rule fails when it cannot word the evidence of one of its candidates, and in the
catalog only a number can be in the way of that: an index, the bound of a range or the size of a list. -/
namespace CodeAudit

open Outcome Regex

namespace Rule

variable {r : Rule} {src : Source}

lemma exists_matchOf_iff {index : ℕ} {m : Found} :
    (∃ o, r.matchOf src index m = .ok o) ↔ ∃ es, r.evidence m src index = .ok es := by
  rw [matchOf, exists_bind_iff]
  refine exists_congr fun es => and_iff_left ?_
  split <;> exact ⟨_, rfl⟩

/-- A rule has its matches when each of its candidates has evidence, or surely has none. -/
lemma exists_matchesIn_iff :
    (∃ ms, r.matchesIn src = .ok ms) ↔ ∀ line index, src.masked[index]? = some line →
      ∀ m ∈ r.expression.all line, ∃ es, r.evidence m src index = .ok es := by
  have hline : ∀ line index, (∃ ms, r.matchesOn src index line = .ok ms) ↔
      ∀ m ∈ r.expression.all line, ∃ es, r.evidence m src index = .ok es := by
    intro line index
    have hcandidates : (∃ os, (r.expression.all line).mapM (r.matchOf src index) = .ok os) ↔
        ∀ m ∈ r.expression.all line, ∃ es, r.evidence m src index = .ok es := by
      rw [exists_mapM_iff]
      exact forall₂_congr fun m _ => exists_matchOf_iff
    rw [matchesOn, exists_bind_iff, ← hcandidates]
    exact exists_congr fun os => and_iff_left ⟨_, rfl⟩
  have hlines : (∃ perLine, (src.masked.zipIdx.mapM fun numbered => r.matchesOn src numbered.2 numbered.1) =
      .ok perLine) ↔ ∀ line index, src.masked[index]? = some line →
        ∀ m ∈ r.expression.all line, ∃ es, r.evidence m src index = .ok es := by
    rw [exists_mapM_iff, Prod.forall]
    refine forall₂_congr fun line index => ?_
    rw [List.mem_zipIdx_iff_getElem?, hline]
  rw [matchesIn, exists_bind_iff, ← hlines]
  exact exists_congr fun perLine => and_iff_left ⟨_, rfl⟩

end Rule

namespace PatternScan

variable {rules : List Rule}

lemma mem_failed_ofCode {codeStructure : Structure} {code : List Char} {id : String} {fault : Reading.Fault}
    (hcode : Text.isBlankText code = false) :
    (id, fault) ∈ (ofCode rules codeStructure code).failed ↔
      ∃ r ∈ rules, r.id = id ∧ r.matchesIn (Source.ofText code) = .error fault := by
  simp only [(ofCode_eq rules codeStructure hcode).2, List.mem_filterMap, failureOf?_eq_some]

lemma failed_ofCode_eq_nil_iff {codeStructure : Structure} {code : List Char} (hcode : Text.isBlankText code = false) :
    (ofCode rules codeStructure code).failed = [] ↔
      ∀ r ∈ rules, ∃ ms, r.matchesIn (Source.ofText code) = .ok ms := by
  rw [List.eq_nil_iff_forall_not_mem]
  constructor
  · intro h r hr
    cases hm : r.matchesIn (Source.ofText code) with
    | ok ms => exact ⟨ms, rfl⟩
    | error fault => exact absurd ((mem_failed_ofCode hcode).mpr ⟨r, hr, rfl, hm⟩) (h (r.id, fault))
  · rintro h ⟨id, fault⟩ hmem
    obtain ⟨r, hr, -, hm⟩ := (mem_failed_ofCode hcode).mp hmem
    obtain ⟨ms, hok⟩ := h r hr
    cases hm.symm.trans hok

end PatternScan

namespace Rule

/-- What a large range or list is worded with: a literal that is worked out, and whose value can be written if it is
large. -/
structure Writable (least : Int) (text : List Char) : Prop where
  legible : LegibleLiteral text
  short : ∀ n, literalValue text = .ok (some n) → least ≤ n → n.natAbs < Nat.pow 10 Reading.maxDigits

lemma exists_writeThousands_iff {n : Int} :
    (∃ s, writeThousands n = .ok s) ↔ n.natAbs < Nat.pow 10 Reading.maxDigits := by
  unfold writeThousands
  split
  · rename_i hlong
    exact iff_of_false (fun ⟨_, h⟩ => (by cases h)) (Nat.not_lt.mpr hlong)
  · rename_i hshort
    exact iff_of_true ⟨_, rfl⟩ (Nat.lt_of_not_le hshort)

/-- The evidence that a literal is large. -/
def largeEvidence (least : Int) (text : List Char) (word : String → String) : Except Reading.Fault (List String) := do
  match ← literalValue text with
  | some size =>
    if size < least then return []
    else
      let written ← writeThousands size
      return [word written]
  | none => return []

lemma exists_largeEvidence_iff {least : Int} {text : List Char} (word : String → String) :
    (∃ es, largeEvidence least text word = .ok es) ↔ Writable least text := by
  rw [largeEvidence, exists_bind_iff]
  constructor
  · rintro ⟨o, ho, hrest⟩
    refine ⟨(exists_literalValue_iff text).mp ⟨o, ho⟩, fun n hn hlarge => ?_⟩
    cases ho.symm.trans hn
    dsimp only at hrest
    rw [if_neg (Int.not_lt.mpr hlarge)] at hrest
    obtain ⟨s, hs, -⟩ := exists_bind_iff.mp hrest
    exact exists_writeThousands_iff.mp ⟨s, hs⟩
  · rintro ⟨hlegible, hshort⟩
    obtain ⟨o, ho⟩ := (exists_literalValue_iff text).mpr hlegible
    refine ⟨o, ho, ?_⟩
    cases o with
    | none => exact ⟨[], rfl⟩
    | some n =>
      dsimp only
      split
      · exact ⟨[], rfl⟩
      · rename_i hlarge
        obtain ⟨s, hs⟩ := exists_writeThousands_iff.mpr (hshort n ho (Int.not_lt.mp hlarge))
        exact exists_bind_iff.mpr ⟨s, hs, _, rfl⟩

/-- The argument of a range that bounds it: the second one, or the only one. -/
def rangeBound (arguments : List Char) : List Char :=
  match topLevelPieces 0 [] arguments with
  | _ :: second :: _ => second
  | [only] => only
  | [] => []

lemma oversizedRange_evidence (m : Found) (src : Source) (index : ℕ) :
    Resource.oversizedRange.evidence m src index =
      largeEvidence Resource.largeRange (rangeBound (m.group "arguments")) fun written =>
        s!"Large range operation: {rawLabel m src index} iterates {written} times" := rfl

lemma oversizedAllocation_evidence (m : Found) (src : Source) (index : ℕ) :
    Resource.oversizedAllocation.evidence m src index =
      largeEvidence Resource.largeAllocation (m.group "size") fun written =>
        s!"Large memory allocation: list repeated {written} times" := rfl

/-- The index of a candidate: decimal digits, with or without a minus sign. -/
lemma exists_digits_of_mem_all {m : Found} {line : Source.Line} (h : m ∈ Mapping.hardcodedIndex.expression.all line) :
    ∃ ds, ds ≠ [] ∧ (∀ c ∈ ds, Text.isDecimal c = true) ∧ (m.group "index" = ds ∨ m.group "index" = '-' :: ds) := by
  obtain ⟨_, _, s, t, -, -, -, hfound⟩ := exists_place_of_mem_all (advances rfl) h
  obtain ⟨ht, hmatch⟩ := mem_ends_of_foundAt hfound
  have hm : m.groups = t.groups := by rw [hmatch]
  obtain ⟨u, hu, hbracket⟩ := mem_ends_seq.mp ht
  obtain ⟨v, -, hu⟩ := mem_ends_seq.mp hu
  obtain ⟨w, hw, rfl⟩ := mem_ends_group hu
  have hgroup : m.group "index" = (v.between w).text := by
    rw [Found.group, Found.span?, hm, groups_of_mem_ends (isPlain_text _) hbracket]
    rfl
  obtain ⟨x, hx, hw⟩ := mem_ends_seq.mp hw
  obtain ⟨ds, hpasses, hne, hdecimal⟩ := mem_ends_many1 hw
  refine ⟨ds, hne, hdecimal, ?_⟩
  rcases List.mem_append.mp hx with hsign | hnone
  · obtain ⟨y, hy, hx⟩ := List.mem_flatMap.mp hsign
    obtain ⟨c, rest, hrest, hc, rfl⟩ := mem_ends_one hy
    obtain rfl := List.mem_singleton.mp hx
    obtain rfl := beq_iff_eq.mp hc
    exact .inr (hgroup.trans (hpasses.moveTo hrest).text_between)
  · obtain rfl := List.mem_singleton.mp hnone
    exact .inl (hgroup.trans hpasses.text_between)

/-- The digits of an index that a program text writes down. -/
def indexDigits (m : Found) : List Char :=
  (m.group "index").filter Text.isDecimal

lemma exists_hardcodedIndex_evidence_iff {m : Found} {line : Source.Line} {src : Source} {index : ℕ}
    (h : m ∈ Mapping.hardcodedIndex.expression.all line) :
    (∃ es, Mapping.hardcodedIndex.evidence m src index = .ok es) ↔ (indexDigits m).length ≤ Reading.maxDigits := by
  obtain ⟨ds, hne, hdecimal, hds⟩ := exists_digits_of_mem_all h
  have hdigits : indexDigits m = ds := by
    have hfilter := List.filter_eq_self.mpr hdecimal
    rcases hds with hds | hds
    · rw [indexDigits, hds, hfilter]
    · rw [indexDigits, hds, List.filter_cons_of_neg (by decide), hfilter]
  have hwhole : (∃ n, Reading.whole (m.group "index") = .ok n) ↔ ds.length ≤ Reading.maxDigits := by
    rcases hds with hds | hds
    · rw [hds]
      exact Reading.whole_isOk_iff_of_decimals hne hdecimal
    · rw [hds]
      exact Reading.whole_neg_isOk_iff_of_decimals hne hdecimal
  rw [hdigits, ← hwhole]
  refine exists_bind_iff.trans (exists_congr fun n => and_iff_left ?_)
  split <;> exact ⟨_, rfl⟩

/-- The numbers of a program text that rules look at: indices and literals for ranges and lists can be read, and large
ones written. -/
structure NumbersLegible (src : Source) : Prop where
  indices : ∀ line ∈ src.masked, ∀ m ∈ Mapping.hardcodedIndex.expression.all line,
    (indexDigits m).length ≤ Reading.maxDigits
  ranges : ∀ line ∈ src.masked, ∀ m ∈ Resource.oversizedRange.expression.all line,
    Writable Resource.largeRange (rangeBound (m.group "arguments"))
  allocations : ∀ line ∈ src.masked, ∀ m ∈ Resource.oversizedAllocation.expression.all line,
    Writable Resource.largeAllocation (m.group "size")

section Catalog

variable {r : Rule} {src : Source}

lemma exists_matchesIn_of_total (h : r.Total) (src : Source) : ∃ ms, r.matchesIn src = .ok ms :=
  exists_matchesIn_iff.mpr fun _ index _ m _ => h m src index

/-- A rule whose evidence hangs on the candidate alone. -/
lemma exists_matchesIn_iff_of_candidate {p : Found → Prop}
    (h : ∀ line index, ∀ m ∈ r.expression.all line, (∃ es, r.evidence m src index = .ok es) ↔ p m) :
    (∃ ms, r.matchesIn src = .ok ms) ↔ ∀ line ∈ src.masked, ∀ m ∈ r.expression.all line, p m := by
  rw [exists_matchesIn_iff]
  constructor
  · intro hall line hline m hm
    obtain ⟨index, hindex⟩ := List.mem_iff_getElem?.mp hline
    exact (h line index m hm).mp (hall line index hindex m hm)
  · intro hall line index hindex m hm
    exact (h line index m hm).mpr (hall line (List.mem_of_getElem? hindex) m hm)

lemma numbersLegible_iff : NumbersLegible src ↔ ∀ r ∈ catalog, ∃ ms, r.matchesIn src = .ok ms := by
  have hindices : (∃ ms, Mapping.hardcodedIndex.matchesIn src = .ok ms) ↔ ∀ line ∈ src.masked,
      ∀ m ∈ Mapping.hardcodedIndex.expression.all line, (indexDigits m).length ≤ Reading.maxDigits :=
    exists_matchesIn_iff_of_candidate fun _ _ _ hm => exists_hardcodedIndex_evidence_iff hm
  have hranges : (∃ ms, Resource.oversizedRange.matchesIn src = .ok ms) ↔ ∀ line ∈ src.masked,
      ∀ m ∈ Resource.oversizedRange.expression.all line,
        Writable Resource.largeRange (rangeBound (m.group "arguments")) :=
    exists_matchesIn_iff_of_candidate fun _ index m _ => by
      rw [oversizedRange_evidence m src index, exists_largeEvidence_iff]
  have hallocations : (∃ ms, Resource.oversizedAllocation.matchesIn src = .ok ms) ↔ ∀ line ∈ src.masked,
      ∀ m ∈ Resource.oversizedAllocation.expression.all line, Writable Resource.largeAllocation (m.group "size") :=
    exists_matchesIn_iff_of_candidate fun _ index m _ => by
      rw [oversizedAllocation_evidence m src index, exists_largeEvidence_iff]
  constructor
  · intro h r hr
    rcases total_of_mem_catalog r hr with htotal | rfl | rfl | rfl
    · exact exists_matchesIn_of_total htotal src
    · exact hindices.mpr h.indices
    · exact hranges.mpr h.ranges
    · exact hallocations.mpr h.allocations
  · intro h
    exact ⟨hindices.mp (h _ (by simp [catalog])), hranges.mp (h _ (by simp [catalog])),
      hallocations.mp (h _ (by simp [catalog]))⟩

end Catalog

end Rule

namespace PatternScan

/-- A rule that does not fail reports a line if there is evidence for one of the candidates in the line's mask. -/
lemma exists_reported_iff {r : Rule} (hr : r ∈ Rule.catalog) (htotal : r.Total) {code line : List Char} {index : ℕ}
    (hline : (Source.maskLines code)[index]? = some line) (hblank : Text.isBlankText line = false)
    (codeStructure : Structure) :
    (∃ m ∈ (ofCode Rule.catalog codeStructure code).ruleMatches, m.ruleId = r.id ∧ m.startLine = index + 1) ↔
      ∃ c ∈ r.expression.all line, ∃ es, es ≠ [] ∧ r.evidence c (Source.ofText code) index = .ok es := by
  have hcode := Source.isBlankText_eq_false_of_mem_maskLines (List.mem_of_getElem? hline) hblank
  have hms := Rule.exists_matchesIn_of_total htotal (Source.ofText code)
  constructor
  · rintro ⟨m, hm, hid, hstart⟩
    obtain ⟨hne, masked, hmasked, c, hc, hevidence⟩ := (exists_match_iff hr hcode hms).mp ⟨m, hm, hid, hstart, rfl⟩
    obtain rfl := Option.some.inj (hline.symm.trans hmasked)
    exact ⟨c, hc, _, hne, hevidence⟩
  · rintro ⟨c, hc, es, hne, hevidence⟩
    have hmatch : ∃ m ∈ (ofCode Rule.catalog codeStructure code).ruleMatches,
        m.ruleId = r.id ∧ m.startLine = index + 1 ∧ m.evidence = es :=
      (exists_match_iff hr hcode hms).mpr ⟨hne, _, hline, c, hc, hevidence⟩
    obtain ⟨m, hm, hid, hstart, -⟩ := hmatch
    exact ⟨m, hm, hid, hstart⟩

/-- **Only numbers make a rule fail.** A scan by the whole catalog fails in no rule exactly when the text is blank or
the numbers that rules look at are legible. Otherwise the rules on large indices, ranges and allocations are the only
ones that may have failed. -/
theorem failed_eq_nil_iff_numbersLegible (codeStructure : Structure) (code : List Char) :
    ((ofCode Rule.catalog codeStructure code).failed = [] ↔
      Text.isBlankText code = true ∨ Rule.NumbersLegible (Source.ofText code)) ∧
    ∀ f ∈ (ofCode Rule.catalog codeStructure code).failed,
      f.1 ∈
        [Rule.Mapping.hardcodedIndex.id, Rule.Resource.oversizedRange.id, Rule.Resource.oversizedAllocation.id] := by
  cases hcode : Text.isBlankText code with
  | true =>
    have hnone : (ofCode Rule.catalog codeStructure code).failed = [] := by
      rw [ofCode, hcode]
      rfl
    rw [hnone]
    exact ⟨iff_of_true rfl (.inl rfl), fun f hf => absurd hf List.not_mem_nil⟩
  | false =>
    refine ⟨?_, ?_⟩
    · rw [failed_ofCode_eq_nil_iff hcode, or_iff_right Bool.false_ne_true, Rule.numbersLegible_iff]
    · rintro ⟨id, fault⟩ hf
      obtain ⟨r, hr, rfl, hfault⟩ := (mem_failed_ofCode hcode).mp hf
      rcases Rule.total_of_mem_catalog r hr with htotal | rfl | rfl | rfl
      · obtain ⟨ms, hms⟩ := Rule.exists_matchesIn_of_total htotal (Source.ofText code)
        cases hms.symm.trans hfault
      all_goals simp

/-- A superscript counts as a digit but is not read as one. -/
theorem superscript_range_fails :
    (ofCode Rule.catalog default "range(²)".toList).failed = [("large_range", .notWhole "²")] := by
  decide +kernel

end PatternScan

end CodeAudit
