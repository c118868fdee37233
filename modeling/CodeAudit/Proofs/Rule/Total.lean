import CodeAudit.Proofs.Rule.Sites

/-! The rules whose evidence never fails: all of the catalog but the three that read numbers. -/
namespace CodeAudit.Rule

/-- A choice never fails if neither of its branches does. -/
lemma exists_ite {c : Prop} [Decidable c] {x y : Except Reading.Fault (List String)} (hx : ∃ es, x = .ok es)
    (hy : ∃ es, y = .ok es) : ∃ es, (if c then x else y) = .ok es := by
  split
  · exact hx
  · exact hy

lemma exists_ite_ok {c : Prop} [Decidable c] (a b : List String) :
    ∃ es, (if c then .ok a else .ok b : Except Reading.Fault (List String)) = .ok es :=
  exists_ite ⟨a, rfl⟩ ⟨b, rfl⟩

lemma total_mixedOperands : Mapping.mixedOperands.Total := by
  intro m src index
  simp only [Mapping.mixedOperands]
  split <;> exact ⟨_, rfl⟩

lemma total_invalidMethod : Mapping.invalidMethod.Total := by
  intro m src index
  simp only [Mapping.invalidMethod]
  split
  · exact exists_ite_ok _ _
  · exact exists_ite_ok _ _
  · exact ⟨_, rfl⟩

lemma total_uncheckedKey : Mapping.uncheckedKey.Total := fun _ _ _ =>
  exists_ite ⟨_, rfl⟩ (exists_ite ⟨_, rfl⟩ (exists_ite_ok _ _))

lemma total_undefinedName : Naming.undefinedName.Total := fun _ _ _ =>
  exists_ite ⟨_, rfl⟩ (exists_ite ⟨_, rfl⟩ (exists_ite ⟨_, rfl⟩ (exists_ite_ok _ _)))

lemma total_noneAttribute : Naming.noneAttribute.Total := by
  intro m src index
  simp only [Naming.noneAttribute]
  split
  · exact exists_ite_ok _ _
  · exact ⟨_, rfl⟩

lemma total_repeatedLine : Logic.repeatedLine.Total := fun _ _ _ =>
  exists_ite ⟨_, rfl⟩ (exists_ite ⟨_, rfl⟩ (exists_ite_ok _ _))

lemma total_unreachable : Logic.unreachable.Total := by
  intro m src index
  simp only [Logic.unreachable]
  split
  · exact exists_ite_ok _ _
  · exact ⟨_, rfl⟩

lemma total_of_mem_catalog : ∀ r ∈ catalog,
    r.Total ∨ r = Mapping.hardcodedIndex ∨ r = Resource.oversizedRange ∨ r = Resource.oversizedAllocation := by
  simp only [catalog, List.forall_mem_cons, List.not_mem_nil, false_implies, implies_true, and_true]
  exact ⟨.inl total_mixedOperands, .inl total_invalidMethod, .inr (.inl trivial), .inl total_uncheckedKey,
    .inl total_undefinedName, .inl fun _ _ _ => ⟨_, rfl⟩, .inl total_noneAttribute,
    .inl fun _ _ _ => exists_ite_ok _ _, .inl fun _ _ _ => exists_ite_ok _ _, .inr (.inr (.inl trivial)),
    .inl fun _ _ _ => exists_ite_ok _ _, .inr (.inr (.inr trivial)),
    .inl fun _ _ _ => ⟨_, rfl⟩, .inl fun _ _ _ => exists_ite_ok _ _, .inl fun _ _ _ => exists_ite_ok _ _,
    .inl total_repeatedLine, .inl fun _ _ _ => exists_ite_ok _ _, .inl total_unreachable, .inl fun _ _ _ => ⟨_, rfl⟩⟩

end CodeAudit.Rule

namespace CodeAudit.PatternScan

/-- A scan by the catalog words just the evidence that a rule has for the candidates on a line. -/
lemma exists_match_iff {r : Rule} (hr : r ∈ Rule.catalog) {code : List Char} (hcode : Text.isBlankText code = false)
    (hms : ∃ ms, r.matchesIn (Source.ofText code) = .ok ms) {codeStructure : Structure} {index : ℕ}
    {es : List String} :
    (∃ m ∈ (ofCode Rule.catalog codeStructure code).ruleMatches,
        m.ruleId = r.id ∧ m.startLine = index + 1 ∧ m.evidence = es) ↔
      es ≠ [] ∧ ∃ line, (Source.maskLines code)[index]? = some line ∧
        ∃ c ∈ r.expression.all line, r.evidence c (Source.ofText code) index = .ok es := by
  constructor
  · rintro ⟨_, hm, hid, hindex, rfl⟩
    obtain ⟨⟨m, f⟩, hfound, rfl⟩ := List.mem_map.mp hm
    obtain ⟨q, hq, -, i, line, hconfirms⟩ := exists_rule_of_mem_found hfound
    obtain rfl : q = r := Rule.eq_of_id_eq hq hr (hconfirms.ruleId.symm.trans hid)
    obtain rfl : i = index := Nat.succ.inj (hconfirms.startLine.symm.trans hindex)
    obtain ⟨c, hc, hevidence, hne⟩ := hconfirms.confirmed
    exact ⟨hne, line, hconfirms.line_eq, c, hc, hevidence⟩
  · rintro ⟨hne, line, hline, c, hc, hevidence⟩
    obtain ⟨ms, hms⟩ := hms
    obtain ⟨m, hm, hmatch⟩ := Rule.exists_mem_matchesIn hms hline hc hevidence hne
    have hfound : (m, r.findingOf (Source.ofText code) m) ∈ (ofCode Rule.catalog codeStructure code).found := by
      rw [(ofCode_eq _ codeStructure hcode).1]
      exact List.mem_flatMap.mpr ⟨r, hr, mem_foundBy.mpr ⟨rfl, ms, hms, hm⟩⟩
    exact ⟨m, List.mem_map_of_mem hfound, hmatch⟩

end CodeAudit.PatternScan
