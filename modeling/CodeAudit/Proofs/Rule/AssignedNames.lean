import CodeAudit.Proofs.Rule.LaterNames
import CodeAudit.Proofs.Source.Assignment

/-! What an assignment binds for the lines below it. -/
namespace CodeAudit.PatternScan

open Source

/-- A name among the targets is bound if the first target opens with a name and has it, read from its first ASCII
letter on, or if an expression of the line binds it. No line below reports a name that is bound. -/
theorem assigned_name_bound_iff {code : List Char} {index : ℕ} {s : AssignmentStatement}
    (hline : (maskLines code)[index]? = some s.text) {x : Name} (hx : x ∈ s.names) :
    (x ∈ (Source.ofText code).bindingsOn index ↔
        (s.first.OpensWithName ∧ x ∈ s.first.names.map Text.nameEnd) ∨ x ∈ innerNames s.text) ∧
      (x ∈ (Source.ofText code).bindingsOn index →
        ∀ codeStructure, ∀ j ≥ index, ¬ ReportsName codeStructure code j x) := by
  refine ⟨?_, fun hbound _ j hj hreported => hreported.not_mem_bindingsOn hj hbound⟩
  have hproper : x ≠ [] ∧ Bindings.isKeyword x = false := by
    obtain ⟨t, -, hx⟩ := List.mem_flatMap.mp hx
    obtain ⟨n, -, rfl⟩ := List.mem_map.mp hx
    exact ⟨n.name.ne_nil, n.name.not_isKeyword⟩
  rw [mem_bindingsOn]
  change (∃ line, (maskLines code)[index]? = some line ∧ _) ↔ _
  simp only [hline, Option.some.injEq, exists_eq_left', s.mem_ofLine_iff, and_iff_left hproper]

/-- A list of two names, the second of them with a star, that is assigned and then used. -/
def starredPair : List Char := "first, *others = row\nprint(others)\n".toList

/-- Two names that get one value, the second of which is used. -/
def chainedPair : List Char := "a = b = 1\nprint(b)\n".toList

theorem assigned_name_bound_starred :
    "others".toList ∈ (Source.ofText starredPair).bindingsOn 0 ∧ ¬ ReportsName {} starredPair 1 "others".toList := by
  let first : TargetName := ⟨.spaces 0, none, ⟨"first".toList, by decide +kernel⟩, .spaces 0⟩
  let others : TargetName := ⟨.spaces 1, some (.spaces 0), ⟨"others".toList, by decide +kernel⟩, .spaces 1⟩
  let s : AssignmentStatement := ⟨⟨none, first, [others], none⟩, [], " row".toList, by decide⟩
  have hline : (maskLines starredPair)[0]? = some s.text := by decide +kernel
  have hname : "others".toList ∈ s.names := by decide +kernel
  obtain ⟨hbound, hreport⟩ := assigned_name_bound_iff hline hname
  have hmem := hbound.mpr (.inl ⟨⟨rfl, rfl, by decide⟩, by decide +kernel⟩)
  exact ⟨hmem, hreport hmem {} 1 (by decide)⟩

theorem chained_name_reported :
    ∃ s : AssignmentStatement, (maskLines chainedPair)[0]? = some s.text ∧ "b".toList ∈ s.names ∧
      "b".toList ∉ (Source.ofText chainedPair).bindingsOn 0 ∧ ReportsName {} chainedPair 1 "b".toList := by
  let a : TargetName := ⟨.spaces 0, none, ⟨"a".toList, by decide +kernel⟩, .spaces 1⟩
  let b : TargetName := ⟨.spaces 1, none, ⟨"b".toList, by decide +kernel⟩, .spaces 1⟩
  refine ⟨⟨⟨none, a, [], none⟩, [⟨none, b, [], none⟩], " 1".toList, by decide⟩, ?_, ?_, ?_, ?_⟩
  · decide +kernel
  · decide +kernel
  · decide +kernel
  · unfold ReportsName
    decide +kernel

end CodeAudit.PatternScan
