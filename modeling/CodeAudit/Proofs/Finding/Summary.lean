import CodeAudit.Finding.Recommendation
import CodeAudit.Proofs.Finding.Retention
import Mathlib.Data.List.MinMax

/-! What is said of findings as a whole: how many there are of each severity, which kind is found most, the level of
risk, and the kinds that there is advice for. -/
namespace CodeAudit

namespace Severity

lemma count_add_count (l : List Severity) :
    l.count critical + l.count high + l.count medium + l.count low = l.length := by
  induction l with
  | nil => rfl
  | cons s rest ih =>
    simp only [List.count_cons, List.length_cons]
    cases s <;> simp <;> omega

/-- The last of the worst is one of the list, and none is worse. -/
lemma foldl_worst {α : Type} (rank : α → Nat) (l : List α) (a : α) :
    (l.foldl (fun worst b => if rank worst ≤ rank b then b else worst) a) ∈ a :: l ∧
      ∀ b ∈ a :: l, rank b ≤ rank (l.foldl (fun worst b => if rank worst ≤ rank b then b else worst) a) := by
  induction l generalizing a with
  | nil => exact ⟨List.mem_cons_self, by simp⟩
  | cons c rest ih =>
    rw [List.foldl_cons]
    by_cases hac : rank a ≤ rank c
    · rw [if_pos hac]
      obtain ⟨hmem, hle⟩ := ih c
      exact ⟨List.mem_cons_of_mem _ hmem, List.forall_mem_cons.mpr ⟨hac.trans (hle c List.mem_cons_self), hle⟩⟩
    · rw [if_neg hac]
      obtain ⟨hmem, hle⟩ := ih a
      obtain ⟨ha, hrest⟩ := List.forall_mem_cons.mp hle
      have hc := (Nat.le_of_not_le hac).trans ha
      refine ⟨?_, List.forall_mem_cons.mpr ⟨ha, List.forall_mem_cons.mpr ⟨hc, hrest⟩⟩⟩
      rw [List.mem_cons, List.mem_cons]
      rcases List.mem_cons.mp hmem with h | h
      · exact .inl h
      · exact .inr (.inr h)

lemma worst?_eq_none_iff {l : List Severity} : worst? l = none ↔ l = [] := by
  cases l with
  | nil => exact iff_of_true rfl rfl
  | cons s rest => exact iff_of_false (fun h => by cases h) (List.cons_ne_nil s rest)

lemma worst?_eq_critical_iff {l : List Severity} : worst? l = some critical ↔ critical ∈ l := by
  cases l with
  | nil => exact iff_of_false (fun h => by cases h) List.not_mem_nil
  | cons s rest =>
    obtain ⟨hmem, hle⟩ := foldl_worst rank rest s
    constructor
    · intro h
      exact Option.some.inj h ▸ hmem
    · intro h
      exact congrArg some (eq_critical_of_rank_le (hle critical h))

end Severity

namespace Risk

variable {severities : List Severity} {rate : Number}

lemma levelName_eq_none_iff {level : Option Severity} : levelName level = "none" ↔ level = none := by
  cases level with
  | none => exact iff_of_true rfl rfl
  | some s => cases s <;> exact iff_of_false (by decide) (by decide)

lemma levelName_eq_critical_iff {level : Option Severity} : levelName level = "critical" ↔ level = some .critical := by
  cases level with
  | none => exact iff_of_false (by decide) (by decide)
  | some s => cases s <;> simp [levelName, Severity.name]

/-- The rate makes a level no worse than high. -/
lemma level?_eq_critical_iff : level? severities rate = some .critical ↔ .critical ∈ severities := by
  rw [← Severity.worst?_eq_critical_iff]
  unfold level?
  cases Severity.worst? severities with
  | none => exact iff_of_false (fun h => by cases h) fun h => by cases h
  | some worst =>
    dsimp only
    split
    · exact Iff.rfl
    · rename_i hmild
      have hne : worst ≠ .critical := fun h => hmild (by simp [h])
      refine iff_of_false ?_ fun h => hne (Option.some.inj h)
      split_ifs <;> simp

lemma level?_eq_none_iff : level? severities rate = none ↔ severities = [] := by
  rw [← Severity.worst?_eq_none_iff]
  unfold level?
  cases Severity.worst? severities with
  | none => exact iff_of_true rfl rfl
  | some worst =>
    refine iff_of_false ?_ fun h => by cases h
    dsimp only
    split_ifs <;> simp

end Risk

namespace Summary

variable {kinds : List Kind}

lemma foldl_argAux {α : Type} (f : α → Nat) (l : List α) (a : α) :
    l.foldl (List.argAux fun b c => f c < f b) (some a) =
      some (l.foldl (fun best b => if f best < f b then b else best) a) := by
  induction l generalizing a with
  | nil => rfl
  | cons b rest ih =>
    simp only [List.foldl_cons, List.argAux]
    by_cases h : f a < f b
    · simp only [if_pos h]
      exact ih b
    · simp only [if_neg h]
      exact ih a

/-- The kind found most is the first one of the taxonomy that occurs most often. -/
lemma mostCommonKind_eq (h : kinds ≠ []) : mostCommonKind kinds = Kind.all.argmax kinds.count := by
  have hempty : kinds.isEmpty = false := by simpa using h
  have hargmax : Kind.all.argmax kinds.count =
      [Kind.naming, .resource, .logic].foldl (List.argAux fun b c => kinds.count c < kinds.count b)
        (some .mapping) := rfl
  rw [hargmax, foldl_argAux, mostCommonKind, hempty]
  -- the fold starts at the first kind and meets it once more
  simp only [Kind.all, List.foldl_cons, ite_self, Bool.false_eq_true, if_false]

lemma mostCommonKind_eq_none_iff : mostCommonKind kinds = none ↔ kinds = [] := by
  unfold mostCommonKind
  cases kinds with
  | nil => exact iff_of_true rfl rfl
  | cons k rest => exact iff_of_false (fun h => by cases h) (List.cons_ne_nil k rest)

lemma mem_mostCommonKind {k : Kind} (h : k ∈ mostCommonKind kinds) :
    (∀ k', kinds.count k' ≤ kinds.count k) ∧
      ∀ k', Kind.all.idxOf k' < Kind.all.idxOf k → kinds.count k' < kinds.count k := by
  have hne : kinds ≠ [] := fun hnil => by
    rw [mostCommonKind_eq_none_iff.mpr hnil] at h
    cases h
  rw [mostCommonKind_eq hne] at h
  have hall : ∀ k' : Kind, k' ∈ Kind.all := by
    intro k'
    cases k' <;> decide
  refine ⟨fun k' => List.le_of_mem_argmax (hall k') h, fun k' hbefore => ?_⟩
  by_contra hle
  exact absurd (List.index_of_argmax h (hall k') (Nat.le_of_not_lt hle)) (Nat.not_le_of_lt hbefore)

end Summary

namespace Recommendation

variable (fs : List Finding)

lemma kind_forKind? (k : Kind) :
    (forKind? fs k).map Recommendation.kind = if k ∈ fs.map Finding.kind then some k.name else none := by
  have hgroup : Severity.worst? ((Finding.ofKind k fs).map Finding.severity) = none ↔ k ∉ fs.map Finding.kind := by
    rw [Severity.worst?_eq_none_iff, List.map_eq_nil_iff]
    simp [Finding.ofKind, List.filter_eq_nil_iff]
  unfold forKind?
  dsimp only
  cases hworst : Severity.worst? ((Finding.ofKind k fs).map Finding.severity) with
  | none => rw [if_neg (hgroup.mp hworst), Option.map_none]
  | some worst =>
    rw [if_pos (not_not.mp fun h => by cases hworst.symm.trans (hgroup.mpr h))]
    rfl

/-- There is advice for the kinds found, in taxonomy order, and last of all to review the code if the rate is high. -/
lemma kinds_forFindings (rate : Number) : (forFindings fs rate).map Recommendation.kind =
    (Kind.all.filter (· ∈ fs.map Finding.kind)).map Kind.name ++ if reviewRate.lt rate then ["general"] else [] := by
  unfold forFindings
  rw [List.map_append, List.map_filterMap]
  congr 1
  · rw [← List.filterMap_eq_filter, List.map_filterMap]
    refine List.filterMap_congr fun k _ => ?_
    rw [kind_forKind?]
    by_cases h : k ∈ fs.map Finding.kind <;> simp [Option.guard, h]
  · split
    · rfl
    · rfl

end Recommendation
end CodeAudit
