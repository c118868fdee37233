import Mathlib.Algebra.BigOperators.Group.List.Lemmas
import Mathlib.Algebra.GroupWithZero.Nat
import Mathlib.Data.List.Dedup
import Mathlib.Tactic.Lemma

/-! Lists without their repetitions. -/
namespace CodeAudit

lemma nodup_eraseDups {α : Type} [DecidableEq α] (l : List α) : l.eraseDups.Nodup := by
  match l with
  | [] => exact List.nodup_nil
  | a :: rest =>
    rw [List.eraseDups_cons, List.nodup_cons, List.mem_eraseDups]
    exact ⟨by simp, nodup_eraseDups _⟩
termination_by l.length
decreasing_by exact Nat.lt_succ_of_le (List.length_filter_le _ _)

/-- How often the values of a list occur, each counted once, adds up to the length of the list. -/
lemma sum_count_eraseDups {α : Type} [DecidableEq α] (l : List α) : (l.eraseDups.map fun a => l.count a).sum = l.length := by
  have hperm : l.eraseDups.Perm l.dedup :=
    (List.perm_ext_iff_of_nodup (nodup_eraseDups l) (List.nodup_dedup l)).mpr fun a => by
      rw [List.mem_eraseDups, List.mem_dedup]
  rw [(hperm.map _).sum_eq]
  exact List.sum_map_count_dedup_eq_length l

/-- A value is repeated in what passes a test just if it is repeated and passes. -/
lemma eraseDups_filter {α : Type} [DecidableEq α] (p : α → Bool) (l : List α) :
    (l.filter p).eraseDups = l.eraseDups.filter p := by
  match l with
  | [] => rfl
  | a :: rest =>
    have ih := eraseDups_filter p (rest.filter fun b => !b == a)
    rw [List.filter_filter] at ih
    by_cases h : p a = true
    · rw [List.filter_cons_of_pos h, List.eraseDups_cons, List.eraseDups_cons, List.filter_cons_of_pos h, ← ih,
        List.filter_filter]
      simp only [Bool.and_comm]
    · -- what the first value erases does not pass anyway
      have hrest : (rest.filter fun b => p b && !b == a) = rest.filter p := by
        refine List.filter_congr fun b _ => ?_
        by_cases hba : b = a
        · subst hba
          simp [h]
        · simp [hba]
      rw [List.filter_cons_of_neg h, List.eraseDups_cons, List.filter_cons_of_neg h, ← ih, hrest]
termination_by l.length
decreasing_by exact Nat.lt_succ_of_le (List.length_filter_le _ _)

lemma eraseDups_append {α : Type} [DecidableEq α] (l m : List α) :
    (l ++ m).eraseDups = l.eraseDups ++ m.eraseDups.filter (· ∉ l.eraseDups) := by
  rw [List.eraseDups_append, List.removeAll, eraseDups_filter]
  congr 1
  refine List.filter_congr fun b _ => ?_
  simp

end CodeAudit
