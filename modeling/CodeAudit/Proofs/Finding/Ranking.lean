import CodeAudit.Proofs.Finding.Merging
import Mathlib.Data.List.Nodup
import Mathlib.Data.String.Basic

/-! The order of delivery: findings are ranked by a linear order on what a report shows first, and findings that
rank the same stand in the order in which their keys appeared. -/
namespace CodeAudit.Finding

/-- Severity and confidence count downwards, then first line, kind, subkind and description upwards. -/
def rankKey (f : Finding) : ℕᵒᵈ ×ₗ ℚᵒᵈ ×ₗ ℤ ×ₗ String ×ₗ String ×ₗ String :=
  toLex (OrderDual.toDual f.severity.rank, toLex (OrderDual.toDual f.confidence.toRat,
    toLex (f.firstLine, toLex (f.kind.name, toLex (f.subkind.name, f.description)))))

lemma isLE_compareOfLessAndEq_then {α : Type} [LinearOrder α] (a b : α) (o : Ordering) :
    ((compareOfLessAndEq a b).then o).isLE = true ↔ a < b ∨ a = b ∧ o.isLE = true := by
  unfold compareOfLessAndEq
  rcases lt_trichotomy a b with h | rfl | h
  · simp [h]
  · simp
  · simp [h.not_gt, h.ne']

lemma isLE_compareOfLessAndEq {α : Type} [LinearOrder α] (a b : α) :
    (compareOfLessAndEq a b).isLE = true ↔ a ≤ b := by
  rw [le_iff_lt_or_eq]
  simpa using isLE_compareOfLessAndEq_then a b .eq

/-- The comparison that sorting uses is the linear order of the rank keys. -/
lemma isLE_order_iff (f g : Finding) : (order f g).isLE = true ↔ f.rankKey ≤ g.rankKey := by
  have hs : ∀ a b : String, compare a b = compareOfLessAndEq a b := fun _ _ => rfl
  have hn : ∀ a b : ℕ, compare a b = compareOfLessAndEq a b := fun _ _ => rfl
  have hz : ∀ a b : ℤ, compare a b = compareOfLessAndEq a b := fun _ _ => rfl
  simp only [order, hs, hn, hz, isLE_compareOfLessAndEq_then, isLE_compareOfLessAndEq, rankKey,
    Prod.Lex.toLex_le_toLex, OrderDual.toDual_lt_toDual, OrderDual.toDual_inj]
  simp only [eq_comm]

/-- Sorting is stable: where two elements of the result rank the same, the relation that held along the list
before holds between them. The positions in the list serve as the tie break. -/
lemma pairwise_mergeSort_of_pairwise {α : Type} {le : α → α → Bool} {R : α → α → Prop}
    (htrans : ∀ a b c, le a b → le b c → le a c) (htotal : ∀ a b, le a b || le b a)
    {l : List α} (hR : l.Pairwise R) :
    (l.mergeSort le).Pairwise fun a b => le a b = true ∧ (le b a = true → R a b) := by
  have hsorted := List.pairwise_mergeSort (List.zipIdxLE_trans htrans) (List.zipIdxLE_total htotal) l.zipIdx
  have hperm := List.mergeSort_perm l.zipIdx (List.zipIdxLE le)
  have hapart : (l.zipIdx.mergeSort (List.zipIdxLE le)).Pairwise fun p q => p.2 ≠ q.2 := by
    have hnodup : ((l.zipIdx.mergeSort (List.zipIdxLE le)).map Prod.snd).Nodup := by
      rw [(hperm.map Prod.snd).nodup_iff, List.zipIdx_map_snd]
      exact List.nodup_range'
    exact List.pairwise_map.mp hnodup
  have hbefore : ∀ p ∈ l.zipIdx, ∀ q ∈ l.zipIdx, p.2 < q.2 → R p.1 q.1 := by
    rintro ⟨a, i⟩ ha ⟨b, j⟩ hb hij
    obtain ⟨hi, ha⟩ := List.mem_zipIdx' ha
    obtain ⟨hj, hb⟩ := List.mem_zipIdx' hb
    change R a b
    rw [ha, hb]
    exact List.pairwise_iff_getElem.mp hR i j hi hj hij
  rw [← List.mergeSort_zipIdx, List.pairwise_map]
  apply (hsorted.and hapart).imp_of_mem
  intro p q hp hq ⟨hle, hne⟩
  have hpq : le p.1 q.1 = true := by
    unfold List.zipIdxLE at hle
    split at hle
    · assumption
    · exact absurd hle Bool.false_ne_true
  refine ⟨hpq, fun hqp => hbefore p (hperm.mem_iff.mp hp) q (hperm.mem_iff.mp hq) ?_⟩
  simp only [List.zipIdxLE, hpq, hqp, if_true, decide_eq_true_eq] at hle
  omega

lemma sort_pairwise {R : Finding → Finding → Prop} {fs : List Finding} (hR : fs.Pairwise R) :
    (sort fs).Pairwise fun f g => f.rankKey < g.rankKey ∨ f.rankKey = g.rankKey ∧ R f g := by
  have htrans : ∀ f g h : Finding, (order f g).isLE = true → (order g h).isLE = true →
      (order f h).isLE = true := by
    intro f g h hfg hgh
    rw [isLE_order_iff] at *
    exact hfg.trans hgh
  have htotal : ∀ f g : Finding, ((order f g).isLE || (order g f).isLE) = true := by
    intro f g
    rw [Bool.or_eq_true, isLE_order_iff, isLE_order_iff]
    exact le_total _ _
  apply (pairwise_mergeSort_of_pairwise htrans htotal hR).imp
  intro f g ⟨hle, htie⟩
  rw [isLE_order_iff] at hle htie
  rcases hle.lt_or_eq with hlt | heq
  · exact .inl hlt
  · exact .inr ⟨heq, htie heq.ge⟩

lemma merge_perm (fs : List Finding) : (merge fs).Perm (mergeByKey fs) := List.mergeSort_perm _ _

lemma nodup_keys_merge (fs : List Finding) : ((merge fs).map key).Nodup :=
  ((merge_perm fs).map key).nodup_iff.mpr (mergeByKey_isLedger fs).nodup

/-- Findings that rank the same stand in the order in which their keys first appear. -/
lemma merge_pairwise (fs : List Finding) :
    (merge fs).Pairwise fun f g => f.rankKey < g.rankKey ∨
      f.rankKey = g.rankKey ∧ (fs.map key).idxOf f.key < (fs.map key).idxOf g.key := by
  have hfirst := (mergeByKey_isLedger fs).inOrder
  rw [List.pairwise_map] at hfirst
  exact sort_pairwise hfirst

/-- Merging gives exactly one finding for each key; it condenses the reports of its key, and the findings stand
in the order of their rank keys, those that rank the same in the order in which their keys first appear. -/
theorem merge_condenses_in_order (fs : List Finding) :
    ((merge fs).map key).Nodup ∧ (∀ k, k ∈ (merge fs).map key ↔ k ∈ fs.map key) ∧
      (∀ g ∈ merge fs, Condenses g.key (group g.key fs) g) ∧
      (merge fs).Pairwise fun f g => f.rankKey < g.rankKey ∨
        f.rankKey = g.rankKey ∧ (fs.map key).idxOf f.key < (fs.map key).idxOf g.key := by
  have hledger := mergeByKey_isLedger fs
  refine ⟨nodup_keys_merge fs, fun k => ?_, fun g hg => ?_, merge_pairwise fs⟩
  · rw [((merge_perm fs).map key).mem_iff]
    exact hledger.mem_keys k
  · exact hledger.condenses g ((merge_perm fs).mem_iff.mp hg)

end CodeAudit.Finding
