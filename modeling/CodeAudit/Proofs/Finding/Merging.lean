import CodeAudit.Finding.Ledger
import CodeAudit.Proofs.Finding.Strength
import Mathlib.Data.List.Induction

/-! Merging by key: every group of reports of one problem becomes one finding under the same key, which the
first strongest report of the group gives its identity. -/
namespace CodeAudit

namespace LineSet

lemma eq_empty_of_isEmpty {s : LineSet} (h : s.isEmpty = true) : s = .empty := by
  cases s
  simpa [isEmpty, empty] using h

lemma place_of_mem {n : ℤ} {l : List ℤ} (ha : l.Pairwise (· < ·)) (hn : n ∈ l) : place n l = l := by
  induction l with
  | nil => simp at hn
  | cons m rest ih =>
    obtain ⟨hm, hr⟩ := List.pairwise_cons.mp ha
    rcases List.mem_cons.mp hn with rfl | hn
    · simp [place]
    · have hlt := hm n hn
      simp only [place, if_neg (show ¬ n < m by omega), if_neg (show ¬ n = m by omega), ih hr hn]

lemma foldl_insert_of_subset (s : LineSet) (l : List ℤ) (h : ∀ n ∈ l, n ∈ s.toList) : l.foldl insert s = s := by
  induction l with
  | nil => rfl
  | cons n l ih =>
    have hn : s.insert n = s := by
      cases s
      simp only [insert, mk.injEq]
      exact place_of_mem ‹_› (h n List.mem_cons_self)
    rw [List.foldl_cons, hn]
    exact ih fun k hk => h k (List.mem_cons_of_mem _ hk)

@[simp] lemma union_self (s : LineSet) : s.union s = s := foldl_insert_of_subset s s.toList fun _ h => h

end LineSet

namespace Finding

/-- The lines that a key stands for, none for a key that goes by the description. -/
def Key.lines : Key → LineSet
  | .atLines _ lines => lines
  | .described _ _ => .empty

/-- The subkind that a key stands for. -/
def Key.subkind : Key → Subkind
  | .atLines subkind _ => subkind
  | .described subkind _ => subkind

@[simp] lemma subkind_key (f : Finding) : f.key.subkind = f.subkind := by
  unfold key
  split <;> rfl

@[simp] lemma lines_key (f : Finding) : f.key.lines = f.lines := by
  unfold key
  split
  · rename_i h
    exact (LineSet.eq_empty_of_isEmpty h).symm
  · rfl

lemma key_eq_iff (f g : Finding) :
    f.key = g.key ↔ f.subkind = g.subkind ∧ f.lines = g.lines ∧
      (f.lines.isEmpty = true → f.description = g.description) := by
  constructor
  · intro h
    have hs := congrArg Key.subkind h
    have hl := congrArg Key.lines h
    simp only [subkind_key, lines_key] at hs hl
    refine ⟨hs, hl, fun he => ?_⟩
    rw [key, key, if_pos he, if_pos (hl ▸ he)] at h
    exact (Key.described.inj h).2
  · rintro ⟨hs, hl, hd⟩
    by_cases he : f.lines.isEmpty = true
    · rw [key, key, if_pos he, if_pos (hl ▸ he), hs, hd he]
    · rw [key, key, if_neg he, if_neg (hl ▸ he), hs, hl]

lemma enrichedBy_key {f g : Finding} (h : f.key = g.key) : (f.enrichedBy g).key = f.key := by
  have hl : (f.enrichedBy g).lines = f.lines := by
    change f.lines.union g.lines = f.lines
    rw [((key_eq_iff f g).mp h).2.1, LineSet.union_self]
  exact (key_eq_iff _ _).mpr ⟨rfl, hl, fun _ => rfl⟩

/-- Two reports of one problem stay a report of that problem when they merge. -/
lemma mergedWith_key {f g : Finding} (h : f.key = g.key) : (f.mergedWith g).key = f.key := by
  unfold mergedWith
  split
  · exact (enrichedBy_key h.symm).trans h.symm
  · exact enrichedBy_key h

/-- The reports of the problem of a key, in their order. -/
def group (k : Key) (fs : List Finding) : List Finding := fs.filter (·.key = k)

@[simp] lemma mem_group {k : Key} {fs : List Finding} {f : Finding} : f ∈ group k fs ↔ f ∈ fs ∧ f.key = k := by
  simp [group]

lemma group_append (k : Key) (fs gs : List Finding) : group k (fs ++ gs) = group k fs ++ group k gs := by
  simp [group]

lemma group_singleton_self (f : Finding) : group f.key [f] = [f] := by simp [group]

lemma group_singleton_of_ne {k : Key} {f : Finding} (h : f.key ≠ k) : group k [f] = [] := by simp [group, h]

/-- What one finding has to be to stand for a group of reports of the problem of a key. -/
structure Condenses (k : Key) (fs : List Finding) (g : Finding) : Prop where
  key : g.key = k
  identity : ∃ c, FirstStrongest c fs ∧ SameIdentity g c
  evidence : ∀ e, e ∈ g.evidence ↔ ∃ f ∈ fs, e ∈ f.evidence
  lines : g.lines = k.lines
  errorMessage : HasText g.errorMessage ↔ ∃ f ∈ fs, HasText f.errorMessage
  suggestedFix : HasText g.suggestedFix ↔ ∃ f ∈ fs, HasText f.suggestedFix

namespace Condenses

lemma singleton (f : Finding) : Condenses f.key [f] f where
  key := rfl
  identity := ⟨f, .singleton f, .refl f⟩
  evidence e := by simp
  lines := (lines_key f).symm
  errorMessage := by simp
  suggestedFix := by simp

/-- One more report of the problem, merged in from the right. -/
lemma append {k : Key} {fs : List Finding} {g f : Finding} (h : Condenses k fs g) (hf : f.key = k) :
    Condenses k (fs ++ [f]) (g.mergedWith f) := by
  have hk : (g.mergedWith f).key = k := (mergedWith_key (h.key.trans hf.symm)).trans h.key
  refine ⟨hk, ?_, fun e => ?_, ?_, ?_, ?_⟩
  · obtain ⟨c, hc, hgc⟩ := h.identity
    rcases lt_or_ge g.strength f.strength with hlt | hle
    · refine ⟨f, hc.append_gt (hgc.strength ▸ hlt), ?_⟩
      rw [mergedWith_of_lt hlt]
      exact enrichedBy_sameIdentity f g
    · refine ⟨c, hc.append_le (hgc.strength ▸ hle), ?_⟩
      rw [mergedWith_of_le hle]
      exact (enrichedBy_sameIdentity g f).trans hgc
  · simp [h.evidence, or_and_right, exists_or]
  · rw [← hk, lines_key]
  · simp [h.errorMessage, or_and_right, exists_or]
  · simp [h.suggestedFix, or_and_right, exists_or]

end Condenses

lemma keys_mergeInto (f : Finding) (out : List Finding) :
    (mergeInto f out).map key =
      if f.key ∈ out.map key then out.map key else out.map key ++ [f.key] := by
  induction out with
  | nil => simp [mergeInto]
  | cons g rest ih =>
    by_cases hg : g.key = f.key
    · simp [mergeInto, hg, mergedWith_key hg]
    · have hne : ¬ f.key = g.key := fun h => hg h.symm
      simp only [mergeInto, if_neg hg, List.map_cons, ih, List.mem_cons, hne, false_or]
      split <;> simp

/-- Where the findings after one more report come from, when no two of those before it have one key. -/
lemma mem_mergeInto {f g : Finding} {out : List Finding} (hd : (out.map key).Nodup) (hg : g ∈ mergeInto f out) :
    (g ∈ out ∧ g.key ≠ f.key) ∨ (∃ e ∈ out, e.key = f.key ∧ g = e.mergedWith f) ∨
      (g = f ∧ f.key ∉ out.map key) := by
  induction out with
  | nil =>
    have h : g = f := by simpa [mergeInto] using hg
    exact .inr (.inr ⟨h, by simp⟩)
  | cons e rest ih =>
    obtain ⟨he, hr⟩ := List.nodup_cons.mp hd
    by_cases hk : e.key = f.key
    · rw [mergeInto, if_pos hk] at hg
      rcases List.mem_cons.mp hg with hg | hg
      · exact .inr (.inl ⟨e, List.mem_cons_self, hk, hg⟩)
      · refine .inl ⟨List.mem_cons_of_mem _ hg, fun h => he ?_⟩
        rw [hk, ← h]
        exact List.mem_map_of_mem hg
    · rw [mergeInto, if_neg hk] at hg
      rcases List.mem_cons.mp hg with rfl | hg
      · exact .inl ⟨List.mem_cons_self, hk⟩
      · rcases ih hr hg with ⟨hm, hn⟩ | ⟨d, hm, hn⟩ | ⟨hm, hn⟩
        · exact .inl ⟨List.mem_cons_of_mem _ hm, hn⟩
        · exact .inr (.inl ⟨d, List.mem_cons_of_mem _ hm, hn⟩)
        · have hne : ¬ f.key = e.key := fun h => hk h.symm
          exact .inr (.inr ⟨hm, by simpa [hne] using hn⟩)

/-- The findings that stand for some reports: one for each key, in the order in which the keys appear. -/
structure IsLedger (fs out : List Finding) : Prop where
  mem_keys : ∀ k, k ∈ out.map key ↔ k ∈ fs.map key
  inOrder : (out.map key).Pairwise fun j k => (fs.map key).idxOf j < (fs.map key).idxOf k
  condenses : ∀ g ∈ out, Condenses g.key (group g.key fs) g

namespace IsLedger

lemma nil : IsLedger [] [] := ⟨by simp, by simp, by simp⟩

lemma nodup {fs out : List Finding} (h : IsLedger fs out) : (out.map key).Nodup :=
  h.inOrder.imp fun {j k} hlt (heq : j = k) => by
    rw [heq] at hlt
    exact absurd hlt (lt_irrefl _)

/-- The keys keep their order: an old key is found where it was, a new one behind all of them. -/
lemma inOrder_append {fs out : List Finding} (h : IsLedger fs out) (f : Finding) :
    ((mergeInto f out).map key).Pairwise fun j k =>
      ((fs ++ [f]).map key).idxOf j < ((fs ++ [f]).map key).idxOf k := by
  have hold : ∀ k ∈ out.map key, ((fs ++ [f]).map key).idxOf k = (fs.map key).idxOf k := by
    intro k hk
    rw [List.map_append, List.idxOf_append, if_pos ((h.mem_keys k).mp hk)]
  have hkeys : (out.map key).Pairwise fun j k =>
      ((fs ++ [f]).map key).idxOf j < ((fs ++ [f]).map key).idxOf k := by
    apply h.inOrder.imp_of_mem
    intro j k hj hk hlt
    rwa [hold j hj, hold k hk]
  rw [keys_mergeInto]
  split
  · exact hkeys
  · rename_i hnew
    refine List.pairwise_append.mpr ⟨hkeys, List.pairwise_singleton _ _, ?_⟩
    intro j hj k hk
    obtain rfl := List.mem_singleton.mp hk
    have hlt := List.idxOf_lt_length_of_mem ((h.mem_keys j).mp hj)
    have hfresh : f.key ∉ fs.map key := fun hm => hnew ((h.mem_keys _).mpr hm)
    rw [hold j hj, List.map_append, List.idxOf_append, if_neg hfresh]
    exact Nat.lt_of_lt_of_le hlt (Nat.le_add_left _ _)

lemma condenses_append {fs out : List Finding} (h : IsLedger fs out) (f : Finding) :
    ∀ g ∈ mergeInto f out, Condenses g.key (group g.key (fs ++ [f])) g := by
  intro g hg
  rw [group_append]
  rcases mem_mergeInto h.nodup hg with ⟨hm, hn⟩ | ⟨e, he, hk, rfl⟩ | ⟨rfl, hn⟩
  · rw [group_singleton_of_ne (Ne.symm hn), List.append_nil]
    exact h.condenses g hm
  · have hs : group e.key [f] = [f] := by rw [hk, group_singleton_self]
    rw [mergedWith_key hk, hs]
    exact (h.condenses e he).append hk.symm
  · have hempty : group g.key fs = [] := by
      simp only [group, List.filter_eq_nil_iff, decide_eq_true_eq]
      intro e he hk
      exact hn ((h.mem_keys _).mpr (hk ▸ List.mem_map_of_mem he))
    rw [hempty, List.nil_append, group_singleton_self]
    exact .singleton g

/-- One more report keeps the findings a ledger of the reports so far. -/
lemma append {fs out : List Finding} (h : IsLedger fs out) (f : Finding) :
    IsLedger (fs ++ [f]) (mergeInto f out) where
  mem_keys k := by
    rw [keys_mergeInto]
    have hk := h.mem_keys k
    split <;> rename_i hf
    · rw [hk, List.map_append, List.mem_append]
      constructor
      · exact .inl
      · rintro (hm | hm)
        · exact hm
        · obtain rfl := List.mem_singleton.mp hm
          exact (h.mem_keys _).mp hf
    · rw [List.mem_append, hk, List.map_append, List.mem_append]
      rfl
  inOrder := h.inOrder_append f
  condenses := h.condenses_append f

end IsLedger

/-- The induction is on the reports from the left, with the ledger property as its invariant. -/
lemma mergeByKey_isLedger (fs : List Finding) : IsLedger fs (mergeByKey fs) := by
  induction fs using List.reverseRecOn with
  | nil => exact .nil
  | append_singleton fs f ih =>
    rw [mergeByKey, List.foldl_append]
    exact ih.append f

end Finding
end CodeAudit
