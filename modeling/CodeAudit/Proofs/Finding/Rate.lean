import CodeAudit.Proofs.Finding.Summary
import Mathlib.Algebra.Order.BigOperators.Group.List
import Mathlib.Algebra.Order.Field.Basic
import Mathlib.Algebra.Field.Rat
import Mathlib.Data.List.Forall2

/-! The rate and the level of risk grow with the findings: a worse or a surer finding in the place of another never
lowers them. The rate is a minimum of one and of a maximum, and the level switches at ranks and at rates that only
grow, so no switch can undo what the average gained. -/
namespace CodeAudit

lemma exists_of_mem_forall₂ {α β : Type} {R : α → β → Prop} {as : List α} {bs : List β}
    (h : List.Forall₂ R as bs)
    {a : α} (ha : a ∈ as) : ∃ b ∈ bs, R a b := by
  obtain ⟨i, rfl⟩ := List.get_of_mem ha
  obtain ⟨hlength, hget⟩ := List.forall₂_iff_get.mp h
  have hi : i.val < bs.length := hlength ▸ i.isLt
  exact ⟨bs.get ⟨i, hi⟩, List.get_mem _ _, hget i i.isLt hi⟩

namespace Severity

lemma weight_mono {s t : Severity} (h : s.rank ≤ t.rank) : s.weight ≤ t.weight := by
  revert h
  cases s <;> cases t <;> decide +kernel

lemma weight_nonneg (s : Severity) : 0 ≤ s.weight := by
  cases s <;> decide +kernel

/-- The worst severity is one of the list, and none is worse. -/
lemma mem_worst? {l : List Severity} {s : Severity} (h : worst? l = some s) : s ∈ l ∧ ∀ t ∈ l, t.rank ≤ s.rank := by
  cases l with
  | nil => cases h
  | cons t rest => exact Option.some.inj h ▸ foldl_worst rank rest t

@[simp] lemma rankOfName_name (s : Severity) : rankOfName s.name = s.rank := by
  cases s <;> decide

end Severity

namespace Risk

/-- What some findings add up to, by severity and confidence. -/
def weighted (round : ℚ → ℚ) (items : List (Severity × ℚ)) : ℚ :=
  items.foldl (fun sum item => round (sum + round (item.1.weight * item.2))) 0

/-- The sum spread over the findings. -/
def spread (round : ℚ → ℚ) (items : List (Severity × ℚ)) : ℚ :=
  round (weighted round items / (max leastSpread items.length : ℕ))

/-- The spread sum, or the floor of the surest critical finding where that is greater. -/
def lifted (round : ℚ → ℚ) (items : List (Severity × ℚ)) : ℚ :=
  match criticalConfidences items with
  | [] => spread round items
  | c :: cs => larger (spread round items) (round (criticalFloor * cs.foldl larger c))

lemma rate_eq_min {round : ℚ → ℚ} {items : List (Severity × ℚ)} (h : items ≠ []) :
    rate round items = min (lifted round items) 1 := by
  have hempty : items.isEmpty = false := by simpa using h
  rw [rate, hempty, if_neg Bool.false_ne_true, min_def_lt]
  rfl

lemma larger_eq_max : larger = max :=
  funext₂ fun x y => (max_def_lt x y).symm

/-- The greatest of some numbers is one of them, and none is greater. -/
lemma foldl_larger (cs : List ℚ) (c : ℚ) :
    cs.foldl larger c ∈ c :: cs ∧ ∀ d ∈ c :: cs, d ≤ cs.foldl larger c := by
  rw [larger_eq_max]
  induction cs generalizing c with
  | nil => simp
  | cons d rest ih =>
    obtain ⟨hmem, hle⟩ := ih (max c d)
    obtain ⟨hmax, hrest⟩ := List.forall_mem_cons.mp hle
    obtain ⟨hc, hd⟩ := max_le_iff.mp hmax
    rw [List.foldl_cons]
    refine ⟨?_, List.forall_mem_cons.mpr ⟨hc, List.forall_mem_cons.mpr ⟨hd, hrest⟩⟩⟩
    rcases List.mem_cons.mp hmem with h | h
    · rw [h]
      rcases max_choice c d with hchoice | hchoice <;> simp [hchoice]
    · exact List.mem_cons_of_mem _ (List.mem_cons_of_mem _ h)

lemma mem_criticalConfidences {items : List (Severity × ℚ)} {c : ℚ} :
    c ∈ criticalConfidences items ↔ (Severity.critical, c) ∈ items := by
  simp [criticalConfidences]

lemma floor_mono {c d : ℚ} (h : c ≤ d) : criticalFloor * c ≤ criticalFloor * d :=
  mul_le_mul_of_nonneg_left h (by decide +kernel)

/-- One item is at most as bad as another: in the rank of its severity and in its confidence. -/
def NoWorse (i j : Severity × ℚ) : Prop :=
  i.1.rank ≤ j.1.rank ∧ i.2 ≤ j.2

section monotone

variable {round : ℚ → ℚ} (hround : Monotone round) {items items' : List (Severity × ℚ)}
include hround

/-- The lifted sum is a least upper bound: of the spread sum and of the floors of all critical findings. -/
lemma lifted_le_iff {x : ℚ} : lifted round items ≤ x ↔
    spread round items ≤ x ∧ ∀ c, (Severity.critical, c) ∈ items → round (criticalFloor * c) ≤ x := by
  simp only [← mem_criticalConfidences]
  unfold lifted
  cases criticalConfidences items with
  | nil => simp
  | cons c cs =>
    obtain ⟨hmem, hle⟩ := foldl_larger cs c
    dsimp only
    rw [larger_eq_max, max_le_iff, ← larger_eq_max]
    exact and_congr_right fun _ => ⟨fun h d hd => (hround (floor_mono (hle d hd))).trans h, fun h => h _ hmem⟩

lemma le_lifted (items : List (Severity × ℚ)) : spread round items ≤ lifted round items ∧
    ∀ c, (Severity.critical, c) ∈ items → round (criticalFloor * c) ≤ lifted round items :=
  (lifted_le_iff hround).mp le_rfl

lemma weighted_mono (hitems : ∀ i ∈ items, 0 ≤ i.2) (h : List.Forall₂ NoWorse items items') :
    weighted round items ≤ weighted round items' := by
  have hboth := (List.forall₂_and_left _ _).mpr ⟨hitems, h⟩
  refine List.rel_foldl (P := (· ≤ ·)) (fun x y hxy i j ⟨hi, hrank, hle⟩ => ?_) le_rfl hboth
  have hproduct := mul_le_mul (Severity.weight_mono hrank) hle hi j.1.weight_nonneg
  exact hround (add_le_add hxy (hround hproduct))

/-- The average and the floors grow place by place: an item in the place of a critical one is critical. -/
lemma rate_mono (hitems : ∀ i ∈ items, 0 ≤ i.2) (h : List.Forall₂ NoWorse items items') :
    rate round items ≤ rate round items' := by
  rcases eq_or_ne items [] with rfl | hne
  · rw [List.forall₂_nil_left_iff.mp h]
  have hne' : items' ≠ [] := by
    rintro rfl
    exact hne (List.forall₂_nil_right_iff.mp h)
  obtain ⟨hspread, hfloors⟩ := le_lifted hround items'
  rw [rate_eq_min hne, rate_eq_min hne']
  refine min_le_min_right 1 ((lifted_le_iff hround).mpr ⟨?_, fun c hc => ?_⟩)
  · refine le_trans (hround ?_) hspread
    rw [h.length_eq]
    exact div_le_div_of_nonneg_right (weighted_mono hround hitems h) (Nat.cast_nonneg _)
  · obtain ⟨⟨s, d⟩, hmem, hrank, hle⟩ := exists_of_mem_forall₂ h hc
    obtain rfl : s = .critical := Severity.eq_critical_of_rank_le hrank
    exact (hround (floor_mono hle)).trans (hfloors d hmem)

end monotone

section exact

variable {items items' : List (Severity × ℚ)}

lemma weighted_id (items : List (Severity × ℚ)) :
    weighted id items = (items.map fun i => i.1.weight * i.2).sum := by
  rw [weighted, List.sum_eq_foldl, List.foldl_map]
  rfl

lemma rate_le_one (items : List (Severity × ℚ)) : rate id items ≤ 1 := by
  rcases eq_or_ne items [] with rfl | hne
  · exact zero_le_one
  · rw [rate_eq_min hne]
    exact min_le_right _ _

lemma rate_nonneg (hitems : ∀ i ∈ items, 0 ≤ i.2) : 0 ≤ rate id items := by
  rcases eq_or_ne items [] with rfl | hne
  · exact le_rfl
  have hsum : 0 ≤ weighted id items := by
    rw [weighted_id]
    refine List.sum_nonneg fun x hx => ?_
    obtain ⟨i, hi, rfl⟩ := List.mem_map.mp hx
    exact mul_nonneg i.1.weight_nonneg (hitems i hi)
  obtain ⟨hspread, -⟩ := le_lifted monotone_id items
  rw [rate_eq_min hne]
  exact le_min ((div_nonneg hsum (Nat.cast_nonneg _)).trans hspread) zero_le_one

/-- Neither the average nor the greatest floor depends on the order. -/
lemma rate_perm (h : items.Perm items') : rate id items = rate id items' := by
  rcases eq_or_ne items [] with rfl | hne
  · rw [List.nil_perm.mp h]
  have hne' : items' ≠ [] := by
    rintro rfl
    exact hne (List.perm_nil.mp h)
  have hspread : spread id items = spread id items' := by
    rw [spread, spread, weighted_id, weighted_id, (h.map _).sum_eq, h.length_eq]
  rw [rate_eq_min hne, rate_eq_min hne']
  congr 1
  refine eq_of_forall_ge_iff fun x => ?_
  simp only [lifted_le_iff monotone_id, hspread, h.mem_iff]

lemma floor_le_rate {c : ℚ} (hc : c ≤ 1) (hmem : (Severity.critical, c) ∈ items) : criticalFloor * c ≤ rate id items := by
  obtain ⟨-, hfloors⟩ := le_lifted monotone_id items
  rw [rate_eq_min (List.ne_nil_of_mem hmem)]
  refine le_min (hfloors c hmem) ((floor_mono hc).trans ?_)
  decide +kernel

end exact

/-- The rank of a level, zero for none. -/
def levelRank (level : Option Severity) : ℕ :=
  (level.map Severity.rank).getD 0

lemma rankOfName_levelName (level : Option Severity) : Severity.rankOfName (levelName level) = levelRank level := by
  cases level with
  | none => decide
  | some s => exact s.rankOfName_name

/-- A level is that of the worst finding or, for findings that are mild, that of the rate. -/
lemma levelRank_level? {severities : List Severity} {worst : Severity} (h : Severity.worst? severities = some worst)
    (r : ℚ) : levelRank (level? severities (.double (.finite r))) =
      if 3 ≤ worst.rank then worst.rank else if 1 / 2 ≤ r then 3 else if 1 / 4 ≤ r then 2 else 1 := by
  have hhigh : Number.le 0.5 (.double (.finite r)) = true ↔ 1 / 2 ≤ r := by
    rw [show (0.5 : Number) = .double (.finite (1 / 2)) by decide +kernel]
    exact Number.le_iff_atMost _ rfl
  have hmedium : Number.le 0.25 (.double (.finite r)) = true ↔ 1 / 4 ≤ r := by
    rw [show (0.25 : Number) = .double (.finite (1 / 4)) by decide +kernel]
    exact Number.le_iff_atMost _ rfl
  have hsevere : (worst = .critical || worst = .high) = true ↔ 3 ≤ worst.rank := by
    cases worst <;> decide
  unfold level?
  rw [h]
  simp only [hsevere, hhigh, hmedium]
  split_ifs <;> rfl

lemma levelRank_mono {fs gs : List Severity} (h : List.Forall₂ (fun s t => s.rank ≤ t.rank) fs gs) {r q : ℚ}
    (hrate : r ≤ q) :
    levelRank (level? fs (.double (.finite r))) ≤ levelRank (level? gs (.double (.finite q))) := by
  cases hfs : Severity.worst? fs with
  | none =>
    rw [level?_eq_none_iff.mpr (Severity.worst?_eq_none_iff.mp hfs)]
    exact Nat.zero_le _
  | some s =>
    obtain ⟨hs, _⟩ := Severity.mem_worst? hfs
    obtain ⟨u, hu, hsu⟩ := exists_of_mem_forall₂ h hs
    cases hgs : Severity.worst? gs with
    | none => exact absurd (Severity.worst?_eq_none_iff.mp hgs) (List.ne_nil_of_mem hu)
    | some t =>
      have hst : s.rank ≤ t.rank := hsu.trans ((Severity.mem_worst? hgs).2 u hu)
      have hhigh : 1 / 2 ≤ r → 1 / 2 ≤ q := fun hr => hr.trans hrate
      have hmedium : 1 / 4 ≤ r → 1 / 4 ≤ q := fun hr => hr.trans hrate
      rw [levelRank_level? hfs, levelRank_level? hgs]
      split_ifs <;> first | omega | tauto

end Risk

namespace Finding

/-- One finding is at most as severe as another, and at most as sure. -/
structure NoWorse (f g : Finding) : Prop where
  severity : f.severity.rank ≤ g.severity.rank
  confidence : f.confidence.toRat ≤ g.confidence.toRat

lemma confidence_nonneg (f : Finding) : 0 ≤ f.confidence.toRat := by
  obtain ⟨hzero, _⟩ := Bool.and_eq_true_iff.mp f.confidence.inRange
  exact (Number.le_iff_atMost 0 f.confidence.toRat?_value).mp hzero

lemma confidence_le_one (f : Finding) : f.confidence.toRat ≤ 1 := by
  obtain ⟨_, hone⟩ := Bool.and_eq_true_iff.mp f.confidence.inRange
  have hvalue := f.confidence.toRat?_value
  cases hx : f.confidence.value with
  | int n =>
    rw [hx] at hone hvalue
    rw [← Option.some.inj hvalue]
    exact (Number.le_iff_atMost (.int n) (y := 1) rfl).mp hone
  | double x =>
    rw [hx] at hone hvalue
    exact (Double.le_iff_of_toRat? hvalue (y := 1) rfl).mp hone

end Finding

namespace Risk

/-- The rate of some findings in exact arithmetic. -/
def exactRate (fs : List Finding) : ℚ :=
  rate id (items fs)

/-- The level of some findings at their exact rate. -/
def exactLevel (fs : List Finding) : String :=
  levelName (level? (fs.map Finding.severity) (.double (.finite (exactRate fs))))

lemma nonneg_of_mem_items {fs : List Finding} : ∀ i ∈ items fs, 0 ≤ i.2 := by
  intro i hi
  obtain ⟨f, _, rfl⟩ := List.mem_map.mp hi
  exact f.confidence_nonneg

/-- Findings that get worse or surer place by place lower neither the rate nor the level. Any rate is from zero to
one, is the same in every order of the findings, and is no less than three quarters of the confidence of each critical
one. -/
theorem rate_and_level_grow_with_findings :
    (∀ fs gs, List.Forall₂ Finding.NoWorse fs gs → exactRate fs ≤ exactRate gs ∧
      Severity.rankOfName (exactLevel fs) ≤ Severity.rankOfName (exactLevel gs)) ∧
    ∀ fs, (0 ≤ exactRate fs ∧ exactRate fs ≤ 1) ∧ (∀ gs, fs.Perm gs → exactRate fs = exactRate gs) ∧
      ∀ f ∈ fs, f.severity = .critical → 3 / 4 * f.confidence.toRat ≤ exactRate fs := by
  refine ⟨fun fs gs h => ?_, fun fs => ⟨⟨rate_nonneg nonneg_of_mem_items, rate_le_one _⟩, fun gs hperm => ?_,
    fun f hf hcritical => ?_⟩⟩
  · have hitems : List.Forall₂ NoWorse (items fs) (items gs) := by
      rw [items, items, List.forall₂_map_left_iff, List.forall₂_map_right_iff]
      exact h.imp fun f g hfg => ⟨hfg.severity, hfg.confidence⟩
    have hranks : List.Forall₂ (fun s t : Severity => s.rank ≤ t.rank) (fs.map Finding.severity)
        (gs.map Finding.severity) := by
      rw [List.forall₂_map_left_iff, List.forall₂_map_right_iff]
      exact h.imp fun f g hfg => hfg.severity
    have hrate := rate_mono monotone_id nonneg_of_mem_items hitems
    refine ⟨hrate, ?_⟩
    rw [exactLevel, exactLevel, rankOfName_levelName, rankOfName_levelName]
    exact levelRank_mono hranks hrate
  · exact rate_perm (hperm.map _)
  · refine floor_le_rate f.confidence_le_one ?_
    rw [← hcritical]
    exact List.mem_map_of_mem hf

/-- A half sure report in the place of which a sure critical one stands. -/
theorem rate_and_level_grow_to_a_critical_finding :
    (exactRate [Finding.logicReport .medium (.of 0.5)] = 1 / 16 ∧
      exactRate [Finding.logicReport .critical (.of 1)] = 3 / 4) ∧
    exactRate [Finding.logicReport .medium (.of 0.5)] ≤ exactRate [Finding.logicReport .critical (.of 1)] ∧
    Severity.rankOfName (exactLevel [Finding.logicReport .medium (.of 0.5)]) ≤
      Severity.rankOfName (exactLevel [Finding.logicReport .critical (.of 1)]) := by
  refine ⟨⟨by decide +kernel, by decide +kernel⟩, rate_and_level_grow_with_findings.1 _ _ (.cons ⟨?_, ?_⟩ .nil)⟩
  · decide
  · decide +kernel

end Risk
end CodeAudit
