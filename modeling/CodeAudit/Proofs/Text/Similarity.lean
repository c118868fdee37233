import CodeAudit.Proofs.Text.Lines
import CodeAudit.Text.Similarity
import Mathlib.Algebra.Order.Field.Basic
import Mathlib.Algebra.Order.Ring.Rat
import Mathlib.Data.List.TakeWhile
import Mathlib.Tactic.Lemma
import Mathlib.Tactic.Positivity
import Mathlib.Tactic.Ring

/-! The blocks that make two texts alike. They lie within both texts and beside each other, so that together they are
no longer than either text; and a text is one block of itself, whichever of its characters are too frequent to start
a block. -/
namespace CodeAudit.Text.Similarity

/-- The block lies within two texts of these lengths. -/
structure Block.Within (b : Block) (m n : ℕ) : Prop where
  left : b.left + b.size ≤ m
  right : b.right + b.size ≤ n

/-- How far back from a place of a text all characters may start a block. -/
def reach (skipped s : List Char) (place : ℕ) : ℕ :=
  ((s.take place).reverse.takeWhile fun c => !skipped.contains c).length

variable {skipped left right s : List Char}

section Places

variable {α : Type} {xs : List α} {i : ℕ} {x : α}

lemma exists_split_of_getElem? (h : xs[i]? = some x) : ∃ front back, xs = front ++ x :: back ∧ front.length = i := by
  obtain ⟨hi, rfl⟩ := List.getElem?_eq_some_iff.mp h
  refine ⟨xs.take i, xs.drop (i + 1), ?_, by simp [hi.le]⟩
  rw [List.getElem_cons_drop, List.take_append_drop]

end Places

section Reach

lemma reach_le (skipped s : List Char) (place : ℕ) : reach skipped s place ≤ place := by
  refine (List.takeWhile_prefix _).length_le.trans ?_
  rw [List.length_reverse]
  exact List.length_take_le _ _

lemma reach_succ {place : ℕ} {c : Char} (hc : s[place]? = some c) :
    reach skipped s (place + 1) = if skipped.contains c then 0 else reach skipped s place + 1 := by
  rw [reach, List.take_add_one, hc, Option.toList_some, List.reverse_append, List.reverse_singleton,
    List.singleton_append, List.takeWhile_cons]
  cases skipped.contains c <;> rfl

end Reach

section Rows

variable {i : ℕ} {ended : List ℕ} {c : Char}

lemma runs_eq_zipWith (c : Char) (before : List ℕ) (right : List Char) :
    runs c before right = List.zipWith (fun n d => if d == c then n + 1 else 0) before right := by
  fun_induction runs c before right with
  | case1 n before d right ih => rw [List.zipWith_cons_cons, ih]
  | case2 before right h =>
    cases before with
    | nil => rfl
    | cons n before =>
      cases right with
      | nil => rfl
      | cons d right => exact absurd rfl (h n before d right rfl)

lemma length_runs_le (c : Char) (before : List ℕ) (right : List Char) : (runs c before right).length ≤ right.length := by
  rw [runs_eq_zipWith, List.length_zipWith]
  exact Nat.min_le_right _ _

/-- The runs that end at a place of the left text reach no farther back, in both texts, than blocks may start. -/
def Row (skipped left right : List Char) (i : ℕ) (ended : List ℕ) : Prop :=
  ∀ j k, (0 :: ended)[j]? = some k → k ≤ reach skipped left i ∧ k ≤ reach skipped right j

lemma row_zeros (skipped left right : List Char) (i : ℕ) : Row skipped left right i (right.map fun _ => 0) := by
  intro j k hk
  have hzero : k = 0 := by
    cases j with
    | zero => exact (Option.some.inj hk).symm
    | succ j =>
      obtain ⟨_, _, rfl⟩ := Option.map_eq_some_iff.mp (List.getElem?_map.symm.trans hk)
      rfl
  exact hzero ▸ ⟨Nat.zero_le _, Nat.zero_le _⟩

/-- One character of the left text that may start a block prolongs the runs where the right text has it. -/
lemma Row.runs (h : Row skipped left right i ended) (hc : left[i]? = some c) (hskip : skipped.contains c = false) :
    Row skipped left right (i + 1) (runs c (0 :: ended) right) := by
  intro j k hk
  cases j with
  | zero =>
    obtain rfl := Option.some.inj hk
    exact ⟨Nat.zero_le _, Nat.zero_le _⟩
  | succ j =>
    rw [List.getElem?_cons_succ, runs_eq_zipWith, List.getElem?_zipWith_eq_some] at hk
    obtain ⟨before, d, hbefore, hd, rfl⟩ := hk
    split
    · rename_i hsame
      obtain rfl := beq_iff_eq.mp hsame
      obtain ⟨hleft, hright⟩ := h j before hbefore
      rw [reach_succ hc, reach_succ hd, hskip, if_neg Bool.false_ne_true, if_neg Bool.false_ne_true]
      exact ⟨Nat.succ_le_succ hleft, Nat.succ_le_succ hright⟩
    · exact ⟨Nat.zero_le _, Nat.zero_le _⟩

lemma Row.le (h : Row skipped left right i ended) {j k : ℕ} (hk : ended[j]? = some k) : k ≤ i ∧ k ≤ j + 1 := by
  obtain ⟨hleft, hright⟩ := h (j + 1) k hk
  exact ⟨hleft.trans (reach_le _ _ _), hright.trans (reach_le _ _ _)⟩

end Rows

section Improving

variable {i j m n : ℕ} {best : Block} {ks : List ℕ}

lemma improve_append (i : ℕ) (best : Block) (j : ℕ) (ks ls : List ℕ) :
    improve i best j (ks ++ ls) = improve i (improve i best j ks) (j + ks.length) ls := by
  induction ks generalizing best j with
  | nil => rfl
  | cons k ks ih =>
    rw [List.cons_append, improve, improve, ih, List.length_cons, Nat.add_assoc, Nat.add_comm 1]

/-- Runs that are no longer than the best block leave it as it is. -/
lemma improve_of_le (h : ∀ k ∈ ks, k ≤ best.size) : improve i best j ks = best := by
  induction ks generalizing j with
  | nil => rfl
  | cons k ks ih =>
    obtain ⟨hk, hks⟩ := List.forall_mem_cons.mp h
    rw [improve, if_neg (Nat.not_lt.mpr hk), ih hks]

lemma improve_within (hbest : best.Within m n) (hi : i < m) (hlength : j + ks.length ≤ n)
    (hks : ∀ l k, ks[l]? = some k → k ≤ i + 1 ∧ k ≤ j + l + 1) : (improve i best j ks).Within m n := by
  induction ks generalizing best j with
  | nil => exact hbest
  | cons k ks ih =>
    obtain ⟨hleft, hright⟩ := hks 0 k rfl
    rw [List.length_cons] at hlength
    refine ih ?_ (by omega) fun l k' hk' => ?_
    · split
      · exact ⟨by dsimp only; omega, by dsimp only; omega⟩
      · exact hbest
    · have := hks (l + 1) k' hk'
      omega

/-- By induction on what is left of the left text. -/
lemma longestFrom_within {rest : List Char} {ended : List ℕ} (hrest : left.drop i = rest)
    (hbest : best.Within left.length right.length) (hrow : Row skipped left right i ended) :
    (longestFrom skipped right i best ended rest).Within left.length right.length := by
  induction rest generalizing i best ended with
  | nil => exact hbest
  | cons c rest ih =>
    obtain ⟨hc, hnext⟩ := of_drop_eq_cons hrest
    have hi : i < left.length := (List.getElem?_eq_some_iff.mp hc).1
    rw [longestFrom]
    split
    · exact ih hnext hbest (row_zeros skipped left right (i + 1))
    · rename_i hskip
      have hruns := hrow.runs hc (Bool.eq_false_iff.mpr hskip)
      refine ih hnext (improve_within hbest hi ?_ fun l k hk => ?_) hruns
      · rw [Nat.zero_add]
        exact length_runs_le _ _ _
      · rw [Nat.zero_add]
        exact hruns.le hk

end Improving

section Same

/-- How far a text has been compared with itself: the best block has one place in both, and is as long as any run. -/
structure Diagonal (skipped s : List Char) (i : ℕ) (best : Block) (ended : List ℕ) : Prop where
  same_place : best.left = best.right
  longest : ∀ j ≤ i, reach skipped s j ≤ best.size
  row : Row skipped s s i ended
  own : (0 :: ended)[i]? = some (reach skipped s i)

variable {i : ℕ} {best : Block} {ended : List ℕ} {c : Char}

/-- Only the run that a character makes with itself can be longer than the best block: those before it are told by
earlier rows, those behind it are no longer. -/
lemma improve_of_row {longer : ℕ} (hlongest : ∀ j ≤ i, reach skipped s j ≤ best.size)
    (hrow : Row skipped s s (i + 1) ended) (hown : ended[i]? = some longer) (hreach : longer = reach skipped s (i + 1)) :
    improve i best 0 ended = if best.size < longer then ⟨i + 1 - longer, i + 1 - longer, longer⟩ else best := by
  obtain ⟨front, back, rfl, hlength⟩ := exists_split_of_getElem? hown
  have hfront : ∀ k ∈ front, k ≤ best.size := by
    intro k hk
    obtain ⟨l, hl⟩ := List.mem_iff_getElem?.mp hk
    have hlt : l < front.length := (List.getElem?_eq_some_iff.mp hl).1
    have hbound := (hrow (l + 1) k (by rw [List.getElem?_cons_succ, List.getElem?_append_left hlt, hl])).2
    exact hbound.trans (hlongest (l + 1) (by omega))
  have hback : ∀ k ∈ back, k ≤ longer := by
    intro k hk
    obtain ⟨l, hl⟩ := List.mem_iff_getElem?.mp (List.mem_append_right front (List.mem_cons_of_mem longer hk))
    rw [hreach]
    exact (hrow (l + 1) k hl).1
  rw [improve_append, improve_of_le hfront, Nat.zero_add, hlength, improve]
  refine improve_of_le fun k hk => (hback k hk).trans ?_
  split
  · exact le_rfl
  · rename_i hlonger
    exact Nat.not_lt.mp hlonger

lemma Diagonal.runs (h : Diagonal skipped s i best ended) (hc : s[i]? = some c) (hskip : skipped.contains c = false) :
    Diagonal skipped s (i + 1) (improve i best 0 (runs c (0 :: ended) s)) (runs c (0 :: ended) s) := by
  have hreach : reach skipped s (i + 1) = reach skipped s i + 1 := by
    rw [reach_succ hc, hskip, if_neg Bool.false_ne_true]
  have hown : (Similarity.runs c (0 :: ended) s)[i]? = some (reach skipped s (i + 1)) := by
    rw [runs_eq_zipWith, List.getElem?_zipWith_eq_some]
    exact ⟨_, c, h.own, hc, by rw [hreach, beq_self_eq_true, if_pos rfl]⟩
  have hrow := h.row.runs hc hskip
  rw [improve_of_row h.longest hrow hown rfl]
  refine ⟨?_, fun j hj => ?_, hrow, hown⟩
  · split
    · rfl
    · exact h.same_place
  · have hearlier : j ≠ i + 1 → reach skipped s j ≤ best.size := fun hne => h.longest j (by omega)
    split
    · rename_i hlonger
      dsimp only
      by_cases hlast : j = i + 1
      · rw [hlast]
      · exact (hearlier hlast).trans hlonger.le
    · rename_i hlonger
      by_cases hlast : j = i + 1
      · rw [hlast]
        exact Nat.not_lt.mp hlonger
      · exact hearlier hlast

lemma Diagonal.skip (h : Diagonal skipped s i best ended) (hc : s[i]? = some c) (hskip : skipped.contains c = true) :
    Diagonal skipped s (i + 1) best (s.map fun _ => 0) := by
  have hreach : reach skipped s (i + 1) = 0 := by rw [reach_succ hc, hskip, if_pos rfl]
  refine ⟨h.same_place, fun j hj => ?_, row_zeros skipped s s (i + 1), ?_⟩
  · rcases Nat.le_succ_iff.mp hj with hj | rfl
    · exact h.longest j hj
    · rw [hreach]
      exact Nat.zero_le _
  · rw [List.getElem?_cons_succ, List.getElem?_map, hc, hreach]
    rfl

/-- By induction on what is left of the text, a step for each character. -/
lemma Diagonal.longestFrom {rest : List Char} (h : Diagonal skipped s i best ended) (hrest : s.drop i = rest) :
    (longestFrom skipped s i best ended rest).left = (longestFrom skipped s i best ended rest).right := by
  induction rest generalizing i best ended with
  | nil => exact h.same_place
  | cons c rest ih =>
    obtain ⟨hc, hnext⟩ := of_drop_eq_cons hrest
    rw [Similarity.longestFrom]
    split
    · rename_i hskip
      exact ih (h.skip hc hskip) hnext
    · rename_i hskip
      exact ih (h.runs hc (Bool.eq_false_iff.mpr hskip)) hnext

end Same

section Longest

lemma commonStart_le (s t : List Char) : commonStart s t ≤ s.length ∧ commonStart s t ≤ t.length := by
  fun_induction commonStart s t with
  | case1 c s d t _ ih => exact ⟨Nat.succ_le_succ ih.1, Nat.succ_le_succ ih.2⟩
  | case2 => exact ⟨Nat.zero_le _, Nat.zero_le _⟩
  | case3 => exact ⟨Nat.zero_le _, Nat.zero_le _⟩

lemma commonStart_self (s : List Char) : commonStart s s = s.length := by
  induction s with
  | nil => rfl
  | cons c s ih => rw [commonStart, beq_self_eq_true, if_pos rfl, ih, List.length_cons]

lemma longestFrom_start_within (skipped left right : List Char) :
    (longestFrom skipped right 0 ⟨0, 0, 0⟩ (right.map fun _ => 0) left).Within left.length right.length :=
  longestFrom_within List.drop_zero ⟨Nat.zero_le _, Nat.zero_le _⟩ (row_zeros skipped left right 0)

lemma longest_within (skipped left right : List Char) :
    (longest skipped left right).Within left.length right.length := by
  have hblock := longestFrom_start_within skipped left right
  unfold longest
  generalize longestFrom skipped right 0 ⟨0, 0, 0⟩ (right.map fun _ => 0) left = b at hblock
  obtain ⟨hleft, hright⟩ := hblock
  have hback := commonStart_le (left.take b.left).reverse (right.take b.right).reverse
  have hforth := commonStart_le (left.drop (b.left + b.size)) (right.drop (b.right + b.size))
  simp only [List.length_reverse, List.length_take, List.length_drop] at hback hforth
  constructor
  · dsimp only
    omega
  · dsimp only
    omega

/-- A text is its own longest block: whatever block is found has one place in both texts, and widens to all of it. -/
lemma longest_self (skipped s : List Char) : longest skipped s s = ⟨0, 0, s.length⟩ := by
  have hstart : Diagonal skipped s 0 ⟨0, 0, 0⟩ (s.map fun _ => 0) := by
    refine ⟨rfl, fun j hj => ?_, row_zeros skipped s s 0, rfl⟩
    obtain rfl := Nat.le_zero.mp hj
    exact reach_le skipped s 0
  have hplace := hstart.longestFrom List.drop_zero
  have hblock := longestFrom_start_within skipped s s
  unfold longest
  generalize longestFrom skipped s 0 ⟨0, 0, 0⟩ (s.map fun _ => 0) s = b at hplace hblock
  obtain ⟨hleft, -⟩ := hblock
  dsimp only
  rw [← hplace, commonStart_self, commonStart_self, List.length_reverse, List.length_take, List.length_drop,
    Nat.min_eq_left (by omega), Nat.sub_self, Block.mk.injEq]
  omega

end Longest

/-- All blocks together are no longer than either text, by induction on the depth of the search. -/
lemma matched_le (skipped : List Char) (fuel : ℕ) (left right : List Char) :
    matched skipped fuel left right ≤ left.length ∧ matched skipped fuel left right ≤ right.length := by
  induction fuel generalizing left right with
  | zero => exact ⟨Nat.zero_le _, Nat.zero_le _⟩
  | succ fuel ih =>
    rw [matched]
    split
    · exact ⟨Nat.zero_le _, Nat.zero_le _⟩
    · have hblock := longest_within skipped left right
      generalize longest skipped left right = b at hblock
      obtain ⟨hleft, hright⟩ := hblock
      have hfront := ih (left.take b.left) (right.take b.right)
      have hback := ih (left.drop (b.left + b.size)) (right.drop (b.right + b.size))
      simp only [List.length_take, List.length_drop] at hfront hback
      omega

lemma matchedLength_self (s : List Char) : matchedLength s s = s.length := by
  rw [matchedLength, matched, longest_self]
  dsimp only
  split
  · omega
  · have hfront := (matched_le (frequent s) s.length (s.take 0) (s.take 0)).1
    have hback := (matched_le (frequent s) s.length (s.drop (0 + s.length)) (s.drop (0 + s.length))).1
    simp only [List.length_take, List.length_drop] at hfront hback
    omega

/-- The similarity of two texts lies between zero and one. -/
theorem ratio_mem_unit (left right : List Char) : 0 ≤ ratio left right ∧ ratio left right ≤ 1 := by
  unfold ratio
  split
  · exact ⟨zero_le_one, le_rfl⟩
  · rename_i hlength
    obtain ⟨hleft, hright⟩ := matched_le (frequent right) (left.length + 1) left right
    have hpos : (0 : ℚ) < (left.length + right.length : ℕ) := Nat.cast_pos.mpr (Nat.pos_of_ne_zero hlength)
    have hmatched : 2 * matchedLength left right ≤ left.length + right.length := by
      rw [matchedLength]
      omega
    rw [Rat.mkRat_eq_div, div_le_one hpos]
    exact ⟨div_nonneg (by positivity) hpos.le, by exact_mod_cast hmatched⟩

/-- A text is altogether like itself. -/
theorem ratio_self (s : List Char) : ratio s s = 1 := by
  unfold ratio
  split
  · rfl
  · rename_i hlength
    have hne : ((s.length + s.length : ℕ) : ℚ) ≠ 0 := Nat.cast_ne_zero.mpr hlength
    rw [matchedLength_self, Rat.mkRat_eq_div, div_eq_one_iff_eq hne]
    push_cast
    ring

end CodeAudit.Text.Similarity
