import CodeAudit.Proofs.Source.Signature
import CodeAudit.Rule.Basic

/-! How a text falls into pieces at its commas. A comma inside brackets is part of a piece. -/
namespace CodeAudit.Rule

open Source

variable {n k : ℤ} {c : Char} {v w : List Char}

/-- Below at least so many open brackets a text is all part of one piece. -/
def InPiece (n : ℤ) (w : List Char) : Prop :=
  ∀ depth, n ≤ depth → ∀ piece rest,
    topLevelPieces depth piece (w ++ rest) = topLevelPieces depth (w.reverse ++ piece) rest

namespace InPiece

lemma mono (h : InPiece n w) (hnk : n ≤ k) : InPiece k w := fun depth hdepth => h depth (Int.le_trans hnk hdepth)

lemma nil : InPiece n [] := fun _ _ _ _ => rfl

lemma append (hv : InPiece n v) (hw : InPiece n w) : InPiece n (v ++ w) := by
  intro depth hdepth piece rest
  rw [List.append_assoc, hv depth hdepth, hw depth hdepth, List.reverse_append, List.append_assoc]

lemma singleton (hc : isListSign c = false) : InPiece n [c] := by
  intro depth _ piece rest
  simp only [isListSign, Bool.or_eq_false_iff] at hc
  rw [List.singleton_append, topLevelPieces]
  simp [hc]

lemma of_not_isListSign (h : ∀ c ∈ w, isListSign c = false) : InPiece n w := by
  induction w with
  | nil => exact nil
  | cons c w ih =>
    obtain ⟨hc, hw⟩ := List.forall_mem_cons.mp h
    exact (singleton hc).append (ih hw)

lemma comma : InPiece 1 [','] := by
  intro depth hdepth piece rest
  have hdepth : depth ≠ 0 := by omega
  rw [List.singleton_append, topLevelPieces]
  simp [isOpening, isClosing, hdepth]

/-- Brackets hold together what they enclose. -/
lemma enclosed {opening closing : Char} (hopening : isOpening opening = true) (hclosing : isClosing closing = true)
    (h : InPiece 1 w) : InPiece 0 (opening :: (w ++ [closing])) := by
  intro depth hdepth piece rest
  have hne : opening ≠ ',' := by
    rintro rfl
    cases hopening
  have hne' : closing ≠ ',' := by
    rintro rfl
    cases hclosing
  have hother : isOpening closing = false := by
    rw [← Bool.not_eq_true]
    intro hboth
    simp only [isClosing, Bool.or_eq_true, beq_iff_eq] at hclosing
    rcases hclosing with (rfl | rfl) | rfl <;> cases hboth
  have hbehind : topLevelPieces (depth + 1) (w.reverse ++ opening :: piece) (closing :: rest) =
      topLevelPieces depth (closing :: (w.reverse ++ opening :: piece)) rest := by
    rw [topLevelPieces]
    simp [hclosing, hother, hne']
  rw [List.cons_append, List.append_assoc, List.singleton_append, topLevelPieces]
  simp only [hopening, if_true, beq_iff_eq, hne, Bool.and_eq_true, false_and, if_false]
  rw [h (depth + 1) (by omega), hbehind]
  simp

lemma topLevelPieces_comma (h : InPiece 0 w) (rest : List Char) :
    topLevelPieces 0 [] (w ++ ',' :: rest) = w :: topLevelPieces 0 [] rest := by
  rw [h 0 (Int.le_refl 0), topLevelPieces]
  simp [isOpening, isClosing]

lemma topLevelPieces_eq (h : InPiece 0 w) : topLevelPieces 0 [] w = [w] := by
  have hpieces := h 0 (Int.le_refl 0) [] []
  simpa [topLevelPieces] using hpieces

end InPiece

end CodeAudit.Rule
