import CodeAudit.Proofs.Source.Join
import CodeAudit.Proofs.Text.Lines

/-! The line on which a comment starts. Texts that say different things in it have all other lines in common, and
this one up to the comment, which is as far as its mask has anything but blanks. -/
namespace CodeAudit

namespace Source

open Mask

/-- Nothing of a comment is left in its line's mask. -/
lemma head_blanked_comment (s : List Char) :
    ∃ blanks rest, Text.lines (blanked .comment s) = blanks :: rest ∧ ∀ c ∈ blanks, c = ' ' := by
  induction s with
  | nil => exact ⟨[], [], rfl, by simp⟩
  | cons c s ih =>
    by_cases hc : c = '\n'
    · subst hc
      rw [blanked_cons, step_lineFeed rfl, Text.lines_cons]
      exact ⟨[], _, rfl, by simp⟩
    · obtain ⟨blanks, rest, hlines, hblanks⟩ := ih
      have hstep : step .comment c s = (' ', .comment) := if_neg (by simpa using hc)
      refine ⟨' ' :: blanks, rest, ?_, by simpa using hblanks⟩
      rw [blanked_cons, hstep, Text.lines_cons, hlines]
      rfl

/-- The lines before that on which a comment after the text starts, and what stands before the comment on its line. -/
structure CommentPlace (a : List Char) (front : List Line) (last : Line) : Prop where
  length_lines : (Text.lines a).length = front.length + 1
  lines_eq : ∀ x, Text.lines (a ++ '#' :: x) = front ++ (Text.lines x).modifyHead (last ++ '#' :: ·)
  masked : ∀ x, ∃ shown blanks, (maskLines (a ++ '#' :: x))[front.length]? = some (shown ++ blanks) ∧
    shown.length = last.length ∧ ∀ c ∈ blanks, c = ' '

lemma lines_hash (x : List Char) : Text.lines ('#' :: x) = (Text.lines x).modifyHead ('#' :: ·) := by
  rw [Text.lines_cons]
  rfl

lemma exists_commentPlace {a : List Char} (ha : Closed a) : ∃ front last, CommentPlace a front last := by
  obtain ⟨front, last, hlines⟩ := Text.exists_lines_append a
  obtain ⟨maskedFront, shown, hmasked⟩ := Text.exists_lines_append (maskText a)
  have hends : Text.lines a = front ++ [last] := by simpa [Text.lines, Text.splitOn_eq] using hlines []
  have hmaskEnds : maskLines a = maskedFront ++ [shown] := by
    simpa [maskLines, Text.lines, Text.splitOn_eq] using hmasked []
  -- the mask of the text has its shape, so that its last line is in the same place and as long
  have hshape := (List.forall₂_reverse_iff).mpr (maskLines_masks a)
  rw [hends, hmaskEnds, List.reverse_append, List.reverse_append] at hshape
  obtain ⟨hlast, hfront⟩ := List.forall₂_cons.mp hshape
  refine ⟨front, last, by rw [hends, List.length_append]; rfl, fun x => ?_, fun x => ?_⟩
  · rw [hlines, lines_hash, List.modifyHead_modifyHead]
    rfl
  · obtain ⟨blanks, rest, hcomment, hblanks⟩ := head_blanked_comment x
    refine ⟨shown, ' ' :: blanks, ?_, hlast.length_eq, by simpa using hblanks⟩
    rw [maskLines, maskText_append_hash ha.unquoted, hmasked, Text.lines_cons, hcomment]
    have hlength : front.length = maskedFront.length := by simpa using hfront.length_eq.symm
    simp [hlength]

/-- A comment on that line, and what follows it. -/
lemma CommentPlace.exists_lines_eq {a : List Char} {front : List Line} {last : Line}
    (h : CommentPlace a front last) (b : List Char) :
    ∃ after rest, ∀ c, '\n' ∉ c → Text.lines (a ++ '#' :: (c ++ b)) = front ++ (last ++ '#' :: (c ++ after)) :: rest := by
  obtain ⟨after, rest, hb⟩ := List.exists_cons_of_ne_nil (Text.lines_ne_nil b)
  refine ⟨after, rest, fun c hc => ?_⟩
  rw [h.lines_eq, Text.lines_append_of_notMem hc, hb]
  rfl

/-- Two texts with one mask and with the same lines, but for one that is the same only as far as its mask has anything
but blanks. -/
structure AlikeBut (k : ℕ) (src other : Source) : Prop where
  withLines : other = { src with lines := other.lines }
  line_eq : ∀ i, i ≠ k → other.line i = src.line i
  shown_eq : ∃ shown blanks, src.masked[k]? = some (shown ++ blanks) ∧ (∀ c ∈ blanks, c = ' ') ∧
    (other.line k).take shown.length = (src.line k).take shown.length

namespace AlikeBut

variable {k : ℕ} {src other : Source} (h : AlikeBut k src other)
include h

lemma masked_eq : other.masked = src.masked := by
  rw [h.withLines]

lemma assignmentBefore?_eq (name : Name) (index : ℕ) :
    other.assignmentBefore? name index = src.assignmentBefore? name index := by
  rw [h.withLines]
  rfl

end AlikeBut

lemma getElem?_append_cons_of_ne {α : Type} (front rest : List α) (x y : α) {i : ℕ} (hi : i ≠ front.length) :
    (front ++ x :: rest)[i]? = (front ++ y :: rest)[i]? := by
  rcases Nat.lt_or_gt_of_ne hi with hlt | hgt
  · rw [List.getElem?_append_left hlt, List.getElem?_append_left hlt]
  · obtain ⟨j, rfl⟩ := Nat.exists_eq_add_of_lt hgt
    rw [List.getElem?_append_right (by omega), List.getElem?_append_right (by omega)]
    have hsub : front.length + j + 1 - front.length = j + 1 := by omega
    rw [hsub]
    rfl

/-- Comments of the same length on the line where the closed text ends. -/
lemma alikeBut_of_comment {a c₁ c₂ : List Char} (ha : Closed a) (b : List Char) (h₁ : '\n' ∉ c₁) (h₂ : '\n' ∉ c₂)
    (hlen : c₁.length = c₂.length) :
    AlikeBut ((Text.lines a).length - 1) (ofText (a ++ '#' :: (c₁ ++ b))) (ofText (a ++ '#' :: (c₂ ++ b))) := by
  obtain ⟨front, last, hplace⟩ := exists_commentPlace ha
  obtain ⟨after, rest, hlines⟩ := hplace.exists_lines_eq b
  obtain ⟨shown, blanks, hmasked, hshown, hblanks⟩ := hplace.masked (c₁ ++ b)
  have hmask := maskText_comment ha b h₁ h₂ hlen
  rw [hplace.length_lines, Nat.add_sub_cancel]
  refine ⟨?_, fun i hi => ?_, shown, blanks, hmasked, hblanks, ?_⟩
  · simp only [ofText, maskLines, hmask]
  · simp only [line, ofText, hlines c₁ h₁, hlines c₂ h₂]
    rw [getElem?_append_cons_of_ne front rest _ _ hi]
  · simp only [line, ofText, hlines c₁ h₁, hlines c₂ h₂, hshown]
    simp

end Source
end CodeAudit
