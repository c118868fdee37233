import CodeAudit.Proofs.Source.Comment
import CodeAudit.Proofs.Text.Classes
import CodeAudit.Source.Basic

/-! The block that a line opens, as the lines that it consists of: those below it up to the first one that is neither
blank nor indented deeper. -/
namespace CodeAudit

lemma Text.mem_of_mem_lines {s line : List Char} {c : Char} (hline : line ∈ lines s) (hc : c ∈ line) : c ∈ s := by
  induction s generalizing line with
  | nil =>
    obtain rfl := List.mem_singleton.mp hline
    exact hc
  | cons d s ih =>
    rw [lines_cons] at hline
    split at hline
    · rcases List.mem_cons.mp hline with rfl | hline
      · exact absurd hc List.not_mem_nil
      · exact List.mem_cons_of_mem d (ih hline hc)
    · cases hlines : lines s with
      | nil => exact absurd hlines (lines_ne_nil s)
      | cons first later =>
        rw [hlines, List.modifyHead_cons] at hline
        rw [hlines] at ih
        rcases List.mem_cons.mp hline with rfl | hline
        · exact (List.mem_cons.mp hc).elim (· ▸ List.mem_cons_self)
            fun hc => List.mem_cons_of_mem d (ih List.mem_cons_self hc)
        · exact List.mem_cons_of_mem d (ih (List.mem_cons_of_mem _ hline) hc)

namespace Source

lemma isBlankText_of_masks {m s : List Char} (h : List.Forall₂ Masks m s) (hs : Text.isBlankText s = true) :
    Text.isBlankText m = true := by
  induction h with
  | nil => rfl
  | cons hmasks _ ih =>
    obtain ⟨hc, hrest⟩ := Bool.and_eq_true_iff.mp hs
    refine Bool.and_eq_true_iff.mpr ⟨?_, ih hrest⟩
    rcases hmasks with rfl | ⟨rfl, -⟩
    · exact hc
    · decide

/-- Where the mask has code, so has the text. -/
lemma isBlankText_eq_false_of_mem_maskLines {code : List Char} {line : Line} (hline : line ∈ maskLines code)
    (h : Text.isBlankText line = false) : Text.isBlankText code = false := by
  by_contra hcode
  rw [Bool.not_eq_false] at hcode
  have hmask := Text.isBlank_of_mem (isBlankText_of_masks (maskText_masks code) hcode)
  have hblank : Text.isBlankText line = true :=
    List.all_eq_true.mpr fun c hc => hmask c (Text.mem_of_mem_lines hline hc)
  rw [hblank] at h
  cases h

/-- What a line must be in order not to end a block under a header of that indentation. -/
def staysInside (margin : ℕ) (line : Line) : Bool :=
  Text.isBlankText line || decide (margin < indentOf line)

variable {all front rest : List Line} {header : Line} {margin : ℕ}

/-- By induction on the lines below the header: blank ones are passed over, deeper ones are kept, another one ends both
sides. -/
lemma map_line_deeperLines {index : ℕ} (h : all.drop index = rest) :
    (deeperLines margin index rest).map (fun i => all[i]?.getD []) =
      (rest.takeWhile (staysInside margin)).filter fun line => !Text.isBlankText line := by
  induction rest generalizing index with
  | nil => rfl
  | cons line rest ih =>
    obtain ⟨hline, hrest⟩ := Text.of_drop_eq_cons h
    rw [deeperLines, List.takeWhile_cons, staysInside]
    by_cases hblank : Text.isBlankText line = true
    · simp [hblank, ih hrest]
    · by_cases hshallow : indentOf line ≤ margin
      · simp [hblank, hshallow, Nat.not_lt.mpr hshallow]
      · simp [hblank, hshallow, Nat.not_le.mp hshallow, hline, ih hrest]

/-- A line of the body stands below the header, has code and is indented deeper. -/
structure Deeper (all : List Line) (margin index j : ℕ) (line : Line) : Prop where
  line_eq : all[j]? = some line
  below : index ≤ j
  code : Text.isBlankText line = false
  deeper : margin < indentOf line

lemma exists_deeper_of_mem {index j : ℕ} (h : all.drop index = rest) (hj : j ∈ deeperLines margin index rest) :
    ∃ line, Deeper all margin index j line := by
  induction rest generalizing index with
  | nil => exact absurd hj List.not_mem_nil
  | cons line rest ih =>
    obtain ⟨hline, hrest⟩ := Text.of_drop_eq_cons h
    have hlater : j ∈ deeperLines margin (index + 1) rest → ∃ line, Deeper all margin index j line := by
      intro hj
      obtain ⟨found, hfound⟩ := ih hrest hj
      exact ⟨found, hfound.line_eq, by have := hfound.below; omega, hfound.code, hfound.deeper⟩
    rw [deeperLines] at hj
    split at hj
    · exact hlater hj
    · rename_i hblank
      split at hj
      · exact absurd hj List.not_mem_nil
      · rename_i hshallow
        rcases List.mem_cons.mp hj with rfl | hj
        · exact ⟨line, hline, le_rfl, Bool.eq_false_iff.mpr hblank, Nat.lt_of_not_le hshallow⟩
        · exact hlater hj

/-- The block that a line opens ends on the line itself, or on a line of its body. -/
lemma blockEnd_eq_or_exists_deeper {index : ℕ} (hline : all[index]? = some header) :
    blockEnd all index = index ∨ ∃ line, Deeper all (indentOf header) (index + 1) (blockEnd all index) line := by
  obtain ⟨hindex, hget⟩ := List.getElem?_eq_some_iff.mp hline
  have hdrop : all.drop index = header :: all.drop (index + 1) := by rw [List.drop_eq_getElem_cons hindex, hget]
  have hbody : blockBody all index = deeperLines (indentOf header) (index + 1) (all.drop (index + 1)) := by
    rw [blockBody, hdrop]
  unfold blockEnd
  cases hlast : (blockBody all index).getLast? with
  | none => exact .inl rfl
  | some j => exact .inr (exists_deeper_of_mem rfl (hbody ▸ List.mem_of_getLast? hlast))

lemma bodyTexts_eq {src : Source} (h : src.masked = front ++ header :: rest) :
    src.bodyTexts front.length = inlineBody header ::
      (rest.takeWhile (staysInside (indentOf header))).filter fun line => !Text.isBlankText line := by
  have hline : src.maskedLine front.length = header := by simp [maskedLine, h]
  have hdrop : src.masked.drop front.length = header :: rest := by simp [h]
  have hbelow : src.masked.drop (front.length + 1) = rest := by simp [h]
  rw [bodyTexts, hline, blockBody, hdrop]
  exact congrArg _ (map_line_deeperLines hbelow)

lemma plain_of_isBlank {c : Char} (h : Text.isBlank c = true) : (isOpening c || isClosing c || c == ':') = false := by
  by_contra hmark
  rw [Bool.not_eq_false] at hmark
  have hmarks : c ∈ ['(', '[', '{', ')', ']', '}', ':'] := by
    simpa only [isOpening, isClosing, Bool.or_eq_true, beq_iff_eq, or_assoc, List.mem_cons, List.not_mem_nil,
      or_false] using hmark
  have hblank : ['(', '[', '{', ')', ']', '}', ':'].all (fun c => !Text.isBlank c) = true := by decide
  have hcode := List.all_eq_true.mp hblank c hmarks
  rw [h] at hcode
  cases hcode

/-- A line with one colon, and no bracket before it, has on it what follows the colon. -/
lemma inlineBody_append {before after : Line} (h : ∀ c ∈ before, (isOpening c || isClosing c || c == ':') = false) :
    inlineBody (before ++ ':' :: after) = Text.strip after := by
  have hcolon : afterColon 0 (before ++ ':' :: after) = after := by
    induction before with
    | nil => rfl
    | cons c before ih =>
      obtain ⟨hc, hbefore⟩ := List.forall_mem_cons.mp h
      simp only [Bool.or_eq_false_iff] at hc
      obtain ⟨⟨hopening, hclosing⟩, hcolon⟩ := hc
      simp only [List.cons_append, afterColon, hopening, hclosing, hcolon, Bool.false_eq_true, if_false, Bool.false_and]
      exact ih hbefore
  rw [inlineBody, hcolon]

end Source
end CodeAudit
