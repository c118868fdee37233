import CodeAudit.Proofs.Source.Plain
import CodeAudit.Proofs.Text.Classes

/-! Texts of comments alone. Whatever the comments say, nothing of it is left in the mask. -/
namespace CodeAudit.Source

open Mask

/-- The line is blank, or its first character that is not blank starts a comment. -/
def IsCommentLine (line : Line) : Prop := ∀ c ∈ line.find? (!Text.isBlank ·), c = '#'

/-- Every line of the text is blank or a comment. -/
def OnlyComments (code : List Char) : Prop := ∀ line ∈ Text.lines code, IsCommentLine line

instance (line : Line) : Decidable (IsCommentLine line) :=
  decidable_of_iff ((line.find? (!Text.isBlank ·)).all (· == '#') = true) <| by
    cases h : line.find? (!Text.isBlank ·) <;> simp [IsCommentLine, h]

instance (code : List Char) : Decidable (OnlyComments code) :=
  inferInstanceAs (Decidable (∀ line ∈ Text.lines code, IsCommentLine line))

section Joined

variable {lines : List Line}

/-- Lines that leave no string open are masked one by one. -/
lemma maskLines_joinLines (hne : lines ≠ []) (hfeeds : ∀ line ∈ lines, '\n' ∉ line)
    (h : ∀ line ∈ lines, Unquoted line) : maskLines (Text.joinLines lines) = lines.map maskText := by
  induction lines with
  | nil => exact absurd rfl hne
  | cons line rest ih =>
    obtain ⟨hfeed, hfeeds⟩ := List.forall_mem_cons.mp hfeeds
    obtain ⟨hline, hrest⟩ := List.forall_mem_cons.mp h
    by_cases hlast : rest = []
    · have hjoin : Text.joinLines (line :: rest) = line := by simp [hlast, Text.joinLines, Text.joinWith]
      rw [hjoin, maskLines_eq_singleton hfeed, hlast]
      rfl
    · have hjoin : Text.joinLines (line :: rest) = line ++ '\n' :: Text.joinLines rest := by
        rw [Text.joinLines, Text.joinWith_cons _ hlast]
        simp [Text.joinLines]
      rw [hjoin, maskLines_append_lineFeed hline, maskLines_eq_singleton hfeed, ih hlast hfeeds hrest]
      rfl

end Joined

section Line

variable {line : Line}

/-- A line of comment alone: blanks, then nothing or a comment. -/
lemma IsCommentLine.exists_eq (h : IsCommentLine line) :
    ∃ blanks, Text.isBlankText blanks = true ∧ (line = blanks ∨ ∃ said, line = blanks ++ '#' :: said) := by
  cases hfind : line.find? (!Text.isBlank ·) with
  | none =>
    refine ⟨line, List.all_eq_true.mpr fun c hc => ?_, .inl rfl⟩
    simpa using List.find?_eq_none.mp hfind c hc
  | some c =>
    obtain ⟨-, blanks, said, rfl, hblanks⟩ := List.find?_eq_some_iff_append.mp hfind
    obtain rfl : c = '#' := h c hfind
    refine ⟨blanks, List.all_eq_true.mpr fun d hd => ?_, .inr ⟨said, rfl⟩⟩
    simpa using hblanks d hd

/-- Without the blanks around it such a line is empty or a comment. -/
lemma IsCommentLine.strip_eq (h : IsCommentLine line) :
    Text.strip line = [] ∨ ∃ said, Text.strip line = '#' :: said := by
  obtain ⟨blanks, hblanks, rfl | ⟨said, rfl⟩⟩ := h.exists_eq
  · exact .inl (Text.strip_of_isBlankText hblanks)
  · have hleft : Text.stripLeft (blanks ++ '#' :: said) = '#' :: said := by
      rw [Text.stripLeft, List.dropWhile_append_of_pos (Text.isBlank_of_mem hblanks)]
      rfl
    refine .inr ⟨Text.stripRight said, ?_⟩
    rw [Text.strip, hleft, Text.stripRight, List.reverse_cons, List.dropWhile_append, Text.stripRight]
    split
    · rename_i hempty
      rw [List.isEmpty_iff.mp hempty]
      rfl
    · simp

lemma isPlainChar_of_isBlankText {s : List Char} (h : Text.isBlankText s = true) : ∀ c ∈ s, isPlainChar c = true :=
  fun c hc => isPlainChar_of_class (by decide) (Text.isBlank_of_mem h c hc)

lemma unquoted_plain {s : List Char} (h : ∀ c ∈ s, isPlainChar c = true) : Unquoted s :=
  Closed.unquoted (blanked_plain false h).2

/-- A comment goes on to the end of its line. -/
lemma modeAfter_comment {said : List Char} (h : '\n' ∉ said) : modeAfter .comment said = .comment := by
  induction said with
  | nil => rfl
  | cons c said ih =>
    obtain ⟨hc, hsaid⟩ := not_or.mp (mt List.mem_cons.mpr h)
    have hstep : step .comment c said = (' ', .comment) := if_neg (by simpa using Ne.symm hc)
    rw [modeAfter, hstep]
    exact ih hsaid

/-- Such a line opens no string and is masked by blanks. -/
lemma IsCommentLine.masked (h : IsCommentLine line) (hfeed : '\n' ∉ line) :
    Unquoted line ∧ Text.isBlankText (maskText line) = true := by
  obtain ⟨blanks, hblanks, rfl | ⟨said, rfl⟩⟩ := h.exists_eq
  · have hplain := isPlainChar_of_isBlankText hblanks
    rw [maskText_plain hplain]
    exact ⟨unquoted_plain hplain, hblanks⟩
  · have hplain := isPlainChar_of_isBlankText hblanks
    have hout : Unquoted blanks := unquoted_plain hplain
    have hsaid : '\n' ∉ said := fun hmem => hfeed (List.mem_append_right _ (List.mem_cons_of_mem _ hmem))
    refine ⟨?_, ?_⟩
    · have hfits : (Mode.code false).Fits (blanks ++ '#' :: said) := trivial
      rw [Unquoted, modeAfter_append_inert inert_hash said hfits hout, modeAfter, step_hash hout,
        modeAfter_comment hsaid]
      rfl
    · have hcomment : blanked .comment said = List.replicate said.length ' ' := by
        simpa [blanked] using blanked_comment hsaid []
      have hspaces : Text.isBlankText (Text.Blanks.spaces said.length).1 = true := (Text.Blanks.spaces said.length).2
      rw [maskText_append_hash hout, maskText_plain hplain, hcomment, Text.isBlankText, List.all_append,
        Bool.and_eq_true_iff]
      exact ⟨hblanks, hspaces⟩

end Line

/-- The mask of comments alone is blank. -/
lemma OnlyComments.isBlankText_masked {code : List Char} (h : OnlyComments code) :
    ∀ line ∈ maskLines code, Text.isBlankText line = true := by
  have hfeeds : ∀ line ∈ Text.lines code, '\n' ∉ line := fun _ => Text.lineFeed_notMem_of_mem_lines
  have hmasked := fun line hline => (h line hline).masked (hfeeds line hline)
  have hmask : maskLines code = (Text.lines code).map maskText := by
    rw [← maskLines_joinLines (Text.lines_ne_nil code) hfeeds fun line hline => (hmasked line hline).1,
      Text.joinLines_lines]
  rw [hmask]
  intro masked hmem
  obtain ⟨line, hline, rfl⟩ := List.mem_map.mp hmem
  exact (hmasked line hline).2

end CodeAudit.Source
