import CodeAudit.Proofs.Source.Closed
import CodeAudit.Proofs.Text.Lines
import CodeAudit.Source.Basic

/-! Two texts one after the other. A line feed and a hash sign are no part of how a string begins, so a text before
them is masked as if it stood alone, unless it leaves a string open. Lines in front of others move the blocks of these
and change nothing else about them. -/
namespace CodeAudit.Source

open Mask

/-- The scan is in code or in a comment. -/
def Mode.isOutside : Mode → Bool
  | .code _ | .comment => true
  | .leadingLetter | .opening _ _ | .inside _ _ | .escaped _ _ | .closing _ => false

/-- The scan of the text ends outside every string. -/
def Unquoted (text : List Char) : Prop := (modeAfter (.code false) text).isOutside = true

instance (text : List Char) : Decidable (Unquoted text) := inferInstanceAs (Decidable (_ = _))

lemma Closed.unquoted {text : List Char} (h : Closed text) : Unquoted text := by
  obtain ⟨w, hw⟩ := h
  rw [Unquoted, hw]
  rfl

/-- A character that is no part of how a string begins. -/
structure Inert (d : Char) : Prop where
  notLeading : isLeading d = false
  notQuote : isQuote d = false

lemma inert_lineFeed : Inert '\n' := ⟨by decide, by decide⟩

lemma inert_hash : Inert '#' := ⟨by decide, by decide⟩

section Scan

variable {d : Char} {mode : Mode} {c : Char} {text : List Char}

lemma Inert.twoMore_eq_false (h : Inert d) {quote : Char} (hq : isQuote quote = true) (e : Char) (x : List Char) :
    twoMore quote (d :: x) = false ∧ twoMore quote (e :: d :: x) = false := by
  have hne : d ≠ quote := by
    rintro rfl
    rw [h.notQuote] at hq
    cases hq
  cases x <;> simp [twoMore, hne]

/-- The last character of a text that leaves no string open. -/
lemma Inert.step_last (h : Inert d) (x : List Char) (hfits : mode.Fits (c :: text))
    (hout : (modeAfter mode [c]).isOutside = true) : step mode c (d :: x) = step mode c [] := by
  cases mode with
  | code afterWord =>
    by_cases hq : isQuote c = true
    · simp only [step, hq, if_true, (h.twoMore_eq_false hq c x).1]
      rfl
    · simp [step, hq, h.notLeading, h.notQuote]
  | inside quote long =>
    -- a backslash at the end escapes nothing, but then the string stays open
    have hc : c ≠ '\\' := by
      rintro rfl
      rcases isQuote_iff.mp hfits with rfl | rfl <;> cases long <;> exact absurd hout (by decide)
    simp only [step, (h.twoMore_eq_false hfits c x).1]
    simp [hc, twoMore]
  | leadingLetter => rfl
  | comment => rfl
  | opening quote left => rfl
  | escaped quote long => rfl
  | closing left => rfl

/-- The last character but one of a text. -/
lemma Inert.step_second_last (h : Inert d) (e : Char) (x : List Char) (hfits : mode.Fits (c :: text)) :
    step mode c (e :: d :: x) = step mode c [e] := by
  cases mode with
  | code afterWord =>
    by_cases hq : isQuote c = true
    · simp only [step, hq, if_true, (h.twoMore_eq_false hq e x).2]
      rfl
    · simp [step, hq, h.notQuote]
  | inside quote long =>
    simp only [step, (h.twoMore_eq_false hfits e x).2]
    rfl
  | leadingLetter => rfl
  | comment => rfl
  | opening quote left => rfl
  | escaped quote long => rfl
  | closing left => rfl

lemma Inert.step_append (h : Inert d) (x : List Char) {rest : List Char} (hfits : mode.Fits (c :: text))
    (hout : (modeAfter mode (c :: rest)).isOutside = true) : step mode c (rest ++ d :: x) = step mode c rest := by
  match rest with
  | [] => exact h.step_last x hfits hout
  | [e] => exact h.step_second_last e x hfits
  | e :: f :: more => exact step_two_ahead mode c e f (more ++ d :: x) more

/-- The run over a text before such a character, by induction on the text. -/
lemma blanked_append_inert (h : Inert d) (x : List Char) {a : List Char} (hfits : mode.Fits (a ++ d :: x))
    (hout : (modeAfter mode a).isOutside = true) :
    blanked mode (a ++ d :: x) = blanked mode a ++ blanked (modeAfter mode a) (d :: x) := by
  induction a generalizing mode with
  | nil => rfl
  | cons c rest ih =>
    have hstep := h.step_append x hfits hout
    have hnext : (step mode c (rest ++ d :: x)).2.Fits (rest ++ d :: x) := (step_fits hfits).2
    rw [hstep] at hnext
    rw [List.cons_append, blanked_cons, hstep, ih hnext hout]
    rfl

/-- The mode in which such a run ends. -/
lemma modeAfter_append_inert (h : Inert d) (x : List Char) {a : List Char} (hfits : mode.Fits (a ++ d :: x))
    (hout : (modeAfter mode a).isOutside = true) :
    modeAfter mode (a ++ d :: x) = modeAfter (modeAfter mode a) (d :: x) := by
  induction a generalizing mode with
  | nil => rfl
  | cons c rest ih =>
    have hstep := h.step_append x hfits hout
    have hnext : (step mode c (rest ++ d :: x)).2.Fits (rest ++ d :: x) := (step_fits hfits).2
    rw [hstep] at hnext
    rw [List.cons_append, modeAfter, hstep, ih hnext hout]
    rfl

end Scan

lemma step_lineFeed {mode : Mode} (h : mode.isOutside = true) (rest : List Char) :
    step mode '\n' rest = ('\n', .code false) := by
  cases mode with
  | code afterWord => cases afterWord <;> rfl
  | comment => rfl
  | _ => cases h

lemma step_hash {mode : Mode} (h : mode.isOutside = true) (rest : List Char) :
    step mode '#' rest = (' ', .comment) := by
  cases mode with
  | code afterWord => rfl
  | comment => rfl
  | _ => cases h

section Texts

variable {a : List Char} (ha : Unquoted a) (b : List Char)
include ha

lemma maskText_append_hash : maskText (a ++ '#' :: b) = maskText a ++ ' ' :: blanked .comment b := by
  have hfits : (Mode.code false).Fits (a ++ '#' :: b) := trivial
  rw [maskText_eq, maskText_eq, blanked_append_inert inert_hash b hfits ha, blanked_cons, step_hash ha]

lemma maskText_append_lineFeed : maskText (a ++ '\n' :: b) = maskText a ++ '\n' :: maskText b := by
  have hfits : (Mode.code false).Fits (a ++ '\n' :: b) := trivial
  rw [maskText_eq, maskText_eq, maskText_eq, blanked_append_inert inert_lineFeed b hfits ha, blanked_cons,
    step_lineFeed ha]

/-- The mask of two texts with a line feed between them is the one mask after the other. -/
lemma maskLines_append_lineFeed : maskLines (a ++ '\n' :: b) = maskLines a ++ maskLines b := by
  rw [maskLines, maskLines, maskLines, maskText_append_lineFeed ha, Text.lines, Text.lines, Text.lines,
    Text.splitOn_eq, Text.splitOn_eq, Text.splitOn_eq]
  exact List.splitOn_append_cons_self _ _

end Texts

section Lines

variable {line : Line} {before after : List Line}

lemma maskLines_eq_singleton (h : '\n' ∉ line) : maskLines line = [maskText line] := by
  have hlength : (maskLines line).length = 1 := by
    rw [(maskLines_masks line).length_eq, Text.lines_eq_singleton h]
    rfl
  obtain ⟨masked, hmasked⟩ := List.length_eq_one_iff.mp hlength
  have htext : Text.joinLines (maskLines line) = maskText line := Text.joinLines_lines _
  rw [hmasked] at htext ⊢
  rw [← htext]
  simp [Text.joinLines, Text.joinWith]

/-- The mask of a line that leaves no string open, with lines behind it. -/
lemma exists_maskLines_joinLines_cons (hfeed : '\n' ∉ line) (h : Unquoted line) (after : List Line) :
    ∃ more, maskLines (Text.joinLines (line :: after)) = maskText line :: more := by
  by_cases hafter : after = []
  · have hjoin : Text.joinLines (line :: after) = line := by simp [hafter, Text.joinLines, Text.joinWith]
    exact ⟨[], by rw [hjoin, maskLines_eq_singleton hfeed]⟩
  · have hjoin : Text.joinLines (line :: after) = line ++ '\n' :: Text.joinLines after := by
      rw [Text.joinLines, Text.joinWith_cons _ hafter]
      simp [Text.joinLines]
    exact ⟨_, by rw [hjoin, maskLines_append_lineFeed h, maskLines_eq_singleton hfeed]; rfl⟩

/-- A line is masked on its own if neither the lines above it nor the line itself leave a string open. -/
lemma getElem?_maskLines {code : List Char} {index : ℕ} (hline : (Text.lines code)[index]? = some line)
    (habove : Unquoted (Text.joinLines ((Text.lines code).take index))) (h : Unquoted line) :
    (maskLines code)[index]? = some (maskText line) := by
  obtain ⟨hindex, hget⟩ := List.getElem?_eq_some_iff.mp hline
  have hsplit : Text.lines code = (Text.lines code).take index ++ line :: (Text.lines code).drop (index + 1) := by
    rw [← hget, List.getElem_cons_drop, List.take_append_drop]
  have hlength : ((Text.lines code).take index).length = index := List.length_take_of_le (Nat.le_of_lt hindex)
  have hfeeds : ∀ l ∈ Text.lines code, '\n' ∉ l := fun l => Text.lineFeed_notMem_of_mem_lines
  have hcode := Text.joinLines_lines code
  generalize hbefore : (Text.lines code).take index = before at *
  generalize (Text.lines code).drop (index + 1) = after at *
  rw [hsplit] at hcode hfeeds
  obtain ⟨more, hmore⟩ := exists_maskLines_joinLines_cons (hfeeds line (by simp)) h after
  rw [← hcode, ← hlength]
  by_cases hnone : before = []
  · rw [hnone, List.nil_append, hmore]
    rfl
  · have hjoin : Text.joinLines (before ++ line :: after) =
        Text.joinLines before ++ '\n' :: Text.joinLines (line :: after) := by
      rw [Text.joinLines, Text.joinWith_append _ hnone (List.cons_ne_nil line after)]
      simp [Text.joinLines]
    have hmasked : (maskLines (Text.joinLines before)).length = before.length := by
      rw [(maskLines_masks _).length_eq, Text.lines_joinLines hnone fun l hl => hfeeds l (by simp [hl])]
    rw [hjoin, maskLines_append_lineFeed habove, hmore, List.getElem?_append_right (by omega), hmasked, Nat.sub_self]
    rfl

end Lines

section Blocks

variable (front : List Line)

lemma deeperLines_add (margin k index : ℕ) (lines : List Line) :
    deeperLines margin (k + index) lines = (deeperLines margin index lines).map (k + ·) := by
  induction lines generalizing index with
  | nil => rfl
  | cons line rest ih =>
    have hrest := ih (index + 1)
    rw [← Nat.add_assoc] at hrest
    simp only [deeperLines, hrest]
    split
    · rfl
    · split
      · rfl
      · rfl

lemma blockBody_append (masked : List Line) (index : ℕ) :
    blockBody (front ++ masked) (front.length + index) = (blockBody masked index).map (front.length + ·) := by
  have hdrop : (front ++ masked).drop (front.length + index) = masked.drop index := by simp
  rw [blockBody, blockBody, hdrop]
  cases masked.drop index with
  | nil => rfl
  | cons header rest => exact deeperLines_add (indentOf header) front.length (index + 1) rest

variable {front}

lemma bodyTexts_append {src other : Source} (h : src.masked = front ++ other.masked) (index : ℕ) :
    src.bodyTexts (front.length + index) = other.bodyTexts index := by
  have hline : ∀ i, src.maskedLine (front.length + i) = other.maskedLine i := by
    intro i
    rw [maskedLine, maskedLine, h, List.getElem?_append_right (Nat.le_add_right _ _), Nat.add_sub_cancel_left]
  simp only [bodyTexts, h, blockBody_append, hline, List.map_map, Function.comp_def]

end Blocks

end CodeAudit.Source
