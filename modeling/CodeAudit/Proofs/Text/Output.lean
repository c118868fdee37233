import CodeAudit.Text.Lines
import Mathlib.Tactic.Lemma

/-! The lines of a text that is written line by line. -/
namespace CodeAudit.Text

/-- One line of output. -/
def IsLine (line : List Char) : Prop :=
  ∀ c ∈ line, isLineEnd c = false

instance (line : List Char) : Decidable (IsLine line) :=
  decidable_of_iff (line.all (!isLineEnd ·) = true) (by simp [IsLine])

/-- The characters that end a line. -/
def lineEnds : List Char :=
  ['\n', '\r', '\x0b', '\x0c', '\x1c', '\x1d', '\x1e', '\u0085', '\u2028', '\u2029']

lemma mem_lineEnds_of_isLineEnd {c : Char} (h : isLineEnd c = true) : c ∈ lineEnds := by
  simpa [isLineEnd, lineEnds, or_assoc] using h

/-- A character of a class without line ends is none. -/
lemma not_isLineEnd_of_class {p : Char → Bool} {c : Char} (hends : lineEnds.all (fun d => !p d) = true)
    (h : p c = true) : isLineEnd c = false := by
  rw [← Bool.not_eq_true]
  intro hend
  have hc := List.all_eq_true.mp hends c (mem_lineEnds_of_isLineEnd hend)
  rw [h] at hc
  cases hc

lemma not_isLineEnd_of_not_isBlank {c : Char} (h : isBlank c = false) : isLineEnd c = false :=
  not_isLineEnd_of_class (p := fun d => !isBlank d) (by decide +kernel) (by rw [h]; rfl)

lemma not_isLineEnd_of_isPrintable {c : Char} (h : isPrintable c = true) : isLineEnd c = false := by
  refine not_isLineEnd_of_class ?_ h
  -- a list is evaluated faster than a table
  simp only [isPrintable, inRanges, ← Array.any_toList]
  decide +kernel

lemma not_isLineEnd_of_isDigit {c : Char} (h : c.isDigit = true) : isLineEnd c = false :=
  not_isLineEnd_of_class (by decide) h

lemma IsLine.cons {c : Char} {line : List Char} (hc : isLineEnd c = false) (h : IsLine line) : IsLine (c :: line) :=
  List.forall_mem_cons.mpr ⟨hc, h⟩

lemma IsLine.singleton {c : Char} (hc : isLineEnd c = false) : IsLine [c] :=
  List.forall_mem_singleton.mpr hc

lemma IsLine.append {a b : List Char} (ha : IsLine a) (hb : IsLine b) : IsLine (a ++ b) :=
  List.forall_mem_append.mpr ⟨ha, hb⟩

lemma outputLines_closed_append (ls : List (List Char)) (rest : List Char) :
    outputLines (ls.flatMap (· ++ ['\n']) ++ rest) =
      outputLines (ls.flatMap (· ++ ['\n'])) ++ outputLines rest := by
  rcases ls.eq_nil_or_concat with rfl | ⟨ls, last, rfl⟩
  · rfl
  · simpa using outputLines_append_lineFeed (ls.flatMap (· ++ ['\n']) ++ last) rest

lemma outputLines_lines_append {ls : List (List Char)} (h : ∀ line ∈ ls, IsLine line) (rest : List Char) :
    outputLines (ls.flatMap (· ++ ['\n']) ++ rest) = ls ++ outputLines rest := by
  induction ls with
  | nil => rfl
  | cons line ls ih =>
    obtain ⟨hline, hls⟩ := List.forall_mem_cons.mp h
    rw [List.flatMap_cons, List.append_assoc, List.append_assoc, List.singleton_append,
      outputLines_cons_line hline, ih hls]
    rfl

/-- A text without blanks around it ends with a character that is none. -/
lemma exists_last_of_strip {text : List Char} (h : text ≠ [] ∧ strip text = text) :
    ∃ before c, text = before ++ [c] ∧ isBlank c = false := by
  obtain ⟨hne, hstrip⟩ := h
  rw [strip, stripRight] at hstrip
  have hhead := List.head?_dropWhile_not isBlank (stripLeft text).reverse
  cases hdrop : (stripLeft text).reverse.dropWhile isBlank with
  | nil =>
    rw [hdrop] at hstrip
    exact absurd hstrip.symm hne
  | cons c rest =>
    rw [hdrop, List.reverse_cons] at hstrip
    rw [hdrop] at hhead
    exact ⟨rest.reverse, c, hstrip.symm, hhead⟩

end CodeAudit.Text
