import CodeAudit.Text.CharClass

/-!
Cutting text: stripping blanks, splitting at a character, at blanks and at line ends, and joining.
-/

namespace CodeAudit.Text

/-- The text without the characters of a class at its two ends. -/
def trim (p : Char → Bool) (s : List Char) : List Char :=
  ((s.dropWhile p).reverse.dropWhile p).reverse

def stripLeft (s : List Char) : List Char :=
  s.dropWhile isBlank

def stripRight (s : List Char) : List Char :=
  (s.reverse.dropWhile isBlank).reverse

/-- The text without the blanks at its two ends. -/
def strip (s : List Char) : List Char :=
  stripRight (stripLeft s)

/-- Whether the text has nothing but blanks. -/
def isBlankText (s : List Char) : Bool :=
  s.all isBlank

private def splitAtChar (sep : Char) : List Char → List Char → List (List Char) → List (List Char)
  | [], piece, done => (piece.reverse :: done).reverse
  | c :: rest, piece, done =>
    if c == sep then splitAtChar sep rest [] (piece.reverse :: done)
    else splitAtChar sep rest (c :: piece) done

/-- The pieces between the separators: one more than there are separators. -/
def splitOn (sep : Char) (s : List Char) : List (List Char) :=
  splitAtChar sep s [] []

private theorem splitAtChar_eq (sep : Char) (s piece : List Char) (done : List (List Char)) :
    splitAtChar sep s piece done = done.reverse ++ (s.splitOn sep).modifyHead (piece.reverse ++ ·) := by
  fun_induction splitAtChar sep s piece done with
  | case1 piece done => simp
  | case2 c rest piece done hc ih =>
    rw [ih, List.splitOn_cons_eq_if_modifyHead, if_pos hc]
    cases h : rest.splitOn sep <;> simp
  | case3 c rest piece done hc ih =>
    rw [ih, List.splitOn_cons_eq_if_modifyHead, if_neg hc]
    cases h : rest.splitOn sep <;> simp

/-- The library's own splitting of lists. -/
theorem splitOn_eq (sep : Char) (s : List Char) : splitOn sep s = s.splitOn sep := by
  rw [splitOn, splitAtChar_eq]
  cases h : s.splitOn sep <;> simp

/-- The pieces joined with a separator between each two. -/
def joinWith (sep : List Char) (pieces : List (List Char)) : List Char :=
  match pieces with
  | [] => []
  | p :: ps => p ++ ps.flatMap (sep ++ ·)

/-- The pieces between line feeds. -/
def lines (s : List Char) : List (List Char) :=
  splitOn '\n' s

def joinLines (ls : List (List Char)) : List Char :=
  joinWith ['\n'] ls

/-- The text with every line end, a carriage return with or without a line feed, as one line feed. -/
def unifyLineEnds : List Char → List Char
  | '\r' :: '\n' :: rest => '\n' :: unifyLineEnds rest
  | '\r' :: rest => '\n' :: unifyLineEnds rest
  | c :: rest => c :: unifyLineEnds rest
  | [] => []

/-- The lines of a text with the line feeds that end them. -/
def closedLines (s : List Char) : List (List Char) :=
  match (lines s).reverse with
  | [] => []
  | last :: others =>
    (others.reverse.map (· ++ ['\n'])) ++ (if last.isEmpty then [] else [last])

/-- The characters that end a line of output, a carriage return with its line feed counting once. -/
def isLineEnd (c : Char) : Bool :=
  c == '\n' || c == '\r' || c == '\x0b' || c == '\x0c' || c == '\x1c' || c == '\x1d' ||
    c == '\x1e' || c == '\u0085' || c == '\u2028' || c == '\u2029'

private def splitAtLineEnds :
    List Char → Bool → List Char → List (List Char) → List (List Char)
  | [], _, piece, done => (if piece.isEmpty then done else piece.reverse :: done).reverse
  | c :: rest, afterReturn, piece, done =>
    if c == '\n' && afterReturn then splitAtLineEnds rest false piece done
    else if isLineEnd c then splitAtLineEnds rest (c == '\r') [] (piece.reverse :: done)
    else splitAtLineEnds rest false (c :: piece) done

/-- The lines of a text under every line end; a line end closes a line and opens none. -/
def outputLines (s : List Char) : List (List Char) :=
  splitAtLineEnds s false [] []

private theorem mem_splitAtLineEnds {s : List Char} {afterReturn : Bool} {piece : List Char}
    {done : List (List Char)} {line : List Char} (h : line ∈ splitAtLineEnds s afterReturn piece done) :
    line ∈ done ∨ ∀ c ∈ line, c ∈ piece ∨ c ∈ s := by
  fun_induction splitAtLineEnds s afterReturn piece done with
  | case1 afterReturn piece done =>
    rw [List.mem_reverse] at h
    split at h
    · exact .inl h
    · rcases List.mem_cons.mp h with rfl | h
      · exact .inr fun c hc => .inl (List.mem_reverse.mp hc)
      · exact .inl h
  | case2 c rest afterReturn piece done _ ih =>
    exact (ih h).imp_right fun hl d hd => (hl d hd).imp_right (List.mem_cons_of_mem c)
  | case3 c rest afterReturn piece done _ _ ih =>
    rcases ih h with hdone | hl
    · rcases List.mem_cons.mp hdone with rfl | hdone
      · exact .inr fun d hd => .inl (List.mem_reverse.mp hd)
      · exact .inl hdone
    · exact .inr fun d hd => (hl d hd).elim (absurd · List.not_mem_nil) fun hd => .inr (List.mem_cons_of_mem c hd)
  | case4 c rest afterReturn piece done _ _ ih =>
    refine (ih h).imp_right fun hl d hd => ?_
    rcases hl d hd with hp | hr
    · rcases List.mem_cons.mp hp with rfl | hp
      · exact .inr List.mem_cons_self
      · exact .inl hp
    · exact .inr (List.mem_cons_of_mem c hr)

/-- The lines hold no characters but those of the text. -/
theorem mem_of_mem_outputLines {s line : List Char} {c : Char} (hl : line ∈ outputLines s) (hc : c ∈ line) :
    c ∈ s := by
  rcases mem_splitAtLineEnds hl with hn | h
  · exact absurd hn List.not_mem_nil
  · exact (h c hc).elim (absurd · List.not_mem_nil) id

private theorem splitAtLineEnds_eq (s : List Char) (afterReturn : Bool) (piece : List Char) (done : List (List Char)) :
    splitAtLineEnds s afterReturn piece done = done.reverse ++ splitAtLineEnds s afterReturn piece [] := by
  induction s generalizing afterReturn piece done with
  | nil => cases piece <;> simp [splitAtLineEnds]
  | cons c rest ih =>
    rw [splitAtLineEnds, splitAtLineEnds]
    split
    · exact ih false piece done
    · split
      · rw [ih _ _ (piece.reverse :: done), ih _ _ [piece.reverse]]
        simp
      · exact ih false (c :: piece) done

private theorem splitAtLineEnds_append_lineFeed {s rest piece : List Char} {afterReturn : Bool}
    {done : List (List Char)} (h : afterReturn = true → piece = []) :
    splitAtLineEnds (s ++ '\n' :: rest) afterReturn piece done =
      splitAtLineEnds (s ++ ['\n']) afterReturn piece done ++ outputLines rest := by
  induction s generalizing afterReturn piece done with
  | nil =>
    cases afterReturn with
    | true =>
      obtain rfl := h rfl
      simp [splitAtLineEnds, outputLines, splitAtLineEnds_eq rest false [] done]
    | false => simp [splitAtLineEnds, isLineEnd, outputLines, splitAtLineEnds_eq rest false [] (piece.reverse :: done)]
  | cons c s ih =>
    rw [List.cons_append, List.cons_append, splitAtLineEnds, splitAtLineEnds]
    split
    · exact ih fun hf => (by cases hf)
    · split
      · exact ih fun _ => rfl
      · exact ih fun hf => (by cases hf)

/-- Lines up to a line feed and lines behind it. -/
theorem outputLines_append_lineFeed (s rest : List Char) :
    outputLines (s ++ '\n' :: rest) = outputLines (s ++ ['\n']) ++ outputLines rest :=
  splitAtLineEnds_append_lineFeed fun h => by cases h

private theorem splitAtLineEnds_append {line rest piece : List Char} {done : List (List Char)}
    (h : ∀ c ∈ line, isLineEnd c = false) :
    splitAtLineEnds (line ++ rest) false piece done = splitAtLineEnds rest false (line.reverse ++ piece) done := by
  induction line generalizing piece with
  | nil => rfl
  | cons c line ih =>
    obtain ⟨hc, hline⟩ := List.forall_mem_cons.mp h
    rw [List.cons_append, splitAtLineEnds, Bool.and_false, if_neg Bool.false_ne_true, hc, if_neg Bool.false_ne_true,
      ih hline]
    simp

/-- A text without line ends is one line. -/
theorem outputLines_of_line {line : List Char} (h : ∀ c ∈ line, isLineEnd c = false) (hne : line ≠ []) :
    outputLines line = [line] := by
  have hline : splitAtLineEnds (line ++ []) false [] [] = splitAtLineEnds [] false (line.reverse ++ []) [] :=
    splitAtLineEnds_append h
  rw [List.append_nil, List.append_nil] at hline
  simp [outputLines, hline, splitAtLineEnds, hne]

theorem outputLines_cons_line {line : List Char} (h : ∀ c ∈ line, isLineEnd c = false) (rest : List Char) :
    outputLines (line ++ '\n' :: rest) = line :: outputLines rest := by
  have hline : outputLines (line ++ ['\n']) = [line] := by
    rw [outputLines, splitAtLineEnds_append h]
    simp [splitAtLineEnds, isLineEnd]
  rw [outputLines_append_lineFeed, hline]
  rfl

private def splitAtBlanks : List Char → List Char → List (List Char) → List (List Char)
  | [], piece, done => (if piece.isEmpty then done else piece.reverse :: done).reverse
  | c :: rest, piece, done =>
    if isBlank c then splitAtBlanks rest [] (if piece.isEmpty then done else piece.reverse :: done)
    else splitAtBlanks rest (c :: piece) done

/-- The runs of characters that are not blank. -/
def words (s : List Char) : List (List Char) :=
  splitAtBlanks s [] []

private theorem mem_closedPiece {piece word : List Char} {done : List (List Char)}
    (hpiece : ∀ c ∈ piece, isBlank c = false) (h : word ∈ if piece.isEmpty then done else piece.reverse :: done) :
    word ∈ done ∨ ∀ c ∈ word, isBlank c = false := by
  split at h
  · exact .inl h
  · rcases List.mem_cons.mp h with rfl | h
    · exact .inr fun c hc => hpiece c (List.mem_reverse.mp hc)
    · exact .inl h

private theorem mem_splitAtBlanks {s piece word : List Char} {done : List (List Char)}
    (hpiece : ∀ c ∈ piece, isBlank c = false) (h : word ∈ splitAtBlanks s piece done) :
    word ∈ done ∨ ∀ c ∈ word, isBlank c = false := by
  fun_induction splitAtBlanks s piece done with
  | case1 piece done => exact mem_closedPiece hpiece (List.mem_reverse.mp h)
  | case2 c rest piece done _ ih =>
    rcases ih (by simp) h with h | h
    · exact mem_closedPiece hpiece h
    · exact .inr h
  | case3 c rest piece done hc ih =>
    exact ih (List.forall_mem_cons.mpr ⟨Bool.eq_false_iff.mpr hc, hpiece⟩) h

/-- Words hold no blanks. -/
theorem not_isBlank_of_mem_words {s word : List Char} {c : Char} (hword : word ∈ words s) (hc : c ∈ word) :
    isBlank c = false := by
  rcases mem_splitAtBlanks (by simp) hword with h | h
  · exact absurd h List.not_mem_nil
  · exact h c hc

/-- Whether `s` starts with `t`. -/
def startsWith (s t : List Char) : Bool :=
  t.isPrefixOf s

def endsWith (s t : List Char) : Bool :=
  t.isSuffixOf s

private def splitAtText (sep : List Char) :
    List Char → Nat → List Char → List (List Char) → List (List Char)
  | [], _, piece, done => (piece.reverse :: done).reverse
  | _ :: rest, skip + 1, piece, done => splitAtText sep rest skip piece done
  | c :: rest, 0, piece, done =>
    if sep.isPrefixOf (c :: rest) then
      splitAtText sep rest (sep.length - 1) [] (piece.reverse :: done)
    else splitAtText sep rest 0 (c :: piece) done

/-- The pieces between the occurrences of a non-empty separator, found from the left. -/
def splitOnText (sep s : List Char) : List (List Char) :=
  splitAtText sep s 0 [] []

private theorem splitAtText_eq (sep s : List Char) (skip : Nat) (piece : List Char) (done : List (List Char)) :
    splitAtText sep s skip piece done = done.reverse ++ splitAtText sep s skip piece [] := by
  induction s generalizing skip piece done with
  | nil => simp [splitAtText]
  | cons c rest ih =>
    cases skip with
    | succ skip => exact ih skip piece done
    | zero =>
      rw [splitAtText, splitAtText]
      split
      · rw [ih _ _ (piece.reverse :: done), ih _ _ [piece.reverse]]
        simp
      · exact ih 0 (c :: piece) done

private theorem splitAtText_append {c : Char} {more front : List Char} (h : c ∉ front) (rest piece : List Char)
    (done : List (List Char)) :
    splitAtText (c :: more) (front ++ rest) 0 piece done = splitAtText (c :: more) rest 0 (front.reverse ++ piece) done := by
  induction front generalizing piece with
  | nil => rfl
  | cons d front ih =>
    simp only [List.mem_cons, not_or] at h
    rw [List.cons_append, splitAtText, if_neg (by simp [h.1]), ih h.2]
    simp

/-- A text without the first character of a separator is all one piece. -/
theorem splitOnText_of_notMem {c : Char} {s : List Char} (h : c ∉ s) (more : List Char) :
    splitOnText (c :: more) s = [s] := by
  have hfront : splitAtText (c :: more) (s ++ []) 0 [] [] = splitAtText (c :: more) [] 0 (s.reverse ++ []) [] :=
    splitAtText_append h [] [] []
  rw [List.append_nil] at hfront
  simp [splitOnText, hfront, splitAtText]

/-- The first piece stands before a separator whose first character does not come earlier. -/
theorem head?_splitOnText {c : Char} {front : List Char} (h : c ∉ front) (more rest : List Char) :
    (splitOnText (c :: more) (front ++ (c :: more ++ rest))).head? = some front := by
  have hsep : (c :: more).isPrefixOf (c :: (more ++ rest)) = true := by simp
  rw [splitOnText, splitAtText_append h, List.cons_append, splitAtText, if_pos hsep, splitAtText_eq]
  simp

/-- Whether `t` occurs in `s`. -/
def contains (s t : List Char) : Bool :=
  match s with
  | [] => t.isEmpty
  | c :: rest => t.isPrefixOf (c :: rest) || contains rest t

/-- The text before the first occurrence of a character, or all of it. -/
def before (sep : Char) (s : List Char) : List Char :=
  s.takeWhile (· != sep)

/-- The text after the last occurrence of a character, or all of it. -/
def afterLast (sep : Char) (s : List Char) : List Char :=
  (s.reverse.takeWhile (· != sep)).reverse

end CodeAudit.Text
