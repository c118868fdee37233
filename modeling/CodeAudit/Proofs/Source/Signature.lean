import CodeAudit.Proofs.Source.FirstBinding
import CodeAudit.Proofs.Source.Names
import CodeAudit.Proofs.Text.Lines

/-! Parameter lists as they are written, and how far they are read. What is read ends with the first line that has a
closing round bracket, also one that closes a bracket of an annotation or of a default. -/
namespace CodeAudit.Source

open Regex

section Pieces

variable {s w : List Char} {k : ℕ}

/-- How many brackets are open behind a character. -/
def depthBehind (depth : ℕ) (c : Char) : ℕ :=
  if isOpening c then depth + 1 else if isClosing c then depth - 1 else depth

/-- Whether a text closes as many brackets as were open in front of it and as it opens, and no more at any place. -/
def closes : ℕ → List Char → Bool
  | depth, [] => depth == 0
  | depth, c :: rest => !(isClosing c && depth == 0) && closes (depthBehind depth c) rest

/-- A bracket or a comma. -/
def isListSign (c : Char) : Bool := isOpening c || isClosing c || c == ','

lemma isListSign_iff {c : Char} : isListSign c = true ↔ c ∈ ['(', '[', '{', ')', ']', '}', ','] := by
  simp [isListSign, isOpening, isClosing, or_assoc]

lemma not_isListSign_of_class {p : Char → Bool} (hp : ['(', '[', '{', ')', ']', '}', ','].any p = false) {c : Char}
    (h : p c = true) : isListSign c = false := by
  rw [← Bool.not_eq_true, isListSign_iff]
  exact fun hsign => List.any_eq_false.mp hp c hsign h

lemma not_isListSign_of_isBlank {c : Char} (h : Text.isBlank c = true) : isListSign c = false :=
  not_isListSign_of_class (by decide) h

lemma not_isListSign_of_isWord {c : Char} (h : Text.isWord c = true) : isListSign c = false :=
  not_isListSign_of_class (by decide) h

lemma parameterPieces_cons {c : Char} (h : (isClosing c && k == 0) = false) (piece rest : List Char) :
    Bindings.parameterPieces k piece (c :: rest) =
      if c == ',' && depthBehind k c == 0 then piece.reverse :: Bindings.parameterPieces (depthBehind k c) [] rest
      else Bindings.parameterPieces (depthBehind k c) (c :: piece) rest := by
  rw [Bindings.parameterPieces, if_neg (by simp [h])]
  rfl

/-- A text that closes its brackets is some pieces, and a part of the next one. -/
lemma exists_pieces_of_closes (h : closes k s = true) (piece more : List Char) :
    ∃ pieces piece',
      Bindings.parameterPieces k piece (s ++ more) = pieces ++ Bindings.parameterPieces 0 piece' more := by
  induction s generalizing k piece with
  | nil =>
    obtain rfl : k = 0 := by simpa [closes] using h
    exact ⟨[], piece, rfl⟩
  | cons c rest ih =>
    rw [closes, Bool.and_eq_true, Bool.not_eq_true'] at h
    rw [List.cons_append, parameterPieces_cons h.1]
    split
    · obtain ⟨pieces, piece', hpieces⟩ := ih h.2 []
      exact ⟨piece.reverse :: pieces, piece', by rw [hpieces, List.cons_append]⟩
    · exact ih h.2 (c :: piece)

/-- A text without brackets and commas is a part of one piece. -/
lemma parameterPieces_append (h : ∀ c ∈ w, isListSign c = false) (piece more : List Char) :
    Bindings.parameterPieces k piece (w ++ more) = Bindings.parameterPieces k (w.reverse ++ piece) more := by
  induction w generalizing piece with
  | nil => rfl
  | cons c rest ih =>
    obtain ⟨hc, hrest⟩ := List.forall_mem_cons.mp h
    simp only [isListSign, Bool.or_eq_false_iff] at hc
    obtain ⟨⟨hopening, hclosing⟩, hcomma⟩ := hc
    rw [List.cons_append, parameterPieces_cons (by rw [hclosing, Bool.false_and]), hcomma, depthBehind, hopening, hclosing]
    simp [ih hrest]

lemma closes_append (h : ∀ c ∈ w, isListSign c = false) (s : List Char) : closes k (w ++ s) = closes k s := by
  induction w with
  | nil => rfl
  | cons c rest ih =>
    obtain ⟨hc, hrest⟩ := List.forall_mem_cons.mp h
    simp only [isListSign, Bool.or_eq_false_iff] at hc
    obtain ⟨⟨hopening, hclosing⟩, -⟩ := hc
    rw [List.cons_append, closes, depthBehind, hopening, hclosing]
    simp [ih hrest]

/-- The first piece goes on with what stands at the start of the text. -/
lemma exists_parameterPieces_eq_cons (k : ℕ) (piece s : List Char) :
    ∃ tail others, Bindings.parameterPieces k piece s = (piece.reverse ++ tail) :: others ∧ tail <+: s := by
  induction s generalizing k piece with
  | nil => exact ⟨[], [], by simp [Bindings.parameterPieces], List.nil_prefix⟩
  | cons c rest ih =>
    by_cases hend : (isClosing c && k == 0) = true
    · exact ⟨[], [], by simp [Bindings.parameterPieces, hend], List.nil_prefix⟩
    · rw [parameterPieces_cons (Bool.eq_false_iff.mpr hend)]
      split
      · exact ⟨[], _, by rw [List.append_nil], List.nil_prefix⟩
      · obtain ⟨tail, others, hpieces, hprefix⟩ := ih (depthBehind k c) (c :: piece)
        refine ⟨c :: tail, others, by simpa using hpieces, ?_⟩
        exact List.cons_prefix_cons.mpr ⟨rfl, hprefix⟩

end Pieces

section Reading

variable {s front : List Char} {line : Line} {following : List Line}

/-- The lines up to the first one that has a closing round bracket. -/
def throughClosing : List Line → List Line
  | [] => []
  | line :: rest => line :: if line.contains ')' then [] else throughClosing rest

/-- A text with a space for every line feed. -/
def oneLine (s : List Char) : List Char := s.map fun c => if c == '\n' then ' ' else c

lemma oneLine_append (s t : List Char) : oneLine (s ++ t) = oneLine s ++ oneLine t := List.map_append

lemma oneLine_of_notMem (h : '\n' ∉ s) : oneLine s = s := by
  refine (List.map_congr_left fun c hc => ?_).trans (List.map_id s)
  have hne : c ≠ '\n' := fun heq => h (heq ▸ hc)
  simp [hne]

lemma forall_mem_oneLine {p : Char → Prop} (hspace : p ' ') (h : ∀ c ∈ s, p c) : ∀ c ∈ oneLine s, p c := by
  intro c hc
  obtain ⟨d, hd, rfl⟩ := List.mem_map.mp hc
  split
  · exact hspace
  · exact h d hd

lemma head?_oneLine (s : List Char) : (oneLine s).head?.any Text.isWord = s.head?.any Text.isWord := by
  cases s with
  | nil => rfl
  | cons c s =>
    rw [oneLine, List.map_cons]
    split
    · rename_i hfeed
      obtain rfl := beq_iff_eq.mp hfeed
      have hspace : Text.isWord ' ' = false := rfl
      have hbreak : Text.isWord '\n' = false := rfl
      simp [hspace, hbreak]
    · rfl

lemma closes_oneLine (k : ℕ) (s : List Char) : closes k (oneLine s) = closes k s := by
  induction s generalizing k with
  | nil => rfl
  | cons c rest ih =>
    rw [oneLine, List.map_cons, ← oneLine, closes, closes, ih]
    split
    · rename_i hfeed
      obtain rfl := beq_iff_eq.mp hfeed
      rfl
    · rfl

lemma throughClosing_isPrefixOf (ls : List Line) : throughClosing ls <+: ls := by
  induction ls with
  | nil => exact List.nil_prefix
  | cons l ls ih =>
    rw [throughClosing, List.cons_prefix_cons]
    refine ⟨rfl, ?_⟩
    split
    · exact List.nil_prefix
    · exact ih

lemma untilClosed_eq (ls : List Line) : Bindings.untilClosed ls = (throughClosing ls).flatMap (' ' :: ·) := by
  induction ls with
  | nil => rfl
  | cons l ls ih =>
    rw [Bindings.untilClosed, throughClosing, List.flatMap_cons, ih]
    split <;> rfl

lemma untilClosed_throughClosing (ls : List Line) :
    Bindings.untilClosed (throughClosing ls) = Bindings.untilClosed ls := by
  induction ls with
  | nil => rfl
  | cons l ls ih =>
    rw [throughClosing, Bindings.untilClosed, Bindings.untilClosed]
    split
    · rfl
    · rw [ih]

/-- What is read of a signature is the text of these lines, with spaces in between. -/
lemma wholeSignature_eq (hlines : ∀ l ∈ line :: following, '\n' ∉ l) :
    Bindings.wholeSignature line following = oneLine (Text.joinLines (throughClosing (line :: following))) := by
  have hread : ∀ l ∈ throughClosing (line :: following), oneLine l = l := fun l hl =>
    oneLine_of_notMem (hlines l ((throughClosing_isPrefixOf _).subset hl))
  rw [throughClosing] at hread ⊢
  obtain ⟨hfirst, hothers⟩ := List.forall_mem_cons.mp hread
  rw [Bindings.wholeSignature, Text.joinLines, Text.joinWith, oneLine_append, hfirst]
  by_cases hclosing : line.contains ')' = true
  · simp only [hclosing, if_true, List.flatMap_nil]
    exact (List.append_nil line).symm
  · simp only [if_neg hclosing] at hothers ⊢
    rw [untilClosed_eq, oneLine, List.map_flatMap]
    refine congrArg (line ++ ·) (List.flatMap_congr fun l hl => ?_)
    exact congrArg (' ' :: ·) (hothers l hl).symm

/-- A text is read as far as the lines before its last one have no closing round bracket. -/
lemma exists_joinLines_throughClosing (h : ∀ l ∈ (Text.lines front).dropLast, ')' ∉ l) (back : List Char) :
    ∃ more, Text.joinLines (throughClosing (Text.lines (front ++ back))) = front ++ more ∧ more <+: back := by
  -- the first line is cut off, as long as the front goes on behind it
  induction hlength : front.length using Nat.strong_induction_on generalizing front with
  | _ k ih =>
    subst hlength
    by_cases hfeed : '\n' ∈ front
    · obtain ⟨l, rest, rfl, hl⟩ := List.eq_append_cons_of_mem hfeed
      have hlines (t : List Char) : Text.lines (l ++ '\n' :: t) = l :: Text.lines t := by
        rw [Text.lines_append_lineFeed, Text.lines_eq_singleton hl, List.singleton_append]
      rw [hlines, List.dropLast_cons_of_ne_nil (Text.lines_ne_nil rest)] at h
      obtain ⟨hopen, hrest⟩ := List.forall_mem_cons.mp h
      obtain ⟨more, hread, hmore⟩ := ih rest.length (by simp only [List.length_append, List.length_cons]; omega) hrest rfl
      have hne : throughClosing (Text.lines (rest ++ back)) ≠ [] := by
        obtain ⟨first, others, hcons⟩ := List.exists_cons_of_ne_nil (Text.lines_ne_nil (rest ++ back))
        rw [hcons]
        exact List.cons_ne_nil _ _
      refine ⟨more, ?_, hmore⟩
      rw [List.append_assoc, List.cons_append, hlines, throughClosing, if_neg (by simpa using hopen), Text.joinLines,
        Text.joinWith_cons _ hne, ← Text.joinLines, hread]
      simp
    · obtain ⟨first, others, hlines⟩ := List.exists_cons_of_ne_nil (Text.lines_ne_nil back)
      have hback : Text.joinLines (first :: others) = back := by rw [← hlines, Text.joinLines_lines]
      rw [Text.lines_append_of_notMem hfeed, hlines]
      obtain ⟨read, hread⟩ : ∃ read, throughClosing ((front ++ first) :: others) = (front ++ first) :: read := ⟨_, rfl⟩
      have hprefix := throughClosing_isPrefixOf ((front ++ first) :: others)
      rw [hread, List.cons_prefix_cons] at hprefix
      obtain ⟨unread, rfl⟩ := hprefix.2
      refine ⟨Text.joinLines (first :: read), ?_, ?_⟩
      · change Text.joinLines (throughClosing ((front ++ first) :: (read ++ unread))) = _
        rw [hread, Text.joinLines, Text.joinWith, List.append_assoc]
        rfl
      · rw [← hback, Text.joinLines, Text.joinWith, Text.joinLines, Text.joinWith, List.flatMap_append, ← List.append_assoc]
        exact List.prefix_append _ _

end Reading

end CodeAudit.Source
