import CodeAudit.Proofs.Text.Classes

/-! The words of a text: its longest runs of word characters. Where two texts meet at another character, the words of
both are those of the one and then those of the other. -/
namespace CodeAudit.Text

/-- The longest runs of word characters. -/
def wordRuns (s : List Char) : List (List Char) :=
  (s.splitOnP fun c => !isWord c).filter fun run => !run.isEmpty

/-- Word characters, the first of which is an ASCII letter or an underscore. -/
def isName : List Char → Bool
  | [] => false
  | c :: rest => isNameStart c && rest.all isWord

/-- What is left of a word from its first ASCII letter or underscore on. -/
def nameEnd (w : List Char) : List Char :=
  w.dropWhile (!isNameStart ·)

section Names

variable {n w : List Char}

lemma isName_iff : isName n = true ↔ ∃ c rest, n = c :: rest ∧ isNameStart c = true ∧ ∀ d ∈ rest, isWord d = true := by
  cases n with
  | nil => simp [isName]
  | cons c rest =>
    rw [isName, Bool.and_eq_true, List.all_eq_true]
    constructor
    · rintro ⟨hc, hrest⟩
      exact ⟨c, rest, rfl, hc, hrest⟩
    · rintro ⟨_, _, h, hc, hrest⟩
      obtain ⟨rfl, rfl⟩ := List.cons.inj h
      exact ⟨hc, hrest⟩

lemma isWord_of_mem_name (h : isName n = true) : ∀ c ∈ n, isWord c = true := by
  obtain ⟨c, rest, rfl, hc, hrest⟩ := isName_iff.mp h
  exact List.forall_mem_cons.mpr ⟨isWord_of_isNameStart hc, hrest⟩

lemma ne_nil_of_isName (h : isName n = true) : n ≠ [] := by
  obtain ⟨c, rest, rfl, -⟩ := isName_iff.mp h
  exact List.cons_ne_nil c rest

lemma nameEnd_of_isName (h : isName n = true) : nameEnd n = n := by
  obtain ⟨c, rest, rfl, hc, -⟩ := isName_iff.mp h
  exact List.dropWhile_cons_of_neg (by simp [hc])

/-- A word is characters that start no name, and then a name or nothing. -/
lemma exists_eq_nameEnd (h : ∀ c ∈ w, isWord c = true) :
    ∃ front, w = front ++ nameEnd w ∧ (∀ c ∈ front, isNameStart c = false) ∧
      (nameEnd w = [] ∨ isName (nameEnd w) = true) := by
  refine ⟨w.takeWhile (!isNameStart ·), List.takeWhile_append_dropWhile.symm, ?_, ?_⟩
  · intro c hc
    simpa using List.mem_takeWhile_imp hc
  · rcases hend : nameEnd w with _ | ⟨c, rest⟩
    · exact .inl rfl
    · refine .inr (isName_iff.mpr ⟨c, rest, rfl, ?_, fun d hd => h d ?_⟩)
      · have hfirst := List.head?_dropWhile_not (!isNameStart ·) w
        rw [← nameEnd, hend] at hfirst
        simpa using hfirst
      · have hsuffix : nameEnd w <:+ w := List.dropWhile_suffix _
        exact hsuffix.subset (hend ▸ List.mem_cons_of_mem c hd)

end Names

section Words

variable {a b s : List Char} {c : Char}

lemma wordRuns_append_cons (hc : isWord c = false) (a b : List Char) :
    wordRuns (a ++ c :: b) = wordRuns a ++ wordRuns b := by
  rw [wordRuns, List.splitOnP_append_cons a b (by simpa using hc), List.filter_append]
  rfl

lemma wordRuns_nil : wordRuns [] = [] := by
  simp [wordRuns, List.splitOnP_nil]

lemma wordRuns_cons (hc : isWord c = false) (b : List Char) : wordRuns (c :: b) = wordRuns b := by
  simpa [wordRuns_nil] using wordRuns_append_cons hc [] b

lemma wordRuns_eq_nil (h : ∀ c ∈ s, isWord c = false) : wordRuns s = [] := by
  induction s with
  | nil => exact wordRuns_nil
  | cons c s ih =>
    obtain ⟨hc, hs⟩ := List.forall_mem_cons.mp h
    rw [wordRuns_cons hc, ih hs]

lemma wordRuns_of_word (hne : s ≠ []) (h : ∀ c ∈ s, isWord c = true) : wordRuns s = [s] := by
  rw [wordRuns, List.splitOnP_eq_singleton fun c hc => by simp [h c hc]]
  simp [hne]

/-- The words of two texts where the second one does not go on with a word. -/
lemma wordRuns_append (h : b.head?.any isWord = false) (a : List Char) :
    wordRuns (a ++ b) = wordRuns a ++ wordRuns b := by
  cases b with
  | nil => simp [wordRuns_nil]
  | cons c b =>
    have hc : isWord c = false := h
    rw [wordRuns_append_cons hc, wordRuns_cons hc]

/-- The words of two texts where the first one does not end in a word. -/
lemma wordRuns_append_of_getLast? (h : a.getLast?.any isWord = false) (b : List Char) :
    wordRuns (a ++ b) = wordRuns a ++ wordRuns b := by
  rcases List.eq_nil_or_concat a with rfl | ⟨front, c, rfl⟩
  · simp [wordRuns_nil]
  · rw [List.concat_eq_append] at h ⊢
    have hc : isWord c = false := by simpa using h
    rw [List.append_assoc, List.singleton_append, wordRuns_append_cons hc, wordRuns_append_cons hc, wordRuns_nil,
      List.append_nil]

/-- What has no word characters before and after a text adds no words. -/
lemma wordRuns_between (ha : ∀ c ∈ a, isWord c = false) (hb : ∀ c ∈ b, isWord c = false) (s : List Char) :
    wordRuns (a ++ (s ++ b)) = wordRuns s := by
  have hfirst : a.getLast?.any isWord = false := by
    cases h : a.getLast? with
    | none => rfl
    | some c => exact ha c (List.mem_of_getLast? h)
  rw [wordRuns_append_of_getLast? hfirst, wordRuns_append (head?_any_eq_false hb), wordRuns_eq_nil ha, wordRuns_eq_nil hb,
    List.nil_append, List.append_nil]

/-- Word characters that stand alone are one of the words. -/
lemma mem_wordRuns {w : List Char} (hne : w ≠ []) (hw : ∀ c ∈ w, isWord c = true)
    (ha : a.getLast?.any isWord = false) (hb : b.head?.any isWord = false) : w ∈ wordRuns (a ++ (w ++ b)) := by
  rw [wordRuns_append_of_getLast? ha, wordRuns_append hb, wordRuns_of_word hne hw]
  simp

/-- A text that starts with a word character is a word and what follows it. -/
lemma exists_wordRun (h : isWord c = true) (s : List Char) :
    ∃ w rest, c :: s = w ++ rest ∧ w ≠ [] ∧ (∀ d ∈ w, isWord d = true) ∧ rest.head?.any isWord = false ∧
      wordRuns (c :: s) = w :: wordRuns rest := by
  have hne : (c :: s).takeWhile isWord ≠ [] := by simp [h]
  have hword : ∀ d ∈ (c :: s).takeWhile isWord, isWord d = true := fun d hd => List.mem_takeWhile_imp hd
  have hrest : ((c :: s).dropWhile isWord).head?.any isWord = false := by
    have hend := List.head?_dropWhile_not isWord (c :: s)
    cases hd : ((c :: s).dropWhile isWord).head? with
    | none => rfl
    | some d => simpa [hd] using hend
  have hsplit : c :: s = (c :: s).takeWhile isWord ++ (c :: s).dropWhile isWord :=
    List.takeWhile_append_dropWhile.symm
  refine ⟨_, _, hsplit, hne, hword, hrest, ?_⟩
  have hruns := wordRuns_append hrest ((c :: s).takeWhile isWord)
  rwa [← hsplit, wordRuns_of_word hne hword] at hruns

end Words

end CodeAudit.Text
