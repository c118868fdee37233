import CodeAudit.Proofs.Regex.FirstWay

/-! The matches in a text one after the other. What stands where no match can begin is passed over, a match takes its
part of the text, and the search goes on behind it. -/
namespace CodeAudit.Regex

/-- The position between two parts of a text from which a search goes on. -/
def Cursor.after (pre post : List Char) : Cursor := ⟨pre.length, pre.getLast?, post, []⟩

/-- The matches in `post` that a search finds when it goes on behind `pre`. -/
def allAfter (r : Regex) (pre post : List Char) : List Found :=
  r.allFrom (post.length + 1) (.after pre post) []

lemma all_eq_allAfter (r : Regex) (text : List Char) : r.all text = r.allAfter [] text := rfl

variable {r : Regex} {pre w post : List Char}

lemma Cursor.at_after (pre post : List Char) : (Cursor.after pre post).At pre post := ⟨rfl, rfl, rfl⟩

lemma Cursor.At.eq_after {s : Cursor} (h : s.At pre post) (hgroups : s.groups = []) : s = .after pre post := by
  obtain ⟨hindex, hbefore, hrest⟩ := h
  cases s
  simp_all [Cursor.after]

/-- The matches found before are in front of those that are found later. -/
lemma allFrom_eq_append (n : ℕ) (s : Cursor) (done : List Found) :
    r.allFrom n s done = done.reverse ++ r.allFrom n s [] := by
  induction n generalizing s done with
  | zero => simp [allFrom]
  | succ n ih =>
    rw [allFrom, allFrom]
    split
    · simp
    · rename_i m t _
      dsimp only
      split
      · split
        · simp
        · rw [ih _ (m :: done), ih _ [m]]
          simp
      · rw [ih _ (m :: done), ih _ [m]]
        simp

/-- Where the search goes on behind a match: at its end, or one character later if the match is empty. -/
def allBehind (r : Regex) (n : ℕ) (m : Found) (pre : List Char) : List Char → List Found
  | [] => if m.span.size = 0 then [] else r.allFrom n (.after pre []) []
  | c :: rest =>
    if m.span.size = 0 then r.allFrom n (.after (pre ++ [c]) rest) [] else r.allFrom n (.after pre (c :: rest)) []

lemma allFrom_of_found {n : ℕ} {s t : Cursor} {m : Found} (hm : r.foundFrom s s.rest = some (m, t))
    (hat : t.At pre post) : r.allFrom (n + 1) s [] = m :: r.allBehind n m pre post := by
  have hafter : { t with groups := [] } = Cursor.after pre post := (hat.withGroups []).eq_after rfl
  rw [allFrom, hm]
  dsimp only
  rw [hafter, hat.rest]
  cases post with
  | nil =>
    dsimp only [allBehind]
    split
    · rfl
    · exact allFrom_eq_append n _ [m]
  | cons c rest =>
    have hmoved : (Cursor.after pre (c :: rest)).moveTo c rest = .after (pre ++ [c]) rest :=
      (Cursor.at_after _ _).moveTo.eq_after rfl
    dsimp only [allBehind]
    rw [hmoved, allFrom_eq_append n _ [m], allFrom_eq_append n _ [m]]
    split <;> rfl

lemma allFrom_of_none {n : ℕ} {s : Cursor} (h : r.foundFrom s s.rest = none) : r.allFrom n s [] = [] := by
  cases n with
  | zero => rfl
  | succ n =>
    rw [allFrom, h]
    rfl

/-- A search in a text needs no more steps than the text has characters, and one to see its end. -/
lemma allFrom_congr (h : r.refersBack = false) {n k : ℕ} (hn : post.length < n) (hk : post.length < k) :
    r.allFrom n (.after pre post) [] = r.allFrom k (.after pre post) [] := by
  induction n generalizing k pre post with
  | zero => exact absurd hn (Nat.not_lt_zero _)
  | succ n ih =>
    obtain ⟨k, rfl⟩ : ∃ j, k = j + 1 := ⟨k - 1, by omega⟩
    cases hm : r.foundFrom (.after pre post) post with
    | none => rw [allFrom_of_none hm, allFrom_of_none hm]
    | some found =>
      obtain ⟨m, t⟩ := found
      obtain ⟨skipped, w, post', rfl, hat, hcovers⟩ := covers_of_foundFrom h (Cursor.at_after pre post) hm
      have hstop : m.start + m.span.size = m.start + w.length := hcovers.stop.trans (by rw [hcovers.start])
      simp only [List.length_append] at hn hk
      rw [allFrom_of_found hm hat, allFrom_of_found hm hat]
      cases post' with
      | nil =>
        dsimp only [allBehind]
        split
        · rfl
        · rw [ih (k := k) (by omega) (by omega)]
      | cons c rest =>
        simp only [List.length_cons] at hn hk
        dsimp only [allBehind]
        split
        · rw [ih (k := k) (by omega) (by omega)]
        · rw [ih (k := k) (by simp only [List.length_cons]; omega) (by simp only [List.length_cons]; omega)]

/-- A search finds nothing where no match can begin. -/
lemma allAfter_eq_nil (h : r.refersBack = false)
    (hnone : ∀ skipped w post', post = skipped ++ (w ++ post') → ¬ r.Spells (pre ++ skipped) w post') :
    r.allAfter pre post = [] := by
  refine allFrom_of_none (Option.not_isSome_iff_eq_none.mp fun hsome => ?_)
  obtain ⟨skipped, w, post', htext, hspells⟩ := (foundFrom_isSome_iff h (Cursor.at_after pre post)).mp hsome
  exact hnone skipped w post' htext hspells

lemma all_eq_nil (h : r.refersBack = false) {text : List Char}
    (hnone : ∀ pre w post, text = pre ++ (w ++ post) → ¬ r.Spells pre w post) : r.all text = [] := by
  rw [all_eq_allAfter]
  exact allAfter_eq_nil h hnone

/-- A character is passed over if no match can begin with it. -/
lemma allAfter_cons (h : r.refersBack = false) {c : Char}
    (hnone : ∀ w post', c :: post = w ++ post' → ¬ r.Spells pre w post') :
    r.allAfter pre (c :: post) = r.allAfter (pre ++ [c]) post := by
  have hat := Cursor.at_after pre (c :: post)
  have hhere : r.foundAt (.after pre (c :: post)) = none := by
    refine Option.not_isSome_iff_eq_none.mp fun hsome => ?_
    obtain ⟨w, post', htext, hspells⟩ := (foundAt_isSome_iff h hat).mp hsome
    exact hnone w post' htext hspells
  have hfound : r.foundFrom (.after pre (c :: post)) (c :: post) = r.foundFrom (.after (pre ++ [c]) post) post := by
    rw [foundFrom, hhere, hat.moveTo.eq_after rfl]
  have hsteps : r.allAfter (pre ++ [c]) post = r.allFrom (post.length + 1 + 1) (.after (pre ++ [c]) post) [] :=
    allFrom_congr h (Nat.lt_succ_self _) (by omega)
  rw [hsteps, allAfter, List.length_cons]
  cases hm : r.foundFrom (.after (pre ++ [c]) post) post with
  | none => rw [allFrom_of_none (hfound.trans hm), allFrom_of_none hm]
  | some found =>
    obtain ⟨m, t⟩ := found
    obtain ⟨skipped, w, post', rfl, hend, -⟩ := covers_of_foundFrom h (Cursor.at_after (pre ++ [c]) post) hm
    rw [allFrom_of_found (hfound.trans hm) hend, allFrom_of_found hm hend]

/-- Characters are passed over if no match can begin with any of them. -/
lemma allAfter_append (h : r.refersBack = false) {skipped : List Char}
    (hnone : ∀ front c back, skipped = front ++ c :: back →
      ∀ w post', c :: (back ++ post) = w ++ post' → ¬ r.Spells (pre ++ front) w post') :
    r.allAfter pre (skipped ++ post) = r.allAfter (pre ++ skipped) post := by
  induction skipped generalizing pre with
  | nil => rw [List.append_nil, List.nil_append]
  | cons c skipped ih =>
    have hfirst := hnone [] c skipped rfl
    rw [List.append_nil] at hfirst
    rw [List.cons_append, allAfter_cons h hfirst, ih, List.append_assoc, List.singleton_append]
    intro front d back hskipped
    rw [List.append_assoc, List.singleton_append]
    exact hnone (c :: front) d back (by rw [hskipped, List.cons_append])

/-- A match that is read is the next one, and the search goes on behind it. -/
lemma Reads.exists_allAfter (h : r.refersBack = false) {caught : List (String × List Char)}
    (hr : r.Reads pre w post caught) (hw : w ≠ []) :
    ∃ m, m.Takes pre w post caught ∧ r.allAfter pre (w ++ post) = m :: r.allAfter (pre ++ w) post := by
  obtain ⟨m, t, hm, hat, hsize, htakes⟩ := hr.exists_foundAt (Cursor.at_after pre (w ++ post)) rfl
  refine ⟨m, htakes, ?_⟩
  have hlength := List.length_pos_iff.mpr hw
  have hfound : r.foundFrom (.after pre (w ++ post)) (w ++ post) = some (m, t) := by
    obtain ⟨c, w, rfl⟩ := List.exists_cons_of_ne_nil hw
    rw [List.cons_append, foundFrom, ← List.cons_append, hm]
  have hbehind : r.allBehind (w ++ post).length m (pre ++ w) post =
      r.allFrom (w ++ post).length (.after (pre ++ w) post) [] := by
    cases post <;> exact if_neg (by omega)
  rw [allAfter, allFrom_of_found hfound hat, hbehind]
  exact congrArg (m :: ·) (allFrom_congr h (by simp only [List.length_append]; omega) (Nat.lt_succ_self _))

end CodeAudit.Regex
