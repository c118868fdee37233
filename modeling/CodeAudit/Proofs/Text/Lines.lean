import CodeAudit.Text.Lines
import Mathlib.Tactic.Lemma

/-! The lines of a text, and texts that are joined from lines. -/
namespace CodeAudit.Text

/-- What stands at a place, and what is left behind it. -/
lemma of_drop_eq_cons {α : Type} {xs rest : List α} {i : Nat} {x : α} (h : xs.drop i = x :: rest) :
    xs[i]? = some x ∧ xs.drop (i + 1) = rest := by
  constructor
  · rw [← Nat.add_zero i, ← List.getElem?_drop, h]
    rfl
  · rw [← List.drop_drop, h]
    rfl

section Pieces

variable {sep : Char}

lemma splitOn_cons (sep c : Char) (s : List Char) :
    splitOn sep (c :: s) = if c == sep then [] :: splitOn sep s else (splitOn sep s).modifyHead (c :: ·) := by
  simp only [splitOn_eq]
  exact List.splitOn_cons_eq_if_modifyHead c s

lemma splitOn_append_of_notMem {s : List Char} (h : sep ∉ s) (t : List Char) :
    splitOn sep (s ++ t) = (splitOn sep t).modifyHead (s ++ ·) := by
  induction s with
  | nil => exact (congrFun List.modifyHead_id (splitOn sep t)).symm
  | cons c rest ih =>
    obtain ⟨hc, hrest⟩ := not_or.mp (mt List.mem_cons.mpr h)
    rw [List.cons_append, splitOn_cons, if_neg (by simpa using Ne.symm hc), ih hrest, List.modifyHead_modifyHead]
    rfl

lemma splitOn_eq_singleton {s : List Char} (h : sep ∉ s) : splitOn sep s = [s] := by
  rw [splitOn_eq]
  exact List.splitOn_eq_singleton h

/-- What follows a text goes on with the text's last piece. -/
lemma exists_splitOn_append (sep : Char) (s : List Char) :
    ∃ front last, ∀ t, splitOn sep (s ++ t) = front ++ (splitOn sep t).modifyHead (last ++ ·) := by
  induction s with
  | nil => exact ⟨[], [], fun t => (congrFun List.modifyHead_id (splitOn sep t)).symm⟩
  | cons c rest ih =>
    obtain ⟨front, last, ih⟩ := ih
    by_cases hc : c = sep
    · refine ⟨[] :: front, last, fun t => ?_⟩
      rw [List.cons_append, splitOn_cons, if_pos (by simpa using hc), ih]
      rfl
    · have hcons : ∀ t, splitOn sep (c :: rest ++ t) =
          (front ++ (splitOn sep t).modifyHead (last ++ ·)).modifyHead (c :: ·) := by
        intro t
        rw [List.cons_append, splitOn_cons, if_neg (by simpa using hc), ih]
      cases front with
      | nil =>
        refine ⟨[], c :: last, fun t => ?_⟩
        rw [hcons, List.nil_append, List.modifyHead_modifyHead]
        rfl
      | cons first front => exact ⟨(c :: first) :: front, last, hcons⟩

end Pieces

lemma lines_cons (c : Char) (s : List Char) :
    lines (c :: s) = if c == '\n' then [] :: lines s else (lines s).modifyHead (c :: ·) := splitOn_cons '\n' c s

lemma lines_ne_nil (s : List Char) : lines s ≠ [] := by
  rw [lines, splitOn_eq]
  exact List.splitOn_ne_nil _ _

lemma lines_eq_singleton {s : List Char} (h : '\n' ∉ s) : lines s = [s] := splitOn_eq_singleton h

lemma lines_append_of_notMem {s : List Char} (h : '\n' ∉ s) (t : List Char) :
    lines (s ++ t) = (lines t).modifyHead (s ++ ·) := splitOn_append_of_notMem h t

lemma exists_lines_append (s : List Char) :
    ∃ front last, ∀ t, lines (s ++ t) = front ++ (lines t).modifyHead (last ++ ·) := exists_splitOn_append '\n' s

lemma lines_append_lineFeed (a b : List Char) : lines (a ++ '\n' :: b) = lines a ++ lines b := by
  simp only [lines, splitOn_eq]
  exact List.splitOn_append_cons_self _ _

lemma lineFeed_notMem_of_mem_lines {s l : List Char} (h : l ∈ lines s) : '\n' ∉ l := by
  induction s generalizing l with
  | nil =>
    obtain rfl := List.mem_singleton.mp h
    exact List.not_mem_nil
  | cons c rest ih =>
    rw [lines_cons] at h
    split at h
    · rcases List.mem_cons.mp h with rfl | h
      · exact List.not_mem_nil
      · exact ih h
    · rename_i hc
      obtain ⟨first, others, hlines⟩ := List.exists_cons_of_ne_nil (lines_ne_nil rest)
      rw [hlines] at h ih
      rcases List.mem_cons.mp h with rfl | h
      · exact not_or.mpr ⟨fun hfeed => hc (beq_iff_eq.mpr hfeed.symm), ih List.mem_cons_self⟩ ∘ List.mem_cons.mp
      · exact ih (List.mem_cons_of_mem _ h)

section Joined

variable {ls : List (List Char)}

lemma joinWith_cons (sep : List Char) (h : ls ≠ []) (l : List Char) :
    joinWith sep (l :: ls) = l ++ sep ++ joinWith sep ls := by
  obtain ⟨next, ls, rfl⟩ := List.exists_cons_of_ne_nil h
  simp [joinWith]

lemma joinWith_append (sep : List Char) (hls : ls ≠ []) {more : List (List Char)} (hmore : more ≠ []) :
    joinWith sep (ls ++ more) = joinWith sep ls ++ sep ++ joinWith sep more := by
  induction ls with
  | nil => exact absurd rfl hls
  | cons l ls ih =>
    cases ls with
    | nil =>
      rw [List.singleton_append, joinWith_cons sep hmore]
      simp [joinWith]
    | cons next ls =>
      rw [List.cons_append, joinWith_cons sep (by simp), ih (List.cons_ne_nil next ls),
        joinWith_cons sep (List.cons_ne_nil next ls)]
      simp only [List.append_assoc]

lemma joinWith_append_cons (sep : List Char) (ls : List (List Char)) (l : List Char) (more : List (List Char)) :
    joinWith sep (ls ++ l :: more) = ls.flatMap (· ++ sep) ++ (l ++ more.flatMap (sep ++ ·)) := by
  induction ls with
  | nil => rfl
  | cons first ls ih =>
    rw [List.cons_append, joinWith_cons sep (by simp), ih, List.flatMap_cons]
    simp only [List.append_assoc]

lemma joinWith_eq_intercalate (sep : List Char) (ls : List (List Char)) : joinWith sep ls = sep.intercalate ls := by
  induction ls with
  | nil => rfl
  | cons l ls ih =>
    cases ls with
    | nil => simp [joinWith]
    | cons next ls =>
      rw [List.intercalate_cons_cons, ← ih]
      simp [joinWith]

lemma splitOn_joinWith {sep : Char} (hne : ls ≠ []) (h : ∀ l ∈ ls, sep ∉ l) : splitOn sep (joinWith [sep] ls) = ls := by
  rw [splitOn_eq, joinWith_eq_intercalate]
  exact List.splitOn_intercalate sep h hne

lemma lines_joinLines (hne : ls ≠ []) (h : ∀ l ∈ ls, '\n' ∉ l) : lines (joinLines ls) = ls := splitOn_joinWith hne h

lemma joinLines_lines (s : List Char) : joinLines (lines s) = s := by
  rw [lines, splitOn_eq, joinLines, joinWith_eq_intercalate]
  exact List.intercalate_splitOn '\n'

lemma forall_mem_joinLines {p : Char → Prop} (hfeed : p '\n') (h : ∀ l ∈ ls, ∀ c ∈ l, p c) :
    ∀ c ∈ joinLines ls, p c := by
  intro c hc
  cases ls with
  | nil => exact absurd hc List.not_mem_nil
  | cons l ls =>
    obtain ⟨hl, hls⟩ := List.forall_mem_cons.mp h
    rcases List.mem_append.mp hc with hc | hc
    · exact hl c hc
    · obtain ⟨next, hnext, hc⟩ := List.mem_flatMap.mp hc
      rcases List.mem_cons.mp hc with rfl | hc
      · exact hfeed
      · exact hls next hnext c hc

end Joined

end CodeAudit.Text
