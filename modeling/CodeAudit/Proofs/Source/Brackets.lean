import CodeAudit.Proofs.Source.Mask
import CodeAudit.Proofs.Text.Lines
import CodeAudit.Source.Layout
import Mathlib.Data.Int.Notation

/-! Where a bracketed expression ends. The depth at the start of a line forgets a surplus of closing brackets, the
search for the end does not; but the search goes on only as long as brackets are open, and until then the two counts
agree. -/
namespace CodeAudit.Source

section Depth

variable {masked : List Line}

@[simp] lemma openAfter_append_singleton (lines : List Line) (line : Line) :
    openAfter (lines ++ [line]) = max 0 (openAfter lines + bracketDelta line) := by
  simp [openAfter]

lemma depthBefore_succ {index : ℕ} {line : Line} (h : masked[index]? = some line) :
    depthBefore masked (index + 1) = max 0 (depthBefore masked index + bracketDelta line) := by
  rw [depthBefore, depthBefore, List.take_add_one, h, Option.toList_some, openAfter_append_singleton]

end Depth

section Search

variable {ends : Line → Bool} {depth : ℤ} {index : ℕ} {line : Line} {rest : List Line}

lemma closingLine_cons_of_closed (h : depth + bracketDelta line ≤ 0) (hends : ends line = true) :
    closingLine ends depth index (line :: rest) = index := by
  simp [closingLine, h, hends]

lemma closingLine_cons_of_open (h : 0 < depth + bracketDelta line) :
    closingLine ends depth index (line :: rest) = closingLine ends (depth + bracketDelta line) (index + 1) rest := by
  simp [closingLine, Int.not_le.mpr h]

/-- A condition that every line meets makes no difference to the search. -/
lemma closingLine_of_forall {lines : List Line} (h : ∀ line ∈ lines, ends line = true) (depth : ℤ) (index : ℕ) :
    closingLine ends depth index lines = closingLine (fun _ => true) depth index lines := by
  induction lines generalizing depth index with
  | nil => rfl
  | cons line rest ih =>
    obtain ⟨hline, hrest⟩ := List.forall_mem_cons.mp h
    rw [closingLine, closingLine, hline, ih hrest]

end Search

/-- The bracketed expression that line `index` is part of ends on line `last`: brackets are open before each line after
the first one, and none are open behind it, unless there are no more lines. -/
structure ClosesAt (masked : List Line) (index last : ℕ) : Prop where
  index_le : index ≤ last
  lt_length : last < masked.length
  depth_pos : ∀ k, index < k → k ≤ last → 0 < depthBefore masked k
  closed : depthBefore masked (last + 1) = 0 ∨ last + 1 = masked.length

namespace ClosesAt

variable {masked : List Line} {index last : ℕ}

lemma self (hindex : index < masked.length)
    (h : depthBefore masked (index + 1) = 0 ∨ index + 1 = masked.length) : ClosesAt masked index index where
  index_le := Nat.le_refl index
  lt_length := hindex
  depth_pos _ hlt hle := absurd hlt (Nat.not_lt.mpr hle)
  closed := h

/-- An expression that is still open on the next line ends where it does from there. -/
lemma of_succ (h : ClosesAt masked (index + 1) last) (hopen : 0 < depthBefore masked (index + 1)) :
    ClosesAt masked index last where
  index_le := Nat.le_of_succ_le h.index_le
  lt_length := h.lt_length
  depth_pos k hlt hle := by
    rcases Nat.eq_or_lt_of_le hlt with rfl | hlt
    · exact hopen
    · exact h.depth_pos k hlt hle
  closed := h.closed

end ClosesAt

/-- By induction on the lines from `index` on: what the search carries along is the depth at the start of its line. -/
lemma closesAt_closingLine {masked lines : List Line} {index : ℕ} (h : masked.drop index = lines) (hne : lines ≠ []) :
    ClosesAt masked index (closingLine (fun _ => true) (depthBefore masked index) index lines) := by
  induction lines generalizing index with
  | nil => exact absurd rfl hne
  | cons line rest ih =>
    obtain ⟨hline, hrest⟩ := Text.of_drop_eq_cons h
    have hindex : index < masked.length := (List.getElem?_eq_some_iff.mp hline).1
    have hdepth := depthBefore_succ hline
    by_cases hclosed : depthBefore masked index + bracketDelta line ≤ 0
    · rw [closingLine_cons_of_closed hclosed rfl]
      exact .self hindex (.inl (by omega))
    · have hsum : depthBefore masked index + bracketDelta line = depthBefore masked (index + 1) := by omega
      rw [closingLine_cons_of_open (Int.not_le.mp hclosed), hsum]
      by_cases hlast : rest = []
      · subst hlast
        have hlength : masked.length ≤ index + 1 := List.drop_eq_nil_iff.mp hrest
        exact .self hindex (.inr (by omega))
      · exact (ih hrest hlast).of_succ (by omega)

/-- The end of the bracketed expression that a line is part of. It is the end of the statement as well, where no bracket
is open before the line and no line of the text is carried on by a backslash. -/
theorem bracketedEnd_closes (code : List Char) {index : ℕ} (h : index < (maskLines code).length) :
    ClosesAt (maskLines code) index (bracketedEnd (maskLines code) index) ∧
      (depthBefore (maskLines code) index = 0 → (∀ line ∈ maskLines code, endsWithChar '\\' line = false) →
        statementEnd (maskLines code) index = bracketedEnd (maskLines code) index) := by
  generalize maskLines code = masked at h ⊢
  constructor
  · have hne : masked.drop index ≠ [] := fun hnil => absurd h (Nat.not_lt.mpr (List.drop_eq_nil_iff.mp hnil))
    exact closesAt_closingLine rfl hne
  · intro hdepth hplain
    have hends : ∀ line ∈ masked.drop index, (!endsWithChar '\\' line) = true := by
      intro line hline
      rw [hplain line (List.mem_of_mem_drop hline)]
      rfl
    rw [statementEnd, bracketedEnd, hdepth, closingLine_of_forall hends]

/-- A surplus of closing brackets above the line, a call over three lines, and one bracket more than closes it. -/
theorem bracketedEnd_closes_call :
    2 < (maskLines "x)\n)]\ny = f([1,\n  g(2)\n]))\nz".toList).length ∧
      depthBefore (maskLines "x)\n)]\ny = f([1,\n  g(2)\n]))\nz".toList) 2 = 0 ∧
      (∀ line ∈ maskLines "x)\n)]\ny = f([1,\n  g(2)\n]))\nz".toList, endsWithChar '\\' line = false) ∧
      ClosesAt (maskLines "x)\n)]\ny = f([1,\n  g(2)\n]))\nz".toList) 2 4 ∧
      statementEnd (maskLines "x)\n)]\ny = f([1,\n  g(2)\n]))\nz".toList) 2 = 4 := by
  have hindex : 2 < (maskLines "x)\n)]\ny = f([1,\n  g(2)\n]))\nz".toList).length := by decide +kernel
  have hdepth : depthBefore (maskLines "x)\n)]\ny = f([1,\n  g(2)\n]))\nz".toList) 2 = 0 := by decide +kernel
  have hplain : ∀ line ∈ maskLines "x)\n)]\ny = f([1,\n  g(2)\n]))\nz".toList, endsWithChar '\\' line = false := by
    decide +kernel
  have hend : bracketedEnd (maskLines "x)\n)]\ny = f([1,\n  g(2)\n]))\nz".toList) 2 = 4 := by decide +kernel
  have h := bracketedEnd_closes "x)\n)]\ny = f([1,\n  g(2)\n]))\nz".toList hindex
  rw [hend] at h
  exact ⟨hindex, hdepth, hplain, h.1, h.2 hdepth hplain⟩

end CodeAudit.Source
