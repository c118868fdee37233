import CodeAudit.Proofs.Source.Join
import Mathlib.Data.List.Pairwise
import Mathlib.Data.List.TakeWhile

/-! One pass with a stack of open blocks finds for each line the blocks that it stands in. The stack is nested, so what
a line leaves on it are just the blocks that the line is indented deeper than. -/
namespace CodeAudit.Source

/-- Blocks that lie within one another, innermost first. -/
def OpenBlocks.Nested {α : Type} (blocks : OpenBlocks α) : Prop :=
  blocks.Pairwise fun inner outer => outer.1 < inner.1

namespace OpenBlocks

variable {α : Type} {blocks : OpenBlocks α}

/-- A line leaves on the stack just the blocks that it is indented deeper than: what lies below one of them is at a
smaller indentation still. -/
lemma Nested.enclosing_eq_filter (h : blocks.Nested) (indent : ℕ) :
    blocks.enclosing indent = blocks.filter fun b => b.1 < indent := by
  induction blocks with
  | nil => rfl
  | cons top outer ih =>
    obtain ⟨htop, houter⟩ := List.pairwise_cons.mp h
    by_cases hleft : indent ≤ top.1
    · have hdrop : enclosing (top :: outer) indent = enclosing outer indent := by
        simp [enclosing, hleft]
      rw [hdrop, ih houter, List.filter_cons_of_neg (by simpa using hleft)]
    · have hkeep : enclosing (top :: outer) indent = top :: outer := by
        simp [enclosing, hleft]
      rw [hkeep, eq_comm, List.filter_eq_self]
      intro b hb
      rcases List.mem_cons.mp hb with rfl | hb
      · simpa using hleft
      · have hlower := htop b hb
        exact decide_eq_true (by omega)

lemma Nested.mem_enclosing_iff (h : blocks.Nested) (indent : ℕ) {b : ℕ × α} :
    b ∈ blocks.enclosing indent ↔ b ∈ blocks ∧ b.1 < indent := by
  rw [h.enclosing_eq_filter, List.mem_filter, decide_eq_true_iff]

lemma Nested.enclosing (h : blocks.Nested) (indent : ℕ) : (blocks.enclosing indent).Nested :=
  h.sublist (List.dropWhile_sublist _)

/-- The block that a line opens lies within those that the line stands in. -/
lemma Nested.push (h : blocks.Nested) (indent : ℕ) (mark : α) :
    Nested ((indent, mark) :: blocks.enclosing indent) :=
  List.pairwise_cons.mpr ⟨fun _ hb => ((h.mem_enclosing_iff indent).mp hb).2, h.enclosing indent⟩

end OpenBlocks

section Membership

variable {margin p : ℕ} {line : Line} {rest : List Line}

lemma zero_mem_deeperLines_iff :
    0 ∈ deeperLines margin 0 (line :: rest) ↔ Text.isBlankText line = false ∧ margin < indentOf line := by
  have hlater : 0 ∉ deeperLines margin 1 rest := by
    rw [deeperLines_add margin 1 0 rest]
    simp
  rw [deeperLines]
  split
  · rename_i hblank
    simp [hblank, hlater]
  · rename_i hblank
    split
    · rename_i hshallow
      simp [Nat.not_lt.mpr hshallow]
    · rename_i hdeeper
      simp [hblank, Nat.not_le.mp hdeeper]

lemma succ_mem_deeperLines_iff :
    p + 1 ∈ deeperLines margin 0 (line :: rest) ↔
      (Text.isBlankText line = true ∨ margin < indentOf line) ∧ p ∈ deeperLines margin 0 rest := by
  have hlater : p + 1 ∈ deeperLines margin 1 rest ↔ p ∈ deeperLines margin 0 rest := by
    rw [deeperLines_add margin 1 0 rest]
    simp [Nat.add_comm 1]
  rw [deeperLines]
  split
  · rename_i hblank
    simp [hblank, hlater]
  · rename_i hblank
    split
    · rename_i hshallow
      simp [hblank, Nat.not_lt.mpr hshallow]
    · rename_i hdeeper
      simp [hblank, Nat.not_le.mp hdeeper, hlater]

lemma lt_of_mem_blockBody {masked : List Line} {index : ℕ} (h : p ∈ blockBody masked index) : index < p := by
  rw [blockBody] at h
  split at h
  · exact absurd h List.not_mem_nil
  · rename_i header rest _
    rw [deeperLines_add (indentOf header) (index + 1) 0 rest] at h
    obtain ⟨k, -, rfl⟩ := List.mem_map.mp h
    omega

lemma zero_notMem_blockBody (masked : List Line) (index : ℕ) : 0 ∉ blockBody masked index :=
  fun h => Nat.not_lt_zero index (lt_of_mem_blockBody h)

lemma succ_mem_blockBody_zero_iff : p + 1 ∈ blockBody (line :: rest) 0 ↔ p ∈ deeperLines (indentOf line) 0 rest := by
  have hbelow : blockBody (line :: rest) 0 = deeperLines (indentOf line) (1 + 0) rest := rfl
  rw [hbelow, deeperLines_add]
  simp [Nat.add_comm 1]

lemma succ_mem_blockBody_succ_iff {index : ℕ} :
    p + 1 ∈ blockBody (line :: rest) (index + 1) ↔ p ∈ blockBody rest index := by
  have hshift := blockBody_append [line] rest index
  rw [List.length_singleton, List.singleton_append, Nat.add_comm 1] at hshift
  rw [hshift]
  simp [Nat.add_comm 1]

end Membership

/-- A line with a mark that ends in a colon. -/
structure MarkedHeader (isMarked : Line → Bool) (header : Line) : Prop where
  marked : isMarked header = true
  colon : endsWithChar ':' header = true

/-- What has a colon is no blank. -/
lemma MarkedHeader.not_blank {isMarked : Line → Bool} {header : Line} (h : MarkedHeader isMarked header) :
    Text.isBlankText header = false := by
  by_contra hblank
  rw [Bool.not_eq_false] at hblank
  have hnil : header.reverse.dropWhile Text.isBlank = [] := by
    rw [List.dropWhile_eq_nil_iff]
    intro c hc
    exact List.all_eq_true.mp hblank c (List.mem_reverse.mp hc)
  have hcolon := h.colon
  rw [endsWithChar, hnil] at hcolon
  cases hcolon

/-- A marked header whose block has the line: the first line, or one of those below it. -/
lemma exists_header_cons_iff {isMarked : Line → Bool} {first : Line} {rest : List Line} {p : ℕ} :
    (∃ i header, (first :: rest)[i]? = some header ∧ MarkedHeader isMarked header ∧
        p + 1 ∈ blockBody (first :: rest) i) ↔
      (MarkedHeader isMarked first ∧ p ∈ deeperLines (indentOf first) 0 rest) ∨
        ∃ i header, rest[i]? = some header ∧ MarkedHeader isMarked header ∧ p ∈ blockBody rest i := by
  constructor
  · rintro ⟨i, header, hheader, hmarked, hp⟩
    cases i with
    | zero =>
      obtain rfl := Option.some.inj hheader
      exact .inl ⟨hmarked, succ_mem_blockBody_zero_iff.mp hp⟩
    | succ i => exact .inr ⟨i, header, hheader, hmarked, succ_mem_blockBody_succ_iff.mp hp⟩
  · rintro (⟨hmarked, hp⟩ | ⟨i, header, hheader, hmarked, hp⟩)
    · exact ⟨0, first, rfl, hmarked, succ_mem_blockBody_zero_iff.mpr hp⟩
    · exact ⟨i + 1, header, hheader, hmarked, succ_mem_blockBody_succ_iff.mpr hp⟩

/-- The stack below a line that is not blank. -/
def OpenBlocks.after (isMarked : Line → Bool) (blocks : OpenBlocks Bool) (line : Line) : OpenBlocks Bool :=
  if endsWithChar ':' line then (indentOf line, isMarked line) :: blocks.enclosing (indentOf line)
  else blocks.enclosing (indentOf line)

lemma OpenBlocks.Nested.after {isMarked : Line → Bool} {blocks : OpenBlocks Bool} (h : blocks.Nested) (line : Line) :
    (blocks.after isMarked line).Nested := by
  unfold OpenBlocks.after
  split
  · exact h.push _ _
  · exact h.enclosing _

/-- One line of the pass: what stands in a marked block after it stands in one that the line is inside of, or in the
one that it opens. -/
lemma OpenBlocks.Nested.exists_mem_after_iff {isMarked : Line → Bool} {blocks : OpenBlocks Bool} (h : blocks.Nested)
    {line : Line} {rest : List Line} {p : ℕ} :
    (∃ b ∈ blocks.after isMarked line, b.2 = true ∧ p ∈ deeperLines b.1 0 rest) ↔
      (∃ b ∈ blocks, b.2 = true ∧ b.1 < indentOf line ∧ p ∈ deeperLines b.1 0 rest) ∨
        (MarkedHeader isMarked line ∧ p ∈ deeperLines (indentOf line) 0 rest) := by
  have hkept : (∃ b ∈ blocks.enclosing (indentOf line), b.2 = true ∧ p ∈ deeperLines b.1 0 rest) ↔
      ∃ b ∈ blocks, b.2 = true ∧ b.1 < indentOf line ∧ p ∈ deeperLines b.1 0 rest := by
    simp only [h.mem_enclosing_iff]
    exact exists_congr fun b => by tauto
  unfold OpenBlocks.after
  split
  · rename_i hcolon
    have hheader : MarkedHeader isMarked line ↔ isMarked line = true := ⟨fun h => h.marked, fun h => ⟨h, hcolon⟩⟩
    rw [List.exists_mem_cons_iff, hkept, hheader, or_comm]
  · rename_i hcolon
    have hheader : ¬ MarkedHeader isMarked line := fun h => hcolon h.colon
    rw [hkept, iff_false_intro hheader, false_and, or_false]

section Pass

variable {isMarked : Line → Bool} {blocks : OpenBlocks Bool} {first : Line} {rest : List Line}

lemma insideMarked_cons_of_blank (h : Text.isBlankText first = true) :
    insideMarked isMarked blocks (first :: rest) = blocks.any (·.2) :: insideMarked isMarked blocks rest := by
  rw [insideMarked, if_pos h]

lemma insideMarked_cons_of_code (h : Text.isBlankText first = false) :
    insideMarked isMarked blocks (first :: rest) =
      (blocks.enclosing (indentOf first)).any (·.2) :: insideMarked isMarked (blocks.after isMarked first) rest := by
  rw [insideMarked, if_neg (by simp [h])]
  rfl

end Pass

lemma length_insideMarked (isMarked : Line → Bool) (blocks : OpenBlocks Bool) (lines : List Line) :
    (insideMarked isMarked blocks lines).length = lines.length := by
  induction lines generalizing blocks with
  | nil => rfl
  | cons line rest ih =>
    rw [insideMarked]
    split <;> simp [ih]

/-- By induction on the lines: a block on the stack reaches as far as lines are deeper than it, and each marked header
starts one that does. -/
lemma insideMarked_getElem? {isMarked : Line → Bool} {lines : List Line} {blocks : OpenBlocks Bool}
    (hnested : blocks.Nested) {p : ℕ} {line : Line} (hline : lines[p]? = some line)
    (hcode : Text.isBlankText line = false) :
    (insideMarked isMarked blocks lines)[p]? = some true ↔
      (∃ b ∈ blocks, b.2 = true ∧ p ∈ deeperLines b.1 0 lines) ∨
        ∃ i header, lines[i]? = some header ∧ MarkedHeader isMarked header ∧ p ∈ blockBody lines i := by
  induction lines generalizing blocks p with
  | nil => simp at hline
  | cons first rest ih =>
    cases p with
    | zero =>
      obtain rfl := Option.some.inj hline
      have hnone : ¬ ∃ i header, (first :: rest)[i]? = some header ∧ MarkedHeader isMarked header ∧
          0 ∈ blockBody (first :: rest) i := fun ⟨i, _, _, _, h⟩ => zero_notMem_blockBody _ i h
      rw [insideMarked_cons_of_code hcode, List.getElem?_cons_zero, Option.some_inj, List.any_eq_true,
        iff_false_intro hnone, or_false]
      refine exists_congr fun b => ?_
      rw [hnested.mem_enclosing_iff, zero_mem_deeperLines_iff]
      simp only [hcode, true_and]
      tauto
    | succ p =>
      have hrest : rest[p]? = some line := hline
      rw [exists_header_cons_iff]
      simp only [succ_mem_deeperLines_iff]
      cases hblank : Text.isBlankText first with
      | true =>
        have hheader : ¬ MarkedHeader isMarked first := fun h => by cases h.not_blank.symm.trans hblank
        rw [insideMarked_cons_of_blank hblank, List.getElem?_cons_succ, ih hnested hrest]
        simp [hheader]
      | false =>
        rw [insideMarked_cons_of_code hblank, List.getElem?_cons_succ, ih (hnested.after first) hrest,
          hnested.exists_mem_after_iff, or_assoc]
        simp

/-- A line of code stands in a marked block just when it is in the block of some marked header. -/
theorem insideMarked_iff (isMarked : Line → Bool) {lines : List Line} {p : ℕ} {line : Line}
    (hline : lines[p]? = some line) (hcode : Text.isBlankText line = false) :
    (insideMarked isMarked [] lines)[p]? = some true ↔
      ∃ i header, lines[i]? = some header ∧ MarkedHeader isMarked header ∧ p ∈ blockBody lines i := by
  rw [insideMarked_getElem? List.Pairwise.nil hline hcode]
  simp

end CodeAudit.Source
