import CodeAudit.Proofs.Source.Nesting
import CodeAudit.Structure
import Mathlib.Data.Nat.Count
import Mathlib.Order.Lattice.Nat

/-! How deep a text nests. Which blocks a line is in can be told from the blocks themselves: each reaches from its
header as far as the lines are deeper. Two passes over the lines keep stacks of the open ones instead, one for the flags
of the lines in functions and one for the depth, and both agree with the blocks, however irregular the indentation. -/
namespace CodeAudit

open Source (Line OpenBlocks indentOf endsWithChar blockBody deeperLines maskLines)

namespace Source

/-- Whether line `i` opens a block: it has code, it is marked, and it ends in a colon. -/
def opensBlock (isMarked : Line → Bool) (lines : List Line) (i : ℕ) : Bool :=
  lines[i]?.any fun line => !Text.isBlankText line && isMarked line && endsWithChar ':' line

section Headers

variable {isMarked : Line → Bool} {lines : List Line}

lemma opensBlock_iff {i : ℕ} :
    opensBlock isMarked lines i = true ↔ ∃ header, lines[i]? = some header ∧ MarkedHeader isMarked header := by
  rw [opensBlock, Option.any_eq_true]
  refine exists_congr fun header => and_congr_right fun _ => ?_
  simp only [Bool.and_eq_true, Bool.not_eq_true']
  exact ⟨fun h => ⟨h.1.2, h.2⟩, fun h => ⟨⟨h.not_blank, h.marked⟩, h.colon⟩⟩

/-- The flag of a line that has code says whether it is in the block of a marked header above it. -/
lemma getElem?_insideMarked {j : ℕ} {line : Line} (hline : lines[j]? = some line)
    (hcode : Text.isBlankText line = false) :
    (insideMarked isMarked [] lines)[j]? =
      some (decide (∃ i < j, opensBlock isMarked lines i = true ∧ j ∈ blockBody lines i)) := by
  have hj : j < (insideMarked isMarked [] lines).length := by
    rw [length_insideMarked]
    exact (List.getElem?_eq_some_iff.mp hline).1
  have hiff := insideMarked_iff isMarked hline hcode
  rw [List.getElem?_eq_getElem hj, Option.some_inj] at hiff ⊢
  rw [Bool.eq_iff_iff, decide_eq_true_iff, hiff]
  constructor
  · rintro ⟨i, header, hheader, hmarked, hmem⟩
    exact ⟨i, lt_of_mem_blockBody hmem, opensBlock_iff.mpr ⟨header, hheader, hmarked⟩, hmem⟩
  · rintro ⟨i, -, hopens, hmem⟩
    obtain ⟨header, hheader, hmarked⟩ := opensBlock_iff.mp hopens
    exact ⟨i, header, hheader, hmarked, hmem⟩

end Headers

end Source

namespace Structure

open Source (opensBlock)

variable {blocks : OpenBlocks Unit} {first : Line} {rest : List Line}

/-- Whether line `i` opens a block, of whatever kind. -/
def opens (lines : List Line) (i : ℕ) : Bool := opensBlock (fun _ => true) lines i

lemma opens_succ (i : ℕ) : opens (first :: rest) (i + 1) = opens rest i := rfl

lemma opens_zero : opens (first :: rest) 0 = (!Text.isBlankText first && endsWithChar ':' first) := by
  simp [opens, opensBlock]

/-- The blocks that are open below a line. -/
def below (blocks : OpenBlocks Unit) (line : Line) : OpenBlocks Unit :=
  if Text.isBlankText line then blocks
  else if endsWithChar ':' line then (indentOf line, ()) :: blocks.enclosing (indentOf line)
  else blocks.enclosing (indentOf line)

/-- How many blocks line `j` is in: of those on the stack, and of those that the lines above it open. -/
def blocksAround (blocks : OpenBlocks Unit) (lines : List Line) (j : ℕ) : ℕ :=
  blocks.countP (fun b => j ∈ deeperLines b.1 0 lines) + Nat.count (fun i => opens lines i ∧ j ∈ blockBody lines i) j

/-- The depth of the deepest header, under the blocks on the stack. -/
def deepest (blocks : OpenBlocks Unit) (lines : List Line) : ℕ :=
  ((Finset.range lines.length).filter fun j => opens lines j).sup fun j => 1 + blocksAround blocks lines j

lemma nested_below (h : blocks.Nested) (line : Line) : (below blocks line).Nested := by
  unfold below
  split
  · exact h
  · split
    · exact h.push _ _
    · exact h.enclosing _

/-- A first line that has code is in the blocks that it leaves on the stack. -/
lemma blocksAround_zero (h : blocks.Nested) (hcode : Text.isBlankText first = false) :
    blocksAround blocks (first :: rest) 0 = (blocks.enclosing (indentOf first)).length := by
  rw [blocksAround, Nat.count_zero, Nat.add_zero, h.enclosing_eq_filter, ← List.countP_eq_length_filter]
  refine List.countP_congr fun b _ => ?_
  rw [decide_eq_true_iff, decide_eq_true_iff, Source.zero_mem_deeperLines_iff]
  simp [hcode]

/-- Of the blocks on the stack, a later line is in none but those that a first line with code leaves there. -/
lemma countP_stack (h : blocks.Nested) (hcode : Text.isBlankText first = false) (j : ℕ) :
    blocks.countP (fun b => j + 1 ∈ deeperLines b.1 0 (first :: rest)) =
      (blocks.enclosing (indentOf first)).countP (fun b => j ∈ deeperLines b.1 0 rest) := by
  rw [h.enclosing_eq_filter, List.countP_filter]
  refine List.countP_congr fun b _ => ?_
  simp only [decide_eq_true_iff, Bool.and_eq_true, Source.succ_mem_deeperLines_iff, hcode]
  tauto

/-- The headers around a later line: those below the first line, and the first line itself. -/
lemma count_headers (j : ℕ) :
    Nat.count (fun i => opens (first :: rest) i ∧ j + 1 ∈ blockBody (first :: rest) i) (j + 1) =
      Nat.count (fun i => opens rest i ∧ j ∈ blockBody rest i) j +
        if opens (first :: rest) 0 ∧ j ∈ deeperLines (indentOf first) 0 rest then 1 else 0 := by
  rw [Nat.count_succ']
  simp only [opens_succ, Source.succ_mem_blockBody_succ_iff, Source.succ_mem_blockBody_zero_iff]

/-- A later line is in as many blocks when the first line is done and the stack is what it is below it. -/
lemma blocksAround_succ (h : blocks.Nested) (j : ℕ) :
    blocksAround blocks (first :: rest) (j + 1) = blocksAround (below blocks first) rest j := by
  rw [blocksAround, blocksAround, count_headers, opens_zero, below]
  cases hblank : Text.isBlankText first with
  | true => simp [Source.succ_mem_deeperLines_iff, hblank]
  | false =>
    rw [countP_stack h hblank]
    cases hcolon : endsWithChar ':' first with
    | true =>
      simp only [Bool.not_false, Bool.and_self, true_and, if_true, Bool.false_eq_true, if_false, List.countP_cons,
        decide_eq_true_iff]
      omega
    | false => simp

lemma sup_filter_range_succ (p : ℕ → Prop) [DecidablePred p] (f : ℕ → ℕ) (n : ℕ) :
    ((Finset.range (n + 1)).filter p).sup f =
      max (if p 0 then f 0 else 0) (((Finset.range n).filter fun k => p (k + 1)).sup fun k => f (k + 1)) := by
  rw [Finset.range_add_one', Finset.filter_insert, Finset.filter_map]
  split
  · rw [Finset.sup_insert, Finset.sup_map]
    rfl
  · rw [Finset.sup_map, Nat.zero_max]
    rfl

/-- The depth of a header: what it leaves on the stack, and itself. -/
def ownDepth (blocks : OpenBlocks Unit) (line : Line) : ℕ :=
  if endsWithChar ':' line then (blocks.enclosing (indentOf line)).length + 1 else 0

lemma deepest_cons_of_blank (h : blocks.Nested) (hblank : Text.isBlankText first = true) :
    deepest blocks (first :: rest) = deepest blocks rest := by
  have hbelow : below blocks first = blocks := by simp [below, hblank]
  rw [deepest, List.length_cons, sup_filter_range_succ, opens_zero, hblank]
  simp only [blocksAround_succ h, hbelow]
  exact Nat.zero_max _

lemma deepest_cons_of_code (h : blocks.Nested) (hcode : Text.isBlankText first = false) :
    deepest blocks (first :: rest) = max (ownDepth blocks first) (deepest (below blocks first) rest) := by
  rw [deepest, List.length_cons, sup_filter_range_succ, opens_zero, hcode, blocksAround_zero h hcode, Nat.add_comm]
  simp only [blocksAround_succ h]
  rfl

lemma nesting_cons_of_code (hcode : Text.isBlankText first = false) (d : ℕ) :
    nesting blocks d (first :: rest) = nesting (below blocks first) (max d (ownDepth blocks first)) rest := by
  rw [nesting, below, ownDepth]
  cases hcolon : endsWithChar ':' first <;> simp [hcode]

/-- By induction on the lines, for any stack: it is as high as there are blocks around the line. -/
lemma nesting_eq_max (h : blocks.Nested) (d : ℕ) (lines : List Line) :
    nesting blocks d (lines.filter (!Text.isBlankText ·)) = max d (deepest blocks lines) := by
  induction lines generalizing blocks d with
  | nil => exact (Nat.max_zero d).symm
  | cons first rest ih =>
    cases hblank : Text.isBlankText first with
    | true => rw [List.filter_cons_of_neg (by simp [hblank]), ih h, deepest_cons_of_blank h hblank]
    | false =>
      rw [List.filter_cons_of_pos (by simp [hblank]), nesting_cons_of_code hblank, ih (nested_below h first),
        deepest_cons_of_code h hblank, max_assoc]

/-- Before the first line no block is open. -/
lemma nestingDepth_eq_deepest (src : Source) : (ofSource src).nestingDepth = deepest [] src.masked := by
  have hstart : OpenBlocks.Nested ([] : OpenBlocks Unit) := List.Pairwise.nil
  change ((nesting [] 0 (src.masked.filter (!Text.isBlankText ·)) : ℕ) : ℤ) = _
  rw [nesting_eq_max hstart, Nat.zero_max]

/-- The stacks of open blocks agree with the blocks. A line that has code is flagged as part of a function just when it
is in the block of a function's header above it. The depth of nesting is the greatest depth of a header: one for the
header itself, and one for every header above it whose block it is in. -/
theorem open_blocks_agree (code : List Char) :
    (∀ j line, (maskLines code)[j]? = some line → Text.isBlankText line = false →
      (Source.ofText code).inFunction[j]? = some (decide (∃ i < j,
        opensBlock Source.Bindings.defHeader.startsText (maskLines code) i = true ∧
          j ∈ blockBody (maskLines code) i))) ∧
      (ofSource (.ofText code)).nestingDepth =
        (((Finset.range (maskLines code).length).filter fun j => opens (maskLines code) j).sup fun j =>
          1 + Nat.count (fun i => opens (maskLines code) i ∧ j ∈ blockBody (maskLines code) i) j : ℕ) := by
  constructor
  · intro j line hline hcode
    exact Source.getElem?_insideMarked hline hcode
  · rw [nestingDepth_eq_deepest, deepest]
    simp only [blocksAround, List.countP_nil, Nat.zero_add]
    rfl

/-- A block that a shallower line ends although it has no body, a blank line, and a header at the margin. -/
theorem open_blocks_agree_irregular :
    (maskLines "def f():\n    if x:\n\n  while y:\n   z\nclass A:\n z".toList)[4]? = some "   z".toList ∧
      Text.isBlankText "   z".toList = false ∧
      (Source.ofText "def f():\n    if x:\n\n  while y:\n   z\nclass A:\n z".toList).inFunction[4]? = some true ∧
      (ofSource (.ofText "def f():\n    if x:\n\n  while y:\n   z\nclass A:\n z".toList)).nestingDepth = 2 := by
  have hline : (maskLines "def f():\n    if x:\n\n  while y:\n   z\nclass A:\n z".toList)[4]? =
      some "   z".toList := by decide +kernel
  have hcode : Text.isBlankText "   z".toList = false := by decide +kernel
  have h := open_blocks_agree "def f():\n    if x:\n\n  while y:\n   z\nclass A:\n z".toList
  exact ⟨hline, hcode, (h.1 4 _ hline hcode).trans (by decide +kernel), h.2.trans (by decide +kernel)⟩

end Structure
end CodeAudit
