import CodeAudit.Proofs.Distinct
import CodeAudit.Proofs.Source.Join
import CodeAudit.Structure
import Mathlib.Data.List.TakeWhile

/-! The structure of two texts one after the other. Each number, list and flag of it is found line by line, but for the
depth of nesting: that is carried along in the stack of open blocks, which a line at the margin empties. -/
namespace CodeAudit

namespace Structure

open Source (Line Unquoted maskLines indentOf)

/-- The structure of a text in two parts, by those of the parts. -/
def append (s t : Structure) : Structure :=
  { functions := s.functions ++ t.functions.filter (· ∉ s.functions)
    classes := s.classes ++ t.classes.filter (· ∉ s.classes)
    variableNames := s.variableNames ++ t.variableNames.filter (· ∉ s.variableNames)
    imports := s.imports ++ t.imports.filter (· ∉ s.imports)
    loops := s.loops + t.loops
    conditionals := s.conditionals + t.conditionals
    tryBlocks := s.tryBlocks + t.tryBlocks
    -- a text without branches has complexity one, and so have two of them
    complexity := (s.complexity - 1) + (t.complexity - 1) + 1
    linesOfCode := s.linesOfCode + t.linesOfCode
    nestingDepth := max s.nestingDepth t.nestingDepth
    hasAsync := s.hasAsync || t.hasAsync
    hasErrorHandling := s.hasErrorHandling || t.hasErrorHandling }

instance : Append Structure := ⟨append⟩

section Names

variable (l m : List Line)

lemma namesBy_append (header : Regex) :
    namesBy header (l ++ m) = namesBy header l ++ (namesBy header m).filter (· ∉ namesBy header l) := by
  rw [namesBy, List.flatMap_append, eraseDups_append]
  rfl

lemma importedNames_append : ((l ++ m).flatMap importedModules).eraseDups =
    (l.flatMap importedModules).eraseDups ++
      (m.flatMap importedModules).eraseDups.filter (· ∉ (l.flatMap importedModules).eraseDups) := by
  rw [List.flatMap_append, eraseDups_append]

end Names

section Nesting

variable (blocks : Source.OpenBlocks Unit) (d e : ℕ) (l m : List Line)

/-- A depth that is reached before counts as much as one that is reached after. -/
lemma nesting_max : nesting blocks (max d e) l = max d (nesting blocks e l) := by
  induction l generalizing blocks e with
  | nil => rfl
  | cons line rest ih =>
    rw [nesting, nesting]
    dsimp only
    split
    · rw [max_assoc, ih]
    · rw [ih]

/-- No block is open around a line at the margin. -/
lemma nesting_of_margin (h : ∀ line ∈ l.head?, indentOf line = 0) : nesting blocks d l = max d (nesting [] 0 l) := by
  have hempty : nesting blocks d l = nesting [] d l := by
    cases l with
    | nil => rfl
    | cons line rest =>
      have hmargin : indentOf line = 0 := h line rfl
      have hleave : ∀ bs : Source.OpenBlocks Unit, bs.enclosing (indentOf line) = [] := by
        intro bs
        rw [hmargin, Source.OpenBlocks.enclosing, List.dropWhile_eq_nil_iff]
        exact fun b _ => decide_eq_true (Nat.zero_le b.1)
      rw [nesting, nesting, hleave, hleave]
  rw [hempty, ← nesting_max, Nat.max_zero]

lemma nesting_append (h : ∀ line ∈ m.head?, indentOf line = 0) :
    nesting blocks d (l ++ m) = max (nesting blocks d l) (nesting [] 0 m) := by
  induction l generalizing blocks d with
  | nil => exact nesting_of_margin blocks d m h
  | cons line rest ih =>
    rw [List.cons_append, nesting, nesting]
    dsimp only
    split
    · rw [ih]
    · rw [ih]

end Nesting

/-- The first line of a text with more than blanks in its mask stands at the margin. -/
def StartsAtMargin (code : List Char) : Prop :=
  ∀ line ∈ (maskLines code).find? (!Text.isBlankText ·), indentOf line = 0

instance (code : List Char) : Decidable (StartsAtMargin code) :=
  inferInstanceAs (Decidable (∀ line ∈ (maskLines code).find? (!Text.isBlankText ·), indentOf line = 0))

/-- The structure is a sum over two texts of which the first leaves no string open and the second starts at the margin,
whatever blocks the first one leaves open. -/
theorem ofSource_append_lineFeed {a b : List Char} (ha : Unquoted a) (hb : StartsAtMargin b) :
    ofSource (.ofText (a ++ '\n' :: b)) = ofSource (.ofText a) ++ ofSource (.ofText b) := by
  have hmasked : (Source.ofText (a ++ '\n' :: b)).masked = (Source.ofText a).masked ++ (Source.ofText b).masked :=
    Source.maskLines_append_lineFeed ha b
  have hlines : (Source.ofText (a ++ '\n' :: b)).lines = (Source.ofText a).lines ++ (Source.ofText b).lines :=
    Text.lines_append_lineFeed a b
  have hmargin : ∀ line ∈ ((Source.ofText b).masked.filter (!Text.isBlankText ·)).head?, indentOf line = 0 := by
    rw [List.head?_filter]
    exact hb
  change _ = append _ _
  unfold ofSource append
  dsimp only
  rw [hmasked, hlines, List.filter_append]
  generalize (Source.ofText a).masked.filter (!Text.isBlankText ·) = l at *
  generalize (Source.ofText b).masked.filter (!Text.isBlankText ·) = m at *
  simp only [mk.injEq, namesBy_append, importedNames_append, List.countP_append, List.any_append, true_and]
  refine ⟨?_, ?_, ?_⟩
  · have hbranches : ((l ++ m).map branches).foldr (· + ·) 0 =
        (l.map branches).foldr (· + ·) 0 + (m.map branches).foldr (· + ·) 0 := by
      rw [List.map_append]
      exact List.sum_append
    omega
  · rw [nesting_append [] 0 l m hmargin]
    omega
  · rw [← Bool.decide_or]
    exact decide_eq_decide.mpr Nat.add_pos_iff_pos_or_pos

/-- A loop whose body the second text does not go on with, and names that both texts bind. -/
theorem ofSource_loop_then_imports :
    Unquoted "for x in xs:\n    y = x  # don't".toList ∧ StartsAtMargin "\nimport os\nif y:\n  z = y = 1".toList ∧
      ofSource (.ofText ("for x in xs:\n    y = x  # don't".toList ++ '\n' ::
        "\nimport os\nif y:\n  z = y = 1".toList)) =
      { variableNames := ["y", "z"], imports := ["os"], loops := 1, conditionals := 1, complexity := 3,
        linesOfCode := 5, nestingDepth := 1 } :=
  ⟨by decide +kernel, by decide +kernel,
    (ofSource_append_lineFeed (by decide +kernel) (by decide +kernel)).trans (by decide +kernel)⟩

end Structure

end CodeAudit
