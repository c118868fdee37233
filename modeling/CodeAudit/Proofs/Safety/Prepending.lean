import CodeAudit.Proofs.Safety.Scan
import CodeAudit.Proofs.Source.Join

/-! What stands in front of a program unblocks nothing. Whether a line forbids execution is told by the line and those
after it, and these are masked as before. -/
namespace CodeAudit.Safety

open Source (Line Unquoted maskLines)

lemma forbids_append {front : List Line} {src other : Source} (h : src.masked = front ++ other.masked) (index : ℕ)
    (line : Line) : Forbids src (front.length + index) line ↔ Forbids other index line := by
  rw [Forbids, Forbids, Source.bodyTexts_append h]

/-- After a text that leaves no string open, a line feed and another text, the dangers of high level on the lines of
the second text are those that it has by itself. -/
lemma exists_high_scan_append {a : List Char} (ha : Unquoted a) (b : List Char) (n : ℕ) :
    (∃ d ∈ scan (a ++ '\n' :: b), d.level = .high ∧ d.line = (maskLines a).length + n + 1) ↔
      ∃ d ∈ scan b, d.level = .high ∧ d.line = n + 1 := by
  have hmasked : (Source.ofText (a ++ '\n' :: b)).masked = maskLines a ++ (Source.ofText b).masked :=
    Source.maskLines_append_lineFeed ha b
  have hline : (maskLines (a ++ '\n' :: b))[(maskLines a).length + n]? = (maskLines b)[n]? := by
    rw [Source.maskLines_append_lineFeed ha, List.getElem?_append_right (Nat.le_add_right _ _), Nat.add_sub_cancel_left]
  simp only [exists_high_scan, hline, forbids_append hmasked]

/-- In front of a line feed, a text that leaves no string open changes neither the mask of what comes after nor the
dangers of high level there, so that a program that is not to be executed stays one. -/
theorem prepending_keeps_mask_and_denial {a : List Char} (ha : Unquoted a) (b : List Char) :
    maskLines (a ++ '\n' :: b) = maskLines a ++ maskLines b ∧
      (∀ n, (∃ d ∈ scan (a ++ '\n' :: b), d.level = .high ∧ d.line = (maskLines a).length + n + 1) ↔
        ∃ d ∈ scan b, d.level = .high ∧ d.line = n + 1) ∧
      ((SafetyAssessment.ofCode b).allowExecution = false →
        (SafetyAssessment.ofCode (a ++ '\n' :: b)).allowExecution = false) := by
  refine ⟨Source.maskLines_append_lineFeed ha b, exists_high_scan_append ha b, fun hb => ?_⟩
  obtain ⟨d, hd, hhigh⟩ := SafetyAssessment.allowExecution_eq_false_iff.mp hb
  obtain ⟨n, hn⟩ := exists_line_of_high hd hhigh
  exact SafetyAssessment.denied_of_high ((exists_high_scan_append ha b n).mpr ⟨d, hd, hhigh, hn⟩)

/-- A comment with quotes in it, in front of an endless loop. -/
theorem prepending_keeps_mask_and_denial_comment :
    Unquoted "x = ''  # it's \"\"\"".toList ∧
      maskLines "x = ''  # it's \"\"\"\nwhile 1:\n  os = '''return".toList =
        ["x = ''            ".toList, "while 1:".toList, "  os = '''      ".toList] ∧
      (SafetyAssessment.ofCode "x = ''  # it's \"\"\"\nwhile 1:\n  os = '''return".toList).allowExecution = false := by
  have ha : Unquoted "x = ''  # it's \"\"\"".toList := by decide
  have hmask : maskLines "x = ''  # it's \"\"\"".toList ++ maskLines "while 1:\n  os = '''return".toList =
      ["x = ''            ".toList, "while 1:".toList, "  os = '''      ".toList] := by decide +kernel
  have hdenied : (SafetyAssessment.ofCode "while 1:\n  os = '''return".toList).allowExecution = false := by
    decide +kernel
  obtain ⟨hjoin, -, hkept⟩ := prepending_keeps_mask_and_denial ha "while 1:\n  os = '''return".toList
  exact ⟨ha, hjoin.trans hmask, hkept hdenied⟩

end CodeAudit.Safety
