import CodeAudit.Proofs.Regex.Blank
import CodeAudit.Proofs.Rule.Contradiction
import CodeAudit.Proofs.Source.Block

/-! Where the matches of a scan stand. A candidate covers some characters of a masked line, and the mask has the shape of
the text, so that its columns are columns of the line itself; the block that a match reaches over ends on a line of the
text. -/
namespace CodeAudit

open Source (maskLines indentOf)

/-- A match that takes a character covers some, all of them in the text. -/
lemma Regex.start_lt_stop_of_mem_all {r : Regex} {text : List Char} {m : Found} (hr : r.Advances)
    (hink : r.needsInk = true) (hm : m ∈ r.all text) : m.start < m.stop ∧ m.stop ≤ text.length := by
  obtain ⟨pre, post, s, t, rfl, hs, -, hfound⟩ := exists_place_of_mem_all hr hm
  obtain ⟨ht, rfl⟩ := mem_ends_of_foundAt hfound
  obtain ⟨w, post', rfl, hat⟩ := hr hs ht
  have hshorter := length_rest_lt_of_needsInk hink ht
  simp only [hs.rest, hat.rest, List.length_append] at hshorter
  simp only [Found.start, Found.stop, Span.stop, Cursor.between, hs.index, hat.index, List.length_append]
  omega

namespace Rule

/-- No rule of the catalog matches in blanks. -/
lemma needsInk_of_mem_catalog {r : Rule} (h : r ∈ catalog) : r.expression.needsInk = true := by
  have hothers : ∀ r ∈ catalog, r.id ≠ Logic.contradiction.id → r.expression.needsInk = true := by decide +kernel
  -- the names that a contradiction compares are told from blanks by long tables, its word is not
  have hcontradiction : Logic.contradiction.expression.needsInk = true := by
    have hand : (Regex.text "and").needsInk = true := by decide +kernel
    simp only [Logic.contradiction, Regex.needsInk_append, hand, Bool.or_true, Bool.true_or]
  by_cases hid : r.id = Logic.contradiction.id
  · rw [eq_of_id_eq h (by simp [catalog]) hid]
    exact hcontradiction
  · exact hothers r h hid

/-- Only the contradiction refers back to what it has matched. -/
lemma advances_of_mem_catalog {r : Rule} (h : r ∈ catalog) : r.expression.Advances := by
  have hothers : ∀ r ∈ catalog, r.id ≠ Logic.contradiction.id → r.expression.refersBack = false := by decide +kernel
  rcases eq_or_ne r.id Logic.contradiction.id with hid | hid
  · rw [eq_of_id_eq h (by simp [catalog]) hid]
    exact @Logic.advances_contradiction
  · exact @Regex.advances r.expression (hothers r h hid)

end Rule

/-- The match of a rule stands in a text: on characters of one of its lines, and over lines below it only if the rule
reports blocks and the last of them has code deeper than the first. -/
structure RuleMatch.StandsIn (m : RuleMatch) (r : Rule) (code : List Char) : Prop where
  startLine : 1 ≤ m.startLine ∧ m.startLine ≤ m.endLine
  endLine : m.endLine ≤ (Text.lines code).length
  columns : 1 ≤ m.startColumn ∧ m.startColumn ≤ m.endColumn
  endColumn : ∃ line, (Text.lines code)[m.startLine - 1]? = some line ∧ m.endColumn ≤ line.length
  block : m.startLine < m.endLine → r.spansBlock = true ∧ ∃ header last,
    (maskLines code)[m.startLine - 1]? = some header ∧ (maskLines code)[m.endLine - 1]? = some last ∧
      Text.isBlankText last = false ∧ indentOf header < indentOf last

namespace Rule

variable {r : Rule} {code : List Char} {index : ℕ} {m : RuleMatch}

/-- The last line of a match is its own, or one of the block that its line opens. -/
lemma exists_deeper_of_matchOf {header : Source.Line} {c : Regex.Found}
    (hline : (maskLines code)[index]? = some header) (h : r.matchOf (.ofText code) index c = .ok (some m)) :
    m.endLine = index + 1 ∨ r.spansBlock = true ∧ index + 1 < m.endLine ∧
      ∃ line, Source.Deeper (maskLines code) (indentOf header) (index + 1) (m.endLine - 1) line := by
  obtain ⟨es, -, -, rfl⟩ := matchOf_eq_ok_some_iff.mp h
  cases hspans : r.spansBlock with
  | false => exact .inl rfl
  | true =>
    rcases Source.blockEnd_eq_or_exists_deeper hline with hend | ⟨line, hdeeper⟩
    · exact .inl (congrArg (· + 1) hend)
    · exact .inr ⟨rfl, Nat.succ_lt_succ hdeeper.below, line, hdeeper⟩

/-- What becomes of a candidate on a line of the mask stands on the same line of the text. -/
lemma standsIn_of_matchOf (hr : r ∈ catalog) {header : Source.Line} {c : Regex.Found}
    (hline : (maskLines code)[index]? = some header) (hc : c ∈ r.expression.all header)
    (h : r.matchOf (.ofText code) index c = .ok (some m)) : m.StandsIn r code := by
  have hshape := Source.maskLines_masks code
  obtain ⟨hindex, hheader⟩ := List.getElem?_eq_some_iff.mp hline
  obtain ⟨hcovers, hstop⟩ :=
    Regex.start_lt_stop_of_mem_all (advances_of_mem_catalog hr) (needsInk_of_mem_catalog hr) hc
  have hend := exists_deeper_of_matchOf hline h
  obtain ⟨es, -, -, hm⟩ := matchOf_eq_ok_some_iff.mp h
  have hstart : m.startLine = index + 1 := congrArg RuleMatch.startLine hm
  have hfirst : m.startColumn = c.start + 1 := congrArg RuleMatch.startColumn hm
  have hlast : m.endColumn = c.stop := (congrArg RuleMatch.endColumn hm).trans (Nat.max_eq_left hcovers)
  constructor
  case startLine => rcases hend with hend | ⟨-, hend, -⟩ <;> omega
  case endLine =>
    rw [← hshape.length_eq]
    rcases hend with hend | ⟨-, hend, line, hdeeper⟩
    · omega
    · obtain ⟨hlt, -⟩ := List.getElem?_eq_some_iff.mp hdeeper.line_eq
      omega
  case columns => omega
  case endColumn =>
    have hraw : index < (Text.lines code).length := hshape.length_eq ▸ hindex
    refine ⟨(Text.lines code)[index], ?_, ?_⟩
    · rw [hstart, Nat.add_sub_cancel]
      exact List.getElem?_eq_getElem hraw
    · rw [← hheader] at hstop
      rw [hlast]
      exact hstop.trans_eq (hshape.get hindex hraw).length_eq
  case block =>
    intro hbelow
    rcases hend with hend | ⟨hspans, -, line, hdeeper⟩
    · omega
    · refine ⟨hspans, header, line, ?_, hdeeper.line_eq, hdeeper.code, hdeeper.deeper⟩
      rw [hstart, Nat.add_sub_cancel]
      exact hline

end Rule

namespace PatternScan

variable {codeStructure : Structure} {code : List Char} {m : RuleMatch} {f : Finding}

/-- Every match of a scan by the catalog stands in the text, and the finding that is made of it tells its first line, by
number and with what the text has there. -/
theorem match_stands_in_text (h : (m, f) ∈ (ofCode Rule.catalog codeStructure code).found) :
    (∃ r ∈ Rule.catalog, m.ruleId = r.id ∧ m.StandsIn r code) ∧ f.lines.toList = [(m.startLine : ℤ)] ∧
      ∃ line, (Text.lines code)[m.startLine - 1]? = some line ∧
        f.evidence = m.evidence ++ [s!"Line {m.startLine}: {String.ofList (Text.strip line)}"] := by
  obtain ⟨r, hr, rfl, ms, hms, hm⟩ := exists_matchesIn_of_mem_found h
  obtain ⟨index, header, hline, c, hc, hmatch⟩ := (Rule.mem_matchesIn_iff hms).mp hm
  have hstands := Rule.standsIn_of_matchOf hr hline hc hmatch
  obtain ⟨line, hraw, -⟩ := hstands.endColumn
  obtain ⟨es, -, -, hm⟩ := Rule.matchOf_eq_ok_some_iff.mp hmatch
  refine ⟨⟨r, hr, congrArg RuleMatch.ruleId hm, hstands⟩, rfl, line, hraw, ?_⟩
  have hshown : (Source.ofText code).line (m.startLine - 1) = line := by
    change (Text.lines code)[m.startLine - 1]?.getD [] = line
    rw [hraw]
    rfl
  rw [Rule.findingOf, hshown]

/-- A loop without a way out, with a blank line in its body. -/
def openLoop : List Char := "while True:\n\n    pass\n".toList

theorem match_stands_in_text_openLoop :
    ∃ m f, (m, f) ∈ (ofCode Rule.catalog {} openLoop).found ∧ m.startLine = 1 ∧ m.endLine = 3 ∧
      (∃ r ∈ Rule.catalog, r.spansBlock = true ∧ m.StandsIn r openLoop) ∧ f.lines.toList = [1] := by
  have hscan : (ofCode Rule.catalog {} openLoop).found.map (fun p => (p.1.startLine, p.1.endLine)) = [(1, 3)] := by
    decide +kernel
  obtain ⟨⟨m, f⟩, hfound, heq⟩ := List.mem_map.mp (hscan ▸ List.mem_singleton_self _)
  obtain ⟨hstart, hend⟩ := Prod.mk.inj heq
  obtain ⟨⟨r, hr, -, hstands⟩, hlines, -⟩ := match_stands_in_text hfound
  dsimp only at hstart hend
  rw [hstart] at hlines
  exact ⟨m, f, hfound, hstart, hend, ⟨r, hr, (hstands.block (by omega)).1, hstands⟩, hlines⟩

end PatternScan
end CodeAudit
