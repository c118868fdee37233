import CodeAudit.Execution.TestCase
import CodeAudit.Proofs.Execution.Literal
import CodeAudit.Proofs.Source.Comment

/-! The lines of the program that is made for a test case: two in front of the code, and those of the check after it. -/
namespace CodeAudit

namespace Text

lemma lines_of_isLine {line : List Char} (h : IsLine line) : lines line = [line] := by
  have hfeed : '\n' ∉ line := fun hc => absurd (h '\n' hc) (by decide)
  have hlines := lines_append_of_notMem hfeed []
  rw [List.append_nil] at hlines
  rw [hlines]
  exact congrArg (fun last => [last]) (List.append_nil line)

lemma isLine_joinWith {sep : List Char} {pieces : List (List Char)} (hsep : IsLine sep)
    (h : ∀ p ∈ pieces, IsLine p) : IsLine (joinWith sep pieces) := by
  cases pieces with
  | nil => exact List.forall_mem_nil _
  | cons p ps =>
    obtain ⟨hp, hps⟩ := List.forall_mem_cons.mp h
    refine hp.append fun c hc => ?_
    obtain ⟨q, hq, hc⟩ := List.mem_flatMap.mp hc
    exact hsep.append (hps q hq) c hc

end Text

namespace TestCase

open Text (IsLine)

/-- The line of the check that compares. -/
def testLine (c : TestCase) : List Char :=
  "if 'result' in globals() and result != ".toList ++ c.expected.write ++ [':']

/-- The line of the check that raises. -/
def raiseLine (c : TestCase) : List Char :=
  "    raise AssertionError('Expected ' + repr(".toList ++ c.expected.write ++ ") + ', got ' + repr(result))".toList

/-- The lines that the check adds to those of the code. -/
def checkLines (c : TestCase) : List (List Char) :=
  if c.expected.isNone then [] else [[], c.testLine, c.raiseLine, []]

lemma length_checkLines (c : TestCase) : c.checkLines.length = if c.expected.isNone then 0 else 4 := by
  unfold checkLines
  split
  · rfl
  · rfl

lemma isLine_of_mem_header (c : TestCase) : ∀ line ∈ c.header, IsLine line := by
  have hwords : ∀ word ∈ Text.words c.description, IsLine word := fun word hword d hd =>
    Text.not_isLineEnd_of_not_isBlank (Text.not_isBlank_of_mem_words hword hd)
  refine List.forall_mem_cons.mpr ⟨?_, List.forall_mem_singleton.mpr ?_⟩
  · exact .append (show Text.IsLine "# Test case: ".toList by decide)
      (Text.isLine_joinWith (show Text.IsLine [' '] by decide) hwords)
  · exact .append (show Text.IsLine "test_input = ".toList by decide) c.input.isLine_write

lemma isLine_testLine (c : TestCase) : IsLine c.testLine := by
  refine .append (.append ?_ c.expected.isLine_write) (.singleton (by decide))
  exact show Text.IsLine "if 'result' in globals() and result != ".toList by decide

lemma isLine_raiseLine (c : TestCase) : IsLine c.raiseLine := by
  refine .append (.append ?_ c.expected.isLine_write) ?_
  · exact show Text.IsLine "    raise AssertionError('Expected ' + repr(".toList by decide
  · exact show Text.IsLine ") + ', got ' + repr(result))".toList by decide

/-- The check starts a line, leaves one out, and ends its own two. -/
lemma check_eq {c : TestCase} (h : c.expected.isNone = false) :
    c.check = '\n' :: ([] ++ '\n' :: (c.testLine ++ '\n' :: (c.raiseLine ++ '\n' :: []))) := by
  have hopen : "\n\nif 'result' in globals() and result != ".toList =
      '\n' :: '\n' :: "if 'result' in globals() and result != ".toList := by decide
  have hclose : ") + ', got ' + repr(result))\n".toList = ") + ', got ' + repr(result))".toList ++ ['\n'] := by decide
  have hcolon : ":\n".toList = [':', '\n'] := by decide
  unfold check testLine raiseLine
  rw [h, if_neg Bool.false_ne_true]
  dsimp only
  rw [hopen, hclose, hcolon]
  simp only [List.append_assoc, List.cons_append, List.nil_append]

lemma lines_append_check (c : TestCase) (code : List Char) :
    Text.lines (code ++ c.check) = Text.lines code ++ c.checkLines := by
  unfold checkLines
  cases h : c.expected.isNone with
  | true => rw [check, h, if_pos rfl, if_pos rfl, List.append_nil, List.append_nil]
  | false =>
    rw [check_eq h, if_neg Bool.false_ne_true, Text.lines_append_lineFeed, Text.lines_append_lineFeed,
      Text.lines_append_lineFeed, Text.lines_append_lineFeed, Text.lines_of_isLine c.isLine_testLine,
      Text.lines_of_isLine c.isLine_raiseLine]
    rfl

/-- What stands in front of the code has the lines of the header and no more. -/
lemma lines_front (c : TestCase) : Text.lines (Text.joinLines c.header) = c.header := by
  refine Text.lines_joinLines (List.cons_ne_nil _ _) fun line hline hfeed => ?_
  exact absurd (c.isLine_of_mem_header line hline '\n' hfeed) (by decide)

lemma source_eq (c : TestCase) (code : List Char) :
    c.source code = Text.joinLines c.header ++ '\n' :: (code ++ c.check) := by
  rw [source, List.append_assoc, List.cons_append]

/-- The header's lines, the lines of the code, and those of the check. -/
theorem lines_source (c : TestCase) (code : List Char) :
    Text.lines (c.source code) = c.header ++ (Text.lines code ++ c.checkLines) := by
  rw [source_eq, Text.lines_append_lineFeed, lines_front, lines_append_check]

/-- A test whose description and values have line ends of every kind. -/
def unruly : TestCase :=
  { description := Text.lineEnds ++ "one\r\n two\u2028".toList
    input := .dict [(.text ['\n', '\''], .list [.tuple [.text Text.lineEnds], .bytes [10, 13]])]
    expected := .text ['\r'] }

end TestCase
end CodeAudit
