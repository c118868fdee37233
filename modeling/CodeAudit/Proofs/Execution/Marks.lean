import CodeAudit.Proofs.Execution.Traceback
import CodeAudit.Proofs.Execution.TracebackFrame

/-!
Where the column of an error comes from. The line number is that of the last frame of the file; the marks are the
first that stand two lines or more below that frame, and frames of other files are not in their way.
-/
namespace CodeAudit.Traceback

open Outcome
open Source (Line)

/-- The file whose frames count, if one is given. -/
def targetFile (path : Option String) : Option (List Char) :=
  match path with
  | some p => if p.isEmpty then none else some (fileName p.toList)
  | none => none

/-- The line of the source that a number stands for. -/
def quotedLine (source : List Line) (number : Int) : Line :=
  if 0 < number then (source[number.toNat - 1]?).getD [] else []

/-- How an output is read: the last exception, and the last frame of the file before it. -/
structure Citation (stderr : List Char) (path : Option String) where
  before : List Line
  head : Line
  named : Regex.Found
  after : List Line
  ending : Line
  later : List Line
  lines_eq : Text.outputLines stderr = before ++ head :: (after ++ ending :: later)
  head_eq : frameOf? (targetFile path) head = some named
  after_none : ∀ line ∈ after, frameOf? (targetFile path) line = none
  ending_isSome : (exception? ending).isSome
  later_none : ∀ line ∈ later, exception? line = none

namespace Citation

variable {stderr : List Char} {path : Option String}

/-- The lines below the frame, to the end of the output. -/
def below (p : Citation stderr path) : List Line :=
  p.after ++ p.ending :: p.later

/-- The lines below the frame and before the next one, of whatever file. -/
def ownLines (p : Citation stderr path) : List Line :=
  p.below.takeWhile (!frame.startsText ·)

/-- Marks stand under the frame itself. -/
def HasOwnMarks (p : Citation stderr path) : Prop :=
  ∃ marks ∈ p.ownLines, caretLine.startsText marks = true

instance (p : Citation stderr path) : Decidable p.HasOwnMarks :=
  inferInstanceAs (Decidable (∃ marks ∈ p.ownLines, _))

end Citation

/-- The first line of marks that is not directly below a frame, among the lines after the frame. -/
structure Marked (after : List Line) where
  first : Line
  passed : List Line
  marks : Line
  rest : List Line
  after_eq : after = first :: (passed ++ marks :: rest)
  marks_marked : caretLine.startsText marks = true
  passed_unmarked : ∀ line ∈ passed, caretLine.startsText line = false

namespace Marked

variable {after : List Line}

/-- The line that the marks stand under. -/
def shown (q : Marked after) : Line :=
  q.passed.getLastD q.first

/-- The column that the marks show, in the line of the source. -/
def column (q : Marked after) (source : Line) : Int :=
  max 1 ((Source.indentOf source : Int) + (q.marks.takeWhile (!isMark ·)).length - Source.indentOf q.shown + 1)

/-- No frame stands between the frame and the marks, or there are marks directly below the frame as well. -/
def Own (q : Marked after) : Prop :=
  (∀ line ∈ q.first :: q.passed, frame.startsText line = false) ∨ caretLine.startsText q.first = true

end Marked

section Marks

lemma exists_marked_of_column? {source : Line} {after : List Line} {c : Int} (h : column? source after = some c) :
    ∃ q : Marked after, c = q.column source := by
  induction after with
  | nil => cases h
  | cons shown after ih =>
    cases after with
    | nil => cases h
    | cons marks rest =>
      rw [column?] at h
      split at h
      · rename_i hmarks
        refine ⟨⟨shown, [], marks, rest, rfl, hmarks, List.forall_mem_nil _⟩, ?_⟩
        rw [← Option.some.inj h, Marked.column, Marked.shown, List.getLastD_nil]
      · rename_i hmarks
        obtain ⟨⟨first, passed, marks', rest', hafter, hmarks', hpassed⟩, rfl⟩ := ih h
        obtain ⟨rfl, rfl⟩ := List.cons.inj hafter
        refine ⟨⟨shown, marks :: passed, marks', rest', rfl, hmarks', ?_⟩, ?_⟩
        · exact List.forall_mem_cons.mpr ⟨Bool.eq_false_iff.mpr hmarks, hpassed⟩
        · simp only [Marked.column, Marked.shown, List.getLastD_cons]

/-- A line of marks is no frame. -/
lemma not_frame_of_marked {line : Line} (h : caretLine.startsText line = true) : frame.startsText line = false := by
  rw [← Bool.not_eq_true]
  intro hframe
  obtain ⟨_, post, rfl, hspells⟩ := (Regex.startsText_iff rfl).mp hframe
  obtain ⟨_, _, rfl, ⟨_, _, rfl, ⟨_, _, rfl, ⟨margin, word, rfl, hmargin, hword⟩, -⟩, -⟩, -⟩ := hspells
  obtain rfl := Regex.spells_text.mp hword
  -- the word after the margin ends what could be blanks and marks, and the margin has no caret
  rw [not_startsText_caretLine] at h
  · cases h
  have hclass : ∀ c ∈ margin, (Text.isBlank c || isMark c) = true := by
    intro c hc
    rw [hmargin c hc, Bool.true_or]
  simp only [List.append_assoc]
  rw [List.takeWhile_append_of_pos hclass]
  intro hcaret
  rcases List.mem_append.mp hcaret with hcaret | hcaret
  · exact absurd (hmargin '^' hcaret) (by decide)
  · cases hcaret

variable {stderr : List Char} {path : Option String}

/-- Marks stand under the frame itself unless those that are taken stand under a later one. -/
lemma Citation.hasOwnMarks_iff (p : Citation stderr path) (q : Marked p.after) : p.HasOwnMarks ↔ q.Own := by
  have hbelow : p.below = (q.first :: q.passed) ++ q.marks :: (q.rest ++ p.ending :: p.later) := by
    calc p.below = (q.first :: (q.passed ++ q.marks :: q.rest)) ++ p.ending :: p.later :=
          congrArg (· ++ p.ending :: p.later) q.after_eq
      _ = _ := by simp
  unfold Citation.HasOwnMarks Citation.ownLines Marked.Own
  rw [hbelow]
  constructor
  · rintro ⟨line, hline, hmarked⟩
    by_cases hframes : ∀ line ∈ q.first :: q.passed, frame.startsText line = false
    · exact .inl hframes
    · -- the next frame comes before the marks, so the frame's own lines end before it
      right
      have hown : ((q.first :: q.passed) ++ q.marks :: (q.rest ++ p.ending :: p.later)).takeWhile
          (!frame.startsText ·) = (q.first :: q.passed).takeWhile (!frame.startsText ·) := by
        rw [List.takeWhile_append, if_neg]
        intro hlength
        have hall := (List.takeWhile_prefix (!frame.startsText ·)).eq_of_length hlength
        exact hframes (by simpa using List.takeWhile_eq_self_iff.mp hall)
      rw [hown] at hline
      rcases List.mem_cons.mp ((List.takeWhile_prefix _).mem hline) with rfl | hline
      · exact hmarked
      · rw [q.passed_unmarked line hline] at hmarked
        cases hmarked
  · rintro (hframes | hfirst)
    · refine ⟨q.marks, ?_, q.marks_marked⟩
      rw [List.takeWhile_append_of_pos (by simpa using hframes),
        List.takeWhile_cons_of_pos (by simp [not_frame_of_marked q.marks_marked])]
      simp
    · refine ⟨q.first, ?_, hfirst⟩
      rw [List.cons_append, List.takeWhile_cons_of_pos (by simp [not_frame_of_marked hfirst])]
      exact List.mem_cons_self

/-- An error with a column is read from the last exception and the last frame of the file before it. -/
lemma exists_citation_of_column {source : List Line} {offset c : Int} {e : ExecutionError}
    (h : error? stderr path source offset = .ok (some e)) (hc : e.column = some c) :
    ∃ (p : Citation stderr path) (number : Int), Reading.whole (p.named.group "line") = .ok number ∧
      e.line = some (number - offset) ∧ column? (quotedLine source number) p.after = some c := by
  unfold error? at h
  split at h
  · cases h
  cases hlast : lastException? (Text.outputLines stderr).reverse with
  | none =>
    rw [hlast] at h
    cases h
    cases hc
  | some last =>
    obtain ⟨earlier, m⟩ := last
    simp only [hlast] at h
    split at h
    · cases h
      cases hc
    · rename_i digits after hfound
      have hframe : lastFrame? (targetFile path) [] earlier = some (digits, after) := hfound
      rw [bind_eq_ok] at h
      obtain ⟨number, hnumber, h⟩ := h
      obtain ⟨later, ending, outer, hreverse, hending, rfl, hlater⟩ := lastException?_eq_some_iff.mp hlast
      obtain ⟨inner, head, before, rfl, ⟨named, hnamed, rfl⟩, rfl, hinner⟩ := lastFrame?_eq_some_iff.mp hframe
      split at h
      · cases h
        cases hc
      · cases h
        refine ⟨⟨before.reverse, head, named, inner.reverse ++ [], ending, later.reverse, ?_, hnamed, ?_, ?_, ?_⟩,
          number, hnumber, rfl, hc⟩
        · rw [← List.reverse_reverse (Text.outputLines stderr), hreverse]
          simp
        · simpa using hinner
        · rw [hending]
          rfl
        · simpa using hlater

end Marks

/-- **An error has a column only with its line**, and the column is taken from the first marks below the frame that
gave the line. There are marks before the next frame of any file exactly when those are such marks, or when there
are others that stand directly below the frame. -/
theorem column_own_iff {stderr : List Char} {path : Option String} {source : List Line} {offset c : Int}
    {e : ExecutionError} (h : error? stderr path source offset = .ok (some e)) (hc : e.column = some c) :
    ∃ (p : Citation stderr path) (number : Int) (q : Marked p.after),
      Reading.whole (p.named.group "line") = .ok number ∧ e.line = some (number - offset) ∧
        c = q.column (quotedLine source number) ∧ (p.HasOwnMarks ↔ q.Own) := by
  obtain ⟨p, number, hnumber, hline, hcolumn⟩ := exists_citation_of_column h hc
  obtain ⟨q, hq⟩ := exists_marked_of_column? hcolumn
  exact ⟨p, number, q, hnumber, hline, hq, p.hasOwnMarks_iff q⟩

/-- The output of a division in the second line of the program, with the marks of the interpreter. -/
def divisionOutput : List Char :=
  ["Traceback (most recent call last):", "  File \"/tmp/main.py\", line 2, in <module>", "    x = 1 / 0",
    "        ~~^~~", "ZeroDivisionError: division by zero"].flatMap (·.toList ++ ['\n'])

theorem column_own_division :
    error? divisionOutput (some "/tmp/main.py") [] 0 =
        .ok (some { type := "ZeroDivisionError", message := "division by zero", line := some 2, column := some 5 }) ∧
      ∃ (p : Citation divisionOutput (some "/tmp/main.py")) (number : Int) (q : Marked p.after),
        Reading.whole (p.named.group "line") = .ok number ∧ some 2 = some (number - 0) ∧
          5 = q.column (quotedLine [] number) ∧ (p.HasOwnMarks ↔ q.Own) := by
  have hread : error? divisionOutput (some "/tmp/main.py") [] 0 =
      .ok (some { type := "ZeroDivisionError", message := "division by zero", line := some 2, column := some 5 }) := by
    decide +kernel
  exact ⟨hread, column_own_iff hread rfl⟩

/-- The output of a call in the second line of the program, which has no marks, into a file that fails with marks. -/
def libraryOutput : List Char :=
  ["Traceback (most recent call last):", "  File \"/tmp/main.py\", line 2, in <module>", "    f(1)",
    "  File \"/usr/lib/lib.py\", line 7, in f", "    return a / 0", "           ~~^~~",
    "ZeroDivisionError: division by zero"].flatMap (·.toList ++ ['\n'])

/-- How that output is read: the call is the last frame of the program. -/
def libraryCitation : Citation libraryOutput (some "/tmp/main.py") where
  before := ["Traceback (most recent call last):".toList]
  head := "  File \"/tmp/main.py\", line 2, in <module>".toList
  named := (frameOf? (targetFile (some "/tmp/main.py"))
    "  File \"/tmp/main.py\", line 2, in <module>".toList).get (by decide +kernel)
  after := ["    f(1)".toList, "  File \"/usr/lib/lib.py\", line 7, in f".toList, "    return a / 0".toList,
    "           ~~^~~".toList]
  ending := "ZeroDivisionError: division by zero".toList
  later := []
  lines_eq := by decide +kernel
  head_eq := (Option.some_get _).symm
  after_none := by decide +kernel
  ending_isSome := by decide +kernel
  later_none := List.forall_mem_nil _

/-- The marks under a frame of another file place the column in the line of the program's own frame. -/
theorem column_of_other_frame :
    error? libraryOutput (some "/tmp/main.py") [] 0 =
        .ok (some { type := "ZeroDivisionError", message := "division by zero", line := some 2, column := some 8 }) ∧
      ¬ libraryCitation.HasOwnMarks := by
  refine ⟨by decide +kernel, by decide +kernel⟩

end CodeAudit.Traceback
