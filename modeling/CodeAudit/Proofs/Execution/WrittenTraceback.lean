import CodeAudit.Proofs.Execution.Traceback
import CodeAudit.Proofs.Execution.TracebackEnd
import CodeAudit.Proofs.Execution.TracebackFrame
import Mathlib.Data.Bool.AllAny

/-!
Tracebacks as they are written, and what is read back from them: the exception of the last line, and the line of the
last frame of the file. The exception is recognised when its name starts with an ASCII letter or an underscore.
-/
namespace CodeAudit.Traceback

open Source (Line)

/-- A traceback with other output before it. -/
structure Written where
  noise : List Line
  frames : List Frame
  raised : Raised
  closed : Bool

namespace Written

/-- The lines before the one of the exception. -/
def before (t : Written) : List Line :=
  t.noise ++ t.frames.flatMap Frame.lines

def text (t : Written) : List Char :=
  t.before.flatMap (· ++ ['\n']) ++ (t.raised.line ++ if t.closed then ['\n'] else [])

/-- The record of the exception, at that line of the file. -/
def record (t : Written) (number : Int) : ExecutionError :=
  { type := String.ofList t.raised.className
    message := String.ofList (t.raised.message.getD [])
    line := if number < 1 then none else some number }

end Written

section Reading

variable {t : Written} {f : Frame} {file : List Char}

lemma lastException?_append {ls : List Line} (h : ∀ line ∈ ls, exception? line = none) (earlier : List Line) :
    lastException? (ls ++ earlier) = lastException? earlier := by
  induction ls with
  | nil => rfl
  | cons line ls ih =>
    obtain ⟨hline, hls⟩ := List.forall_mem_cons.mp h
    rw [List.cons_append, lastException?, hline]
    exact ih hls

lemma column?_of_unmarked (source : Line) {ls : List Line} (h : ∀ line ∈ ls, caretLine.startsText line = false) :
    column? source ls = none := by
  induction ls with
  | nil => rfl
  | cons shown ls ih =>
    cases ls with
    | nil => rfl
    | cons marks rest =>
      rw [column?, h marks (by simp), if_neg Bool.false_ne_true]
      exact ih fun line hline => h line (List.mem_cons_of_mem shown hline)

namespace Written

/-- The lines of the other output, last one first. -/
def noiseLines (t : Written) : List Line :=
  (Text.outputLines (t.noise.flatMap (· ++ ['\n']))).reverse

lemma outputLines_text (t : Written) :
    (Text.outputLines t.text).reverse =
      t.raised.line :: ((t.frames.flatMap Frame.lines).reverse ++ t.noiseLines) := by
  have hframes : ∀ line ∈ t.frames.flatMap Frame.lines, Text.IsLine line := by
    intro line hline
    obtain ⟨f, -, hline⟩ := List.mem_flatMap.mp hline
    exact f.isLine_of_mem_lines hline
  have hlast : Text.outputLines (t.raised.line ++ if t.closed then ['\n'] else []) = [t.raised.line] := by
    cases t.closed with
    | true => exact Text.outputLines_cons_line t.raised.line_isLine []
    | false =>
      obtain ⟨c, rest, hline, -⟩ := t.raised.exists_line_eq_cons
      rw [if_neg Bool.false_ne_true, List.append_nil]
      exact Text.outputLines_of_line t.raised.line_isLine (hline ▸ List.cons_ne_nil c rest)
  rw [text, before, List.flatMap_append, List.append_assoc, Text.outputLines_closed_append,
    Text.outputLines_lines_append hframes, hlast, List.reverse_append, List.reverse_append]
  rfl

lemma not_isBlankText_text (t : Written) : Text.isBlankText t.text = false := by
  obtain ⟨c, rest, hline, hc⟩ := t.raised.exists_line_eq_cons
  refine Text.isBlankText_eq_false_of_mem ?_ hc
  simp [text, hline]

/-- The last frame of the file. -/
def last? (t : Written) (file : List Char) : Option Frame :=
  t.frames.reverse.find? (·.isOf file)

end Written

/-- The last frame of the file is found with the lines after it, none of which is one of marks. -/
lemma lastFrame?_of_last? (h : t.last? file = some f) (earlier : List Line) :
    ∃ after, lastFrame? (some file) [] ((t.frames.flatMap Frame.lines).reverse ++ earlier) = some (f.digits, after) ∧
      ∀ line ∈ after, caretLine.startsText line = false := by
  obtain ⟨hf, later, before, hreverse, hlater⟩ := List.find?_eq_some_iff_append.mp h
  have hframes : t.frames = before.reverse ++ f :: later.reverse := by
    rw [← List.reverse_reverse t.frames, hreverse]
    simp
  have hlines : (t.frames.flatMap Frame.lines).reverse ++ earlier =
      (f.below ++ later.reverse.flatMap Frame.lines).reverse ++
        (f.head :: ((before.reverse.flatMap Frame.lines).reverse ++ earlier)) := by
    simp [hframes, Frame.lines]
  have hforeign : ∀ line ∈ (f.below ++ later.reverse.flatMap Frame.lines).reverse, frameOf? (some file) line = none := by
    intro line hline
    refine Option.filter_eq_none_iff.mpr fun m hm => ?_
    rw [Option.all_some, beq_iff_eq]
    rcases List.mem_append.mp (List.mem_reverse.mp hline) with hline | hline
    · rw [f.foreign_of_mem_below hline] at hm
      cases hm
    · obtain ⟨g, hg, hline⟩ := List.mem_flatMap.mp hline
      exact g.foreign_of_mem_lines (by simpa using hlater g (List.mem_reverse.mp hg)) hline m hm
  obtain ⟨hpath, hfile⟩ := Bool.and_eq_true_iff.mp hf
  obtain ⟨m, hm⟩ := f.exists_atStart? (by simpa using hpath)
  obtain ⟨-, hgroup, hdigits⟩ := f.group_of_atStart? hm
  have hhead : frameOf? (some file) f.head = some m := frameOf?_eq_some_iff.mpr ⟨hm, by rw [Option.all_some, hgroup, hfile]⟩
  refine ⟨f.below ++ later.reverse.flatMap Frame.lines, ?_, fun line hline => ?_⟩
  · exact lastFrame?_eq_some_iff.mpr ⟨_, f.head, _, hlines, ⟨m, hhead, hdigits⟩, by simp, hforeign⟩
  · rcases List.mem_append.mp hline with hline | hline
    · exact f.unmarked_of_mem_lines (List.mem_cons_of_mem _ hline)
    · obtain ⟨g, -, hline⟩ := List.mem_flatMap.mp hline
      exact g.unmarked_of_mem_lines hline

variable {path : String} {source : List Line} {offset : Int}

/-- A recognised exception is read with the number of the last frame of the file. -/
lemma error?_of_recognised (hpath : path.isEmpty = false) (hf : t.last? (fileName path.toList) = some f)
    (h : t.raised.Recognised) :
    error? t.text (some path) source offset =
      (Reading.whole f.digits).map fun number => some (t.record (number - offset)) := by
  obtain ⟨hsome, hgroups⟩ := t.raised.exception?_line
  obtain ⟨m, hm⟩ := Option.isSome_iff_exists.mp (hsome.mpr h)
  obtain ⟨htype, hmessage⟩ := hgroups m hm
  obtain ⟨after, hframe, hunmarked⟩ := lastFrame?_of_last? hf t.noiseLines
  have hcolumn : ∀ quoted, column? quoted after = none := fun quoted => column?_of_unmarked quoted hunmarked
  unfold error?
  rw [t.not_isBlankText_text, if_neg Bool.false_ne_true, t.outputLines_text, lastException?, hm]
  simp only [hpath, Bool.false_eq_true, if_false, hframe, htype, hmessage, t.raised.shortName_name, hcolumn]
  cases Reading.whole f.digits with
  | error fault => rfl
  | ok number =>
    by_cases hline : number - offset < 1
    · simp [Written.record, hline, pure, Except.pure, bind, Except.bind, Except.map]
    · simp [Written.record, hline, pure, Except.pure, bind, Except.bind, Except.map]

variable (path source offset) in
/-- Without an exception line the last line as a whole becomes the message. -/
lemma error?_of_not_recognised (h : ¬ t.raised.Recognised) (hnoise : raised? (t.noise.flatMap (· ++ ['\n'])) = none) :
    ∃ e, error? t.text (some path) source offset = .ok (some e) ∧ e.message = String.ofList t.raised.line := by
  have hraised : exception? t.raised.line = none := by
    rw [← Option.not_isSome_iff_eq_none, t.raised.exception?_line.1]
    exact h
  have hframes : ∀ line ∈ (t.frames.flatMap Frame.lines).reverse, exception? line = none := by
    intro line hline
    obtain ⟨f, -, hline⟩ := List.mem_flatMap.mp (List.mem_reverse.mp hline)
    exact f.exception?_of_mem_lines hline
  refine ⟨suggested t.text, ?_, ?_⟩
  · unfold error?
    rw [t.not_isBlankText_text, if_neg Bool.false_ne_true, t.outputLines_text, lastException?, hraised,
      lastException?_append hframes, Written.noiseLines, Option.map_eq_none_iff.mp hnoise]
    rfl
  · obtain ⟨c, rest, hline, -⟩ := t.raised.exists_line_eq_cons
    simp only [suggested, t.outputLines_text, List.map_cons, t.raised.strip_line]
    rw [List.find?_cons_of_pos (by rw [hline]; rfl)]
    rfl

/-- **Reading inverts writing.** When the name of the exception is recognised and the number of the last frame of
the file has not too many digits, the one error has the class, the message and the line that the traceback was
written from, and no column. Unless other output holds an exception line, both conditions are needed. -/
theorem error?_of_written (t : Written) (f : Frame) (path : String) (source : List Line) (offset : Int)
    (hpath : path.isEmpty = false) (hf : t.last? (fileName path.toList) = some f) :
    (t.raised.Recognised ∧ f.digits.length ≤ Reading.maxDigits →
        error? t.text (some path) source offset = .ok (some (t.record (f.number - offset)))) ∧
      (raised? (t.noise.flatMap (· ++ ['\n'])) = none →
        error? t.text (some path) source offset = .ok (some (t.record (f.number - offset))) →
          t.raised.Recognised ∧ f.digits.length ≤ Reading.maxDigits) := by
  constructor
  · rintro ⟨hname, hdigits⟩
    have hnumber : Reading.whole f.digits = .ok (f.number : Int) :=
      (Reading.whole_toDigits_eq_ok_iff f.number f.number).mpr ⟨hdigits, rfl⟩
    rw [error?_of_recognised hpath hf hname, hnumber]
    rfl
  · intro hnoise hread
    by_cases hname : t.raised.Recognised
    · refine ⟨hname, ?_⟩
      rw [error?_of_recognised hpath hf hname] at hread
      cases hwhole : Reading.whole f.digits with
      | error fault =>
        rw [hwhole] at hread
        cases hread
      | ok number => exact ((Reading.whole_toDigits_eq_ok_iff f.number number).mp hwhole).1
    · obtain ⟨e, he, hmessage⟩ := error?_of_not_recognised path source offset hname hnoise
      cases he.symm.trans hread
      exact absurd (String.ofList_injective hmessage).symm t.raised.message_ne_line

end Reading

/-- The third line of the program, which raises an error. -/
def raisingFrame : Frame where
  path := "/tmp/main.py".toList
  number := 3
  scope := some "<module>".toList
  quoted := some "raise error".toList
  path_isLine := show Text.IsLine "/tmp/main.py".toList by decide
  path_unquoted := List.all_iff_forall_prop.mp (by decide)
  scope_isLine := by
    rintro _ ⟨⟩
    exact show Text.IsLine "<module>".toList by decide
  quoted_isLine := by
    rintro _ ⟨⟩
    exact show Text.IsLine "raise error".toList by decide
  quoted_plain := by
    rintro _ ⟨⟩
    exact ⟨by decide +kernel, by decide +kernel⟩

/-- An error of that class with a message. -/
def raisedError (className : List Char)
    (plain : ∀ c ∈ className, c ≠ '.' ∧ c ≠ ':' ∧ Text.isBlank c = false) (ending : "Error".toList <:+ className) :
    Raised where
  modules := []
  className := className
  message := some "bad".toList
  part_plain := by simpa using plain
  exceptional := .inr ⟨"Error", by decide, ending⟩
  message_isLine := by
    rintro _ ⟨⟩
    exact show Text.IsLine "bad".toList by decide
  message_stripped := by
    rintro _ ⟨⟩
    exact ⟨by decide, by decide⟩

/-- The traceback of an error that the program's third line raises. -/
def writtenError (e : Raised) : Written :=
  { noise := ["Traceback (most recent call last):".toList], frames := [raisingFrame], raised := e, closed := true }

def customError : Raised :=
  raisedError "CustomError".toList (List.all_iff_forall_prop.mp (by decide +kernel)) ⟨"Custom".toList, by decide⟩

def umlautError : Raised :=
  raisedError "ÜberError".toList (List.all_iff_forall_prop.mp (by decide +kernel)) ⟨"Über".toList, by decide⟩

theorem error?_of_written_customError :
    (writtenError customError).last? (fileName "/tmp/main.py".toList) = some raisingFrame ∧
      error? (writtenError customError).text (some "/tmp/main.py") [] 0 =
        .ok (some { type := "CustomError", message := "bad", line := some 3 }) := by
  have hlast : (writtenError customError).last? (fileName "/tmp/main.py".toList) = some raisingFrame := rfl
  have hread := error?_of_written (writtenError customError) raisingFrame "/tmp/main.py" [] 0 (by decide) hlast
  exact ⟨hlast, hread.1 ⟨⟨by decide, List.all_eq_true.mp (by decide +kernel)⟩, by decide +kernel⟩⟩

/-- The class of an exception whose name starts with a letter beyond ASCII is lost, and so is its line. -/
theorem written_umlautError_lost :
    (writtenError umlautError).last? (fileName "/tmp/main.py".toList) = some raisingFrame ∧
      (writtenError umlautError).record 3 = { type := "ÜberError", message := "bad", line := some 3 } ∧
      error? (writtenError umlautError).text (some "/tmp/main.py") [] 0 =
        .ok (some { type := "ProcessError", message := "ÜberError: bad" }) := by
  refine ⟨rfl, by decide, by decide +kernel⟩

end CodeAudit.Traceback
