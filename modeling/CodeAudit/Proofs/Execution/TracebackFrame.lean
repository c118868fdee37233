import CodeAudit.Execution.Traceback
import CodeAudit.Proofs.Numeric.Digits
import CodeAudit.Proofs.Regex.Groups
import CodeAudit.Proofs.Text.Classes
import CodeAudit.Proofs.Text.Output

/-! The frames of a traceback as they are written, and what their lines are read as. -/
namespace CodeAudit.Traceback

open Regex
open Source (Line)

/-- A place in a file, with the code that is quoted under it. -/
structure Frame where
  path : List Char
  number : ℕ
  scope : Option (List Char)
  quoted : Option (List Char)
  path_isLine : Text.IsLine path
  path_unquoted : ∀ c ∈ path, c ≠ '"'
  scope_isLine : ∀ name ∈ scope, Text.IsLine name
  quoted_isLine : ∀ code ∈ quoted, Text.IsLine code
  quoted_plain : ∀ code ∈ quoted, frame.startsText ("    ".toList ++ code) = false ∧
    caretLine.startsText ("    ".toList ++ code) = false

namespace Frame

def digits (f : Frame) : List Char :=
  Nat.toDigits 10 f.number

/-- What follows the number of the line. -/
def place (f : Frame) : List Char :=
  match f.scope with
  | some name => ", in ".toList ++ name
  | none => []

def head (f : Frame) : Line :=
  "  ".toList ++ ("File \"".toList ++ (f.path ++ ("\", line ".toList ++ (f.digits ++ f.place))))

/-- The line of code under the frame, four blanks in. -/
def below (f : Frame) : List Line :=
  (f.quoted.map ("    ".toList ++ ·)).toList

def lines (f : Frame) : List Line :=
  f.head :: f.below

/-- The frame is one of the file of that name. -/
def isOf (file : List Char) (f : Frame) : Bool :=
  !f.path.isEmpty && fileName f.path == file

end Frame

/-- A line of marks has a caret among the blanks and marks that it starts with. -/
lemma not_startsText_caretLine {line : Line}
    (h : '^' ∉ line.takeWhile fun c => Text.isBlank c || isMark c) : caretLine.startsText line = false := by
  rw [← Bool.not_eq_true]
  intro hstarts
  obtain ⟨_, post, rfl, hspells⟩ := (startsText_iff rfl).mp hstarts
  obtain ⟨_, _, rfl, ⟨_, _, rfl, ⟨_, after, rfl, hmarked, -⟩, -⟩, -⟩ := hspells
  obtain ⟨_, caret, rfl, ⟨margin, marks, rfl, hmargin, hmarks⟩, hcaret⟩ := hmarked
  obtain rfl := spells_text.mp hcaret
  apply h
  have hclass : ∀ c ∈ margin ++ marks ++ "^".toList, (Text.isBlank c || isMark c) = true := by
    intro c hc
    rcases List.mem_append.mp hc with hc | hc
    · rcases List.mem_append.mp hc with hc | hc
      · rw [hmargin c hc, Bool.true_or]
      · rw [hmarks c hc, Bool.or_true]
    · rw [List.mem_singleton.mp hc]
      decide
  rw [List.append_assoc, List.append_assoc, List.append_assoc, List.takeWhile_append_of_pos hclass]
  exact List.mem_append_left _ (List.mem_append_right _ List.mem_cons_self)

section Frames

variable {f : Frame} {m : Found}

lemma Frame.isDecimal_of_mem_digits {c : Char} (h : c ∈ f.digits) : Text.isDecimal c = true :=
  Reading.isDecimal_of_isDigit (Nat.isDigit_of_mem_toDigits (by decide) (by decide) h)

/-- The digits end where the place goes on. -/
lemma Frame.takeWhile_digits (f : Frame) : (f.digits ++ f.place).takeWhile Text.isDecimal = f.digits := by
  rw [List.takeWhile_append_of_pos fun c hc => isDecimal_of_mem_digits hc]
  have hplace : f.place.takeWhile Text.isDecimal = [] := by
    unfold Frame.place
    split
    · rfl
    · rfl
  rw [hplace, List.append_nil]

/-- The head of a frame is read as what it is written from. -/
lemma Frame.group_of_atStart? (h : frame.atStart? f.head = some m) :
    f.path ≠ [] ∧ m.group "file" = f.path ∧ m.group "line" = f.digits := by
  obtain ⟨u, hu, -, hm⟩ := captured_of_greedy h
  obtain ⟨t₃, h₃, hu⟩ := mem_ends_seq.mp hu
  obtain ⟨t₂, h₂, h₃⟩ := mem_ends_seq.mp h₃
  obtain ⟨t₁, h₁, h₂⟩ := mem_ends_seq.mp h₂
  obtain ⟨margin, post₁, hhead, margin_captures⟩ := exists_captures rfl (.ofText _) h₁
  obtain ⟨word, post₂, rfl, word_captures⟩ := exists_captures (isPlain_text _) margin_captures.at_end h₂
  obtain ⟨file, post₃, rfl, file_captures⟩ := exists_captures_group rfl word_captures.at_end h₃
  obtain ⟨comma, post₄, rfl, comma_captures⟩ := exists_captures (isPlain_text _) file_captures.at_end hu
  obtain rfl := spells_text.mp word_captures.spells
  obtain rfl := spells_text.mp comma_captures.spells
  obtain ⟨hfile, hunquoted⟩ := spells_many1.mp (spells_group.mp file_captures.spells)
  -- each part ends where the next one starts with a character that is not of its class
  have hmargin : ∀ c ∈ "  ".toList, Text.isBlank c = true := List.all_eq_true.mp (by decide)
  obtain ⟨-, hword⟩ := Text.run_unique (p := Text.isBlank) hmargin margin_captures.spells rfl rfl hhead
  obtain ⟨hpath, hcomma⟩ := Text.run_unique (p := (· != '"')) (by simpa using f.path_unquoted) hunquoted rfl rfl
    (List.append_cancel_left hword)
  obtain rfl := hpath
  obtain rfl := List.append_cancel_left hcomma
  have hcaptured : m.captured = [("line", f.digits), ("file", f.path)] := by
    rw [hm, comma_captures.at_end.rest, f.takeWhile_digits, comma_captures.captured, file_captures.captured,
      word_captures.captured, margin_captures.captured]
    rfl
  refine ⟨hfile, ?_, ?_⟩
  · rw [Found.group_eq, hcaptured]
    rfl
  · rw [Found.group_eq, hcaptured]
    rfl

lemma Frame.exists_atStart? (h : f.path ≠ []) : ∃ m, frame.atStart? f.head = some m := by
  rw [← Option.isSome_iff_exists]
  refine (startsText_iff rfl).mpr
    ⟨"  ".toList ++ "File \"".toList ++ f.path ++ "\", line ".toList ++ f.digits, f.place, by simp [Frame.head], ?_⟩
  refine ⟨_, _, rfl, ⟨_, _, rfl, ⟨_, _, rfl, ⟨_, _, rfl, ?_, spells_text.mpr rfl⟩, ?_⟩, spells_text.mpr rfl⟩, ?_⟩
  · exact List.all_eq_true.mp (by decide)
  · exact spells_many1.mpr ⟨h, by simpa using f.path_unquoted⟩
  · exact spells_many1.mpr ⟨Nat.toDigits_ne_nil, fun c hc => isDecimal_of_mem_digits hc⟩

end Frames

section Lines

variable {f : Frame} {file : List Char}

namespace Frame

lemma mem_below {line : Line} (h : line ∈ f.below) : ∃ code ∈ f.quoted, line = "    ".toList ++ code := by
  obtain ⟨code, hcode, rfl⟩ := Option.map_eq_some_iff.mp (Option.mem_toList.mp h)
  exact ⟨code, hcode, rfl⟩

lemma isLine_of_mem_lines {line : Line} (h : line ∈ f.lines) : Text.IsLine line := by
  rcases List.mem_cons.mp h with rfl | h
  · have hplace : Text.IsLine f.place := by
      unfold place
      split
      · rename_i name hname
        exact Text.IsLine.append (show Text.IsLine ", in ".toList by decide) (f.scope_isLine name hname)
      · exact List.forall_mem_nil _
    have hdigits : Text.IsLine f.digits := fun c hc =>
      Text.not_isLineEnd_of_not_isBlank (Text.not_isBlank_of_isDecimal (isDecimal_of_mem_digits hc))
    refine .append ?_ (.append ?_ (.append f.path_isLine (.append ?_ (.append hdigits hplace))))
    · exact show Text.IsLine "  ".toList by decide
    · exact show Text.IsLine "File \"".toList by decide
    · exact show Text.IsLine "\", line ".toList by decide
  · obtain ⟨code, hcode, rfl⟩ := mem_below h
    exact Text.IsLine.append (show Text.IsLine "    ".toList by decide) (f.quoted_isLine code hcode)

lemma exception?_of_mem_lines {line : Line} (h : line ∈ f.lines) : exception? line = none := by
  rcases List.mem_cons.mp h with rfl | h
  · rfl
  · obtain ⟨code, hcode, rfl⟩ := mem_below h
    rfl

lemma unmarked_of_mem_lines {line : Line} (h : line ∈ f.lines) : caretLine.startsText line = false := by
  rcases List.mem_cons.mp h with rfl | h
  · exact not_startsText_caretLine (show '^' ∉ "  ".toList by decide)
  · obtain ⟨code, hcode, rfl⟩ := mem_below h
    exact (f.quoted_plain code hcode).2

lemma foreign_of_mem_below {line : Line} (h : line ∈ f.below) : frame.atStart? line = none := by
  obtain ⟨code, hcode, rfl⟩ := mem_below h
  simpa [startsText] using (f.quoted_plain code hcode).1

/-- A frame of another file has no line that is a frame of the file. -/
lemma foreign_of_mem_lines (hf : f.isOf file = false) {line : Line} (h : line ∈ f.lines) :
    ∀ m, frame.atStart? line = some m → fileName (m.group "file") ≠ file := by
  intro m hm hfile
  rcases List.mem_cons.mp h with rfl | h
  · obtain ⟨hpath, hgroup, -⟩ := group_of_atStart? hm
    rw [hgroup] at hfile
    simp [isOf, hpath, hfile] at hf
  · rw [foreign_of_mem_below h] at hm
    cases hm

end Frame

end Lines

end CodeAudit.Traceback
