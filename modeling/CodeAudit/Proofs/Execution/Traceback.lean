import CodeAudit.Execution.Sandbox
import CodeAudit.Proofs.Numeric.Digits
import CodeAudit.Proofs.Outcome
import CodeAudit.Proofs.Regex.Ends

/-!
What decides the error of a child that ended with a code other than zero: the name of the exception that its
error output ends with, and the line number of the last frame before it.
-/
namespace CodeAudit.Traceback

open Outcome ExecutionResult

/-- The class of the exception that an output ends with, without its module. -/
def raised? (stderr : List Char) : Option String :=
  (lastException? (Text.outputLines stderr).reverse).map fun (_, m) => String.ofList (shortName (m.group "type"))

/-- The file that the sandbox runs. -/
def programFile : List Char :=
  fileName "main.py".toList

/-- The line number in the last frame of the program before that exception, as it is written. -/
def frameDigits? (stderr : List Char) : Option (List Char) :=
  (lastException? (Text.outputLines stderr).reverse).bind fun (earlier, _) =>
    (lastFrame? (some programFile) [] earlier).map (·.1)

/-- The line number of the last frame, if any, is read as a whole number. -/
def LineReadable (stderr : List Char) : Prop :=
  ∀ digits, frameDigits? stderr = some digits → digits.length ≤ Reading.maxDigits

/-- The exception that the output ends with is not named like an error of the sandbox's own. -/
def NameForeign (stderr : List Char) : Prop :=
  ∀ name, raised? stderr = some name → name ∉ ownErrorTypes

/-- What is read of a line that is a frame of the file, or of any file when none is given. -/
def frameOf? (target : Option (List Char)) (line : Source.Line) : Option Regex.Found :=
  (frame.atStart? line).filter fun m => target.all (fileName (m.group "file") == ·)

lemma frameOf?_eq_some_iff {target : Option (List Char)} {line : Source.Line} {m : Regex.Found} :
    frameOf? target line = some m ↔
      frame.atStart? line = some m ∧ target.all (fileName (m.group "file") == ·) = true :=
  Option.filter_eq_some_iff

/-- A cut of a list in three falls at its first item or behind it. -/
lemma exists_cut_cons {α : Type} {a : α} {l : List α} {P : List α → α → List α → Prop} :
    (∃ inner x outer, a :: l = inner ++ x :: outer ∧ P inner x outer) ↔
      P [] a l ∨ ∃ inner x outer, l = inner ++ x :: outer ∧ P (a :: inner) x outer := by
  constructor
  · rintro ⟨inner, x, outer, hcut, hP⟩
    cases inner with
    | nil =>
      obtain ⟨rfl, rfl⟩ := List.cons.inj hcut
      exact .inl hP
    | cons b inner =>
      obtain ⟨rfl, rfl⟩ := List.cons.inj hcut
      exact .inr ⟨inner, x, outer, rfl, hP⟩
  · rintro (hP | ⟨inner, x, outer, rfl, hP⟩)
    · exact ⟨[], a, l, rfl, hP⟩
    · exact ⟨a :: inner, x, outer, rfl, hP⟩

/-- The search for the last exception passes over the lines behind it. -/
lemma lastException?_eq_some_iff {ls earlier : List Source.Line} {m : Regex.Found} :
    lastException? ls = some (earlier, m) ↔
      ∃ later ending outer, ls = later ++ ending :: outer ∧ exception? ending = some m ∧ outer = earlier ∧
        ∀ line ∈ later, exception? line = none := by
  induction ls with
  | nil => simp [lastException?]
  | cons line ls ih =>
    rw [lastException?, exists_cut_cons]
    cases hline : exception? line with
    | some found => simp [hline, and_comm]
    | none => simp [hline, ih]

lemma lastFrame?_cons {target : Option (List Char)} {line : Source.Line} {earlier after : List Source.Line} :
    lastFrame? target after (line :: earlier) =
      match frameOf? target line with
      | some m => some (m.group "line", after)
      | none => lastFrame? target (line :: after) earlier := by
  rw [lastFrame?, frameOf?]
  cases frame.atStart? line with
  | none => rfl
  | some m =>
    dsimp only [Option.filter]
    split
    · rfl
    · rfl

/-- The search for the last frame of a file passes over the lines behind it, and keeps them. -/
lemma lastFrame?_eq_some_iff {target : Option (List Char)} {ls after rest : List Source.Line} {digits : List Char} :
    lastFrame? target after ls = some (digits, rest) ↔
      ∃ inner head outer, ls = inner ++ head :: outer ∧ (∃ m, frameOf? target head = some m ∧ m.group "line" = digits) ∧
        inner.reverse ++ after = rest ∧ ∀ line ∈ inner, frameOf? target line = none := by
  induction ls generalizing after with
  | nil => simp [lastFrame?]
  | cons line ls ih =>
    rw [lastFrame?_cons, exists_cut_cons]
    cases hline : frameOf? target line with
    | some found => simp [hline]
    | none => simp [hline, ih]

lemma decimals_of_lastFrame? {target : Option (List Char)} {ls after rest : List Source.Line} {digits : List Char}
    (h : lastFrame? target after ls = some (digits, rest)) :
    digits ≠ [] ∧ ∀ c ∈ digits, Text.isDecimal c = true := by
  obtain ⟨-, head, -, -, ⟨m, hhead, rfl⟩, -, -⟩ := lastFrame?_eq_some_iff.mp h
  exact Regex.group_of_atStart? (frameOf?_eq_some_iff.mp hhead).1

lemma exception?_of_blank {line : Source.Line} (h : ∀ c ∈ line, Text.isBlank c = true) : exception? line = none := by
  cases line with
  | nil => rfl
  | cons c rest => simp [exception?, h c List.mem_cons_self]

lemma lastException?_of_blank {ls : List Source.Line} (h : ∀ line ∈ ls, ∀ c ∈ line, Text.isBlank c = true) :
    lastException? ls = none := by
  induction ls with
  | nil => rfl
  | cons line earlier ih =>
    rw [lastException?, exception?_of_blank (h line List.mem_cons_self)]
    exact ih fun l hl => h l (List.mem_cons_of_mem line hl)

/-- An output of blanks tells of no exception. -/
lemma lastException?_of_isBlankText {stderr : List Char} (h : Text.isBlankText stderr = true) :
    lastException? (Text.outputLines stderr).reverse = none := by
  apply lastException?_of_blank
  intro line hline c hc
  exact List.all_eq_true.mp h c (Text.mem_of_mem_outputLines (List.mem_reverse.mp hline) hc)

lemma suggestions_foreign : ∀ s ∈ suggestions, s.1 ∉ ownErrorTypes := by
  decide

lemma suggested_foreign (stderr : List Char) : (suggested stderr).type ∉ ownErrorTypes := by
  unfold suggested
  generalize hf : suggestions.find? _ = found
  cases found with
  | none => exact show "ProcessError" ∉ ownErrorTypes by decide
  | some s => exact suggestions_foreign s (List.mem_of_find?_eq_some hf)

section Error

variable {stderr : List Char} {source : List Source.Line} {offset : Int}

/-- Without an exception line the phrases of the output decide, if there is any output. -/
lemma error?_eq_of_not_raised (h : raised? stderr = none) :
    error? stderr (some "main.py") source offset =
      .ok (if Text.isBlankText stderr then none else some (suggested stderr)) := by
  have hnone := Option.map_eq_none_iff.mp h
  unfold error?
  split
  · rfl
  · rw [hnone]
    rfl

variable (source offset) in
/-- Without an exception line the error, if any, is none of the sandbox's own. -/
lemma error?_of_not_raised (h : raised? stderr = none) :
    ∃ o, error? stderr (some "main.py") source offset = .ok o ∧ ∀ e ∈ o, e.type ∉ ownErrorTypes := by
  refine ⟨_, error?_eq_of_not_raised h, ?_⟩
  split
  · simp
  · rintro e ⟨⟩
    exact suggested_foreign stderr

/-- With an exception line there is an error of that name, unless its line number cannot be read. -/
lemma error?_of_raised {name : String} (h : raised? stderr = some name) :
    ((∃ o, error? stderr (some "main.py") source offset = .ok o) ↔ LineReadable stderr) ∧
      ∀ o, error? stderr (some "main.py") source offset = .ok o → ∃ e, o = some e ∧ e.type = name := by
  obtain ⟨⟨earlier, m⟩, hlast, rfl⟩ := Option.map_eq_some_iff.mp h
  have hblank : ¬ Text.isBlankText stderr = true := fun hb => by
    rw [lastException?_of_isBlankText hb] at hlast
    cases hlast
  have hpath : "main.py".isEmpty = false := by decide
  have hfile : fileName "main.py".toList = programFile := rfl
  unfold error? LineReadable frameDigits?
  simp only [hblank, Bool.false_eq_true, if_false, hlast, Option.bind_some, hpath, hfile]
  cases hframe : lastFrame? (some programFile) [] earlier with
  | none =>
    refine ⟨⟨fun _ digits h => (by cases h), fun _ => ⟨_, rfl⟩⟩, ?_⟩
    rintro o ⟨⟩
    exact ⟨_, rfl, rfl⟩
  | some found =>
    obtain ⟨digits, after⟩ := found
    -- the frame's expression ends with a group of decimal digits, so only their number can be at fault
    obtain ⟨hne, hdecimal⟩ := decimals_of_lastFrame? hframe
    simp only [Option.map_some, Option.some.injEq, forall_eq',
      ← Reading.whole_isOk_iff_of_decimals hne hdecimal, bind_eq_ok]
    refine ⟨⟨fun ⟨_, n, hn, _⟩ => ⟨n, hn⟩, fun ⟨n, hn⟩ => ?_⟩, fun o ⟨n, _, ho⟩ => ?_⟩
    · by_cases hline : n - offset < 1
      · exact ⟨_, n, hn, by rw [if_pos hline]; rfl⟩
      · exact ⟨_, n, hn, by rw [if_neg hline]; rfl⟩
    · split at ho
      · cases ho
        exact ⟨_, rfl, rfl⟩
      · cases ho
        exact ⟨_, rfl, rfl⟩

variable (source offset) in
theorem error?_ok_iff :
    (∃ o, error? stderr (some "main.py") source offset = .ok o) ↔ LineReadable stderr := by
  cases h : raised? stderr with
  | some name => exact (error?_of_raised h).1
  | none =>
    obtain ⟨o, ho, _⟩ := error?_of_not_raised source offset h
    have hframe : frameDigits? stderr = none := by
      rw [frameDigits?, Option.map_eq_none_iff.mp h]
      rfl
    refine ⟨fun _ digits hd => ?_, fun _ => ⟨o, ho⟩⟩
    rw [hframe] at hd
    cases hd

theorem error?_foreign_iff {o : Option ExecutionError}
    (ho : error? stderr (some "main.py") source offset = .ok o) :
    (∀ e ∈ o, e.type ∉ ownErrorTypes) ↔ NameForeign stderr := by
  unfold NameForeign
  cases h : raised? stderr with
  | some name =>
    obtain ⟨e, rfl, rfl⟩ := (error?_of_raised h).2 o ho
    simp
  | none =>
    obtain ⟨o', ho', hforeign⟩ := error?_of_not_raised source offset h
    cases ho.symm.trans ho'
    exact ⟨fun _ _ hn => (by cases hn), fun _ => hforeign⟩

end Error

end CodeAudit.Traceback
