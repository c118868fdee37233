import CodeAudit.Execution.Traceback
import CodeAudit.Proofs.Regex.Groups
import CodeAudit.Proofs.Text.Classes
import CodeAudit.Proofs.Text.Output

/-! The last line of a traceback as it is written, and what it is read as. -/
namespace CodeAudit.Traceback

open Regex
open Source (Line)

/-- An exception as the last line of a traceback names it. -/
structure Raised where
  modules : List (List Char)
  className : List Char
  message : Option (List Char)
  part_plain : ∀ part ∈ className :: modules, ∀ c ∈ part, c ≠ '.' ∧ c ≠ ':' ∧ Text.isBlank c = false
  exceptional : String.ofList className ∈ Source.Vocabulary.exceptions ∨
    ∃ ending ∈ exceptionEndings, ending.toList <:+ className
  message_isLine : ∀ text ∈ message, Text.IsLine text
  message_stripped : ∀ text ∈ message, text ≠ [] ∧ Text.strip text = text

namespace Raised

/-- The dotted name of the class. -/
def name (e : Raised) : List Char :=
  e.modules.flatMap (· ++ ['.']) ++ e.className

/-- What follows the name. -/
def tail (e : Raised) : List Char :=
  match e.message with
  | some text => ": ".toList ++ text
  | none => []

def line (e : Raised) : Line :=
  e.name ++ e.tail

/-- The name is of word characters and points only, the first one an ASCII letter or an underscore. -/
def Recognised (e : Raised) : Prop :=
  e.name.head?.any Text.isNameStart = true ∧ ∀ c ∈ e.name, isDotted c = true

end Raised

section Exceptions

variable {e : Raised} {m : Found}

lemma isDotted_of_isNameStart {c : Char} (h : Text.isNameStart c = true) : isDotted c = true :=
  Bool.or_eq_true_iff.mpr (.inl (Text.isWord_of_isNameStart h))

lemma not_colon_of_isDotted {c : Char} (h : isDotted c = true) : (c != ':') = true := by
  rw [bne_iff_ne]
  rintro rfl
  exact absurd h (by decide)

/-- What a match of one line takes for the class, and for the message when there is one. -/
lemma captured_of_exceptionLine {line : Line} (hline : Text.IsLine line) (h : exceptionLine.atStart? line = some m) :
    ∃ type rest, line = type ++ rest ∧ type.head?.any Text.isNameStart = true ∧ (∀ c ∈ type, isDotted c = true) ∧
      ((rest = [] ∧ m.captured = [("type", type)]) ∨
        ∃ gap text, rest = ":".toList ++ (gap ++ text) ∧ ((∃ c, Text.isBlank c = true ∧ gap = [c]) ∨ gap = []) ∧
          m.captured = [("message", text), ("type", type)]) := by
  obtain ⟨t, ht, hm⟩ := captured_of_atStart? h
  obtain ⟨t₂, hboth, hend⟩ := mem_ends_seq.mp ht
  obtain ⟨t₁, h₁, h₂⟩ := mem_ends_seq.mp hboth
  obtain ⟨type, rest, rfl, type_captures⟩ := exists_captures_group rfl (.ofText _) h₁
  obtain ⟨c, more, rfl, hc, hmore⟩ : ∃ c more, type = c :: more ∧ Text.isNameStart c = true ∧
      ∀ d ∈ more, isDotted d = true := by
    obtain ⟨_, more, rfl, ⟨c, hc, rfl⟩, hmore⟩ := spells_group.mp type_captures.spells
    exact ⟨c, more, rfl, hc, hmore⟩
  refine ⟨_, rest, rfl, hc, List.forall_mem_cons.mpr ⟨isDotted_of_isNameStart hc, hmore⟩, ?_⟩
  have hstop : ∀ before {post}, (c :: more) ++ rest = before ++ post → post = [] ∨ post = ['\n'] → post = [] := by
    rintro before post hpost (h | rfl)
    · exact h
    · exact absurd (hline '\n' (hpost ▸ by simp)) (by decide)
  rcases List.mem_append.mp h₂ with h₂ | h₂
  · -- a colon follows
    obtain ⟨u₂, hopen, htext⟩ := mem_ends_seq.mp h₂
    obtain ⟨u₁, hcolon, hgap⟩ := mem_ends_seq.mp hopen
    obtain ⟨colon, post₁, rfl, colon_captures⟩ := exists_captures (isPlain_text _) type_captures.at_end hcolon
    obtain ⟨gap, post₂, rfl, gap_captures⟩ := exists_captures rfl colon_captures.at_end hgap
    obtain ⟨text, post₃, rfl, text_captures⟩ := exists_captures_group rfl gap_captures.at_end htext
    obtain ⟨_, post₄, rfl, stop_captures⟩ := exists_captures rfl text_captures.at_end hend
    obtain ⟨rfl, hpost⟩ := stop_captures.spells
    obtain rfl := spells_text.mp colon_captures.spells
    obtain rfl := hstop ((c :: more) ++ (":".toList ++ (gap ++ text))) (by simp) hpost
    refine .inr ⟨gap, text, by simp, gap_captures.spells, ?_⟩
    rw [hm, stop_captures.captured, text_captures.captured, gap_captures.captured, colon_captures.captured,
      type_captures.captured]
    rfl
  · obtain rfl := List.mem_singleton.mp h₂
    obtain ⟨_, post, rfl, stop_captures⟩ := exists_captures rfl type_captures.at_end hend
    obtain ⟨rfl, hpost⟩ := stop_captures.spells
    obtain rfl := hstop _ rfl hpost
    refine .inl ⟨rfl, ?_⟩
    rw [hm, stop_captures.captured, type_captures.captured]
    rfl

namespace Raised

lemma plain_of_mem_name {c : Char} (h : c ∈ e.name) : c ≠ ':' ∧ Text.isBlank c = false := by
  rcases List.mem_append.mp h with h | h
  · obtain ⟨part, hpart, h⟩ := List.mem_flatMap.mp h
    rcases List.mem_append.mp h with h | h
    · exact (e.part_plain part (List.mem_cons_of_mem _ hpart) c h).2
    · rw [List.mem_singleton.mp h]
      decide
  · exact (e.part_plain _ List.mem_cons_self c h).2

lemma className_ne_nil (e : Raised) : e.className ≠ [] := by
  intro h
  rcases h ▸ e.exceptional with hknown | ⟨ending, hending, hsuffix⟩
  · exact absurd hknown (by decide)
  · rw [List.suffix_nil] at hsuffix
    have hnone : ∀ ending ∈ exceptionEndings, ending.toList ≠ [] := by decide
    exact hnone ending hending hsuffix

lemma exists_line_eq_cons (e : Raised) : ∃ c rest, e.line = c :: rest ∧ Text.isBlank c = false := by
  have hne : e.name ≠ [] := List.append_ne_nil_of_right_ne_nil _ e.className_ne_nil
  obtain ⟨c, rest, hname⟩ := List.exists_cons_of_ne_nil hne
  refine ⟨c, rest ++ e.tail, by rw [line, hname]; rfl, ?_⟩
  exact (plain_of_mem_name (hname ▸ List.mem_cons_self)).2

lemma shortName_name (e : Raised) : shortName e.name = e.className := by
  have hpoints : ∀ c ∈ e.className.reverse, (c != '.') = true := fun c hc => by
    rw [bne_iff_ne]
    exact (e.part_plain _ List.mem_cons_self c (List.mem_reverse.mp hc)).1
  have hmodules : ((e.modules.flatMap (· ++ ['.'])).reverse).takeWhile (· != '.') = [] := by
    rcases e.modules.eq_nil_or_concat with h | ⟨others, last, h⟩
    · rw [h]
      rfl
    · rw [h]
      simp
  rw [shortName, Text.afterLast, name, List.reverse_append, List.takeWhile_append_of_pos hpoints, hmodules,
    List.append_nil, List.reverse_reverse]

lemma looksLikeException_name (e : Raised) : looksLikeException e.name = true := by
  rw [looksLikeException, e.shortName_name, Bool.or_eq_true, List.contains_iff_mem, List.any_eq_true]
  refine e.exceptional.imp_right fun ⟨ending, hending, hsuffix⟩ => ⟨ending, hending, ?_⟩
  exact List.isSuffixOf_iff_suffix.mpr hsuffix

lemma tail_isLine (e : Raised) : Text.IsLine e.tail := by
  unfold tail
  split
  · rename_i text htext
    exact Text.IsLine.append (show Text.IsLine ": ".toList by decide) (e.message_isLine text htext)
  · exact List.forall_mem_nil _

lemma line_isLine (e : Raised) : Text.IsLine e.line :=
  Text.IsLine.append (fun _ hc => Text.not_isLineEnd_of_not_isBlank (plain_of_mem_name hc).2) e.tail_isLine

/-- After a colon and at most one blank comes the message, blanks around it aside. -/
lemma strip_of_tail {gap text : List Char} (htail : e.tail = ":".toList ++ (gap ++ text))
    (hgap : (∃ c, Text.isBlank c = true ∧ gap = [c]) ∨ gap = []) : Text.strip text = e.message.getD [] := by
  unfold tail at htail
  split at htail
  · rename_i message hmessage
    have hstrip : Text.strip message = message := (e.message_stripped message hmessage).2
    have hrest : ' ' :: message = gap ++ text := (List.cons.inj htail).2
    rw [hmessage, Option.getD_some]
    rcases hgap with ⟨c, -, rfl⟩ | rfl
    · have htext : message = text := (List.cons.inj hrest).2
      rw [← htext, hstrip]
    · have htext : ' ' :: message = text := hrest
      rw [← htext]
      exact hstrip
  · cases htail

/-- The name ends where the text goes on with a colon or not at all. -/
lemma eq_name_of_line {type rest : List Char} (htype : ∀ c ∈ type, isDotted c = true)
    (hrest : rest.head?.any (· != ':') = false) (h : e.line = type ++ rest) : e.name = type ∧ e.tail = rest := by
  refine Text.run_unique (p := (· != ':')) ?_ (fun c hc => not_colon_of_isDotted (htype c hc)) ?_ hrest h
  · intro c hc
    rw [bne_iff_ne]
    exact (plain_of_mem_name hc).1
  · unfold tail
    split
    · rfl
    · rfl

/-- A match of the line takes the whole name for the class and what follows the colon for the message. -/
lemma group_of_atStart? (h : exceptionLine.atStart? e.line = some m) :
    e.Recognised ∧ m.group "type" = e.name ∧ Text.strip (m.group "message") = e.message.getD [] := by
  obtain ⟨type, rest, hline, hstart, hdotted, hrest⟩ := captured_of_exceptionLine e.line_isLine h
  have hcolon : rest.head?.any (· != ':') = false := by
    rcases hrest with ⟨rfl, _⟩ | ⟨gap, text, rfl, _⟩
    · rfl
    · rfl
  obtain ⟨rfl, rfl⟩ := eq_name_of_line hdotted hcolon hline
  refine ⟨⟨hstart, hdotted⟩, ?_⟩
  simp only [Found.group_eq]
  rcases hrest with ⟨htail, hcaptured⟩ | ⟨gap, text, htail, hgap, hcaptured⟩
  · rw [hcaptured]
    refine ⟨rfl, ?_⟩
    cases hmessage : e.message with
    | none => rfl
    | some text =>
      rw [tail, hmessage] at htail
      cases htail
  · rw [hcaptured]
    exact ⟨rfl, strip_of_tail htail hgap⟩

lemma exists_atStart? (h : e.Recognised) : ∃ m, exceptionLine.atStart? e.line = some m := by
  obtain ⟨hstart, hdotted⟩ := h
  rw [← Option.isSome_iff_exists]
  have hname : ∃ c rest, e.name = c :: rest ∧ Text.isNameStart c = true ∧ ∀ d ∈ rest, isDotted d = true := by
    cases hname : e.name with
    | nil =>
      rw [hname] at hstart
      cases hstart
    | cons c rest =>
      rw [hname] at hstart hdotted
      exact ⟨c, rest, rfl, hstart, fun d hd => hdotted d (List.mem_cons_of_mem c hd)⟩
  obtain ⟨c, rest, hname, hc, hrest⟩ := hname
  refine (startsText_iff rfl).mpr ⟨e.line, [], (List.append_nil _).symm, ?_⟩
  refine ⟨e.line, [], (List.append_nil _).symm, ⟨e.name, e.tail, rfl, ?_, ?_⟩, rfl, .inl rfl⟩
  · exact ⟨[c], rest, hname, ⟨c, hc, rfl⟩, hrest⟩
  · unfold tail
    split
    · rename_i text htext
      refine .inl ⟨": ".toList, text, rfl, ?_, fun d hd => bne_iff_ne.mpr ?_⟩
      · exact ⟨":".toList, [' '], rfl, spells_text.mpr rfl, .inl ⟨' ', by decide, rfl⟩⟩
      · rintro rfl
        exact absurd (e.message_isLine text htext _ hd) (by decide)
    · exact .inr rfl

lemma strip_line (e : Raised) : Text.strip e.line = e.line := by
  obtain ⟨c, rest, hline, hc⟩ := e.exists_line_eq_cons
  have hlast : ∃ before d, e.line = before ++ [d] ∧ Text.isBlank d = false := by
    unfold line tail
    split
    · rename_i text htext
      obtain ⟨before, d, hd, hblank⟩ := Text.exists_last_of_strip (e.message_stripped text htext)
      exact ⟨e.name ++ (": ".toList ++ before), d, by rw [hd]; simp, hblank⟩
    · rcases e.className.eq_nil_or_concat with h | ⟨before, d, h⟩
      · exact absurd h e.className_ne_nil
      · refine ⟨e.modules.flatMap (· ++ ['.']) ++ before, d, by rw [name, h]; simp, ?_⟩
        exact (e.part_plain _ List.mem_cons_self d (h ▸ by simp)).2.2
  obtain ⟨before, d, hd, hblank⟩ := hlast
  refine Text.strip_eq_self (by rw [hline]; exact hc) ?_
  rw [hd, List.getLast?_concat]
  exact hblank

lemma message_ne_line (e : Raised) : e.line ≠ e.message.getD [] := by
  intro h
  have hlength := congrArg List.length h
  have hname : 0 < e.name.length := by
    rw [name, List.length_append]
    have hclass := List.length_pos_iff.mpr e.className_ne_nil
    omega
  rw [line, List.length_append, tail] at hlength
  split at hlength
  · rename_i text htext
    rw [htext, List.length_append, Option.getD_some] at hlength
    omega
  · rename_i hnone
    rw [hnone, Option.getD_none, List.length_nil] at hlength
    omega

/-- The line is an exception line exactly when the name is recognised, and then it is read as what it is written
from. -/
lemma exception?_line (e : Raised) :
    ((exception? e.line).isSome = true ↔ e.Recognised) ∧
      ∀ m, exception? e.line = some m →
        m.group "type" = e.name ∧ Text.strip (m.group "message") = e.message.getD [] := by
  have hmatch : exception? e.line = exceptionLine.atStart? e.line := by
    obtain ⟨c, rest, hline, hc⟩ := e.exists_line_eq_cons
    rw [hline, exception?, hc, if_neg Bool.false_ne_true, ← hline]
    cases hfound : exceptionLine.atStart? e.line with
    | none => rfl
    | some m =>
      have hname := (group_of_atStart? hfound).2.1
      simp only [hname, e.looksLikeException_name, if_true]
  rw [hmatch]
  refine ⟨⟨fun h => ?_, fun h => ?_⟩, fun m hm => (group_of_atStart? hm).2⟩
  · obtain ⟨m, hm⟩ := Option.isSome_iff_exists.mp h
    exact (group_of_atStart? hm).1
  · exact Option.isSome_iff_exists.mpr (exists_atStart? h)

end Raised

end Exceptions

end CodeAudit.Traceback
