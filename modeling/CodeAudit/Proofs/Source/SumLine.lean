import CodeAudit.Proofs.Source.Names
import CodeAudit.Proofs.Source.Plain

/-! Lines that assign a sum of numbers and strings, and their masks. -/
namespace CodeAudit.Source

open Mask

/-- Word characters and points, the first of which is a digit or a point. -/
def isNumber (w : List Char) : Bool :=
  w.head?.any (fun c => Text.isDecimal c || c == '.') && w.all Regex.isDotted

abbrev Number := {w : List Char // isNumber w = true}

/-- A string on one line, without escapes. -/
structure Quoted where
  quote : Char
  contents : List Char
  isQuote : isQuote quote = true
  plain : PlainFor quote contents

inductive Addend where
  | number (n : Number)
  | quoted (s : Quoted)

lemma Number.isDotted (n : Number) : ∀ c ∈ n.1, Regex.isDotted c = true := by
  have h := n.2
  rw [isNumber, Bool.and_eq_true] at h
  exact List.all_eq_true.mp h.2

namespace Addend

def text : Addend → List Char
  | number n => n.1
  | quoted s => s.quote :: (s.contents ++ [s.quote])

def masked : Addend → List Char
  | number n => n.1
  | quoted s => s.quote :: (List.replicate s.contents.length ' ' ++ [s.quote])

end Addend

structure SpacedAddend where
  lead : Text.Blanks
  addend : Addend
  trail : Text.Blanks

/-- A sum with the name that it is assigned to. -/
structure SumLine where
  indent : Text.Blanks
  name : Identifier
  gap : Text.Blanks
  first : SpacedAddend
  others : List SpacedAddend

namespace SpacedAddend

/-- An addend as it is shown, with the blanks around it. -/
def shown (f : Addend → List Char) (t : SpacedAddend) : List Char := t.lead.1 ++ (f t.addend ++ t.trail.1)

/-- Further addends as they are shown, each with its plus sign. -/
def othersShown (f : Addend → List Char) (ts : List SpacedAddend) : List Char := ts.flatMap ('+' :: ·.shown f)

end SpacedAddend

namespace SumLine

/-- What stands before the equals sign. -/
def head (s : SumLine) : List Char := s.indent.1 ++ (s.name.1 ++ s.gap.1)

def shown (f : Addend → List Char) (s : SumLine) : List Char :=
  s.head ++ '=' :: (s.first.shown f ++ SpacedAddend.othersShown f s.others)

def text (s : SumLine) : List Char := s.shown Addend.text

def masked (s : SumLine) : List Char := s.shown Addend.masked

def addends (s : SumLine) : List Addend := (s.first :: s.others).map SpacedAddend.addend

end SumLine

section Scan

variable {w : Bool}

lemma inert_of_isBlank {c : Char} (hc : Text.isBlank c = true) : Inert c := by
  have hplain : isPlainChar c = true := isPlainChar_of_class (by decide) hc
  simp only [isPlainChar, Bool.and_eq_true, Bool.not_eq_true'] at hplain
  refine ⟨?_, hplain.2⟩
  rw [← Bool.not_eq_true]
  intro hleading
  simp only [isLeading, Bool.or_eq_true, beq_iff_eq] at hleading
  rcases hleading with ((((((rfl | rfl) | rfl) | rfl) | rfl) | rfl) | rfl) | rfl <;> cases hc

lemma step_inert {c : Char} (hc : Inert c) (hhash : c ≠ '#') (hword : Text.isWord c = false) (rest : List Char) :
    step (.code w) c rest = (c, .code false) := by
  simp [step, hhash, hc.notQuote, hc.notLeading, hword]

lemma step_blank {c : Char} (hc : Text.isBlank c = true) (rest : List Char) : step (.code w) c rest = (c, .code false) := by
  have hplain : isPlainChar c = true := isPlainChar_of_class (by decide) hc
  have hhash : c ≠ '#' := by simpa using (Bool.and_eq_true_iff.mp hplain).1
  exact step_inert (inert_of_isBlank hc) hhash (Text.not_isWord_of_isBlank hc) rest

/-- Text from code to code has this mask. -/
structure CodeMask (w : Bool) (s masked : List Char) : Prop where
  blanked_eq : blanked (.code w) s = masked
  closed : ∃ w', modeAfter (.code w) s = .code w'

lemma CodeMask.plain {s : List Char} (h : ∀ c ∈ s, isPlainChar c = true) : CodeMask w s s := by
  obtain ⟨hblanked, hmode⟩ := blanked_plain w h
  exact ⟨hblanked, hmode⟩

lemma CodeMask.blanks (b : Text.Blanks) {s masked : List Char} (h : ∀ w, CodeMask w s masked) (w : Bool) :
    CodeMask w (b.1 ++ s) (b.1 ++ masked) := by
  have hblank := b.isBlank
  generalize b.1 = blanks at hblank
  induction blanks generalizing w with
  | nil => exact h w
  | cons c rest ih =>
    obtain ⟨hc, hrest⟩ := List.forall_mem_cons.mp hblank
    obtain ⟨hblanked, hmode⟩ := ih false hrest
    refine ⟨?_, ?_⟩
    · rw [List.cons_append, blanked_cons, step_blank hc, hblanked]
      rfl
    · rw [List.cons_append, modeAfter, step_blank hc]
      exact hmode

lemma CodeMask.quoted (q : Quoted) (w : Bool) : CodeMask w (Addend.quoted q).text (Addend.quoted q).masked := by
  obtain ⟨quote, contents, hquote, hcontents⟩ := q
  have hbehind : ([] : List Char).head? ≠ some quote := (Option.some_ne_none quote).symm
  have hopen : step (.code w) quote (contents ++ quote :: []) = (quote, .inside quote false) :=
    step_code_quote hquote hcontents (fun _ => hbehind) w
  have hclose : step (.inside quote false) quote [] = (quote, .code false) := by simp [step]
  refine ⟨?_, ?_⟩
  · change blanked (.code w) (quote :: (contents ++ quote :: [])) = quote :: (List.replicate contents.length ' ' ++ [quote])
    rw [blanked_cons, hopen, blanked_inside hcontents, blanked_cons, hclose]
    rfl
  · change ∃ w', modeAfter (.code w) (quote :: (contents ++ quote :: [])) = .code w'
    rw [modeAfter, hopen, modeAfter_inside hcontents, modeAfter, hclose]
    exact ⟨false, rfl⟩

/-- Two masks with a sign in between. -/
lemma CodeMask.append {d : Char} (h : Inert d) (hd : ∀ w rest, step (.code w) d rest = (d, .code false))
    {s t masked masked' : List Char} (hs : CodeMask w s masked) (ht : CodeMask false t masked') :
    CodeMask w (s ++ d :: t) (masked ++ d :: masked') := by
  obtain ⟨hblanked, w', hmode⟩ := hs
  have hout : (modeAfter (.code w) s).isOutside = true := by rw [hmode]; rfl
  have hfits : (Mode.code w).Fits (s ++ d :: t) := trivial
  refine ⟨?_, ?_⟩
  · rw [blanked_append_inert h t hfits hout, hmode, blanked_cons, hd, hblanked, ht.blanked_eq]
  · rw [modeAfter_append_inert h t hfits hout, hmode, modeAfter, hd]
    exact ht.closed

lemma CodeMask.nil : CodeMask w [] [] := .plain fun _ hc => absurd hc List.not_mem_nil

lemma CodeMask.append_blanks {s masked : List Char} (h : CodeMask w s masked) (b : Text.Blanks) :
    CodeMask w (s ++ b.1) (masked ++ b.1) := by
  have hblank := b.isBlank
  generalize b.1 = blanks at hblank
  induction blanks generalizing s masked with
  | nil => simpa using h
  | cons c blanks ih =>
    obtain ⟨hc, hblanks⟩ := List.forall_mem_cons.mp hblank
    have hnext : CodeMask w (s ++ [c]) (masked ++ [c]) :=
      .append (inert_of_isBlank hc) (fun _ rest => step_blank hc rest) h .nil
    simpa using ih hnext hblanks

lemma CodeMask.spaced (t : SpacedAddend) (w : Bool) : CodeMask w (t.shown Addend.text) (t.shown Addend.masked) := by
  refine CodeMask.blanks t.lead (fun w => CodeMask.append_blanks ?_ t.trail) w
  cases t.addend with
  | quoted q => exact CodeMask.quoted q w
  | number n => exact .plain fun c hc => isPlainChar_of_class (by decide) (n.isDotted c hc)

lemma CodeMask.others (ts : List SpacedAddend) (t : SpacedAddend) (w : Bool) :
    CodeMask w (t.shown Addend.text ++ SpacedAddend.othersShown Addend.text ts)
      (t.shown Addend.masked ++ SpacedAddend.othersShown Addend.masked ts) := by
  induction ts generalizing t w with
  | nil => simpa [SpacedAddend.othersShown] using CodeMask.spaced t w
  | cons next ts ih =>
    have hsign : ∀ w rest, step (.code w) '+' rest = ('+', .code false) := fun w _ => by cases w <;> rfl
    exact CodeMask.append ⟨by decide, by decide⟩ hsign (CodeMask.spaced t w) (ih next false)

lemma isWord_or_isBlank_head (indent : Text.Blanks) (name : Identifier) (gap : Text.Blanks) :
    ∀ c ∈ indent.1 ++ (name.1 ++ gap.1), (Text.isWord c || Text.isBlank c) = true := by
  intro c hc
  simp only [List.mem_append] at hc
  rcases hc with hc | hc | hc
  · simp [indent.isBlank c hc]
  · simp [name.isWord c hc]
  · simp [gap.isBlank c hc]

/-- What stands before the equals sign of an assignment to a name. -/
lemma CodeMask.head (indent : Text.Blanks) (name : Identifier) (gap : Text.Blanks) :
    CodeMask w (indent.1 ++ (name.1 ++ gap.1)) (indent.1 ++ (name.1 ++ gap.1)) :=
  .plain fun c hc =>
    isPlainChar_of_class (p := fun c => Text.isWord c || Text.isBlank c) (by decide) (isWord_or_isBlank_head _ _ _ c hc)

lemma SumLine.codeMask (s : SumLine) : CodeMask false s.text s.masked := by
  have hsign : ∀ w rest, step (.code w) '=' rest = ('=', .code false) := fun w _ => by cases w <;> rfl
  exact CodeMask.append ⟨by decide, by decide⟩ hsign (CodeMask.head s.indent s.name s.gap)
    (CodeMask.others s.others s.first false)

end Scan

variable {code : List Char} {index : ℕ}

/-- The mask of a line, unless a string is open above it. -/
lemma CodeMask.getElem?_maskLines {text masked : List Char} (h : CodeMask false text masked)
    (hline : (Text.lines code)[index]? = some text)
    (habove : Unquoted (Text.joinLines ((Text.lines code).take index))) : (maskLines code)[index]? = some masked := by
  obtain ⟨hblanked, w, hmode⟩ := h
  have hclosed : Unquoted text := Closed.unquoted ⟨w, hmode⟩
  rw [Source.getElem?_maskLines hline habove hclosed, maskText_eq, hblanked]

lemma SumLine.getElem?_maskLines {s : SumLine} (hline : (Text.lines code)[index]? = some s.text)
    (habove : Unquoted (Text.joinLines ((Text.lines code).take index))) : (maskLines code)[index]? = some s.masked :=
  s.codeMask.getElem?_maskLines hline habove

end CodeAudit.Source
