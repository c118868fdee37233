import CodeAudit.Proofs.Source.Signature
import CodeAudit.Proofs.Source.SumLine

/-! Literals of numbers, strings and brackets that nest, the lines that assign a list of them, and the masks of these
lines. -/
namespace CodeAudit.Source

open Mask

inductive Bracket where
  | round
  | square
  | curly
deriving DecidableEq

namespace Bracket

def opening : Bracket → Char
  | round => '('
  | square => '['
  | curly => '{'

def closing : Bracket → Char
  | round => ')'
  | square => ']'
  | curly => '}'

/-- Whether a character is a bracket of this kind. -/
def isSign (b : Bracket) (c : Char) : Bool := c == b.opening || c == b.closing

lemma isOpening (b : Bracket) : isOpening b.opening = true := by cases b <;> rfl

lemma isClosing (b : Bracket) : isClosing b.closing = true := by cases b <;> rfl

lemma isSign_eq_false {b : Bracket} {c : Char} (hc : isListSign c = false) : b.isSign c = false := by
  rw [← Bool.not_eq_true]
  intro hsign
  rcases Bool.or_eq_true_iff.mp hsign with h | h
  · rw [beq_iff_eq.mp h, isListSign, b.isOpening] at hc
    cases hc
  · rw [beq_iff_eq.mp h, isListSign, b.isClosing, Bool.or_true] at hc
    cases hc

end Bracket

/-- A word character, a point or a sign. -/
def isNumberChar (c : Char) : Bool := Regex.isDotted c || c == '+' || c == '-'

/-- A number with its signs, which starts with a digit, a point or a sign. -/
def isSignedNumber (w : List Char) : Bool :=
  w.head?.any (fun c => Text.isDecimal c || c == '.' || c == '+' || c == '-') && w.all isNumberChar

abbrev SignedNumber := {w : List Char // isSignedNumber w = true}

lemma SignedNumber.isNumberChar (n : SignedNumber) : ∀ c ∈ n.1, isNumberChar c = true := by
  have h := n.2
  rw [isSignedNumber, Bool.and_eq_true] at h
  exact List.all_eq_true.mp h.2

lemma not_isBlank_of_isNumberChar {c : Char} (hc : isNumberChar c = true) : Text.isBlank c = false := by
  simp only [isNumberChar, Bool.or_eq_true, beq_iff_eq] at hc
  rcases hc with (hc | rfl) | rfl
  · exact Regex.not_isBlank_of_isDotted hc
  · rfl
  · rfl

lemma SignedNumber.not_isListSign (n : SignedNumber) : ∀ c ∈ n.1, isListSign c = false := fun c hc =>
  not_isListSign_of_class (by decide) (n.isNumberChar c hc)

lemma Quoted.not_isListSign (s : Quoted) : ∀ c ∈ (Addend.quoted s).masked, isListSign c = false := by
  have hquote : isListSign s.quote = false := not_isListSign_of_class (by decide) s.isQuote
  intro c hc
  simp only [Addend.masked, List.mem_cons, List.mem_append, List.not_mem_nil, or_false] at hc
  rcases hc with rfl | hc | rfl
  · exact hquote
  · rw [List.eq_of_mem_replicate hc]
    rfl
  · exact hquote

lemma SignedNumber.ne_nil (n : SignedNumber) : n.1 ≠ [] := by
  obtain ⟨n, h⟩ := n
  rintro rfl
  cases h

/-- A literal as it is written. The items of brackets stand between commas, and a comma may follow the last one; an
entry, with its key and its value, is an item of a dictionary. -/
inductive Item where
  | number (n : SignedNumber)
  | quoted (s : Quoted)
  | spaced (before : Text.Blanks) (l : Item) (after : Text.Blanks)
  | entry (key value : Item)
  | enclosed (b : Bracket) (items : List Item) (comma : Bool) (pad : Text.Blanks)

/-- Texts between commas, and the comma and the blanks behind the last one. -/
def joined (texts : List (List Char)) (comma : Bool) (pad : Text.Blanks) : List Char :=
  [','].intercalate texts ++ ((if comma then [','] else []) ++ pad.1)

namespace Item

mutual

/-- A literal as it is shown. -/
def shown (f : Addend → List Char) : Item → List Char
  | number n => n.1
  | quoted s => f (.quoted s)
  | spaced before l after => before.1 ++ (l.shown f ++ after.1)
  | entry key value => key.shown f ++ ':' :: value.shown f
  | enclosed b items comma pad => b.opening :: (joined (shownEach f items) comma pad ++ [b.closing])

def shownEach (f : Addend → List Char) : List Item → List (List Char)
  | [] => []
  | l :: ls => l.shown f :: shownEach f ls

end

mutual

/-- Whether brackets of a kind are part of a literal. -/
def holds (b : Bracket) : Item → Bool
  | number _ => false
  | quoted _ => false
  | spaced _ l _ => l.holds b
  | entry key value => key.holds b || value.holds b
  | enclosed b' items _ _ => b' == b || anyHolds b items

def anyHolds (b : Bracket) : List Item → Bool
  | [] => false
  | l :: ls => l.holds b || anyHolds b ls

end

mutual

/-- The lists and the dictionaries that no brackets of their own kind are part of, but for those that are part of
another such literal. -/
def flats : Item → List Item
  | number _ => []
  | quoted _ => []
  | spaced _ l _ => l.flats
  | entry key value => key.flats ++ value.flats
  | enclosed b items comma pad =>
    if b ≠ .round ∧ anyHolds b items = false then [enclosed b items comma pad] else eachFlats items

def eachFlats : List Item → List Item
  | [] => []
  | l :: ls => l.flats ++ eachFlats ls

end

/-- How many items stand in the brackets of a literal. -/
def size : Item → ℕ
  | enclosed _ items _ _ => items.length
  | _ => 0

def text (l : Item) : List Char := l.shown Addend.text

def masked (l : Item) : List Char := l.shown Addend.masked

variable {f : Addend → List Char} {b : Bracket}

lemma shownEach_eq_map (ls : List Item) : shownEach f ls = ls.map (shown f) := by
  induction ls with
  | nil => rfl
  | cons l ls ih => rw [shownEach, ih, List.map_cons]

lemma shown_enclosed (items : List Item) (comma : Bool) (pad : Text.Blanks) : (enclosed b items comma pad).shown f =
    b.opening :: (joined (items.map (shown f)) comma pad ++ [b.closing]) := by
  rw [shown, shownEach_eq_map]

lemma masked_spaced (before : Text.Blanks) (l : Item) (after : Text.Blanks) :
    (spaced before l after).masked = before.1 ++ (l.masked ++ after.1) := rfl

lemma masked_entry (key value : Item) : (entry key value).masked = key.masked ++ ':' :: value.masked := rfl

lemma masked_enclosed (items : List Item) (comma : Bool) (pad : Text.Blanks) : (enclosed b items comma pad).masked =
    b.opening :: (joined (items.map masked) comma pad ++ [b.closing]) := shown_enclosed items comma pad

lemma anyHolds_eq_any (ls : List Item) : anyHolds b ls = ls.any (holds b) := by
  induction ls with
  | nil => rfl
  | cons l ls ih => rw [anyHolds, ih, List.any_cons]

lemma eachFlats_eq_flatMap (ls : List Item) : eachFlats ls = ls.flatMap flats := by
  induction ls with
  | nil => rfl
  | cons l ls ih => rw [eachFlats, ih, List.flatMap_cons]

/-- A literal is seen through its parts, where the items of brackets may be assumed one by one. -/
@[elab_as_elim, induction_eliminator]
theorem induction {P : Item → Prop} (number : ∀ n, P (number n)) (quoted : ∀ s, P (quoted s))
    (spaced : ∀ before l after, P l → P (spaced before l after))
    (entry : ∀ key value, P key → P value → P (entry key value))
    (enclosed : ∀ b items comma pad, (∀ l ∈ items, P l) → P (enclosed b items comma pad)) (l : Item) : P l :=
  @Item.rec P (fun ls => ∀ l ∈ ls, P l) number quoted spaced entry enclosed (List.forall_mem_nil P)
    (fun _ _ hl hls => List.forall_mem_cons.mpr ⟨hl, hls⟩) l

/-- What holds of the items of brackets, of commas and of blanks holds of all that stands between the brackets, if it
holds of texts side by side. -/
lemma joined_of_append {P : List Char → List Item → Prop} {f : Item → List Char}
    (happend : ∀ {v w ks ls}, P v ks → P w ls → P (v ++ w) (ks ++ ls)) (hcomma : P [','] [])
    (hblanks : ∀ b : Text.Blanks, P b.1 []) {ls : List Item} (h : ∀ l ∈ ls, P (f l) [l]) (comma : Bool)
    (pad : Text.Blanks) : P (joined (ls.map f) comma pad) ls := by
  have hnil : P [] [] := hblanks ⟨[], rfl⟩
  have hbetween : P ([','].intercalate (ls.map f)) ls := by
    induction ls with
    | nil => exact hnil
    | cons l ls ih =>
      obtain ⟨hl, hls⟩ := List.forall_mem_cons.mp h
      cases ls with
      | nil => simpa using hl
      | cons l' ls =>
        rw [List.map_cons, List.map_cons, List.intercalate_cons_cons, List.append_assoc]
        exact happend hl (happend hcomma (ih hls))
  have htail : P ((if comma then [','] else []) ++ pad.1) [] := by
    cases comma with
    | false => exact happend hnil (hblanks pad)
    | true => exact happend hcomma (hblanks pad)
  simpa [joined] using happend hbetween htail

end Item

section Scan

variable {w : Bool} {s masked : List Char}

lemma isPlainChar_of_isNumberChar {c : Char} (hc : isNumberChar c = true) : isPlainChar c = true :=
  isPlainChar_of_class (by decide) hc

/-- A sign between literals or around them. -/
def isLiteralSign (c : Char) : Bool := [',', ':', '=', '(', '[', '{', ')', ']', '}'].contains c

lemma CodeMask.append_sign {d : Char} (hd : isLiteralSign d = true) {t masked' : List Char} (hs : CodeMask w s masked)
    (ht : CodeMask false t masked') : CodeMask w (s ++ d :: t) (masked ++ d :: masked') := by
  have hsigns : [',', ':', '=', '(', '[', '{', ')', ']', '}'].any
      (fun d => isLeading d || isQuote d || d == '#' || Text.isWord d) = false := by decide
  have hsign := Text.eq_false_of_any hsigns d (List.contains_iff_mem.mp hd)
  simp only [Bool.or_eq_false_iff, beq_eq_false_iff_ne] at hsign
  obtain ⟨⟨⟨hleading, hquote⟩, hhash⟩, hword⟩ := hsign
  have hinert : Inert d := ⟨hleading, hquote⟩
  exact .append hinert (fun _ rest => step_inert hinert hhash hword rest) hs ht

lemma Bracket.isLiteralSign (b : Bracket) : isLiteralSign b.opening = true ∧ isLiteralSign b.closing = true := by
  cases b <;> decide

lemma CodeMask.joined {shown shown' : Item → List Char} {ls : List Item}
    (h : ∀ l ∈ ls, ∀ w, CodeMask w (shown l) (shown' l)) (comma : Bool) (pad : Text.Blanks) (w : Bool) :
    CodeMask w (joined (ls.map shown) comma pad) (joined (ls.map shown') comma pad) := by
  have hbetween : CodeMask w ([','].intercalate (ls.map shown)) ([','].intercalate (ls.map shown')) := by
    induction ls generalizing w with
    | nil => exact .nil
    | cons l ls ih =>
      obtain ⟨hl, hls⟩ := List.forall_mem_cons.mp h
      cases ls with
      | nil => simpa using hl w
      | cons l' ls =>
        simp only [List.map_cons, List.intercalate_cons_cons, List.append_assoc, List.singleton_append]
        exact (hl w).append_sign rfl (ih hls false)
  rw [Source.joined, Source.joined, ← List.append_assoc, ← List.append_assoc]
  refine CodeMask.append_blanks ?_ pad
  cases comma with
  | false => simpa using hbetween
  | true => simpa using hbetween.append_sign rfl .nil

lemma Item.codeMask (l : Item) (w : Bool) : CodeMask w l.text l.masked := by
  induction l generalizing w with
  | number n => exact .plain fun c hc => isPlainChar_of_isNumberChar (n.isNumberChar c hc)
  | quoted s => exact CodeMask.quoted s w
  | spaced before l after ih => exact .blanks before (fun w => (ih w).append_blanks after) w
  | entry key value ihkey ihvalue => exact (ihkey w).append_sign rfl (ihvalue false)
  | enclosed b items comma pad ih =>
    obtain ⟨hopening, hclosing⟩ := b.isLiteralSign
    have hinside : CodeMask false (Source.joined (items.map (shown Addend.text)) comma pad)
        (Source.joined (items.map (shown Addend.masked)) comma pad) := CodeMask.joined ih comma pad false
    rw [text, masked, shown_enclosed, shown_enclosed]
    exact CodeMask.nil.append_sign hopening (hinside.append_sign hclosing .nil)

end Scan

/-- A list with the name that it is assigned to. -/
structure ListLine where
  indent : Text.Blanks
  name : Identifier
  gap : Text.Blanks
  lead : Text.Blanks
  items : List Item
  comma : Bool
  pad : Text.Blanks
  trail : Text.Blanks

namespace ListLine

/-- What stands before the equals sign. -/
def head (s : ListLine) : List Char := s.indent.1 ++ (s.name.1 ++ s.gap.1)

def list (s : ListLine) : Item := .enclosed .square s.items s.comma s.pad

def value (s : ListLine) : Item := .spaced s.lead s.list s.trail

def text (s : ListLine) : List Char := s.head ++ '=' :: s.value.text

def masked (s : ListLine) : List Char := s.head ++ '=' :: s.value.masked

lemma getElem?_maskLines {s : ListLine} {code : List Char} {index : ℕ} (hline : (Text.lines code)[index]? = some s.text)
    (habove : Unquoted (Text.joinLines ((Text.lines code).take index))) : (maskLines code)[index]? = some s.masked := by
  have hhead : CodeMask false s.head s.head := CodeMask.head s.indent s.name s.gap
  exact (hhead.append_sign rfl (s.value.codeMask false)).getElem?_maskLines hline habove

end ListLine

end CodeAudit.Source
