import CodeAudit.Proofs.Numeric.Digits
import CodeAudit.Proofs.Source.SumLine

/-! Conditions that compare sums of whole numbers: how they are written, what they say, and where in a written condition
two comparisons stand side by side. -/
namespace CodeAudit.Source

open Regex (isDotted not_isDotted_of_isBlank)

/-- A word that starts with a digit. -/
def isWhole (w : List Char) : Bool :=
  w.head?.any Char.isDigit && w.all Text.isWord

abbrev Whole := {w : List Char // isWhole w = true}

/-- A variable or a whole number. -/
inductive Token where
  | name (n : Identifier)
  | whole (w : Whole)

/-- The whole numbers that variables and literals stand for. How literals are read is left open. -/
structure Valuation where
  name : Identifier → ℤ
  whole : Whole → ℤ

namespace Token

def text : Token → List Char
  | name n => n.1
  | whole w => w.1

def value (v : Valuation) : Token → ℤ
  | name n => v.name n
  | whole w => v.whole w

end Token

inductive Shape where
  | operand
  | sum

/-- A plus or a minus sign. -/
def sign (minus : Bool) : Char := if minus then '-' else '+'

/-- Sums and differences of tokens, and the operands of such. -/
inductive Arith : Shape → Type where
  | token (t : Token) : Arith .operand
  | signed (minus : Bool) (gap : Text.Blanks) (e : Arith .operand) : Arith .operand
  | grouped (lead : Text.Blanks) (e : Arith .sum) (trail : Text.Blanks) : Arith .operand
  | single (e : Arith .operand) : Arith .sum
  | extended (l : Arith .sum) (before : Text.Blanks) (minus : Bool) (after : Text.Blanks) (r : Arith .operand) :
    Arith .sum

namespace Arith

def text : {s : Shape} → Arith s → List Char
  | _, token t => t.text
  | _, signed minus gap e => sign minus :: (gap.1 ++ e.text)
  | _, grouped lead e trail => '(' :: (lead.1 ++ (e.text ++ (trail.1 ++ [')'])))
  | _, single e => e.text
  | _, extended l before minus after r => l.text ++ (before.1 ++ sign minus :: (after.1 ++ r.text))

def value (v : Valuation) : {s : Shape} → Arith s → ℤ
  | _, token t => t.value v
  | _, signed minus _ e => if minus then -e.value v else e.value v
  | _, grouped _ e _ => e.value v
  | _, single e => e.value v
  | _, extended l _ minus _ r => if minus then l.value v - r.value v else l.value v + r.value v

/-- The token that the text starts with, if it starts with one. -/
def first? : {s : Shape} → Arith s → Option Token
  | _, token t => some t
  | _, signed .. => none
  | _, grouped .. => none
  | _, single e => e.first?
  | _, extended l _ _ _ _ => l.first?

/-- The token that the text ends with, if it ends with one. -/
def last? : {s : Shape} → Arith s → Option Token
  | _, token t => some t
  | _, signed _ _ e => e.last?
  | _, grouped .. => none
  | _, single e => e.last?
  | _, extended _ _ _ _ r => r.last?

end Arith

/-- Two sums and whether they are said to be equal or different. -/
structure Comparison where
  left : Arith .sum
  before : Text.Blanks
  equal : Bool
  after : Text.Blanks
  right : Arith .sum

namespace Comparison

/-- The character before the equals sign of the operator. -/
def relation (c : Comparison) : Char := if c.equal then '=' else '!'

def text (c : Comparison) : List Char :=
  c.left.text ++ (c.before.1 ++ c.relation :: '=' :: (c.after.1 ++ c.right.text))

def Holds (v : Valuation) (c : Comparison) : Prop :=
  if c.equal then c.left.value v = c.right.value v else c.left.value v ≠ c.right.value v

instance (v : Valuation) (c : Comparison) : Decidable (c.Holds v) :=
  inferInstanceAs (Decidable (if c.equal then c.left.value v = c.right.value v else c.left.value v ≠ c.right.value v))

end Comparison

/-- Blanks and parentheses of one kind. -/
def isEnclosing (parenthesis : Char) (w : List Char) : Bool :=
  w.all fun c => Text.isBlank c || c == parenthesis

abbrev Opening := {w : List Char // isEnclosing '(' w = true}

abbrev Closing := {w : List Char // isEnclosing ')' w = true}

/-- One more comparison, with what stands on both sides of the word before it. -/
structure Conjunct where
  closing : Closing
  closing_ne : closing.1 ≠ []
  opening : Opening
  opening_ne : opening.1 ≠ []
  comparison : Comparison

namespace Conjunct

/-- What stands between a comparison and the next one. -/
def lead (c : Conjunct) : List Char := c.closing.1 ++ ("and".toList ++ c.opening.1)

def text (c : Conjunct) : List Char := c.lead ++ c.comparison.text

end Conjunct

/-- A line that asks for a conjunction of comparisons, of which any may stand in parentheses together. -/
structure IfLine where
  indent : Text.Blanks
  opening : Opening
  opening_ne : opening.1 ≠ []
  first : Comparison
  others : List Conjunct
  closing : Closing
  trail : Text.Blanks

namespace IfLine

def comparisons (s : IfLine) : List Comparison := s.first :: s.others.map Conjunct.comparison

def text (s : IfLine) : List Char :=
  s.indent.1 ++ ("if".toList ++ (s.opening.1 ++
    (s.first.text ++ (s.others.flatMap Conjunct.text ++ (s.closing.1 ++ ':' :: s.trail.1)))))

def Holds (v : Valuation) (s : IfLine) : Prop := ∀ c ∈ s.comparisons, c.Holds v

instance (v : Valuation) (s : IfLine) : Decidable (s.Holds v) :=
  inferInstanceAs (Decidable (∀ c ∈ s.comparisons, c.Holds v))

end IfLine

section Text

variable {s : Shape} {e : Arith s} {t : Token}

lemma Token.text_ne_nil (t : Token) : t.text ≠ [] := by
  cases t with
  | name n => exact n.ne_nil
  | whole w =>
    obtain ⟨w, h⟩ := w
    rintro rfl
    cases h

lemma Token.isWord (t : Token) : ∀ c ∈ t.text, Text.isWord c = true := by
  cases t with
  | name n => exact n.isWord
  | whole w => exact List.all_eq_true.mp (Bool.and_eq_true_iff.mp w.2).2

lemma Token.isDotted (t : Token) : ∀ c ∈ t.text, isDotted c = true := fun c hc => by simp [Regex.isDotted, t.isWord c hc]

/-- No variable starts with a digit, so that a text is one token only. -/
lemma Token.text_injective : Function.Injective Token.text := by
  have hapart : ∀ (n : Identifier) (w : Whole), n.1 ≠ w.1 := by
    rintro ⟨n, hn⟩ ⟨w, hw⟩ rfl
    simp only [isIdentifier, isWhole, Bool.and_eq_true] at hn hw
    cases n with
    | nil => exact absurd hw.1 (by decide)
    | cons c n =>
      have hdigit : Text.isDigit c = true := Text.isDigit_of_isDecimal (Reading.isDecimal_of_isDigit hw.1)
      simp [hdigit] at hn
  rintro (n | w) (n' | w') h
  · exact congrArg _ (Subtype.ext h)
  · exact absurd h (hapart n w')
  · exact absurd h.symm (hapart n' w)
  · exact congrArg _ (Subtype.ext h)

/-- The characters of sums. -/
def isArithChar (c : Char) : Bool :=
  Text.isWord c || Text.isBlank c || "+-()".toList.contains c

lemma isArithChar_sign (minus : Bool) : isArithChar (sign minus) = true := by
  cases minus <;> decide

lemma Arith.isArithChar (e : Arith s) : ∀ c ∈ e.text, isArithChar c = true := by
  have hblank (b : Text.Blanks) : ∀ c ∈ b.1, Source.isArithChar c = true := fun c hc => by
    simp [Source.isArithChar, b.isBlank c hc]
  induction e with
  | token t => exact fun c hc => by simp [Source.isArithChar, t.isWord c hc]
  | signed minus gap e ih =>
    simp only [text, List.forall_mem_cons, List.forall_mem_append]
    exact ⟨isArithChar_sign minus, hblank gap, ih⟩
  | grouped lead e trail ih =>
    simp only [text, List.forall_mem_cons, List.forall_mem_append]
    exact ⟨by decide, hblank lead, ih, hblank trail, by decide, by simp⟩
  | single e ih => exact ih
  | extended l before minus after r ihl ihr =>
    simp only [text, List.forall_mem_cons, List.forall_mem_append]
    exact ⟨ihl, hblank before, isArithChar_sign minus, hblank after, ihr⟩

lemma isDotted_sign (minus : Bool) : isDotted (sign minus) = false := by
  cases minus <;> decide

lemma head?_behind_blanks (b : Text.Blanks) {c : Char} (hc : isDotted c = false) (more : List Char) :
    (b.1 ++ c :: more).head?.any isDotted = false :=
  Text.head?_any_append (Text.head?_any_eq_false fun _ hd => not_isDotted_of_isBlank (b.isBlank _ hd)) hc

lemma getLast?_before_blanks {front : List Char} (b : Text.Blanks) {c : Char} (hc : isDotted c = false) :
    (front ++ c :: b.1).getLast?.any isDotted = false := by
  have hblanks : b.1.getLast?.any isDotted = false :=
    Text.getLast?_any_eq_false fun _ hd => not_isDotted_of_isBlank (b.isBlank _ hd)
  rw [← List.singleton_append, ← List.append_assoc]
  refine Text.getLast?_any_append_eq_false ?_ hblanks
  rwa [List.getLast?_concat]

namespace Arith

lemma text_of_last?_eq_some (h : e.last? = some t) :
    ∃ front, e.text = front ++ t.text ∧ front.getLast?.any isDotted = false := by
  induction e with
  | token t' =>
    obtain rfl := Option.some.inj h
    exact ⟨[], rfl, rfl⟩
  | signed minus gap e ih =>
    obtain ⟨front, htext, hfront⟩ := ih h
    refine ⟨[] ++ sign minus :: gap.1 ++ front, by simp [text, htext], ?_⟩
    exact Text.getLast?_any_append_eq_false (getLast?_before_blanks gap (isDotted_sign minus)) hfront
  | grouped lead e trail => cases h
  | single e ih => exact ih h
  | extended l before minus after r _ ihr =>
    obtain ⟨front, htext, hfront⟩ := ihr h
    refine ⟨l.text ++ before.1 ++ sign minus :: after.1 ++ front, by simp [text, htext], ?_⟩
    exact Text.getLast?_any_append_eq_false (getLast?_before_blanks after (isDotted_sign minus)) hfront

lemma text_of_last?_eq_none (h : e.last? = none) : ∃ front, e.text = front ++ [')'] := by
  induction e with
  | token t => cases h
  | signed minus gap e ih =>
    obtain ⟨front, htext⟩ := ih h
    exact ⟨sign minus :: (gap.1 ++ front), by simp [text, htext]⟩
  | grouped lead e trail => exact ⟨'(' :: (lead.1 ++ (e.text ++ trail.1)), by simp [text]⟩
  | single e ih => exact ih h
  | extended l before minus after r _ ihr =>
    obtain ⟨front, htext⟩ := ihr h
    exact ⟨l.text ++ (before.1 ++ sign minus :: (after.1 ++ front)), by simp [text, htext]⟩

lemma text_of_first?_eq_some (h : e.first? = some t) :
    ∃ back, e.text = t.text ++ back ∧ back.head?.any isDotted = false := by
  induction e with
  | token t' =>
    obtain rfl := Option.some.inj h
    exact ⟨[], by simp [text], rfl⟩
  | signed minus gap e => cases h
  | grouped lead e trail => cases h
  | single e ih => exact ih h
  | extended l before minus after r ihl =>
    obtain ⟨back, htext, hback⟩ := ihl h
    refine ⟨back ++ (before.1 ++ sign minus :: (after.1 ++ r.text)), by simp [text, htext], ?_⟩
    exact Text.head?_any_append hback (head?_behind_blanks before (isDotted_sign minus) _)

lemma text_of_first?_eq_none (h : e.first? = none) :
    ∃ c rest, e.text = c :: rest ∧ isDotted c = false ∧ Text.isBlank c = false := by
  induction e with
  | token t => cases h
  | signed minus gap e => exact ⟨sign minus, _, rfl, isDotted_sign minus, by cases minus <;> decide⟩
  | grouped lead e trail => exact ⟨'(', _, rfl, by decide, by decide⟩
  | single e ih => exact ih h
  | extended l before minus after r ihl =>
    obtain ⟨c, rest, htext, hc⟩ := ihl h
    exact ⟨c, rest ++ (before.1 ++ sign minus :: (after.1 ++ r.text)), by simp [text, htext], hc⟩

lemma getLast?_text (e : Arith s) (front : List Char) : (front ++ e.text).getLast?.any Text.isBlank = false := by
  cases hlast : e.last? with
  | none =>
    obtain ⟨f, htext⟩ := text_of_last?_eq_none hlast
    rw [htext, ← List.append_assoc, List.getLast?_concat]
    rfl
  | some t =>
    obtain ⟨f, htext, -⟩ := text_of_last?_eq_some hlast
    rw [htext, ← List.append_assoc, List.getLast?_append_of_ne_nil _ t.text_ne_nil]
    exact Text.getLast?_any_eq_false fun c hc => Text.not_isBlank_of_isWord (t.isWord c hc)

lemma head?_text (e : Arith s) (back : List Char) : (e.text ++ back).head?.any Text.isBlank = false := by
  cases hfirst : e.first? with
  | none =>
    obtain ⟨c, rest, htext, -, hc⟩ := text_of_first?_eq_none hfirst
    rw [htext]
    exact hc
  | some t =>
    obtain ⟨b, htext, -⟩ := text_of_first?_eq_some hfirst
    rw [htext, List.append_assoc]
    exact Text.head?_any_append_of_ne_nil t.text_ne_nil (fun c hc => Text.not_isBlank_of_isWord (t.isWord c hc)) _

/-- A sum without signs and parentheses is a token. -/
lemma eq_token {e : Arith .sum} (h : ∀ c ∈ e.text, (isDotted c || Text.isBlank c) = true) :
    ∃ t, e = single (token t) := by
  have hsign : ∀ minus, (isDotted (sign minus) || Text.isBlank (sign minus)) = false := by decide
  cases e with
  | single e =>
    cases e with
    | token t => exact ⟨t, rfl⟩
    | signed minus gap e => exact absurd (h (sign minus) (by simp [text])) (by simp [hsign])
    | grouped lead e trail => exact absurd (h '(' (by simp [text])) (by decide)
  | extended l before minus after r => exact absurd (h (sign minus) (by simp [text])) (by simp [hsign])

end Arith

end Text

section Line

/-- The characters that the signs of a comparison begin with. -/
def isRelation (c : Char) : Bool := c == '=' || c == '!'

lemma isRelation_of_isArithChar {c : Char} (h : isArithChar c = true) : isRelation c = false := by
  by_contra hc
  rw [Bool.not_eq_false] at hc
  rcases Bool.or_eq_true_iff.mp hc with hc | hc <;> rw [beq_iff_eq.mp hc] at h <;> revert h <;> decide

lemma isRelation_of_isWord {c : Char} (h : Text.isWord c = true) : isRelation c = false :=
  isRelation_of_isArithChar (by simp [isArithChar, h])

lemma isRelation_of_isDotted {c : Char} (h : isDotted c = true) : isRelation c = false := by
  rcases Bool.or_eq_true_iff.mp h with h | h
  · exact isRelation_of_isWord h
  · rw [beq_iff_eq.mp h]
    rfl

lemma isRelation_of_isBlank {c : Char} (h : Text.isBlank c = true) : isRelation c = false :=
  isRelation_of_isArithChar (by simp [isArithChar, h])

lemma Comparison.isRelation_relation (c : Comparison) : isRelation c.relation = true := by
  unfold relation
  split <;> rfl

lemma Arith.isRelation {s : Shape} (e : Arith s) : ∀ c ∈ e.text, isRelation c = false := fun c hc =>
  isRelation_of_isArithChar (e.isArithChar c hc)

/-- What encloses comparisons is made of blanks and parentheses. -/
lemma of_mem_enclosing {parenthesis : Char} {w : List Char} (h : isEnclosing parenthesis w = true) {P : Char → Prop}
    (hblank : ∀ c, Text.isBlank c = true → P c) (hparenthesis : P parenthesis) : ∀ c ∈ w, P c := by
  intro c hc
  rcases Bool.or_eq_true_iff.mp (List.all_eq_true.mp h c hc) with hc | hc
  · exact hblank c hc
  · rwa [beq_iff_eq.mp hc]

namespace Conjunct

lemma isRelation_lead (c : Conjunct) : ∀ d ∈ c.lead, isRelation d = false := by
  simp only [lead, List.forall_mem_append]
  exact ⟨of_mem_enclosing c.closing.2 (fun _ => isRelation_of_isBlank) rfl, Text.eq_false_of_any (by decide),
    of_mem_enclosing c.opening.2 (fun _ => isRelation_of_isBlank) rfl⟩

lemma getLast?_lead (c : Conjunct) (front : List Char) : (front ++ c.lead).getLast?.any isDotted = false := by
  rw [lead, ← List.append_assoc, ← List.append_assoc, List.getLast?_append_of_ne_nil _ c.opening_ne]
  exact Text.getLast?_any_eq_false (of_mem_enclosing c.opening.2 (fun _ => not_isDotted_of_isBlank) rfl)

lemma head?_lead (c : Conjunct) (more : List Char) : (c.lead ++ more).head?.any isDotted = false := by
  rw [lead, List.append_assoc]
  exact Text.head?_any_append_of_ne_nil c.closing_ne
    (of_mem_enclosing c.closing.2 (fun _ => not_isDotted_of_isBlank) rfl) _

end Conjunct

/-- Two comparisons side by side in a text: what stands before, between and behind their operators. -/
structure IsAdjacent (p : Comparison) (q : Conjunct) (x : List Char) (r : Char) (mid : List Char) (r' : Char)
    (y : List Char) : Prop where
  before : ∃ u, x = u ++ (p.left.text ++ p.before.1) ∧ u.getLast?.any isDotted = false
  first : p.relation = r
  between : mid = p.after.1 ++ (p.right.text ++ (q.lead ++ (q.comparison.left.text ++ q.comparison.before.1)))
  second : q.comparison.relation = r'
  behind : ∃ z, y = q.comparison.after.1 ++ (q.comparison.right.text ++ z) ∧ z.head?.any isDotted = false

variable {front rest x y mid tail : List Char} {r r' : Char}

lemma IsAdjacent.append_left {p : Comparison} {q : Conjunct} (h : IsAdjacent p q x r mid r' y)
    (hfront : front.getLast?.any isDotted = false) : IsAdjacent p q (front ++ x) r mid r' y := by
  obtain ⟨⟨u, hu, hlast⟩, hfirst, hbetween, hsecond, hbehind⟩ := h
  refine ⟨⟨front ++ u, by rw [hu, List.append_assoc], ?_⟩, hfirst, hbetween, hsecond, hbehind⟩
  exact Text.getLast?_any_append_eq_false hfront hlast

/-- The sign of a comparison in a text is the first one, or it stands behind the first one. -/
lemma cut_at_relation (hfront : ∀ c ∈ front, isRelation c = false) (hr : isRelation r = true) (hr' : isRelation r' = true)
    (hx : x.getLast?.any isRelation = false) (h : front ++ r :: '=' :: rest = x ++ r' :: '=' :: y) :
    (x = front ∧ r = r' ∧ rest = y) ∨
      ∃ x', x = front ++ r :: '=' :: x' ∧ x'.getLast?.any isRelation = false ∧ rest = x' ++ r' :: '=' :: y := by
  rcases List.append_eq_append_iff.mp h with ⟨a, rfl, hrest⟩ | ⟨a, rfl, hrest⟩
  · match a with
    | [] =>
      simp only [List.nil_append, List.cons.injEq, true_and] at hrest
      exact .inl ⟨List.append_nil _, hrest⟩
    | [c] =>
      simp only [List.singleton_append, List.cons.injEq] at hrest
      rw [List.getLast?_concat, Option.any_some, ← hrest.1, hr] at hx
      cases hx
    | c :: d :: x' =>
      simp only [List.cons_append, List.cons.injEq] at hrest
      obtain ⟨rfl, rfl, hrest⟩ := hrest
      refine .inr ⟨x', rfl, ?_, hrest⟩
      rcases List.eq_nil_or_concat x' with rfl | ⟨more, e, rfl⟩
      · rfl
      · rw [List.concat_eq_append, ← List.cons_append, ← List.cons_append, ← List.append_assoc, List.getLast?_concat] at hx
        rwa [List.concat_eq_append, List.getLast?_concat]
  · cases a with
    | nil =>
      simp only [List.nil_append, List.cons.injEq, true_and] at hrest
      exact .inl ⟨(List.append_nil _).symm, hrest.1.symm, hrest.2.symm⟩
    | cons c a =>
      obtain ⟨rfl, -⟩ := List.cons.inj hrest
      rw [hfront r' (by simp)] at hr'
      cases hr'

lemma isRelation_blanks (b : Text.Blanks) : ∀ c ∈ b.1, isRelation c = false := fun c hc =>
  isRelation_of_isBlank (b.isBlank c hc)

lemma cut_at_comparison (c : Comparison) (hfront : ∀ c ∈ front, isRelation c = false) (hr : isRelation r = true)
    (hx : x.getLast?.any isRelation = false) (h : front ++ (c.text ++ rest) = x ++ r :: '=' :: y) :
    (x = front ++ (c.left.text ++ c.before.1) ∧ c.relation = r ∧ c.after.1 ++ (c.right.text ++ rest) = y) ∨
      ∃ x', x = front ++ (c.left.text ++ c.before.1) ++ c.relation :: '=' :: x' ∧ x'.getLast?.any isRelation = false ∧
        c.after.1 ++ (c.right.text ++ rest) = x' ++ r :: '=' :: y := by
  have hbefore : ∀ d ∈ front ++ (c.left.text ++ c.before.1), isRelation d = false := by
    simp only [List.forall_mem_append]
    exact ⟨hfront, c.left.isRelation, isRelation_blanks c.before⟩
  refine cut_at_relation hbefore c.isRelation_relation hr hx (Eq.trans ?_ h)
  simp [Comparison.text]

/-- Where no comparison stands between the operators of two, these stand side by side. The induction is on the comparisons
behind the first one: either its operator is the first of the two, or both are among those behind it. -/
lemma exists_isAdjacent (htail : ∀ c ∈ tail, isRelation c = false) (hbehind : tail.head?.any isDotted = false)
    (hr : isRelation r = true) (hr' : isRelation r' = true) (hmid : ∀ c ∈ mid, isRelation c = false)
    (cs : List Conjunct) (c : Comparison) (hfront : ∀ c ∈ front, isRelation c = false)
    (hbefore : front.getLast?.any isDotted = false) (hx : x.getLast?.any isRelation = false)
    (h : front ++ (c.text ++ (cs.flatMap Conjunct.text ++ tail)) = x ++ r :: '=' :: (mid ++ r' :: '=' :: y)) :
    ∃ p q, [p, q.comparison] <:+: c :: cs.map Conjunct.comparison ∧ IsAdjacent p q x r mid r' y := by
  induction cs generalizing c front x with
  | nil =>
    have hnone : ∀ d ∈ c.after.1 ++ (c.right.text ++ tail), isRelation d = false := by
      simp only [List.forall_mem_append]
      exact ⟨isRelation_blanks c.after, c.right.isRelation, htail⟩
    rw [List.flatMap_nil, List.nil_append] at h
    rcases cut_at_comparison c hfront hr hx h with ⟨-, -, hrest⟩ | ⟨x', -, -, hrest⟩
    all_goals
      have hmem := hnone r' (by rw [hrest]; simp)
      rw [hr'] at hmem
      cases hmem
  | cons d ds ih =>
    have hnext : ∀ e ∈ c.after.1 ++ (c.right.text ++ d.lead), isRelation e = false := by
      simp only [List.forall_mem_append]
      exact ⟨isRelation_blanks c.after, c.right.isRelation, d.isRelation_lead⟩
    have hsplit : c.after.1 ++ (c.right.text ++ ((d :: ds).flatMap Conjunct.text ++ tail)) =
        c.after.1 ++ (c.right.text ++ d.lead) ++ (d.comparison.text ++ (ds.flatMap Conjunct.text ++ tail)) := by
      simp [Conjunct.text]
    rcases cut_at_comparison c hfront hr hx h with ⟨rfl, hfirst, hrest⟩ | ⟨x', rfl, hx', hrest⟩
    · have hlast : mid.getLast?.any isRelation = false := Text.getLast?_any_eq_false hmid
      rw [hsplit] at hrest
      rcases cut_at_comparison d.comparison hnext hr' hlast hrest with ⟨hbetween, hsecond, hy⟩ | ⟨x', hlater, -, -⟩
      · refine ⟨c, d, ⟨[], ds.map Conjunct.comparison, rfl⟩, ⟨front, rfl, hbefore⟩, hfirst, ?_, hsecond, _, hy.symm, ?_⟩
        · rw [hbetween]
          simp
        · cases ds with
          | nil => exact hbehind
          | cons e ds =>
            rw [List.flatMap_cons, Conjunct.text, List.append_assoc, List.append_assoc]
            exact e.head?_lead _
      · have hmem := hmid d.comparison.relation (by simp [hlater])
        rw [d.comparison.isRelation_relation] at hmem
        cases hmem
    · rw [hsplit] at hrest
      have hend : (c.after.1 ++ (c.right.text ++ d.lead)).getLast?.any isDotted = false := by
        rw [← List.append_assoc]
        exact d.getLast?_lead _
      obtain ⟨p, q, hbeside, hadjacent⟩ := ih d.comparison hnext hend hx' hrest
      refine ⟨p, q, hbeside.trans (List.suffix_cons _ _).isInfix, ?_⟩
      have hsign : (front ++ (c.left.text ++ c.before.1) ++ [c.relation, '=']).getLast?.any isDotted = false := by
        rw [List.getLast?_append_of_ne_nil _ (by simp)]
        rfl
      simpa using hadjacent.append_left hsign

namespace IfLine

variable {s : IfLine} {code : List Char} {index : ℕ}

lemma exists_isAdjacent (hr : isRelation r = true) (hr' : isRelation r' = true) (hmid : ∀ c ∈ mid, isRelation c = false)
    (hx : x.getLast?.any isRelation = false) (h : s.text = x ++ r :: '=' :: (mid ++ r' :: '=' :: y)) :
    ∃ p q, [p, q.comparison] <:+: s.comparisons ∧ IsAdjacent p q x r mid r' y := by
  have hopening : ∀ {P : Char → Prop}, (∀ c, Text.isBlank c = true → P c) → P '(' → ∀ c ∈ s.opening.1, P c :=
    of_mem_enclosing s.opening.2
  have hclosing : ∀ {P : Char → Prop}, (∀ c, Text.isBlank c = true → P c) → P ')' → ∀ c ∈ s.closing.1, P c :=
    of_mem_enclosing s.closing.2
  have htext : s.indent.1 ++ ("if".toList ++ s.opening.1) ++ (s.first.text ++ (s.others.flatMap Conjunct.text ++
      (s.closing.1 ++ ':' :: s.trail.1))) = x ++ r :: '=' :: (mid ++ r' :: '=' :: y) := by
    rw [← h]
    simp [text]
  refine Source.exists_isAdjacent ?_ ?_ hr hr' hmid s.others s.first ?_ ?_ hx htext
  · simp only [List.forall_mem_append, List.forall_mem_cons]
    exact ⟨hclosing (fun _ => isRelation_of_isBlank) rfl, rfl, isRelation_blanks s.trail⟩
  · exact Text.head?_any_append (Text.head?_any_eq_false (hclosing (fun _ => not_isDotted_of_isBlank) rfl)) rfl
  · simp only [List.forall_mem_append]
    exact ⟨isRelation_blanks s.indent, Text.eq_false_of_any (by decide), hopening (fun _ => isRelation_of_isBlank) rfl⟩
  · rw [← List.append_assoc, List.getLast?_append_of_ne_nil _ s.opening_ne]
    exact Text.getLast?_any_eq_false (hopening (fun _ => not_isDotted_of_isBlank) rfl)

lemma isPlainChar (s : IfLine) : ∀ c ∈ s.text, isPlainChar c = true := by
  have hblank : ∀ c, Text.isBlank c = true → Source.isPlainChar c = true := fun c hc =>
    isPlainChar_of_class (by decide) hc
  have harith : ∀ c, isArithChar c = true → Source.isPlainChar c = true := fun c hc =>
    isPlainChar_of_class (by decide) hc
  have hcomparison : ∀ (c : Comparison), ∀ d ∈ c.text, Source.isPlainChar d = true := by
    intro c
    simp only [Comparison.text, List.forall_mem_append, List.forall_mem_cons]
    refine ⟨fun d hd => harith d (c.left.isArithChar d hd), fun d hd => hblank d (c.before.isBlank d hd), ?_, by decide,
      fun d hd => hblank d (c.after.isBlank d hd), fun d hd => harith d (c.right.isArithChar d hd)⟩
    unfold Comparison.relation
    split <;> decide
  have hconjunct : ∀ (c : Conjunct), ∀ d ∈ c.text, Source.isPlainChar d = true := by
    intro c
    simp only [Conjunct.text, Conjunct.lead, List.forall_mem_append]
    exact ⟨⟨of_mem_enclosing c.closing.2 hblank (by decide), List.all_eq_true.mp (by decide),
      of_mem_enclosing c.opening.2 hblank (by decide)⟩, hcomparison c.comparison⟩
  simp only [text, List.forall_mem_append, List.forall_mem_cons, List.forall_mem_flatMap]
  exact ⟨fun c hc => hblank c (s.indent.isBlank c hc), List.all_eq_true.mp (by decide),
    of_mem_enclosing s.opening.2 hblank (by decide), hcomparison s.first, fun c _ => hconjunct c,
    of_mem_enclosing s.closing.2 hblank (by decide), by decide,
    fun c hc => hblank c (s.trail.isBlank c hc)⟩

lemma getElem?_maskLines (hline : (Text.lines code)[index]? = some s.text)
    (habove : Unquoted (Text.joinLines ((Text.lines code).take index))) : (maskLines code)[index]? = some s.text :=
  (CodeMask.plain s.isPlainChar).getElem?_maskLines hline habove

end IfLine

end Line

end CodeAudit.Source
