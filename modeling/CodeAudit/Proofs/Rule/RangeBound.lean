import CodeAudit.Proofs.Rule.Literal
import Mathlib.Algebra.BigOperators.Group.List.Basic
import Mathlib.Algebra.Ring.Int.Defs
import Mathlib.Data.Nat.Cast.Basic

/-! The values of number literals, powers and products, and what is worked out of them: the value, unless they are a
power with a great exponent. -/
namespace CodeAudit.Rule

open Outcome Regex

/-- A decimal literal: a digit, with digits and underscores behind it. -/
structure Numeral where
  first : Char
  rest : List Char
  first_digit : first.isDigit = true
  rest_digits : rest.all (fun c => c == '_' || c.isDigit) = true

namespace Numeral

def text (n : Numeral) : List Char :=
  n.first :: n.rest

def digits (n : Numeral) : List Char :=
  n.text.filter (· != '_')

def value (n : Numeral) : ℕ :=
  Nat.ofDigitChars 10 n.digits 0

end Numeral

/-- An asterisk and one more factor. -/
structure Factor where
  before : Text.Blanks
  after : Text.Blanks
  numeral : Numeral

namespace Factor

def text (f : Factor) : List Char :=
  f.before.1 ++ '*' :: (f.after.1 ++ f.numeral.text)

/-- The text without underscores. -/
def bareText (f : Factor) : List Char :=
  f.before.1 ++ '*' :: (f.after.1 ++ f.numeral.digits)

end Factor

/-- A bound of a range as it is written. -/
inductive Bound where
  | number (n : Numeral)
  | power (base : Numeral) (before after : Text.Blanks) (exponent : Numeral)
  | product (first : Numeral) (second : Factor) (more : List Factor)

namespace Bound

def text : Bound → List Char
  | number n => n.text
  | power base before after exponent => base.text ++ (before.1 ++ ("**".toList ++ (after.1 ++ exponent.text)))
  | product first second more => first.text ++ (second :: more).flatMap Factor.text

def value : Bound → ℕ
  | number n => n.value
  | power base _ _ exponent => base.value ^ exponent.value
  | product first second more => ((first :: (second :: more).map Factor.numeral).map Numeral.value).prod

/-- The bound is no power with an exponent above the greatest one that is worked out. -/
def WorkedOut : Bound → Prop
  | power _ _ _ exponent => exponent.value ≤ maxExponent
  | number _ | product .. => True

instance (e : Bound) : Decidable e.WorkedOut := by
  cases e with
  | number n => exact inferInstanceAs (Decidable True)
  | power base before after exponent => exact inferInstanceAs (Decidable (_ ≤ _))
  | product first second more => exact inferInstanceAs (Decidable True)

/-- The text without underscores. -/
def bareText : Bound → List Char
  | number n => n.digits
  | power base before after exponent => base.digits ++ (before.1 ++ ("**".toList ++ (after.1 ++ exponent.digits)))
  | product first second more => first.digits ++ (second :: more).flatMap Factor.bareText

end Bound

section Numerals

variable {n : Numeral}

lemma Numeral.eq_underscore_or_isDigit_of_mem_rest {c : Char} (h : c ∈ n.rest) : c = '_' ∨ c.isDigit = true := by
  simpa only [Bool.or_eq_true, beq_iff_eq] using List.all_eq_true.mp n.rest_digits c h

lemma Numeral.isDigit_of_mem_digits {c : Char} (h : c ∈ n.digits) : c.isDigit = true := by
  obtain ⟨hmem, hunder⟩ := List.mem_filter.mp h
  rcases List.mem_cons.mp hmem with rfl | hmem
  · exact n.first_digit
  · exact (eq_underscore_or_isDigit_of_mem_rest hmem).resolve_left (bne_iff_ne.mp hunder)

lemma Numeral.exists_digits_eq_cons (n : Numeral) : ∃ rest, n.digits = n.first :: rest := by
  have hfirst : (n.first != '_') = true := by
    rw [bne_iff_ne]
    intro hunder
    exact absurd (hunder ▸ n.first_digit) (by decide)
  exact ⟨n.rest.filter (· != '_'), List.filter_cons_of_pos hfirst⟩

lemma Numeral.digits_ne_nil (n : Numeral) : n.digits ≠ [] := by
  obtain ⟨rest, hrest⟩ := n.exists_digits_eq_cons
  rw [hrest]
  exact List.cons_ne_nil _ _

lemma Numeral.isDecimal_of_mem_digits {c : Char} (h : c ∈ n.digits) : Text.isDecimal c = true :=
  Reading.isDecimal_of_isDigit (isDigit_of_mem_digits h)

lemma Numeral.isAllDigits_digits (n : Numeral) : isAllDigits n.digits = true :=
  isAllDigits_iff.mpr ⟨n.digits_ne_nil, fun _ hc => Text.isDigit_of_isDecimal (isDecimal_of_mem_digits hc)⟩

/-- The digits of a numeral are read as its value, if they can be read. -/
lemma Numeral.eq_value_of_whole {k : Int} (h : Reading.whole n.digits = .ok k) : k = n.value :=
  ((Reading.whole_eq_ok_iff_of_digits n.digits_ne_nil (fun _ => isDigit_of_mem_digits) k).mp h).2

lemma isBlank_eq_false_of_isDigit {c : Char} (h : c.isDigit = true) : Text.isBlank c = false :=
  Text.not_isBlank_of_isDecimal (Reading.isDecimal_of_isDigit h)

lemma Numeral.not_isBlank_of_mem_text {c : Char} (h : c ∈ n.text) : Text.isBlank c = false := by
  rcases List.mem_cons.mp h with rfl | h
  · exact isBlank_eq_false_of_isDigit n.first_digit
  · rcases eq_underscore_or_isDigit_of_mem_rest h with rfl | hdigit
    · decide
    · exact isBlank_eq_false_of_isDigit hdigit

/-- Digits with blanks in front are stripped to the digits. -/
lemma Numeral.strip_digits (n : Numeral) (before after : Text.Blanks) :
    Text.strip (before.1 ++ (n.digits ++ after.1)) = n.digits := by
  have hblank : ∀ c ∈ n.digits, Text.isBlank c = false := fun c hc =>
    isBlank_eq_false_of_isDigit (isDigit_of_mem_digits hc)
  refine before.strip_between after (Text.head?_any_eq_false hblank) ?_
  rw [← List.head?_reverse]
  exact Text.head?_any_eq_false fun c hc => hblank c (List.mem_reverse.mp hc)

end Numerals

section Reading

lemma filter_blanks (b : Text.Blanks) : b.1.filter (· != '_') = b.1 := by
  refine List.filter_eq_self.mpr fun c hc => bne_iff_ne.mpr ?_
  rintro rfl
  exact absurd (b.isBlank '_' hc) (by decide)

lemma Factor.filter_text (f : Factor) : f.text.filter (· != '_') = f.bareText := by
  rw [text, List.filter_append, filter_blanks, List.filter_cons_of_pos (by decide), List.filter_append, filter_blanks]
  rfl

lemma Bound.filter_text (e : Bound) : e.text.filter (· != '_') = e.bareText := by
  cases e with
  | number n => rfl
  | power base before after exponent =>
    simp only [text, List.filter_append, filter_blanks]
    rfl
  | product first second more =>
    simp only [text, List.filter_append, List.filter_flatMap, Factor.filter_text]
    rfl

lemma Bound.exists_first_numeral (e : Bound) : ∃ (n : Numeral) (back : List Char), e.text = n.text ++ back := by
  cases e with
  | number n => exact ⟨n, [], (List.append_nil n.text).symm⟩
  | power base before after exponent => exact ⟨base, _, rfl⟩
  | product first second more => exact ⟨first, _, rfl⟩

lemma Bound.exists_last_numeral (e : Bound) : ∃ (front : List Char) (n : Numeral), e.text = front ++ n.text := by
  cases e with
  | number n => exact ⟨[], n, rfl⟩
  | power base before after exponent => exact ⟨base.text ++ (before.1 ++ ("**".toList ++ after.1)), exponent, by simp [text]⟩
  | product first second more =>
    obtain ⟨others, last, hlast⟩ := (List.eq_nil_or_concat' (second :: more)).resolve_left (List.cons_ne_nil second more)
    exact ⟨first.text ++ (others.flatMap Factor.text ++ (last.before.1 ++ '*' :: last.after.1)), last.numeral,
      by simp [text, hlast, Factor.text]⟩

/-- A bound begins and ends with a numeral, so the blanks around it are all that is stripped. -/
lemma Bound.strip_text (e : Bound) (before after : Text.Blanks) :
    Text.strip (before.1 ++ (e.text ++ after.1)) = e.text := by
  obtain ⟨first, back, hfirst⟩ := e.exists_first_numeral
  obtain ⟨front, last, hlast⟩ := e.exists_last_numeral
  refine before.strip_between after ?_ ?_
  · rw [hfirst]
    exact Text.head?_any_append_of_ne_nil (List.cons_ne_nil _ _) (fun _ => Numeral.not_isBlank_of_mem_text) back
  · rw [← List.head?_reverse, hlast, List.reverse_append]
    refine Text.head?_any_append_of_ne_nil (by simp [Numeral.text]) (fun c hc => ?_) _
    exact Numeral.not_isBlank_of_mem_text (List.mem_reverse.mp hc)

lemma Bound.bare_text (e : Bound) (before after : Text.Blanks) :
    bare (before.1 ++ (e.text ++ after.1)) = e.bareText := by
  rw [bare, e.strip_text, e.filter_text]

end Reading

section Values

variable {text : List Char} {o : Option Int} {n base exponent : Numeral}

lemma eq_of_literalValue_number (hbare : bare text = n.digits) (h : literalValue text = .ok o) :
    o = some (n.value : Int) := by
  rw [literalValue_eq, hbare, if_pos n.isAllDigits_digits] at h
  obtain ⟨k, hk, h⟩ := bind_eq_ok.mp h
  rw [← pure_eq_ok.mp h, n.eq_value_of_whole hk]

/-- A power is worked out if its exponent is not too great; otherwise it is no product either. -/
lemma eq_of_literalValue_power (hpower : IsPower (bare text) base.digits exponent.digits)
    (h : literalValue text = .ok o) :
    o = if (exponent.value : Int) ≤ maxExponent then some ((base.value ^ exponent.value : ℕ) : Int) else none := by
  have hnumber : ¬ isAllDigits (bare text) = true := fun hall => not_mem_of_isAllDigits hall hpower.mem
  obtain ⟨m, hm⟩ := hpower.exists_matchesAll?
  obtain ⟨hbase, hexponent⟩ := (isPower_of_matchesAll? hm).unique hpower
  rw [literalValue_eq, if_neg hnumber, hm] at h
  simp only [hbase, hexponent] at h
  obtain ⟨k, hk, h⟩ := bind_eq_ok.mp h
  obtain rfl := exponent.eq_value_of_whole hk
  split at h
  · rename_i hsmall
    obtain ⟨b, hb, h⟩ := bind_eq_ok.mp h
    obtain rfl := base.eq_value_of_whole hb
    rw [if_pos hsmall, ← pure_eq_ok.mp h]
    simp
  · rename_i hgreat
    rw [hpower.productValue_eq] at h
    rw [if_neg hgreat, ← Except.ok.inj h]

/-- The factors are read between the asterisks, by induction on them. -/
lemma factors_eq (before : Text.Blanks) (n : Numeral) (fs : List Factor) :
    factors (before.1 ++ (n.digits ++ fs.flatMap Factor.bareText)) = (n :: fs.map Factor.numeral).map Numeral.digits := by
  have hdigits : ∀ n : Numeral, '*' ∉ n.digits := fun n hmem =>
    absurd (Numeral.isDigit_of_mem_digits hmem) (by decide)
  have hblanks : ∀ b : Text.Blanks, '*' ∉ b.1 := fun b hmem => absurd (b.isBlank '*' hmem) (by decide)
  induction fs generalizing before n with
  | nil =>
    have hstar : '*' ∉ before.1 ++ (n.digits ++ []) := by simp [hdigits n, hblanks before]
    rw [List.flatMap_nil, factors, Text.splitOn_eq, List.splitOn_eq_singleton hstar]
    exact congrArg (· :: []) (n.strip_digits before ⟨[], rfl⟩)
  | cons f fs ih =>
    have hstar : '*' ∉ before.1 ++ (n.digits ++ f.before.1) := by simp [hdigits n, hblanks before, hblanks f.before]
    have hcut : before.1 ++ (n.digits ++ (f :: fs).flatMap Factor.bareText) =
        (before.1 ++ (n.digits ++ f.before.1)) ++
          '*' :: (f.after.1 ++ (f.numeral.digits ++ fs.flatMap Factor.bareText)) := by
      simp [Factor.bareText]
    have hrest := ih f.after f.numeral
    rw [factors, Text.splitOn_eq] at hrest
    rw [hcut, factors, Text.splitOn_eq, List.splitOn_append_cons_self, List.splitOn_eq_singleton hstar, List.map_append,
      hrest, List.map_singleton, n.strip_digits]
    rfl

lemma eq_of_literalValue_product {second : Factor} {more : List Factor}
    (hbare : bare text = n.digits ++ (second :: more).flatMap Factor.bareText) (h : literalValue text = .ok o) :
    o = some ((((n :: (second :: more).map Factor.numeral).map Numeral.value).prod : ℕ) : Int) := by
  have hfactors : factors (bare text) = (n :: (second :: more).map Factor.numeral).map Numeral.digits := by
    rw [hbare]
    exact factors_eq ⟨[], rfl⟩ n (second :: more)
  have hnumber : ¬ isAllDigits (bare text) = true := fun hall =>
    not_mem_of_isAllDigits hall (by simp [hbare, Factor.bareText])
  -- between the asterisks of a power there is nothing
  have hpower : power.matchesAll? (bare text) = none := by
    refine Option.eq_none_iff_forall_ne_some.mpr fun m hm => ?_
    have hempty := (isPower_of_matchesAll? hm).mem_factors
    rw [hfactors] at hempty
    obtain ⟨k, -, hk⟩ := List.mem_map.mp hempty
    exact k.digits_ne_nil hk
  have hall : (factors (bare text)).all isAllDigits = true := by
    rw [hfactors, List.all_map]
    exact List.all_eq_true.mpr fun k _ => k.isAllDigits_digits
  have hlength : 1 < (factors (bare text)).length := by
    rw [hfactors]
    simp
  rw [literalValue_eq, if_neg hnumber, hpower] at h
  simp only [productValue, hall, hlength, decide_true, Bool.and_self, if_true] at h
  obtain ⟨values, hvalues, h⟩ := bind_eq_ok.mp h
  rw [hfactors, List.mapM_map] at hvalues
  obtain rfl := eq_map_of_mapM_eq_ok hvalues fun k _ b hb => k.eq_value_of_whole hb
  have hcast := map_list_prod (Nat.castRingHom ℤ) ((n :: (second :: more).map Factor.numeral).map Numeral.value)
  rw [List.map_map] at hcast
  rw [← pure_eq_ok.mp h, ← List.prod_eq_foldl]
  exact congrArg some hcast.symm

/-- **What is worked out of a bound** between blanks, if its numbers can be read: its value, or nothing for a power
with a great exponent. -/
lemma Bound.eq_of_literalValue (e : Bound) (before after : Text.Blanks)
    (h : literalValue (before.1 ++ (e.text ++ after.1)) = .ok o) :
    o = if e.WorkedOut then some (e.value : Int) else none := by
  have hbare := e.bare_text before after
  cases e with
  | number n => exact eq_of_literalValue_number hbare h
  | power base gap gap' exponent =>
    refine eq_of_literalValue_power ?_ h
    rw [hbare]
    exact ⟨base.digits_ne_nil, fun _ => Numeral.isDecimal_of_mem_digits, exponent.digits_ne_nil,
      fun _ => Numeral.isDecimal_of_mem_digits, gap.1, gap'.1, by simp [bareText], gap.isBlank, gap'.isBlank⟩
  | product first second more => exact eq_of_literalValue_product hbare h

end Values

end CodeAudit.Rule
