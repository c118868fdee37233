import CodeAudit.Proofs.Numeric.Digits
import CodeAudit.Proofs.Outcome
import CodeAudit.Proofs.Regex.Groups
import CodeAudit.Proofs.Text.Classes
import CodeAudit.Rule.Basic

/-! Which literals can be worked out. A rule reads the digits of one number, of a power or of the factors of a product;
the reading fails where a digit is no decimal one or where there are too many of them. -/
namespace CodeAudit.Rule

open Outcome Regex

/-- Digits that are read as a number: decimal ones, and not too many. -/
structure Legible (ds : List Char) : Prop where
  decimal : ∀ c ∈ ds, Text.isDecimal c = true
  short : ds.length ≤ Reading.maxDigits

/-- A text that writes a power of one number to another. -/
structure IsPower (s base exponent : List Char) : Prop where
  base_ne : base ≠ []
  base_decimal : ∀ c ∈ base, Text.isDecimal c = true
  exponent_ne : exponent ≠ []
  exponent_decimal : ∀ c ∈ exponent, Text.isDecimal c = true
  parts : ∃ before after, s = base ++ before ++ "**".toList ++ after ++ exponent ∧
    (∀ c ∈ before, Text.isBlank c = true) ∧ ∀ c ∈ after, Text.isBlank c = true

/-- What is read of a literal: all but the blanks around it and the underscores. -/
def bare (text : List Char) : List Char :=
  (Text.strip text).filter (· != '_')

/-- What stands between the asterisks. -/
def factors (s : List Char) : List (List Char) :=
  (Text.splitOn '*' s).map Text.strip

/-- The numbers that are read of a literal are legible. Of a power with a great exponent only the exponent is read. -/
structure LegibleLiteral (text : List Char) : Prop where
  number : isAllDigits (bare text) = true → Legible (bare text)
  exponent : ∀ base exponent, IsPower (bare text) base exponent → exponent.length ≤ Reading.maxDigits
  base : ∀ base exponent n, IsPower (bare text) base exponent → Reading.whole exponent = .ok n → n ≤ maxExponent →
    base.length ≤ Reading.maxDigits
  factors : 1 < (factors (bare text)).length → (∀ f ∈ factors (bare text), isAllDigits f = true) →
    ∀ f ∈ factors (bare text), Legible f

lemma isAllDigits_iff {s : List Char} : isAllDigits s = true ↔ s ≠ [] ∧ ∀ c ∈ s, Text.isDigit c = true := by
  rw [isAllDigits, Bool.and_eq_true, Bool.not_eq_true', List.isEmpty_eq_false_iff, List.all_eq_true]

lemma exists_whole_iff {ds : List Char} (h : isAllDigits ds = true) :
    (∃ n, Reading.whole ds = .ok n) ↔ Legible ds := by
  obtain ⟨hne, hdigits⟩ := isAllDigits_iff.mp h
  rw [Reading.whole_isOk_iff_of_digits hne hdigits]
  exact ⟨fun h => ⟨h.1, h.2⟩, fun h => ⟨h.decimal, h.short⟩⟩

lemma not_mem_of_isAllDigits {s : List Char} (h : isAllDigits s = true) : '*' ∉ s := fun hmem =>
  absurd ((isAllDigits_iff.mp h).2 '*' hmem) (by decide +kernel)

section Power

variable {s base exponent base' exponent' : List Char} {m : Found}

lemma IsPower.mem_factors (h : IsPower s base exponent) : [] ∈ factors s := by
  obtain ⟨before, after, rfl, -, -⟩ := h.parts
  have hsplit : base ++ before ++ "**".toList ++ after ++ exponent =
      (base ++ before) ++ '*' :: ('*' :: (after ++ exponent)) := by simp
  rw [factors, hsplit, Text.splitOn_eq, List.splitOn_append_cons_self, List.splitOn_cons_eq_if_modifyHead,
    if_pos (beq_self_eq_true _)]
  exact List.mem_map.mpr ⟨[], by simp, rfl⟩

lemma IsPower.mem (h : IsPower s base exponent) : '*' ∈ s := by
  obtain ⟨before, after, rfl, -, -⟩ := h.parts
  simp

/-- The two numbers can be told apart in one way only. -/
lemma IsPower.unique (h : IsPower s base exponent) (h' : IsPower s base' exponent') :
    base = base' ∧ exponent = exponent' := by
  obtain ⟨before, after, hs, hbefore, hafter⟩ := h.parts
  obtain ⟨before', after', hs', hbefore', hafter'⟩ := h'.parts
  have hstart : ∀ {blanks rest : List Char}, (∀ c ∈ blanks, Text.isBlank c = true) →
      (blanks ++ ("**".toList ++ rest)).head?.any Text.isDecimal = false := by
    intro blanks rest hblanks
    cases blanks with
    | nil => rfl
    | cons c blanks =>
      have hc := hblanks c List.mem_cons_self
      have hdecimal : Text.isDecimal c ≠ true := fun hd => by
        rw [Text.not_isBlank_of_isDecimal hd] at hc
        cases hc
      simpa using hdecimal
  have hend : ∀ {ds : List Char}, ds ≠ [] → (∀ c ∈ ds, Text.isDecimal c = true) →
      ds.head?.any Text.isBlank = false := by
    intro ds hne hds
    obtain ⟨c, rest, rfl⟩ := List.exists_cons_of_ne_nil hne
    exact Text.not_isBlank_of_isDecimal (hds c List.mem_cons_self)
  have hsame : base ++ (before ++ ("**".toList ++ (after ++ exponent))) =
      base' ++ (before' ++ ("**".toList ++ (after' ++ exponent'))) := by
    simpa using hs.symm.trans hs'
  obtain ⟨hbase, hsame⟩ :=
    Text.run_unique h.base_decimal h'.base_decimal (hstart hbefore) (hstart hbefore') hsame
  obtain ⟨-, hsame⟩ := Text.run_unique hbefore hbefore' rfl rfl hsame
  obtain ⟨-, hexponent⟩ := Text.run_unique hafter hafter' (hend h.exponent_ne h.exponent_decimal)
    (hend h'.exponent_ne h'.exponent_decimal) (List.append_cancel_left hsame)
  exact ⟨hbase, hexponent⟩

lemma isPower_of_matchesAll? (h : power.matchesAll? s = some m) :
    IsPower s (m.group "base") (m.group "exponent") := by
  obtain ⟨t, ht, hrest, hm⟩ := captured_of_matchesAll? h
  obtain ⟨t₄, ht, h₅⟩ := mem_ends_seq.mp ht
  obtain ⟨t₃, ht, h₄⟩ := mem_ends_seq.mp ht
  obtain ⟨t₂, ht, h₃⟩ := mem_ends_seq.mp ht
  obtain ⟨t₁, h₁, h₂⟩ := mem_ends_seq.mp ht
  obtain ⟨base, post₁, rfl, base_captures⟩ := exists_captures_group rfl (.ofText _) h₁
  obtain ⟨before, post₂, rfl, before_captures⟩ := exists_captures rfl base_captures.at_end h₂
  obtain ⟨sign, post₃, rfl, sign_captures⟩ := exists_captures (isPlain_text _) before_captures.at_end h₃
  obtain ⟨after, post₄, rfl, after_captures⟩ := exists_captures rfl sign_captures.at_end h₄
  obtain ⟨exponent, post₅, rfl, exponent_captures⟩ := exists_captures_group rfl after_captures.at_end h₅
  obtain rfl : post₅ = [] := exponent_captures.at_end.rest.symm.trans hrest
  obtain rfl := spells_text.mp sign_captures.spells
  obtain ⟨hbase, hbase_decimal⟩ := spells_many1.mp (spells_group.mp base_captures.spells)
  obtain ⟨hexponent, hexponent_decimal⟩ := spells_many1.mp (spells_group.mp exponent_captures.spells)
  have hcaptured : m.captured = [("exponent", exponent), ("base", base)] := by
    rw [hm, exponent_captures.captured, after_captures.captured, sign_captures.captured, before_captures.captured,
      base_captures.captured]
    rfl
  have hgroups : m.group "base" = base ∧ m.group "exponent" = exponent := by
    rw [Found.group_eq, Found.group_eq, hcaptured]
    exact ⟨rfl, rfl⟩
  rw [hgroups.1, hgroups.2]
  exact ⟨hbase, hbase_decimal, hexponent, hexponent_decimal, before, after, by simp, before_captures.spells,
    after_captures.spells⟩

lemma IsPower.exists_matchesAll? (h : IsPower s base exponent) : ∃ m, power.matchesAll? s = some m := by
  obtain ⟨before, after, rfl, hbefore, hafter⟩ := h.parts
  refine Option.isSome_iff_exists.mp (matchesAll?_isSome_of_spells rfl ?_)
  refine ⟨_, _, rfl, ⟨_, _, rfl, ⟨_, _, rfl, ⟨_, _, rfl, ?_, hbefore⟩, spells_text.mpr rfl⟩, hafter⟩, ?_⟩
  · exact spells_many1.mpr ⟨h.base_ne, h.base_decimal⟩
  · exact spells_many1.mpr ⟨h.exponent_ne, h.exponent_decimal⟩

end Power

/-- The product of the factors, if each of them is a number. -/
def productValue (s : List Char) : Except Reading.Fault (Option Int) :=
  if 1 < (factors s).length && (factors s).all isAllDigits then do
    let values ← (factors s).mapM Reading.whole
    return some (values.foldl (· * ·) 1)
  else return none

lemma literalValue_eq (text : List Char) :
    literalValue text =
      if isAllDigits (bare text) then do return some (← Reading.whole (bare text))
      else match power.matchesAll? (bare text) with
        | some m => do
          let exponent ← Reading.whole (m.group "exponent")
          if exponent ≤ maxExponent then
            return some (Int.pow (← Reading.whole (m.group "base")) exponent.toNat)
          else productValue (bare text)
        | none => productValue (bare text) := rfl

/-- A product is worked out when its factors are, or when one of them is no number. -/
lemma exists_productValue_iff {s : List Char} :
    (∃ o, productValue s = .ok o) ↔
      (1 < (factors s).length → (∀ f ∈ factors s, isAllDigits f = true) → ∀ f ∈ factors s, Legible f) := by
  have hproduct : (decide (1 < (factors s).length) && (factors s).all isAllDigits) = true ↔
      1 < (factors s).length ∧ ∀ f ∈ factors s, isAllDigits f = true := by
    rw [Bool.and_eq_true, decide_eq_true_eq, List.all_eq_true]
  unfold productValue
  split
  · rename_i h
    obtain ⟨hlength, hdigits⟩ := hproduct.mp h
    have hvalues : (∃ values, (factors s).mapM Reading.whole = .ok values) ↔ ∀ f ∈ factors s, Legible f := by
      rw [exists_mapM_iff]
      exact forall₂_congr fun f hf => exists_whole_iff (hdigits f hf)
    rw [exists_bind_iff]
    constructor
    · rintro ⟨values, h, -⟩ - -
      exact hvalues.mp ⟨values, h⟩
    · intro h
      obtain ⟨values, h⟩ := hvalues.mpr (h hlength hdigits)
      exact ⟨values, h, _, rfl⟩
  · rename_i h
    exact iff_of_true ⟨none, rfl⟩ fun hlength hdigits => absurd (hproduct.mpr ⟨hlength, hdigits⟩) h

/-- A power that is not worked out is no product either. -/
lemma IsPower.productValue_eq {s base exponent : List Char} (h : IsPower s base exponent) :
    productValue s = .ok none := by
  have hnot : (factors s).all isAllDigits = false := List.all_eq_false.mpr ⟨[], h.mem_factors, by decide⟩
  rw [productValue, hnot, Bool.and_false]
  rfl

section Kinds

variable {text base exponent : List Char}

lemma legibleLiteral_iff_of_number (h : isAllDigits (bare text) = true) :
    LegibleLiteral text ↔ Legible (bare text) := by
  have hstar := not_mem_of_isAllDigits h
  have hfactors : factors (bare text) = [Text.strip (bare text)] := by
    rw [factors, Text.splitOn_eq, List.splitOn_eq_singleton hstar]
    rfl
  constructor
  · intro hlegible
    exact hlegible.number h
  · intro hlegible
    refine ⟨fun _ => hlegible, fun _ _ hpower => absurd hpower.mem hstar, fun _ _ _ hpower => absurd hpower.mem hstar,
      fun hmany => ?_⟩
    rw [hfactors] at hmany
    exact absurd hmany (lt_irrefl 1)

lemma legibleLiteral_iff_of_power (h : IsPower (bare text) base exponent) :
    LegibleLiteral text ↔ exponent.length ≤ Reading.maxDigits ∧
      ∀ n, Reading.whole exponent = .ok n → n ≤ maxExponent → base.length ≤ Reading.maxDigits := by
  constructor
  · intro hlegible
    exact ⟨hlegible.exponent _ _ h, fun n => hlegible.base _ _ n h⟩
  · rintro ⟨hexponent, hbase⟩
    refine ⟨fun hnumber => absurd h.mem (not_mem_of_isAllDigits hnumber), fun b e hpower => ?_,
      fun b e n hpower => ?_, fun _ hall => absurd (hall [] h.mem_factors) (by decide)⟩
    · obtain ⟨rfl, rfl⟩ := h.unique hpower
      exact hexponent
    · obtain ⟨rfl, rfl⟩ := h.unique hpower
      exact hbase n

lemma legibleLiteral_iff_of_other (hnumber : ¬ isAllDigits (bare text) = true)
    (hpower : ∀ base exponent, ¬ IsPower (bare text) base exponent) :
    LegibleLiteral text ↔
      (1 < (factors (bare text)).length → (∀ f ∈ factors (bare text), isAllDigits f = true) →
        ∀ f ∈ factors (bare text), Legible f) :=
  ⟨fun hlegible => hlegible.factors, fun hfactors => ⟨fun h => absurd h hnumber, fun b e h => absurd h (hpower b e),
    fun b e _ h => absurd h (hpower b e), hfactors⟩⟩

end Kinds

/-- **The literals that are worked out.** The value of a literal is found, or found to be of no concern, exactly when
what is read of it is legible. -/
theorem exists_literalValue_iff (text : List Char) : (∃ o, literalValue text = .ok o) ↔ LegibleLiteral text := by
  rw [literalValue_eq]
  by_cases hnumber : isAllDigits (bare text) = true
  · rw [if_pos hnumber, legibleLiteral_iff_of_number hnumber, ← exists_whole_iff hnumber, exists_bind_iff]
    exact exists_congr fun n => and_iff_left ⟨_, rfl⟩
  · rw [if_neg hnumber]
    cases hmatch : power.matchesAll? (bare text) with
    | some m =>
      have hpower := isPower_of_matchesAll? hmatch
      have hexponent := Reading.whole_isOk_iff_of_decimals hpower.exponent_ne hpower.exponent_decimal
      have hbase := Reading.whole_isOk_iff_of_decimals hpower.base_ne hpower.base_decimal
      rw [legibleLiteral_iff_of_power hpower, ← hexponent, ← hbase]
      dsimp only
      rw [exists_bind_iff]
      constructor
      · rintro ⟨n, hn, hvalue⟩
        refine ⟨⟨n, hn⟩, fun k hk hsmall => ?_⟩
        cases hn.symm.trans hk
        rw [if_pos hsmall] at hvalue
        obtain ⟨b, hb, -⟩ := exists_bind_iff.mp hvalue
        exact ⟨b, hb⟩
      · rintro ⟨⟨n, hn⟩, hread⟩
        refine ⟨n, hn, ?_⟩
        split
        · rename_i hsmall
          obtain ⟨b, hb⟩ := hread n hn hsmall
          exact exists_bind_iff.mpr ⟨b, hb, _, rfl⟩
        · exact ⟨_, hpower.productValue_eq⟩
    | none =>
      have hpower : ∀ base exponent, ¬ IsPower (bare text) base exponent := by
        intro base exponent h
        obtain ⟨m, hm⟩ := h.exists_matchesAll?
        cases hmatch.symm.trans hm
      rw [legibleLiteral_iff_of_other hnumber hpower]
      exact exists_productValue_iff

end CodeAudit.Rule
