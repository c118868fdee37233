import CodeAudit.Numeric.Reading
import CodeAudit.Proofs.Text.Classes

/-! Reading of a text of nothing but digits, of any script: it fails only for having too many of them, or one such as
a superscript that is no decimal digit. -/
namespace CodeAudit

namespace Text

/-- The digits of all scripts lie apart from the blanks. -/
lemma decimal_apart_from_blank :
    ∀ r ∈ CharTable.decimal.toList, ∀ b ∈ CharTable.blank.toList, r.2 < b.1 ∨ b.2 < r.1 := by decide

lemma decimalRange_of_isDecimal {c : Char} (h : isDecimal c = true) :
    (c.toNat < 128 ∧ c.isDigit = true) ∨
      ¬ c.toNat < 128 ∧ ∃ r ∈ CharTable.decimal.toList, r.1 ≤ c.toNat ∧ c.toNat ≤ r.2 := by
  unfold isDecimal decimalValue? at h
  split at h
  · rename_i hc
    split at h
    · exact .inl ⟨hc, ‹_›⟩
    · simp at h
  · rename_i hc
    rw [Option.isSome_map] at h
    obtain ⟨r, hr⟩ := Option.isSome_iff_exists.mp h
    have hb := Array.find?_some hr
    have hm := Array.mem_of_find?_eq_some hr
    exact .inr ⟨hc, r, hm.val, by simpa using hb⟩

lemma not_isBlank_of_isDecimal {c : Char} (h : isDecimal c = true) : isBlank c = false := by
  rcases decimalRange_of_isDecimal h with ⟨hc, hd⟩ | ⟨hc, r, hr, hlo, hhi⟩
  · have hn : 48 ≤ c.toNat ∧ c.toNat ≤ 57 := by
      simp only [Char.isDigit, Bool.and_eq_true, decide_eq_true_eq, ge_iff_le] at hd
      exact hd
    have hs : c ≠ ' ' := fun he => by
      subst he
      exact absurd hn (by decide)
    simp only [isBlank, hc, if_true]
    simp [hs]
    omega
  · simp only [isBlank, if_neg hc, inRanges]
    rw [← Bool.not_eq_true, Array.any_eq_true']
    rintro ⟨b, hb, hin⟩
    have hapart := decimal_apart_from_blank r hr b hb.val
    simp only [Bool.and_eq_true, decide_eq_true_eq] at hin
    omega

/-- The digits of all scripts are word characters. -/
lemma decimal_within_word :
    ∀ r ∈ CharTable.decimal.toList, ∃ w ∈ CharTable.word.toList, w.1 ≤ r.1 ∧ r.2 ≤ w.2 := by decide +kernel

lemma isWord_of_isDecimal {c : Char} (h : isDecimal c = true) : isWord c = true := by
  rcases decimalRange_of_isDecimal h with ⟨-, hd⟩ | ⟨hc, r, hr, hlo, hhi⟩
  · exact (isWord_of_digit hd).1
  · obtain ⟨w, hw, hwlo, hwhi⟩ := decimal_within_word r hr
    have hin : inRanges CharTable.word c = true := by
      rw [inRanges, Array.any_eq_true']
      exact ⟨w, Array.mem_def.mpr hw, by simp only [Bool.and_eq_true, decide_eq_true_eq]; omega⟩
    simp [isWord, isAlnum, hc, hin]

lemma not_isNameStart_of_isDecimal {c : Char} (h : isDecimal c = true) : isNameStart c = false := by
  rcases decimalRange_of_isDecimal h with ⟨-, hd⟩ | ⟨hc, -⟩
  · exact (isWord_of_digit hd).2
  · rw [← Bool.not_eq_true]
    exact fun hstart => hc (toNat_lt_of_isNameStart hstart)

/-- The other digits lie apart from the blanks as well. -/
lemma otherDigit_apart_from_blank :
    (∀ r ∈ CharTable.otherDigit.toList, 128 ≤ r.1) ∧
      ∀ r ∈ CharTable.otherDigit.toList, ∀ b ∈ CharTable.blank.toList, r.2 < b.1 ∨ b.2 < r.1 := by decide

lemma isDigit_of_isDecimal {c : Char} (h : isDecimal c = true) : isDigit c = true := by
  rw [isDigit, h]
  rfl

lemma not_isBlank_of_isDigit {c : Char} (h : isDigit c = true) : isBlank c = false := by
  rcases Bool.or_eq_true_iff.mp h with hdecimal | hother
  · exact not_isBlank_of_isDecimal hdecimal
  · obtain ⟨r, hr, hin⟩ := Array.any_eq_true'.mp hother
    simp only [Bool.and_eq_true, decide_eq_true_eq] at hin
    have hlow := otherDigit_apart_from_blank.1 r hr.val
    rw [isBlank, if_neg (by omega), inRanges, ← Bool.not_eq_true, Array.any_eq_true']
    rintro ⟨b, hb, hblank⟩
    have hapart := otherDigit_apart_from_blank.2 r hr.val b hb.val
    simp only [Bool.and_eq_true, decide_eq_true_eq] at hblank
    omega

end Text

namespace Reading

variable {ds : List Char}

lemma digitValues_of_decimals (hne : ds ≠ []) (hds : ∀ c ∈ ds, Text.isDecimal c = true) :
    ∃ values, digitValues ds = some values ∧ values.length = ds.length := by
  fun_induction digitValues ds with
  | case1 => exact absurd rfl hne
  | case2 c =>
    obtain ⟨d, hd⟩ := Option.isSome_iff_exists.mp (hds c (by simp))
    exact ⟨[d], by rw [hd]; rfl, rfl⟩
  | case3 c rest ih => exact absurd (hds '_' (by simp)) (by decide)
  | case4 c rest hrest hunder ih =>
    obtain ⟨d, hd⟩ := Option.isSome_iff_exists.mp (hds c (by simp))
    have hrest : rest ≠ [] := by
      rintro rfl
      simp_all
    obtain ⟨values, hv, hl⟩ := ih hrest fun x hx => hds x (List.mem_cons_of_mem c hx)
    refine ⟨d :: values, ?_, by simp [hl]⟩
    rw [hd, hv]
    rfl

lemma digitRun_of_decimals (hds : ∀ c ∈ ds, Text.isDecimal c = true) : digitRun ds = (ds, []) := by
  have hpart : ∀ c ∈ ds, (c == '_' || Text.isDecimal c) = true := fun c hc => by simp [hds c hc]
  simp only [digitRun, List.takeWhile_eq_self_iff.mpr hpart, List.dropWhile_eq_nil_iff.mpr hpart]

lemma sign_of_digits (hds : ∀ c ∈ ds, Text.isDigit c = true) : sign ds = (false, ds) := by
  fun_cases sign ds with
  | case1 rest => exact absurd (hds '-' (by simp)) (by decide +kernel)
  | case2 rest => exact absurd (hds '+' (by simp)) (by decide +kernel)
  | case3 => rfl

lemma dropWhile_padding_of_digits (hds : ∀ c ∈ ds, Text.isDigit c = true) : ds.dropWhile isPadding = ds := by
  cases ds with
  | nil => rfl
  | cons c rest =>
    have hc := Text.not_isBlank_of_isDigit (hds c (by simp))
    simp [isPadding, hc]

lemma isDigit_of_decimals (hds : ∀ c ∈ ds, Text.isDecimal c = true) : ∀ c ∈ ds, Text.isDigit c = true :=
  fun c hc => Text.isDigit_of_isDecimal (hds c hc)

/-- After a sign or none, decimal digits are read exactly when there are not too many of them. -/
lemma whole_isOk_iff_of_sign {s : List Char} {negative : Bool} (hs : sign (s.dropWhile isPadding) = (negative, ds))
    (hne : ds ≠ []) (hds : ∀ c ∈ ds, Text.isDecimal c = true) : (∃ n, whole s = .ok n) ↔ ds.length ≤ maxDigits := by
  obtain ⟨values, hv, hl⟩ := digitValues_of_decimals hne hds
  simp only [whole, hs, digitRun_of_decimals hds, hv, hl]
  split
  · rename_i hlong
    simp only [reduceCtorEq, exists_false, false_iff]
    omega
  · rename_i hshort
    simp only [List.all_nil, Bool.not_true, Bool.false_eq_true, if_false, Except.ok.injEq, exists_eq', true_iff]
    omega

/-- Decimal digits are read as a whole number exactly when there are not too many of them. -/
theorem whole_isOk_iff_of_decimals (hne : ds ≠ []) (hds : ∀ c ∈ ds, Text.isDecimal c = true) :
    (∃ n, whole ds = .ok n) ↔ ds.length ≤ maxDigits := by
  have hall := isDigit_of_decimals hds
  have hsign : sign (ds.dropWhile isPadding) = (false, ds) := by
    rw [dropWhile_padding_of_digits hall, sign_of_digits hall]
  exact whole_isOk_iff_of_sign hsign hne hds

/-- The same with a minus sign in front of them. -/
lemma whole_neg_isOk_iff_of_decimals (hne : ds ≠ []) (hds : ∀ c ∈ ds, Text.isDecimal c = true) :
    (∃ n, whole ('-' :: ds) = .ok n) ↔ ds.length ≤ maxDigits :=
  whole_isOk_iff_of_sign rfl hne hds

/-- Digits of all kinds are read exactly when they are decimal ones and not too many. -/
theorem whole_isOk_iff_of_digits (hne : ds ≠ []) (hds : ∀ c ∈ ds, Text.isDigit c = true) :
    (∃ n, whole ds = .ok n) ↔ (∀ c ∈ ds, Text.isDecimal c = true) ∧ ds.length ≤ maxDigits := by
  by_cases hdecimal : ∀ c ∈ ds, Text.isDecimal c = true
  · rw [whole_isOk_iff_of_decimals hne hdecimal, and_iff_right hdecimal]
  · refine iff_of_false ?_ fun h => hdecimal h.1
    rintro ⟨n, hn⟩
    -- the run of decimal digits ends before one of the others, which is no padding
    have hrest : ((digitRun ds).2.all isPadding) = false := by
      obtain ⟨c, hc, hother⟩ := not_forall₂.mp hdecimal
      have hpart : ¬ ∀ x ∈ ds, (x == '_' || Text.isDecimal x) = true := by
        intro hall
        have hunder : c ≠ '_' := by
          rintro rfl
          exact absurd (hds '_' hc) (by decide +kernel)
        have hpart := hall c hc
        simp only [beq_iff_eq, Bool.or_eq_true, hunder, false_or] at hpart
        exact hother hpart
      obtain ⟨x, rest, hx⟩ := List.exists_cons_of_ne_nil (mt List.dropWhile_eq_nil_iff.mp hpart)
      have hmem : x ∈ ds := (List.dropWhile_sublist _).mem (hx ▸ List.mem_cons_self)
      have hblank := Text.not_isBlank_of_isDigit (hds x hmem)
      rw [digitRun, hx, List.all_cons, isPadding, hblank]
      rfl
    simp only [whole, dropWhile_padding_of_digits hds, sign_of_digits hds, hrest] at hn
    split at hn
    · cases hn
    · split at hn
      · cases hn
      · simp at hn

lemma decimalValue?_of_isDigit {c : Char} (h : c.isDigit = true) :
    Text.decimalValue? c = some (c.toNat - '0'.toNat) := by
  have hascii : c.toNat < 128 := by
    simp only [Char.isDigit, Bool.and_eq_true, decide_eq_true_eq] at h
    have hle : c.toNat ≤ 57 := h.2
    omega
  rw [Text.decimalValue?, if_pos hascii, if_pos h]

lemma digitValues_of_digits (hne : ds ≠ []) (hds : ∀ c ∈ ds, c.isDigit = true) :
    digitValues ds = some (ds.map fun c => c.toNat - '0'.toNat) := by
  fun_induction digitValues ds with
  | case1 => exact absurd rfl hne
  | case2 c => rw [decimalValue?_of_isDigit (hds c (by simp))]; rfl
  | case3 c rest ih => exact absurd (hds '_' (by simp)) (by decide)
  | case4 c rest hrest hunder ih =>
    have hrest : rest ≠ [] := by
      rintro rfl
      simp_all
    rw [decimalValue?_of_isDigit (hds c (by simp)), ih hrest fun x hx => hds x (List.mem_cons_of_mem c hx)]
    rfl

lemma isDecimal_of_isDigit {c : Char} (h : c.isDigit = true) : Text.isDecimal c = true := by
  rw [Text.isDecimal, decimalValue?_of_isDigit h]
  rfl

/-- Digits are read as the number that they write, unless there are too many of them. -/
theorem whole_eq_ok_iff_of_digits (hne : ds ≠ []) (hds : ∀ c ∈ ds, c.isDigit = true) (k : Int) :
    whole ds = .ok k ↔ ds.length ≤ maxDigits ∧ k = Nat.ofDigitChars 10 ds 0 := by
  have hdecimals : ∀ c ∈ ds, Text.isDecimal c = true := fun c hc => isDecimal_of_isDigit (hds c hc)
  have hvalue : ofDigits (ds.map fun c => c.toNat - '0'.toNat) = Nat.ofDigitChars 10 ds 0 := by
    simp only [ofDigits, List.foldl_map, Nat.ofDigitChars_eq_foldl, Nat.mul_comm 10]
  have hall := isDigit_of_decimals hdecimals
  simp only [whole, dropWhile_padding_of_digits hall, sign_of_digits hall, digitRun_of_decimals hdecimals,
    digitValues_of_digits hne hds, List.length_map, hvalue]
  split
  · rename_i hlong
    simp only [reduceCtorEq, false_iff, not_and]
    omega
  · rename_i hshort
    simp only [List.all_nil, Bool.not_true, Bool.false_eq_true, if_false, Except.ok.injEq]
    constructor
    · rintro rfl
      exact ⟨by omega, rfl⟩
    · rintro ⟨_, rfl⟩
      rfl

/-- A number is read back from its digits, unless there are too many of them. -/
theorem whole_toDigits_eq_ok_iff (n : ℕ) (k : Int) :
    whole (Nat.toDigits 10 n) = .ok k ↔ (Nat.toDigits 10 n).length ≤ maxDigits ∧ k = n := by
  have hdigits : ∀ c ∈ Nat.toDigits 10 n, c.isDigit = true := fun c hc =>
    Nat.isDigit_of_mem_toDigits (by decide) (by decide) hc
  rw [whole_eq_ok_iff_of_digits Nat.toDigits_ne_nil hdigits, Nat.ofDigitChars_ten_toDigits]

end Reading
end CodeAudit
