import CodeAudit.Finding.Basic
import CodeAudit.Proofs.Numeric.Magnitude
import CodeAudit.Proofs.Numeric.Order
import Mathlib.Algebra.Order.Field.Basic

/-! Binary64 values from zero to one. Both bounds are values themselves, so that no rounding passes them: neither that
to the nearest value nor that to decimal places. -/
namespace CodeAudit

namespace Nearest

lemma quotient_le_of_le_mul {num den m : ℕ} (hden : 0 < den) (h : num ≤ m * den) : quotient num den ≤ m := by
  have hdiv : num / den ≤ m := Nat.div_le_of_le_mul (by rwa [Nat.mul_comm])
  have hsplit := Nat.div_add_mod num den
  unfold quotient
  dsimp only
  rcases hdiv.lt_or_eq with hlt | heq
  · split
    · exact hdiv
    · split
      · exact hlt
      · have := Nat.mod_lt (num / den) (show 0 < 2 by decide)
        omega
  · -- the bound is met exactly, and there is nothing left to round
    rw [heq, Nat.mul_comm] at hsplit
    rw [heq, if_pos (by omega)]

lemma binaryUnit_neg {num den : ℕ} (h : num ≤ den) : binaryUnit num den < 0 := by
  have hlog : num.log2 ≤ den.log2 := by
    rw [Nat.log2_eq_log_two, Nat.log2_eq_log_two]
    exact Nat.log_mono_right h
  unfold binaryUnit
  dsimp only
  refine max_lt ?_ (by decide)
  split <;> omega

lemma ofUnits_nonneg (m : ℕ) (e : ℤ) : 0 ≤ ofUnits m e := by
  unfold ofUnits
  split
  · exact Nat.cast_nonneg _
  · rw [Rat.mkRat_eq_div]
    exact div_nonneg (Nat.cast_nonneg m) (Nat.cast_nonneg _)

lemma natAbs_num_le_den {x : ℚ} (hx : 0 ≤ x) (h : x ≤ 1) : x.num.natAbs ≤ x.den := by
  have hnum := Rat.num_nonneg.mpr hx
  have hle := (Rat.le_iff x 1).mp h
  simp only [Rat.num_one, Rat.den_one] at hle
  omega

lemma magnitude_nonneg (x : ℚ) : 0 ≤ magnitude x := by
  unfold magnitude
  split
  · exact le_rfl
  · exact ofUnits_nonneg _ _

lemma magnitude_le_one {x : ℚ} (hx : 0 ≤ x) (h : x ≤ 1) : magnitude x ≤ 1 := by
  unfold magnitude
  split
  · exact zero_le_one
  · have hnum := natAbs_num_le_den hx h
    have hunit := binaryUnit_neg hnum
    dsimp only
    generalize binaryUnit x.num.natAbs x.den = e at hunit
    have hpos : 0 < Nat.pow 2 (-e).toNat := Nat.pow_pos (by decide)
    have hround : quotient (x.num.natAbs * Nat.pow 2 (-e).toNat) x.den ≤ Nat.pow 2 (-e).toNat :=
      quotient_le_of_le_mul x.den_pos (by rw [Nat.mul_comm]; exact Nat.mul_le_mul_left _ hnum)
    rw [ofUnits, units, if_neg (by omega), if_neg (by omega), Rat.mkRat_eq_div, div_le_one (by exact_mod_cast hpos)]
    exact_mod_cast hround

end Nearest

namespace Double

/-- A finite value from zero to one. -/
def InUnit (x : Double) : Prop :=
  ∃ q, x.toRat? = some q ∧ 0 ≤ q ∧ q ≤ 1

lemma inUnit_round {x : ℚ} (hx : 0 ≤ x) (h : x ≤ 1) (negative : Bool) : (round negative x).InUnit := by
  have hnonneg := Nearest.magnitude_nonneg x
  have hone := Nearest.magnitude_le_one hx h
  have hsmall : ¬ ((Nat.pow 2 1024 : ℕ) : ℚ) ≤ Nearest.magnitude x := by
    have hpow : ∀ n, 0 < n → 1 < Nat.pow 2 n := fun n hn => Nat.one_lt_two_pow hn.ne'
    exact not_le.mpr (hone.trans_lt (by exact_mod_cast hpow 1024 (by decide)))
  unfold round
  dsimp only
  rw [if_neg hsmall, if_neg (not_lt.mpr hx)]
  split
  · cases negative
    · exact ⟨0, rfl, le_rfl, zero_le_one⟩
    · exact ⟨0, rfl, le_rfl, zero_le_one⟩
  · exact ⟨_, rfl, hnonneg, hone⟩

lemma inUnit_ofRat {x : ℚ} (hx : 0 ≤ x) (h : x ≤ 1) : (ofRat x).InUnit :=
  inUnit_round hx h _

namespace InUnit

variable {x : Double}

lemma one_sub (h : x.InUnit) : (1 - x).InUnit := by
  obtain ⟨q, hq, hnonneg, hone⟩ := h
  cases x with
  | finite value =>
    obtain rfl := Option.some.inj hq
    by_cases hzero : value = 0
    · subst hzero
      exact ⟨1, rfl, zero_le_one, le_rfl⟩
    · have hsub : (1 : Double) - finite value = ofRat (1 + -value) := by
        change (finite 1).add (neg (finite value)) = _
        rw [neg, if_neg hzero]
        rfl
      rw [hsub]
      exact inUnit_ofRat (by linarith) (by linarith)
  | negZero => exact inUnit_ofRat (x := 1 + 0) (by norm_num) (by norm_num)
  | infinite negative => cases hq
  | nan => cases hq

lemma roundPlaces (h : x.InUnit) (places : ℕ) : (x.roundPlaces places).InUnit := by
  obtain ⟨q, hq, hnonneg, hone⟩ := h
  have hpos : 0 < Nat.pow 10 places := Nat.pow_pos (by decide)
  have hscaled : Nearest.scaled q places ≤ Nat.pow 10 places := by
    refine Nearest.quotient_le_of_le_mul q.den_pos ?_
    rw [Nat.mul_comm]
    exact Nat.mul_le_mul_left _ (Nearest.natAbs_num_le_den hnonneg hone)
  unfold Double.roundPlaces
  rw [hq]
  dsimp only
  rw [if_neg (not_lt.mpr hnonneg), Rat.mkRat_eq_div]
  refine inUnit_round (div_nonneg (by positivity) (Nat.cast_nonneg _)) ?_ _
  rw [div_le_one (by exact_mod_cast hpos)]
  exact_mod_cast hscaled

end InUnit

end Double

/-- A finite value from zero to one is a confidence. -/
lemma Confidence.exists_ofNumber? {x : Double} (h : x.InUnit) : ∃ c, ofNumber? (.double x) = some c := by
  obtain ⟨q, hq, hnonneg, hone⟩ := h
  have hzero : Number.le 0 (.double x) = true := (Number.le_iff_atMost (.int 0) (y := .double x) hq).mpr (by exact_mod_cast hnonneg)
  have hsmall : (Number.double x).le 1 = true := by
    refine (Number.le_iff_atMost (.double x) (y := .int 1) rfl).mpr ?_
    refine Double.AtMost.mono ((Double.le_iff_atMost x hq).mp ?_) (by exact_mod_cast hone)
    exact (Double.le_iff_of_toRat? hq hq).mpr le_rfl
  have hrange : (Number.le 0 (.double x) && (Number.double x).le 1) = true := by rw [hzero, hsmall]; rfl
  exact ⟨⟨.double x, hrange⟩, dif_pos hrange⟩

end CodeAudit
