import CodeAudit.Numeric.Number
import Mathlib.Algebra.Order.Ring.Rat
import Mathlib.Data.Nat.Log
import Mathlib.Tactic.Lemma
import Mathlib.Tactic.Linarith
import Mathlib.Tactic.NormNum

/-! Whole numbers of a machine have values in binary64, and so have their quotients: what they are rounded to is far
below the first power of two that is out of range. -/
namespace CodeAudit

namespace Nearest

lemma quotient_le (num den : ℕ) : quotient num den ≤ num / den + 1 := by
  unfold quotient
  dsimp only
  split
  · omega
  · split
    · exact le_rfl
    · have := Nat.mod_lt (num / den) (show 0 < 2 by decide)
      omega

lemma binaryUnit_le {num den : ℕ} (h : num < 2 ^ 64) : binaryUnit num den ≤ 11 := by
  have hlog : num.log2 ≤ 63 := by
    by_cases hzero : num = 0
    · simp [hzero]
    · exact Nat.lt_succ_iff.mp ((Nat.log2_lt hzero).mpr h)
  unfold binaryUnit
  dsimp only
  refine max_le ?_ (by decide)
  split <;> omega

/-- Rounding up takes one more unit, and a unit is small where the numerator is. -/
lemma ofUnits_units_le {num den : ℕ} {e : ℤ} (h : num < 2 ^ 64) (he : e ≤ 11) :
    ofUnits (units num den e) e ≤ 2 ^ 65 := by
  unfold ofUnits units
  split
  · rename_i hnonneg
    have hpow : Nat.pow 2 e.toNat ≤ 2 ^ 11 := Nat.pow_le_pow_right (by decide) (by omega)
    have hround := quotient_le num (den * Nat.pow 2 e.toNat)
    have hunits : num / (den * Nat.pow 2 e.toNat) * Nat.pow 2 e.toNat ≤ num := by
      rw [← Nat.div_div_eq_div_mul]
      exact (Nat.div_mul_le_self _ _).trans (Nat.div_le_self _ _)
    have hbound : quotient num (den * Nat.pow 2 e.toNat) * Nat.pow 2 e.toNat ≤ 2 ^ 65 := by
      calc quotient num (den * Nat.pow 2 e.toNat) * Nat.pow 2 e.toNat
          ≤ (num / (den * Nat.pow 2 e.toNat) + 1) * Nat.pow 2 e.toNat := Nat.mul_le_mul_right _ hround
        _ = num / (den * Nat.pow 2 e.toNat) * Nat.pow 2 e.toNat + Nat.pow 2 e.toNat := by rw [Nat.add_mul, Nat.one_mul]
        _ ≤ 2 ^ 65 := by omega
    exact_mod_cast hbound
  · have hpos : 0 < Nat.pow 2 (-e).toNat := Nat.pow_pos (by decide)
    have hround := quotient_le (num * Nat.pow 2 (-e).toNat) den
    have hbound : quotient (num * Nat.pow 2 (-e).toNat) den ≤ 2 ^ 65 * Nat.pow 2 (-e).toNat := by
      have hdiv : num * Nat.pow 2 (-e).toNat / den ≤ num * Nat.pow 2 (-e).toNat := Nat.div_le_self _ _
      nlinarith
    rw [Rat.mkRat_eq_div, div_le_iff₀ (by exact_mod_cast hpos)]
    exact_mod_cast hbound

lemma magnitude_le {x : ℚ} (h : x.num.natAbs < 2 ^ 64) : magnitude x ≤ 2 ^ 65 := by
  unfold magnitude
  split
  · norm_num
  · exact ofUnits_units_le h (binaryUnit_le h)

end Nearest

namespace Double

lemma round_ne_infinite {negative other : Bool} {x : ℚ} (h : x.num.natAbs < 2 ^ 64) :
    round negative x ≠ .infinite other := by
  have hsmall : ¬ ((Nat.pow 2 1024 : ℕ) : ℚ) ≤ Nearest.magnitude x := by
    have hpow : ∀ n, 65 < n → Nat.pow 2 65 < Nat.pow 2 n := fun n hn => Nat.pow_lt_pow_right Nat.one_lt_two hn
    have hbound : Nearest.magnitude x ≤ (Nat.pow 2 65 : ℕ) := (Nearest.magnitude_le h).trans_eq (by norm_num)
    exact not_le.mpr (hbound.trans_lt (Nat.cast_lt.mpr (hpow 1024 (by decide))))
  unfold round
  dsimp only
  rw [if_neg hsmall]
  split
  · split <;> simp
  · simp

end Double

namespace Number

/-- A number as a machine holds it: a whole one of 64 bits, or a binary64 value. -/
def OfMachine : Number → Prop
  | .int n => -2 ^ 63 ≤ n ∧ n < 2 ^ 63
  | .double _ => True

instance : DecidablePred OfMachine
  | .int n => inferInstanceAs (Decidable (-2 ^ 63 ≤ n ∧ n < 2 ^ 63))
  | .double _ => inferInstanceAs (Decidable True)

lemma OfMachine.natAbs_lt {n : ℤ} (h : (int n).OfMachine) : n.natAbs < 2 ^ 64 := by
  obtain ⟨hlow, hhigh⟩ := h
  omega

lemma exists_toDouble? {x : Number} (h : x.OfMachine) : ∃ y, x.toDouble? = .ok y := by
  cases x with
  | double y => exact ⟨y, rfl⟩
  | int n =>
    have hfinite : ∀ negative, Double.ofInt n ≠ .infinite negative := fun _ => Double.round_ne_infinite h.natAbs_lt
    refine ⟨Double.ofInt n, ?_⟩
    simp only [toDouble?, toDouble]
    split
    · rename_i negative _ hinfinite
      exact absurd hinfinite (hfinite negative)
    · rfl

lemma exists_sub? {x y : Number} (hx : x.OfMachine) (hy : y.OfMachine) : ∃ z, x.sub? y = .ok z := by
  obtain ⟨a, ha⟩ := exists_toDouble? hx
  obtain ⟨b, hb⟩ := exists_toDouble? hy
  unfold sub?
  split
  · exact ⟨_, rfl⟩
  · rw [ha, hb]
    exact ⟨_, rfl⟩

/-- A small whole factor never fails. -/
lemma exists_mul? (x : Number) {n : ℤ} (hn : (int n).OfMachine) : ∃ z, x.mul? (.int n) = .ok z := by
  obtain ⟨b, hb⟩ := exists_toDouble? hn
  cases x with
  | int a => exact ⟨_, rfl⟩
  | double a =>
    unfold mul?
    dsimp only
    rw [hb]
    exact ⟨_, rfl⟩

lemma exists_div? {x : Number} {n : ℤ} (hx : x.OfMachine) (hn : (int n).OfMachine) (hpos : 0 < n) :
    ∃ z, x.div? (.int n) = .ok z := by
  cases x with
  | double a =>
    obtain ⟨b, hb⟩ := exists_toDouble? hn
    unfold div?
    dsimp only
    rw [hb]
    exact ⟨_, rfl⟩
  | int a =>
    have hsmall : (mkRat a n.natAbs * n.sign).num.natAbs < 2 ^ 64 := by
      rw [Int.sign_eq_one_of_pos hpos, Int.cast_one, mul_one, Rat.mkRat_eq_divInt]
      by_cases hzero : a = 0
      · simp [hzero]
      · have hdvd := Rat.num_dvd a (b := n.natAbs) (by omega)
        exact (Int.natAbs_le_of_dvd_ne_zero hdvd hzero).trans_lt hx.natAbs_lt
    unfold div? div
    dsimp only
    split
    · rename_i hinfinite
      exact absurd hinfinite (Double.round_ne_infinite hsmall)
    · exact ⟨_, rfl⟩

end Number
end CodeAudit
