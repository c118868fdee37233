import CodeAudit.Numeric.Number
import Mathlib.Algebra.Order.Ring.Rat
import Mathlib.Tactic.Lemma

/-! The order of numbers by exact value: when a number bounds a finite one from below. -/
namespace CodeAudit

namespace Double

/-- Being a lower bound of a rational; a value that is no number bounds nothing. -/
def AtMost : Double → ℚ → Prop
  | .finite x, q => x ≤ q
  | .negZero, q => 0 ≤ q
  | .infinite negative, _ => negative = true
  | .nan, _ => False

lemma AtMost.mono {x : Double} {p q : ℚ} (h : x.AtMost p) (hpq : p ≤ q) : x.AtMost q := by
  cases x with
  | finite x => exact le_trans h hpq
  | negZero => exact le_trans h hpq
  | infinite negative => exact h
  | nan => exact h

/-- Comparing two finite values compares their rationals. -/
lemma compare?_of_toRat? {x y : Double} {p q : ℚ} (hx : x.toRat? = some p) (hy : y.toRat? = some q) :
    x.compare? y = some (if p < q then .lt else if p = q then .eq else .gt) := by
  cases x <;> cases y <;> cases hx <;> cases hy <;> rfl

lemma le_iff_of_toRat? {x y : Double} {p q : ℚ} (hx : x.toRat? = some p) (hy : y.toRat? = some q) :
    x.le y = true ↔ p ≤ q := by
  rw [le, compare?_of_toRat? hx hy]
  rcases lt_trichotomy p q with h | rfl | h
  · simp [h, h.le]
  · simp
  · simp [h.not_gt, h.ne', h.not_ge]

lemma le_iff_atMost (x : Double) {y : Double} {q : ℚ} (hy : y.toRat? = some q) : x.le y = true ↔ x.AtMost q := by
  cases x with
  | finite x => exact le_iff_of_toRat? rfl hy
  | negZero => exact le_iff_of_toRat? rfl hy
  | infinite negative => cases y <;> cases hy <;> cases negative <;> simp [le, compare?, AtMost]
  | nan => cases y <;> simp [le, compare?, AtMost]

end Double

namespace Number

/-- The exact value of a finite number, none for an infinity or a value that is no number. -/
def toRat? : Number → Option ℚ
  | .int n => some n
  | .double x => x.toRat?

/-- Being a lower bound of a rational. -/
def AtMost : Number → ℚ → Prop
  | .int n, q => n ≤ q
  | .double x, q => x.AtMost q

lemma AtMost.mono {x : Number} {p q : ℚ} (h : x.AtMost p) (hpq : p ≤ q) : x.AtMost q := by
  cases x with
  | int n => exact le_trans h hpq
  | double x => exact Double.AtMost.mono h hpq

/-- Whether a number is at most a finite one depends on the latter's exact value only. -/
lemma le_iff_atMost (x : Number) {y : Number} {q : ℚ} (hy : y.toRat? = some q) : x.le y = true ↔ x.AtMost q := by
  cases x with
  | int m =>
    cases y with
    | int n =>
      obtain rfl : (n : ℚ) = q := Option.some.inj hy
      have hcompare : compare? (.int m) (.int n) = some (compare m n) := rfl
      rw [le, hcompare, AtMost, Rat.intCast_le_intCast, ← compare_le_iff_le]
      cases compare m n <;> decide
    | double y => exact Double.le_iff_of_toRat? (x := .finite m) rfl hy
  | double x =>
    cases y with
    | int n => exact Double.le_iff_atMost x (y := .finite n) hy
    | double y => exact Double.le_iff_atMost x hy

end Number
end CodeAudit
