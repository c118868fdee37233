/-!
Rounding of exact quotients: to the nearest whole number, and to the nearest binary64 value, a tie going to
the even neighbour.
-/

namespace CodeAudit.Nearest

/-- The whole number nearest to `num / den`; a half goes to the even neighbour. -/
def quotient (num den : Nat) : Nat :=
  let q := num / den
  let r := num % den
  if 2 * r < den then q
  else if den < 2 * r then q + 1
  else q + q % 2

/-- The whole number nearest to `|x| * 10 ^ places`. -/
def scaled (x : Rat) (places : Nat) : Nat :=
  quotient (x.num.natAbs * Nat.pow 10 places) x.den

/-- The power of two whose multiples are the binary64 values around `num / den`, `num` positive. -/
def binaryUnit (num den : Nat) : Int :=
  let e : Int := (num.log2 : Int) - den.log2 - 53
  let fits : Bool :=
    if 0 ≤ e then Nat.pow 2 (53 + e.toNat) * den ≤ num
    else Nat.pow 2 53 * den ≤ num * Nat.pow 2 (-e).toNat
  max (if fits then e + 1 else e) (-1074)

/-- How many units of `2 ^ e` are nearest to `num / den`. -/
def units (num den : Nat) (e : Int) : Nat :=
  if 0 ≤ e then quotient num (den * Nat.pow 2 e.toNat)
  else quotient (num * Nat.pow 2 (-e).toNat) den

/-- The value of `m` units of `2 ^ e`. -/
def ofUnits (m : Nat) (e : Int) : Rat :=
  if 0 ≤ e then (m * Nat.pow 2 e.toNat : Nat) else mkRat m (Nat.pow 2 (-e).toNat)

/-- The binary64 value nearest to `|x|`, before the bound on its size. -/
def magnitude (x : Rat) : Rat :=
  if x.num = 0 then 0
  else
    let e := binaryUnit x.num.natAbs x.den
    ofUnits (units x.num.natAbs x.den e) e

end CodeAudit.Nearest
