import CodeAudit.Numeric.Double

/-!
Decimal text of binary64 values: the fewest digits that read back, fixed places, and the reading of decimals.
-/

namespace CodeAudit.Decimal

/-- The decimal digits of a number, at least one. -/
def digits (n : Nat) : List Char :=
  Nat.toDigits 10 n

/-- The least `k` with `x < 10 ^ k`, for a positive `x`. -/
def magnitude (x : Rat) : Int :=
  let guess : Int := (((x.num.natAbs.log2 : Int) - x.den.log2) * 30103).fdiv 100000 - 1
  let above (k : Int) : Bool :=
    if 0 ≤ k then x < (Nat.pow 10 k.toNat : Nat) else x * (Nat.pow 10 (-k).toNat : Nat) < 1
  ([0, 1, 2, 3, 4].map (guess + ·)).find? above |>.getD (guess + 5)

/-- `m * 10 ^ e` as a rational. -/
def scale (m : Nat) (e : Int) : Rat :=
  if 0 ≤ e then (m * Nat.pow 10 e.toNat : Nat) else mkRat m (Nat.pow 10 (-e).toNat)

/-- The better of the two neighbours of `x` among the multiples of `10 ^ e`, if it reads back as `x`. -/
def neighbour? (x : Rat) (e : Int) : Option Nat :=
  let low : Nat := (x / scale 1 e).floor.toNat
  let readsBack (m : Nat) : Bool := Double.ofRat (scale m e) == .finite x
  let below := x - scale low e
  let above := scale (low + 1) e - x
  let first := if below < above || (below == above && low % 2 == 0) then low else low + 1
  let second := if first == low then low + 1 else low
  if readsBack first then some first
  else if readsBack second then some second
  else none

/-- The fewest digits `m` with an exponent `e` such that `m * 10 ^ e` reads back as the positive `x`. -/
def shortest (x : Rat) : Nat × Int :=
  let k := magnitude x
  let found := (List.range 17).findSome? fun (n : Nat) =>
    let e := k - (n + 1 : Int)
    (neighbour? x e).map fun m => (m, e)
  found.getD (0, 0)

/-- Digits without the zeros at their end, and how many zeros there were. -/
def trimZeros (ds : List Char) : List Char × Nat :=
  let zeros := ds.reverse.takeWhile (· == '0')
  ((ds.reverse.dropWhile (· == '0')).reverse, zeros.length)

/-- A magnitude in positional notation below ten to the sixteenth and from one ten-thousandth on, else with an
exponent of at least two digits. -/
def magnitudeText (x : Rat) : List Char :=
  if x = 0 then "0.0".toList
  else
    let (m, e) := shortest x
    let (ds, zeros) := trimZeros (digits m)
    let point : Int := (ds.length : Int) + zeros + e
    if -4 < point && point ≤ 16 then
      if point ≤ 0 then "0.".toList ++ List.replicate (-point).toNat '0' ++ ds
      else
        let whole := ds.take point.toNat
        let whole := whole ++ List.replicate (point.toNat - whole.length) '0'
        let fraction := ds.drop point.toNat
        whole ++ '.' :: (if fraction.isEmpty then ['0'] else fraction)
    else
      let exponent := point - 1
      let size := digits exponent.natAbs
      let size := if size.length < 2 then '0' :: size else size
      let fraction := ds.drop 1
      ds.take 1 ++ (if fraction.isEmpty then [] else '.' :: fraction) ++
        ['e', if exponent < 0 then '-' else '+'] ++ size

/-- The absolute value of a finite value. -/
def size (x : Double) : Rat :=
  if x.toRat < 0 then -x.toRat else x.toRat

private def signed (negative : Bool) (ds : List Char) : String :=
  String.ofList (if negative then '-' :: ds else ds)

/-- The text of a value, with the fewest digits that read back. -/
def text : Double → String
  | .nan => "nan"
  | .infinite negative => if negative then "-inf" else "inf"
  | x => signed x.isNegative (magnitudeText (size x))

/-- The text of a value is a name, or a magnitude after a sign if any. -/
theorem toList_text (x : Double) :
    (text x).toList ∈ ["nan".toList, "inf".toList, "-inf".toList] ∨
      ∃ front, (front = [] ∨ front = ['-']) ∧ (text x).toList = front ++ magnitudeText (size x) := by
  unfold text
  split
  · simp
  · split
    · simp
    · simp
  · rw [signed]
    split
    · exact .inr ⟨['-'], .inr rfl, String.toList_ofList⟩
    · exact .inr ⟨[], .inl rfl, String.toList_ofList⟩

/-- A rational magnitude with so many decimal places. -/
def fixedDigits (x : Rat) (places : Nat) : List Char :=
  let ds := digits (Nearest.scaled x places)
  let ds := List.replicate (places + 1 - ds.length) '0' ++ ds
  let whole := ds.take (ds.length - places)
  if places = 0 then whole else whole ++ '.' :: ds.drop (ds.length - places)

/-- The text of a value with so many decimal places, by the exact value. -/
def fixed (x : Double) (places : Nat) : String :=
  match x with
  | .nan => "nan"
  | .infinite negative => if negative then "-inf" else "inf"
  | x => signed x.isNegative (fixedDigits (size x) places)

/-- `m * 10 ^ e` rounded to binary64; the bounds on the exponent keep the exact power small. -/
def toDouble (negative : Bool) (m : Nat) (e : Int) : Double :=
  if m = 0 then Double.round negative 0
  else
    let top : Int := (digits m).length + e
    if 400 < top then .infinite negative
    else if top < -400 then Double.round negative 0
    else Double.round negative (if negative then -(scale m e) else scale m e)

end CodeAudit.Decimal
