import CodeAudit.Numeric.Nearest

/-!
Binary64 values as exact rationals, with a negative zero, two infinities and a value that is no number: an
operation computes the exact result and rounds it once.
-/

namespace CodeAudit

/-- A binary64 value; a finite one is its exact rational, the positive zero being `finite 0`. -/
inductive Double where
  | finite (value : Rat)
  | negZero
  | infinite (negative : Bool)
  | nan
deriving DecidableEq, Inhabited

namespace Double

/-- The binary64 value nearest to `x`; a result of zero keeps the sign that `negative` gives. -/
def round (negative : Bool) (x : Rat) : Double :=
  let m := Nearest.magnitude x
  if m = 0 then if negative then .negZero else .finite 0
  else if (Nat.pow 2 1024 : Nat) ≤ m then .infinite (x < 0)
  else .finite (if x < 0 then -m else m)

/-- The binary64 value nearest to `x`. -/
def ofRat (x : Rat) : Double :=
  round (x < 0) x

def ofInt (n : Int) : Double :=
  ofRat n

instance (n : Nat) : OfNat Double n := ⟨.finite n⟩

/-- A decimal constant such as `0.75`, rounded to binary64. -/
instance : OfScientific Double where
  ofScientific m neg e := ofRat (OfScientific.ofScientific m neg e)

/-- The rational of a finite value. -/
def toRat? : Double → Option Rat
  | .finite x => some x
  | .negZero => some 0
  | _ => none

/-- The rational of a finite value, zero for the others. -/
def toRat (x : Double) : Rat :=
  x.toRat?.getD 0

def isNegative : Double → Bool
  | .finite x => x < 0
  | .negZero => true
  | .infinite negative => negative
  | .nan => false

def neg : Double → Double
  | .finite x => if x = 0 then .negZero else .finite (-x)
  | .negZero => .finite 0
  | .infinite negative => .infinite !negative
  | .nan => .nan

def add : Double → Double → Double
  | .nan, _ | _, .nan => .nan
  | .infinite a, .infinite b => if a = b then .infinite a else .nan
  | .infinite a, _ | _, .infinite a => .infinite a
  | .negZero, y => y
  | x, .negZero => x
  | .finite x, .finite y => ofRat (x + y)

def sub (x y : Double) : Double :=
  x.add y.neg

def mul (x y : Double) : Double :=
  let negative := x.isNegative != y.isNegative
  match x.toRat?, y.toRat? with
  | some a, some b => round negative (a * b)
  | some a, none => if y = .nan || a = 0 then .nan else .infinite negative
  | none, some b => if x = .nan || b = 0 then .nan else .infinite negative
  | none, none => if x = .nan || y = .nan then .nan else .infinite negative

/-- The quotient for a divisor other than zero. -/
def div (x y : Double) : Double :=
  let negative := x.isNegative != y.isNegative
  match x.toRat?, y.toRat? with
  | some a, some b => round negative (a / b)
  | some _, none => if y = .nan then .nan else round negative 0
  | none, some _ => if x = .nan then .nan else .infinite negative
  | none, none => .nan

instance : Neg Double := ⟨neg⟩
instance : Add Double := ⟨add⟩
instance : Sub Double := ⟨sub⟩
instance : Mul Double := ⟨mul⟩
instance : Div Double := ⟨div⟩

/-- The order of two values, none when one of them is no number; the zeros are equal. -/
def compare? : Double → Double → Option Ordering
  | .nan, _ | _, .nan => none
  | .infinite a, .infinite b => some (if a = b then .eq else if a then .lt else .gt)
  | .infinite a, _ => some (if a then .lt else .gt)
  | _, .infinite b => some (if b then .gt else .lt)
  | x, y => some (if x.toRat < y.toRat then .lt else if x.toRat = y.toRat then .eq else .gt)

def lt (x y : Double) : Bool :=
  x.compare? y == some .lt

def le (x y : Double) : Bool :=
  match x.compare? y with
  | some .lt | some .eq => true
  | _ => false

def beq (x y : Double) : Bool :=
  x.compare? y == some .eq

/-- The first of the two unless the second is greater. -/
def maxFirst (x y : Double) : Double :=
  if x.lt y then y else x

/-- The first of the two unless the second is smaller. -/
def minFirst (x y : Double) : Double :=
  if y.lt x then y else x

/-- Rounding to so many decimal places, by the exact value. -/
def roundPlaces (x : Double) (places : Nat) : Double :=
  match x.toRat? with
  | none => x
  | some r =>
    let digits := Nearest.scaled r places
    let rounded := mkRat (if r < 0 then -(digits : Int) else digits) (Nat.pow 10 places)
    round x.isNegative rounded

end Double

end CodeAudit
