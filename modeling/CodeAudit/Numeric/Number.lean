import CodeAudit.Numeric.Decimal

/-!
Numbers that are either whole and unbounded or binary64, the two kinds keeping apart in arithmetic and in text.
-/

namespace CodeAudit

/-- A whole number or a binary64 value. -/
inductive Number where
  | int (n : Int)
  | double (x : Double)
deriving DecidableEq, Inhabited

/-- Why a whole number has no place in binary64 arithmetic. -/
inductive RangeFault where
  | tooLarge
  | quotientTooLarge
deriving DecidableEq

def RangeFault.message : RangeFault → String
  | tooLarge => "int too large to convert to float"
  | quotientTooLarge => "integer division result too large for a float"

namespace Number

instance : Coe Int Number := ⟨int⟩
instance : Coe Double Number := ⟨double⟩
instance (n : Nat) : OfNat Number n := ⟨.int n⟩
instance : OfScientific Number := ⟨fun m neg e => .double (OfScientific.ofScientific m neg e)⟩

/-- The value as binary64, a whole number being rounded. -/
def toDouble : Number → Double
  | .int n => Double.ofInt n
  | .double x => x

/-- The value as binary64, unless it is a whole number beyond the range. -/
def toDouble? (x : Number) : Except RangeFault Double :=
  match x, x.toDouble with
  | .int _, .infinite _ => .error .tooLarge
  | _, y => .ok y

/-- The order by exact value, none against a value that is no number. -/
def compare? : Number → Number → Option Ordering
  | .int a, .int b => some (compare a b)
  | .int a, .double y => Double.compare? (.finite a) y
  | .double x, .int b => Double.compare? x (.finite b)
  | .double x, .double y => Double.compare? x y

def lt (x y : Number) : Bool :=
  x.compare? y == some .lt

def le (x y : Number) : Bool :=
  match x.compare? y with
  | some .lt | some .eq => true
  | _ => false

/-- Equality by value: the zeros of either sign and kind are equal. -/
def same (x y : Number) : Bool :=
  x.compare? y == some .eq

/-- The sum, whole when both are whole. -/
def add : Number → Number → Number
  | .int a, .int b => .int (a + b)
  | x, y => .double (x.toDouble + y.toDouble)

/-- The quotient for a divisor other than zero, always binary64. -/
def div : Number → Number → Double
  | .int a, .int b => Double.round (decide (a < 0) != decide (b < 0)) (mkRat a b.natAbs * b.sign)
  | x, y => x.toDouble / y.toDouble

instance : Add Number := ⟨add⟩

/-- The sum, unless a whole number that meets a binary64 one is beyond the range. -/
def add? : Number → Number → Except RangeFault Number
  | .int a, .int b => .ok (.int (a + b))
  | x, y => do return .double ((← x.toDouble?) + (← y.toDouble?))

/-- The difference, unless a whole number that meets a binary64 one is beyond the range. -/
def sub? : Number → Number → Except RangeFault Number
  | .int a, .int b => .ok (.int (a - b))
  | x, y => do return .double ((← x.toDouble?) - (← y.toDouble?))

/-- The product, unless a whole number that meets a binary64 one is beyond the range. -/
def mul? : Number → Number → Except RangeFault Number
  | .int a, .int b => .ok (.int (a * b))
  | x, y => do return .double ((← x.toDouble?) * (← y.toDouble?))

/-- The quotient for a divisor other than zero, unless a whole number is beyond the range. -/
def div? : Number → Number → Except RangeFault Double
  | .int a, .int b =>
    match div a b with
    | .infinite _ => .error .quotientTooLarge
    | q => .ok q
  | x, y => do return (← x.toDouble?) / (← y.toDouble?)

def maxFirst (x y : Number) : Number :=
  if x.lt y then y else x

def minFirst (x y : Number) : Number :=
  if y.lt x then y else x

/-- The first greatest of a non-empty list. -/
def maximum? : List Number → Option Number
  | [] => none
  | x :: xs => some (xs.foldl maxFirst x)

/-- The sum from the left, starting from the whole zero. -/
def sum (xs : List Number) : Number :=
  xs.foldl add 0

/-- The sum from the left, unless a whole number in it is beyond the range. -/
def sum? (xs : List Number) : Except RangeFault Number :=
  xs.foldlM add? 0

def isZero (x : Number) : Bool :=
  x.same 0

/-- Rounding to decimal places; a whole number stays as it is. -/
def roundPlaces (x : Number) (places : Nat) : Number :=
  match x with
  | .int n => .int n
  | .double d => .double (d.roundPlaces places)

def text : Number → String
  | .int n => toString n
  | .double x => Decimal.text x

/-- The text with so many decimal places. -/
def fixed (x : Number) (places : Nat) : String :=
  Decimal.fixed x.toDouble places

/-- The text with so many decimal places, unless it is a whole number beyond the range. -/
def fixed? (x : Number) (places : Nat) : Except RangeFault String := do
  return Decimal.fixed (← x.toDouble?) places

/-- The value times one hundred, without decimal places, and a percent sign. -/
def percent? (x : Number) : Except RangeFault String := do
  return Decimal.fixed ((← x.toDouble?) * 100) 0 ++ "%"

end Number

private def groupThousands (ds : List Char) : List Char :=
  match ds with
  | a :: b :: c :: d :: rest => a :: b :: c :: ',' :: groupThousands (d :: rest)
  | few => few

/-- A whole number with a comma between groups of three digits. -/
def withThousands (n : Int) : String :=
  let ds := (groupThousands (Decimal.digits n.natAbs).reverse).reverse
  String.ofList (if n < 0 then '-' :: ds else ds)

end CodeAudit
