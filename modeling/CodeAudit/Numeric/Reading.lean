import CodeAudit.Numeric.Number
import CodeAudit.Text.Lines
import CodeAudit.Text.Quoted

/-!
Reading of numbers from settings and arguments: blanks around, a sign, single underscores between digits, and
the decimal digits of any script.
-/

namespace CodeAudit.Reading

/-- Why a text is no number. -/
inductive Fault where
  | notWhole (text : String)
  | tooLong (digits : Nat)
  | notNumber (text : String)
  | notBoolean (text : String)
  | tooLongToWrite
  /-- A fault with a wording of its own. -/
  | other (message : String)
deriving DecidableEq

/-- The most decimal digits of a whole number that is read or written. -/
def maxDigits : Nat := 4300

/-- How much of a text that is no whole number a message quotes. -/
def quoteLength : Nat := 200

def Fault.message : Fault → String
  | .notWhole t =>
    "invalid literal for int() with base 10: " ++
      String.ofList ((Text.quoted t.toList).take quoteLength)
  | .tooLong n =>
    s!"Exceeds the limit (4300 digits) for integer string conversion: value has {n} digits; " ++
      "use sys.set_int_max_str_digits() to increase the limit"
  | .notNumber t => "could not convert string to float: " ++ Text.quotedText t
  | .notBoolean t => "Not a boolean: " ++ t
  | .tooLongToWrite =>
    "Exceeds the limit (4300 digits) for integer string conversion; " ++
      "use sys.set_int_max_str_digits() to increase the limit"
  | .other message => message

/-- The values of digits with single underscores between them, at least one digit. -/
def digitValues : List Char → Option (List Nat)
  | [] => none
  | [c] => (Text.decimalValue? c).map fun d => [d]
  | c :: '_' :: rest => do
    let d ← Text.decimalValue? c
    let ds ← digitValues rest
    some (d :: ds)
  | c :: rest => do
    let d ← Text.decimalValue? c
    let ds ← digitValues rest
    some (d :: ds)

/-- The number that decimal digit values write. -/
def ofDigits (ds : List Nat) : Nat :=
  ds.foldl (fun n d => n * 10 + d) 0

/-- White space around a number; the four information separators are none. -/
def isPadding (c : Char) : Bool :=
  Text.isBlank c && !(28 ≤ c.toNat && c.toNat ≤ 31)

/-- A leading sign and the rest. -/
def sign : List Char → Bool × List Char
  | '-' :: rest => (true, rest)
  | '+' :: rest => (false, rest)
  | s => (false, s)

/-- A run of digits with underscores, and what follows it. -/
def digitRun (s : List Char) : List Char × List Char :=
  let isPart (c : Char) : Bool := c == '_' || Text.isDecimal c
  (s.takeWhile isPart, s.dropWhile isPart)

/-- The whole number that a text writes. Too many digits count before what stands after them. -/
def whole (s : List Char) : Except Fault Int :=
  let (negative, body) := sign (s.dropWhile isPadding)
  let (run, rest) := digitRun body
  match digitValues run with
  | none => .error (.notWhole (String.ofList s))
  | some ds =>
    if maxDigits < ds.length then .error (.tooLong ds.length)
    else if !rest.all isPadding then .error (.notWhole (String.ofList s))
    else .ok (if negative then -(ofDigits ds : Int) else ofDigits ds)

/-- The exponent after its letter. -/
def exponent (s : List Char) : Option Int :=
  let (negative, body) := sign s
  (digitValues body).map fun ds => if negative then -(ofDigits ds : Int) else ofDigits ds

/-- Digits, a point with more digits or either alone, and an exponent. -/
def decimal (negative : Bool) (s : List Char) : Option Double :=
  let (wholePart, rest) := digitRun s
  let (fraction, rest) := match rest with
    | '.' :: more => let (f, r) := digitRun more; (some f, r)
    | _ => (none, rest)
  let part (ds : List Char) : Option (List Nat) := if ds.isEmpty then some [] else digitValues ds
  do
    let w ← part wholePart
    let f ← part (fraction.getD [])
    if w.isEmpty && f.isEmpty then none
    else
      let e ← match rest with
        | [] => some 0
        | c :: more => if c == 'e' || c == 'E' then exponent more else none
      some (Decimal.toDouble negative (ofDigits (w ++ f)) (e - f.length))

/-- The names of values that have no digits, in any letter case. -/
def named (negative : Bool) (s : List Char) : Option Double :=
  match String.ofList (s.map Char.toLower) with
  | "inf" | "infinity" => some (.infinite negative)
  | "nan" => some .nan
  | _ => none

/-- The binary64 value that a text writes. -/
def double (s : List Char) : Except Fault Double :=
  let (negative, body) := sign (Text.trim isPadding s)
  match (decimal negative body).orElse fun _ => named negative body with
  | some x => .ok x
  | none => .error (.notNumber (String.ofList s))

/-- Truth values as settings write them. -/
def boolean (s : List Char) : Except Fault Bool :=
  match String.ofList (Text.lower s) with
  | "1" | "yes" | "true" | "on" => .ok true
  | "0" | "no" | "false" | "off" => .ok false
  | _ => .error (.notBoolean (String.ofList s))

end CodeAudit.Reading
