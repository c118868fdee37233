import CodeAudit.Finding.Basic
import CodeAudit.Numeric.Reading
import CodeAudit.Source.Basic

/-!
Pattern rules: an expression finds candidates on a masked line, and the code around a candidate gives the evidence,
or none when there is no problem after all.
-/

namespace CodeAudit

/-- A rule that looks for one problem. -/
structure Rule where
  id : String
  name : String
  subkind : Subkind
  severity : Severity
  confidence : Confidence
  expression : Regex
  /-- The evidence for a candidate on a line; a fault is a number that cannot be read or written. -/
  evidence : Regex.Found → Source → Nat → Except Reading.Fault (List String)
  suggestedFix : String
  description : String
  /-- Whether a match reaches to the end of the block that its line opens. -/
  spansBlock : Bool := false
deriving Inhabited

namespace Rule

def kind (r : Rule) : Kind :=
  r.subkind.kind

/-- The text of the program that a match on the mask covers. -/
def rawText (m : Regex.Found) (src : Source) (index : Nat) : List Char :=
  ((src.line index).take m.stop).drop m.start

/-- The stripped text that a match covers, for messages. -/
def rawLabel (m : Regex.Found) (src : Source) (index : Nat) : String :=
  String.ofList (Text.strip (rawText m src index))

/-- A group's text for messages. -/
def label (m : Regex.Found) (group : String) : String :=
  String.ofList (m.group group)

/-- The pieces between the commas outside brackets. -/
def topLevelPieces (depth : Int) (piece : List Char) : List Char → List (List Char)
  | [] => [piece.reverse]
  | c :: rest =>
    let depth :=
      if Source.isOpening c then depth + 1 else if Source.isClosing c then depth - 1 else depth
    if c == ',' && depth == 0 then piece.reverse :: topLevelPieces depth [] rest
    else topLevelPieces depth (c :: piece) rest

/-- Whether a text is not empty and has digits only, superscripts included. -/
def isAllDigits (s : List Char) : Bool :=
  !s.isEmpty && s.all Text.isDigit

open Regex in
/-- A power of two literals. -/
def power : Regex :=
  group "base" (many1 Text.isDecimal) ++ blanks ++ "**" ++ blanks ++ group "exponent" (many1 Text.isDecimal)

/-- The greatest exponent that is worked out. -/
def maxExponent : Int := 64

/-- The value of a literal, of a small power or of a product of literals. -/
def literalValue (text : List Char) : Except Reading.Fault (Option Int) := do
  let s := (Text.strip text).filter (· != '_')
  if isAllDigits s then
    return some (← Reading.whole s)
  let fromPower ← match power.matchesAll? s with
    | some m => do
      let exponent ← Reading.whole (m.group "exponent")
      if exponent ≤ maxExponent then
        pure (some (Int.pow (← Reading.whole (m.group "base")) exponent.toNat))
      else pure none
    | none => pure none
  match fromPower with
  | some n => return some n
  | none =>
    let factors := (Text.splitOn '*' s).map Text.strip
    if 1 < factors.length && factors.all isAllDigits then
      let values ← factors.mapM Reading.whole
      return some (values.foldl (· * ·) 1)
    else return none

/-- A whole number with commas, unless it has too many digits to be written. -/
def writeThousands (n : Int) : Except Reading.Fault String :=
  if Nat.pow 10 Reading.maxDigits ≤ n.natAbs then .error .tooLongToWrite else .ok (withThousands n)

end Rule

end CodeAudit
