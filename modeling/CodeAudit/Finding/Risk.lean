import CodeAudit.Finding.Ledger

/-!
The risk that findings add up to: a rate from zero to one, a level, and counts by severity.
-/

namespace CodeAudit

namespace Severity

/-- What a sure finding of a severity contributes to the rate. -/
def weight : Severity → Rat
  | low => 1 / 4
  | medium => 1 / 2
  | high => 3 / 4
  | critical => 1

end Severity

namespace Risk

/-- The least number of findings that a rate is spread over, so that one mild finding cannot make a high rate. -/
def leastSpread : Nat := 4

/-- What a sure critical finding lifts the rate to. -/
def criticalFloor : Rat := 3 / 4

/-- The greater of two numbers. -/
def larger (x y : Rat) : Rat :=
  if x < y then y else x

/-- The confidences of the critical findings. -/
def criticalConfidences (items : List (Severity × Rat)) : List Rat :=
  (items.filter (·.1 == .critical)).map (·.2)

/-- The weighted confidences spread over the findings, raised to the floor of the surest critical one, and at most
one. Every operation's result goes through `round`. -/
def rate (round : Rat → Rat) (items : List (Severity × Rat)) : Rat :=
  if items.isEmpty then 0
  else
    let weighted := items.foldl (fun sum item => round (sum + round (item.1.weight * item.2))) 0
    let spread := round (weighted / (max leastSpread items.length : Nat))
    let lifted := match criticalConfidences items with
      | [] => spread
      | c :: cs => larger spread (round (criticalFloor * cs.foldl larger c))
    if lifted < 1 then lifted else 1

/-- The binary64 value nearest to a small rational. -/
def toBinary (x : Rat) : Rat :=
  (Double.ofRat x).toRat

/-- Severity and exact confidence of findings. -/
def items (fs : List Finding) : List (Severity × Rat) :=
  fs.map fun f => (f.severity, f.confidence.toRat)

/-- The rate of some findings in binary64 arithmetic. -/
def rateOf (fs : List Finding) : Number :=
  .double (.finite (rate toBinary (items fs)))

/-- The level of findings of those severities at a rate; none without findings. -/
def level? (severities : List Severity) (rate : Number) : Option Severity :=
  match Severity.worst? severities with
  | none => none
  | some worst =>
    if worst = .critical || worst = .high then some worst
    else if Number.le 0.5 rate then some .high
    else if Number.le 0.25 rate then some .medium
    else some .low

/-- The name of a level. -/
def levelName (level : Option Severity) : String :=
  (level.map Severity.name).getD "none"

end Risk

/-- Counts of findings with the kind found most and the overall level. -/
structure Summary where
  total : Nat
  critical : Nat
  high : Nat
  medium : Nat
  low : Nat
  mostCommon : Option Kind
  overallRisk : String
deriving DecidableEq, Inhabited

namespace Summary

/-- The first kind in taxonomy order that is found most often. -/
def mostCommonKind (kinds : List Kind) : Option Kind :=
  if kinds.isEmpty then none
  else
    some (Kind.all.foldl (fun best k => if kinds.count best < kinds.count k then k else best) .mapping)

def ofFindings (fs : List Finding) (rate : Number) : Summary :=
  let severities := fs.map Finding.severity
  { total := fs.length
    critical := severities.count .critical
    high := severities.count .high
    medium := severities.count .medium
    low := severities.count .low
    mostCommon := mostCommonKind (fs.map Finding.kind)
    overallRisk := Risk.levelName (Risk.level? severities rate) }

def toJson (s : Summary) : Json :=
  .object [
    ("totalHallucinations", s.total),
    ("criticalCount", s.critical),
    ("highCount", s.high),
    ("mediumCount", s.medium),
    ("lowCount", s.low),
    ("mostCommonCategory", Json.orNull (fun k => .string k.name) s.mostCommon),
    ("overallRisk", s.overallRisk)]

end Summary

end CodeAudit
