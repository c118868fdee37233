import CodeAudit.Finding.Kind
import CodeAudit.Json.Basic

/-!
Estimates of what a finding costs, a default one for each kind.
-/

namespace CodeAudit

/-- The estimated cost of a finding or of a whole analysis. -/
structure Impact where
  /-- Hours of work lost. -/
  hours : Number
  /-- Cost relative to a baseline of one. -/
  multiplier : Number
  /-- Loss of quality, from 0 to 100. -/
  quality : Number
  /-- Dollars, when they were worked out. -/
  cost : Option Number
deriving DecidableEq, Inhabited

namespace Impact

/-- An impact, unless the loss of quality is out of its range; then that number. -/
def make (hours multiplier quality : Number) (cost : Option Number) : Except Number Impact :=
  if Number.le 0 quality && quality.le 100 then .ok ⟨hours, multiplier, quality, cost⟩
  else .error quality

def none : Impact := ⟨0.0, 1.0, 0, some 0.0⟩

/-- The impact of a finding that brings no estimate of its own. -/
def ofKind : Kind → Impact
  | .mapping => ⟨2.5, 1.3, 25, some 125⟩
  | .naming => ⟨1.8, 1.2, 20, some 90⟩
  | .resource => ⟨4.0, 1.8, 40, some 200⟩
  | .logic => ⟨3.2, 1.5, 35, some 160⟩

/-- Dollars for an hour of work. -/
def hourlyRate : Number := 100.0

/-- One estimate for several findings: the hours add up, multiplier and quality are the worst, and the dollars
follow from the totals. It fails when a whole number in it is beyond the range. -/
def total? : List Impact → Except RangeFault Impact
  | [] => .ok none
  | first :: rest => do
    let hours ← Number.sum? ((first :: rest).map hours)
    let worst (f : Impact → Number) : Number := (rest.map f).foldl Number.maxFirst (f first)
    let multiplier := worst multiplier
    let cost ← (← hours.mul? hourlyRate).mul? multiplier
    return {
      hours := hours
      multiplier := multiplier
      quality := Number.minFirst 100 (worst quality)
      cost := some cost }

/-- One estimate for several findings; there is none where it cannot be worked out. -/
def total (impacts : List Impact) : Impact :=
  match total? impacts with
  | .ok impact => impact
  | .error _ => none

def toJson (i : Impact) : Json :=
  .object [
    ("estimatedDevTimeWastedHours", i.hours.roundPlaces 3),
    ("costMultiplier", i.multiplier),
    ("qualityImpact", i.quality),
    ("estimatedCostUSD", Json.orNull (fun c => .number (c.roundPlaces 2)) i.cost)]

end Impact

end CodeAudit
