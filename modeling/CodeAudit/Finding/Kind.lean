/-!
The closed taxonomy of findings: four kinds with two subkinds each, four severities and three detection methods.
-/

namespace CodeAudit

/-- What a finding is about. -/
inductive Kind where
  | mapping
  | naming
  | resource
  | logic
deriving DecidableEq, Inhabited

namespace Kind

/-- The kinds in taxonomy order. -/
def all : List Kind := [mapping, naming, resource, logic]

def name : Kind → String
  | mapping => "mapping"
  | naming => "naming"
  | resource => "resource"
  | logic => "logic"

def ofName? (s : String) : Option Kind :=
  all.find? (·.name == s)

end Kind

/-- The part of a kind that a finding belongs to. -/
inductive Subkind where
  | dataCompliance
  | structureAccess
  | identity
  | externalSource
  | physicalConstraint
  | computationalBoundary
  | logicDeviation
  | logicBreakdown
deriving DecidableEq, Inhabited

namespace Subkind

def kind : Subkind → Kind
  | dataCompliance | structureAccess => .mapping
  | identity | externalSource => .naming
  | physicalConstraint | computationalBoundary => .resource
  | logicDeviation | logicBreakdown => .logic

def name : Subkind → String
  | dataCompliance => "data_compliance"
  | structureAccess => "structure_access"
  | identity => "identity"
  | externalSource => "external_source"
  | physicalConstraint => "physical_constraint"
  | computationalBoundary => "computational_boundary"
  | logicDeviation => "logic_deviation"
  | logicBreakdown => "logic_breakdown"

end Subkind

/-- The subkinds of a kind in taxonomy order. -/
def Kind.subkinds : Kind → List Subkind
  | .mapping => [.dataCompliance, .structureAccess]
  | .naming => [.identity, .externalSource]
  | .resource => [.physicalConstraint, .computationalBoundary]
  | .logic => [.logicDeviation, .logicBreakdown]

theorem Kind.mem_subkinds {k : Kind} {s : Subkind} : s ∈ k.subkinds ↔ s.kind = k := by
  cases k <;> cases s <;> simp [Kind.subkinds, Subkind.kind]

/-- How bad a finding is. -/
inductive Severity where
  | low
  | medium
  | high
  | critical
deriving DecidableEq, Inhabited

namespace Severity

/-- The severities from the mildest on. -/
def all : List Severity := [low, medium, high, critical]

def name : Severity → String
  | low => "low"
  | medium => "medium"
  | high => "high"
  | critical => "critical"

def ofName? (s : String) : Option Severity :=
  all.find? (·.name == s)

/-- The rank of a severity, higher being worse. -/
def rank : Severity → Nat
  | low => 1
  | medium => 2
  | high => 3
  | critical => 4

/-- The rank of a severity's name, zero for a name that is none. -/
def rankOfName (s : String) : Nat :=
  ((ofName? s).map rank).getD 0

/-- The last of the worst ones. -/
def worstBy? {α : Type} (rank : α → Nat) : List α → Option α
  | [] => none
  | a :: rest => some (rest.foldl (fun worst b => if rank worst ≤ rank b then b else worst) a)

/-- The worst severity of a list. -/
def worst? (severities : List Severity) : Option Severity :=
  worstBy? rank severities

end Severity

/-- How a finding was made. -/
inductive Method where
  | pattern
  | static
  | execution
deriving DecidableEq, Inhabited

namespace Method

def all : List Method := [pattern, static, execution]

def name : Method → String
  | pattern => "pattern"
  | static => "static"
  | execution => "execution"

def ofName? (s : String) : Option Method :=
  all.find? (·.name == s)

end Method

end CodeAudit
