import CodeAudit.Rule.Logic
import CodeAudit.Rule.Mapping
import CodeAudit.Rule.Naming
import CodeAudit.Rule.Resource

/-!
The catalog of all pattern rules.
-/

namespace CodeAudit.Rule

def catalogVersion : String := "1.0.0"

/-- All rules, kind by kind in taxonomy order. -/
def catalog : List Rule := [
  Mapping.mixedOperands, Mapping.invalidMethod, Mapping.hardcodedIndex, Mapping.uncheckedKey,
  Naming.undefinedName, Naming.improbableModule, Naming.noneAttribute,
  Resource.infiniteLoop, Resource.endlessRecursion, Resource.oversizedRange, Resource.largeLiteral,
  Resource.oversizedAllocation,
  Logic.alwaysFalse, Logic.contradiction, Logic.divisionByZero, Logic.repeatedLine,
  Logic.emptyFunction, Logic.unreachable, Logic.assertFalse]

/-- The rule with that id. -/
def ofId? (id : String) : Option Rule :=
  catalog.find? (·.id == id)

/-- The rules of one kind. -/
def ofKindName (kind : String) : List Rule :=
  catalog.filter (·.kind.name == kind)

end CodeAudit.Rule
