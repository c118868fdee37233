import CodeAudit.Execution.Result
import CodeAudit.Finding.Basic
import CodeAudit.Text.Lines

/-!
Where the errors of a run belong in the taxonomy.
-/

namespace CodeAudit

/-- A place in the taxonomy with a severity and a confidence. -/
structure Slot where
  subkind : Subkind
  severity : Severity
  confidence : Confidence

namespace Slot

/-- The places of exceptions by their short names. -/
def named : List (String × Slot) := [
  ("TypeError", ⟨.dataCompliance, .high, .of 0.9⟩),
  ("ValueError", ⟨.dataCompliance, .medium, .of 0.8⟩),
  ("IndexError", ⟨.structureAccess, .medium, .of 0.9⟩),
  ("KeyError", ⟨.structureAccess, .medium, .of 0.9⟩),
  ("NameError", ⟨.identity, .high, .of 0.95⟩),
  ("UnboundLocalError", ⟨.identity, .high, .of 0.95⟩),
  ("AttributeError", ⟨.identity, .medium, .of 0.85⟩),
  ("ImportError", ⟨.externalSource, .critical, .of 0.95⟩),
  ("ModuleNotFoundError", ⟨.externalSource, .critical, .of 0.95⟩),
  ("MemoryError", ⟨.physicalConstraint, .critical, .of 0.9⟩),
  ("RecursionError", ⟨.physicalConstraint, .high, .of 0.9⟩),
  ("OverflowError", ⟨.computationalBoundary, .medium, .of 0.8⟩),
  ("TimeoutError", ⟨.computationalBoundary, .critical, .of 0.9⟩),
  ("ZeroDivisionError", ⟨.logicDeviation, .high, .of 0.9⟩),
  ("AssertionError", ⟨.logicDeviation, .high, .of 0.85⟩),
  ("SyntaxError", ⟨.logicBreakdown, .critical, .of 0.95⟩),
  ("IndentationError", ⟨.logicBreakdown, .critical, .of 0.95⟩),
  ("TabError", ⟨.logicBreakdown, .critical, .of 0.95⟩)]

/-- The place of every other exception. -/
def uncaught : Slot := ⟨.logicBreakdown, .high, .of 0.8⟩

/-- The place of an exception, which may be named with its module. -/
def ofError (type : String) : Slot :=
  let short := String.ofList (Text.afterLast '.' type.toList)
  ((named.find? (·.1 == short)).map (·.2)).getD uncaught

end Slot

end CodeAudit
