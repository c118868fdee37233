import CodeAudit.Execution.Usage

/-!
The outcome of one run of a program.
-/

namespace CodeAudit

/-- An error that a run ended with. -/
structure ExecutionError where
  type : String
  message : String
  line : Option Int := none
  column : Option Int := none
deriving DecidableEq, Inhabited

namespace ExecutionError

def toJson (e : ExecutionError) : Json :=
  let orNull := Json.orNull fun (n : Int) => .number (.int n)
  .object [("type", e.type), ("message", e.message), ("lineNumber", orNull e.line),
    ("columnNumber", orNull e.column)]

end ExecutionError

/-- The outcome of one run. -/
structure ExecutionResult where
  success : Bool
  output : String := ""
  stderr : String := ""
  exitCode : Option Int := none
  timedOut : Bool := false
  errors : List ExecutionError := []
  usage : Usage := .zero
  securityFlags : List String := []
deriving Inhabited

namespace ExecutionResult

/-- The outcome of a run that did not come about. -/
def failed (type message : String) (securityFlags : List String) : ExecutionResult :=
  { success := false, errors := [{ type := type, message := message }], securityFlags := securityFlags }

def errorTypes (r : ExecutionResult) : List String :=
  r.errors.map ExecutionError.type

/-- The error types with which the sandbox reports on itself. -/
def ownErrorTypes : List String :=
  ["ValidationError", "ExecutionError"]

/-- Whether the code really ran, as far as the errors tell. -/
def isVerified (r : ExecutionResult) : Bool :=
  !r.errorTypes.any ownErrorTypes.contains

def toJson (r : ExecutionResult) : Except MeasureFault Json := do
  let usage ← r.usage.toJson
  .ok (.object [
    ("success", r.success),
    ("exitCode", Json.orNull (fun n => .number (.int n)) r.exitCode),
    ("timedOut", r.timedOut),
    ("output", r.output),
    ("stderr", r.stderr),
    ("errors", .array (r.errors.map ExecutionError.toJson)),
    ("resourceUsage", usage),
    ("securityFlags", Json.strings r.securityFlags)])

end ExecutionResult

end CodeAudit
