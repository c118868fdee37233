/-!
Log records, with the part of the program that wrote them.
-/

namespace CodeAudit

inductive LogLevel where
  | debug
  | info
  | warning
  | error
  | critical
deriving DecidableEq, Inhabited

namespace LogLevel

def name : LogLevel → String
  | debug => "DEBUG"
  | info => "INFO"
  | warning => "WARNING"
  | error => "ERROR"
  | critical => "CRITICAL"

/-- The number by which levels are compared. -/
def value : LogLevel → Nat
  | debug => 10
  | info => 20
  | warning => 30
  | error => 40
  | critical => 50

def ofName? (s : String) : Option LogLevel :=
  [debug, info, warning, error, critical].find? (·.name == s)

end LogLevel

/-- One record of the log. -/
structure LogRecord where
  level : LogLevel
  /-- The name of the logger. -/
  logger : String
  message : String
deriving DecidableEq, Inhabited

def LogRecord.text (r : LogRecord) : String :=
  s!"{r.level.name} {r.logger}: {r.message}"

end CodeAudit
