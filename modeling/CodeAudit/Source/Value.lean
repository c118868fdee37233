import CodeAudit.Regex.Search
import CodeAudit.Text.Lines

/-!
The kind of value that the right-hand side of an assignment writes down.
-/

namespace CodeAudit.Source

/-- The kind of a written value. -/
inductive ValueKind where
  | number
  | string
  | none
  | dict
  | list
  | other
deriving DecidableEq, Inhabited

namespace ValueKind

def name : ValueKind → String
  | number => "number"
  | string => "string"
  | none => "none"
  | dict => "dict"
  | list => "list"
  | other => "other"

/-- Digits after a first one, with underscores. -/
def isDigitPart (c : Char) : Bool :=
  Text.isDecimal c || c == '_'

/-- Digits and underscores after a digit. -/
def digits : Regex :=
  .one Text.isDecimal ++ .many isDigitPart

/-- A point with decimal digits after it, if there is one. -/
def fraction : Regex :=
  .optional ("." ++ .many1 Text.isDecimal)

/-- A number with an optional sign, fraction and exponent. -/
def numberLiteral : Regex :=
  .optional "-" ++ digits ++ fraction ++
    .optional (.one (fun c => c == 'e' || c == 'E') ++
      .optional (.one fun c => c == '+' || c == '-') ++ .many1 Text.isDecimal) ++
    .stop

/-- Whether a text is one string literal: it starts and ends with a quote and has two or six of them. -/
def isOneString (s : List Char) : Bool :=
  match s with
  | [] => false
  | q :: _ =>
    (q == '\'' || q == '"') && s.getLast? == some q && (s.count q == 2 || s.count q == 6)

/-- The kind of a masked right-hand side. -/
def ofText (text : List Char) : ValueKind :=
  let s := Text.strip text
  if numberLiteral.startsText s then .number
  else if isOneString s then .string
  else if s == "None".toList then .none
  else if Text.startsWith s "\x7b".toList || Text.startsWith s "dict(".toList then .dict
  else if Text.startsWith s "[".toList || Text.startsWith s "list(".toList then .list
  else .other

end ValueKind

end CodeAudit.Source
