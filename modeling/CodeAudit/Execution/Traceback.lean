import CodeAudit.Execution.Result
import CodeAudit.Numeric.Reading
import CodeAudit.Regex.Search
import CodeAudit.Source.Layout
import CodeAudit.Source.Vocabulary

/-!
The error that a failed run's output tells of: the last exception with its line and column, or a guess by phrases.
-/

namespace CodeAudit.Traceback

open Regex
open Source (Line)

/-- A character in either case, with the four letters beyond ASCII that fold to one within. -/
def anyCase (c : Char) : Regex :=
  one fun d =>
    d.toLower == c.toLower ||
      (c.toLower == 'k' && d == '\u212a') || (c.toLower == 's' && d == '\u017f') ||
      (c.toLower == 'i' && (d == '\u0130' || d == '\u0131'))

/-- A fixed text in any letter case. -/
def phrase (s : String) : Regex :=
  s.toList.foldr (fun c r => anyCase c ++ r) empty

/-- What an output without an exception line suggests, in the order in which it is tried. -/
def suggestions : List (String × List Regex) := [
  ("MemoryError", [phrase "MemoryError", phrase "Cannot allocate memory",
    border ++ phrase "Killed" ++ border, phrase "out of memory"]),
  ("RecursionError", [phrase "maximum recursion depth exceeded"]),
  ("SyntaxError", [phrase "SyntaxError", phrase "invalid syntax"]),
  ("IndentationError", [phrase "IndentationError", phrase "unexpected indent"]),
  ("NameError", [phrase "name '" ++ many (· != '\'') ++ phrase "' is not defined"]),
  ("TypeError", [phrase "unsupported operand type",
    phrase "object is not " ++ anyOf [phrase "callable", phrase "subscriptable", phrase "iterable"]]),
  ("IndexError", [phrase "index out of range"]),
  ("AttributeError", [phrase "has no attribute '" ++ many (· != '\'') ++ "'"]),
  ("ModuleNotFoundError", [phrase "No module named"]),
  ("ZeroDivisionError", [phrase "division by zero"]),
  ("TimeoutError", [phrase "execution timed out", phrase "CPU time limit exceeded"])]

/-- A line that names a file and a line in it. -/
def frame : Regex :=
  blanks ++ "File \"" ++ group "file" (many1 (· != '"')) ++ "\", line " ++ group "line" (many1 Text.isDecimal)

/-- A dotted name, alone or with a message after a colon. -/
def exceptionLine : Regex :=
  group "type" (one Text.isNameStart ++ many isDotted) ++
    optional (":" ++ optional (one Text.isBlank) ++ group "message" (many notLineFeed)) ++ stop

def isMark (c : Char) : Bool :=
  c == '~' || c == '^'

/-- A line of marks under a line of code. -/
def caretLine : Regex :=
  blanks ++ many isMark ++ "^" ++ many isMark ++ blanks ++ stop

/-- The ends of names that exception classes usually have. -/
def exceptionEndings : List String :=
  ["Error", "Exception", "Exit", "Interrupt", "Warning", "Iteration"]

/-- The last component of a dotted name. -/
def shortName (name : List Char) : List Char :=
  Text.afterLast '.' name

def looksLikeException (name : List Char) : Bool :=
  let short := shortName name
  Source.Vocabulary.exceptions.contains (String.ofList short) ||
    exceptionEndings.any fun ending => Text.endsWith short ending.toList

/-- The last component of a path, slashes at its end and components of one point aside. -/
def fileName (path : List Char) : List Char :=
  (((Text.splitOn '/' path).filter fun part => !part.isEmpty && part != ['.']).getLast?).getD []

/-- The match of a line that ends a traceback. -/
def exception? (line : Line) : Option Found :=
  match line with
  | [] => none
  | c :: _ =>
    if Text.isBlank c then none
    else
      match exceptionLine.atStart? line with
      | some m => if looksLikeException (m.group "type") then some m else none
      | none => none

/-- The lines before the last exception, last one first, and that exception. -/
def lastException? : List Line → Option (List Line × Found)
  | [] => none
  | line :: earlier =>
    match exception? line with
    | some m => some (earlier, m)
    | none => lastException? earlier

/-- The last frame of a file among some lines, last one first: the line it names, and the lines after it. -/
def lastFrame? (target : Option (List Char)) (after : List Line) :
    List Line → Option (List Char × List Line)
  | [] => none
  | line :: earlier =>
    match frame.atStart? line with
    | some m =>
      if target.all (fileName (m.group "file") == ·) then some (m.group "line", after)
      else lastFrame? target (line :: after) earlier
    | none => lastFrame? target (line :: after) earlier

/-- The column that the first line of marks shows, given the lines after a frame and the line of the source. -/
def column? (source : Line) : List Line → Option Int
  | shown :: marks :: rest =>
    if caretLine.startsText marks then
      let position := (marks.takeWhile (!isMark ·)).length
      some (max 1 ((Source.indentOf source : Int) + position - Source.indentOf shown + 1))
    else column? source (marks :: rest)
  | _ => none

/-- The error that phrases in the output suggest, with its last line. -/
def suggested (stderr : List Char) : ExecutionError :=
  let last := ((Text.outputLines stderr).reverse.map Text.strip).find? (!·.isEmpty)
  let type := (suggestions.find? fun (_, phrases) => phrases.any fun r => r.occursIn stderr).map (·.1)
  { type := type.getD "ProcessError", message := String.ofList (last.getD []) }

/-- The error of a failed run, none when there is no output. Only frames of the file at `path` count, their lines
are moved back by `offset`, and the lines of the file place the column. -/
def error? (stderr : List Char) (path : Option String) (source : List Line) (offset : Int) :
    Except Reading.Fault (Option ExecutionError) := do
  if Text.isBlankText stderr then return none
  match lastException? (Text.outputLines stderr).reverse with
  | none => return some (suggested stderr)
  | some (earlier, m) =>
    let error : ExecutionError := {
      type := String.ofList (shortName (m.group "type"))
      message := String.ofList (Text.strip (m.group "message")) }
    let target := match path with
      | some p => if p.isEmpty then none else some (fileName p.toList)
      | none => none
    match lastFrame? target [] earlier with
    | none => return some error
    | some (digits, after) =>
      let number ← Reading.whole digits
      let quoted := if 0 < number then (source[number.toNat - 1]?).getD [] else []
      let line := number - offset
      if line < 1 then return some error
      else return some { error with line := some line, column := column? quoted after }

end CodeAudit.Traceback
