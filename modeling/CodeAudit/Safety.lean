import CodeAudit.Json.Basic
import CodeAudit.Source.Basic

/-!
The safety gate: which constructs of a program are dangerous, and whether it may run.
-/

namespace CodeAudit.Safety

open Regex
open Source (Line)

inductive Level where
  | low
  | medium
  | high
deriving DecidableEq, Inhabited

namespace Level

def name : Level → String
  | low => "low"
  | medium => "medium"
  | high => "high"

/-- Confidence lost for one danger of a level. -/
def penalty : Level → Double
  | high => 0.3
  | medium => 0.25
  | low => 0.05

end Level

/-- A dangerous construct on a line, counted from one; zero stands for the whole text. -/
structure Danger where
  level : Level
  risk : String
  line : Nat
deriving DecidableEq, Inhabited

/-- An expression that finds a danger on a line. -/
structure Pattern where
  expression : Regex
  risk : String
  level : Level
  /-- The group that names the module or the function, where one takes part. -/
  details : List String
  isImport : Bool

/-- Modules that reach processes or the operating system. -/
def systemModules : List String :=
  ["os", "subprocess", "sys", "shutil", "signal", "ctypes", "multiprocessing", "pty", "importlib",
    "resource"]

/-- Modules that reach the network. -/
def networkModules : List String :=
  ["socket", "urllib", "requests", "http", "httpx", "aiohttp", "ftplib", "smtplib", "telnetlib",
    "paramiko", "ssl"]

/-- The first module of an import when it is one of those given. -/
def importOf (modules : List String) : Regex :=
  blanks ++ oneOf ["import", "from"] ++ gap ++ group "first" (oneOf modules) ++ border

/-- A call of one of the functions, by its bare name. -/
def callOf (group : String) (functions : List String) : Regex :=
  notAfter isDotted ++ Regex.group group (oneOf functions) ++ blanks ++ "("

/-- A call of one of the methods. -/
def methodCallOf (group : String) (methods : List String) : Regex :=
  "." ++ Regex.group group (oneOf methods) ++ blanks ++ "("

/-- The dangers looked for on each line, in this order. -/
def patterns : List Pattern := [
  { expression := start ++ importOf systemModules
    risk := "Process/OS-control module import", level := .high, details := ["first"], isImport := true },
  { expression := start ++ importOf networkModules
    risk := "Networking module import", level := .high, details := ["first"], isImport := true },
  { expression := callOf "first" ["exec", "eval", "compile", "__import__"]
    risk := "Dynamic code evaluation", level := .high, details := ["first"], isImport := false },
  { expression := methodCallOf "first" ["kill", "terminate"] <|> callOf "second" ["exit", "quit"]
    risk := "Process control call", level := .high, details := ["first", "second"], isImport := false },
  { expression := callOf "first" ["open", "file"]
    risk := "Filesystem access", level := .medium, details := ["first"], isImport := false },
  { expression := methodCallOf "first" ["read", "readlines", "write", "writelines", "remove", "unlink",
      "rmdir", "rmtree", "delete", "read_text", "write_text"]
    risk := "Filesystem read/write call", level := .medium, details := ["first"], isImport := false },
  { expression := callOf "first" ["globals", "locals", "vars", "dir", "getattr", "setattr", "delattr",
      "hasattr"]
    risk := "Introspection builtin", level := .low, details := ["first"], isImport := false }]

/-- Modules that are not worth a note. -/
def allowedModules : List String := [
  "math", "cmath", "random", "json", "time", "datetime", "calendar", "zoneinfo",
  "collections", "itertools", "functools", "operator", "re", "string", "textwrap",
  "typing", "dataclasses", "enum", "abc", "statistics", "decimal", "fractions",
  "numbers", "heapq", "bisect", "array", "copy", "pprint", "contextlib", "uuid",
  "hashlib", "base64", "unittest", "doctest", "__future__", "dis", "queue",
  "difflib", "unicodedata", "struct", "weakref", "asyncio", "logging", "warnings"]

def isImportChar (c : Char) : Bool :=
  Text.isWord c || c == '.' || c == ',' || Text.isBlank c

/-- A whole line that imports. -/
def importLine : Regex :=
  blanks ++
    (("import" ++ gap ++ group "modules" (one isImportChar ++ run isImportChar true)) <|>
      ("from" ++ gap ++ group "module" (many1 isDotted) ++ gap ++ "import" ++ border ++
        many notLineFeed)) ++
    blanks ++ stop

/-- The header of a loop that only its body can end. -/
def endlessLoop : Regex :=
  blanks ++ "while" ++ gap ++ oneOf ["True", "1"] ++ blanks ++ ":"

/-- A statement or a call that leaves a loop. -/
def loopExit : Regex :=
  (border ++ oneOf ["break", "return", "raise"] ++ border) <|>
    (border ++ oneOf ["sys.exit", "exit", "quit"] ++ blanks ++ "(")

def endlessLoopRisk : String := "Potential infinite loop detected"

/-- The longest text without a note. -/
def maxLength : Nat := 10000

/-- What a pattern's match is about: its first group that is not empty, else all of it. -/
def detailOf (p : Pattern) (m : Found) : List Char :=
  match (p.details.map m.group).find? (!·.isEmpty) with
  | some text => text
  | none => Text.strip m.text

/-- The dangers that the patterns find on line `index`, with the modules that they name. -/
def patternDangers (index : Nat) (line : Line) : List (Danger × Option (List Char)) :=
  patterns.filterMap fun p =>
    (p.expression.find? line).map fun m =>
      let detail := detailOf p m
      (⟨p.level, s!"{p.risk}: {String.ofList detail} (line {index + 1})", index + 1⟩,
        if p.isImport then some detail else none)

/-- The top-level names of the modules that a line imports. -/
def importedTops (line : Line) : List (List Char) :=
  match importLine.atStart? line with
  | none => []
  | some m =>
    let modules :=
      if (m.group "modules").isEmpty then [m.group "module"] else Text.splitOn ',' (m.group "modules")
    modules.map fun module =>
      let path := (Text.splitOnText " as ".toList (Text.strip module)).head?.getD []
      Text.strip (Text.before '.' path)

/-- Notes on the modules that a line imports beyond the allowed ones and those that are dangers already. -/
def importNotes (flagged : List (List Char)) (index : Nat) (line : Line) : List Danger :=
  (importedTops line).filterMap fun top =>
    if top.isEmpty || allowedModules.contains (String.ofList top) || flagged.contains top then none
    else
      some ⟨.low, s!"Module outside the allow-list: {String.ofList top} (line {index + 1})", index + 1⟩

/-- The danger of an endless loop that line `index` opens. -/
def loopDanger (src : Source) (index : Nat) (line : Line) : List Danger :=
  if endlessLoop.startsText line && !(src.bodyTexts index).any loopExit.occursIn then
    [⟨.high, endlessLoopRisk, index + 1⟩]
  else []

/-- The dangers of the lines from `index` on, given the dangerous modules imported before. -/
def scanFrom (src : Source) (flagged : List (List Char)) (index : Nat) : List Line → List Danger
  | [] => []
  | line :: rest =>
    if Text.isBlankText line then scanFrom src flagged (index + 1) rest
    else
      let found := patternDangers index line
      let flagged := flagged ++ found.filterMap (·.2)
      found.map (·.1) ++ importNotes flagged index line ++ loopDanger src index line ++
        scanFrom src flagged (index + 1) rest

/-- The dangers of a program text in line order. -/
def scan (code : List Char) : List Danger :=
  let src := Source.ofText code
  let found := scanFrom src [] 0 src.masked
  if maxLength < code.length then
    found ++ [⟨.low, s!"Code is unusually long ({code.length} characters)", 0⟩]
  else found

end Safety

/-- Whether a program is safe, and whether it may run. -/
structure SafetyAssessment where
  isSafe : Bool
  risks : List String
  confidence : Number
  allowExecution : Bool
  recommendations : List String
deriving DecidableEq, Inhabited

namespace SafetyAssessment

open Safety

/-- The number of risks at which a program is unsafe whatever they are. -/
def maxRisks : Nat := 5

/-- The confidence that is left after some dangers. -/
def confidenceAfter (dangers : List Danger) : Double :=
  let lost := dangers.foldl (fun sum d => sum + d.level.penalty) (0 : Double)
  Double.maxFirst 0 (1 - lost)

/-- The verdict on some dangers: a high one forbids execution, and a medium one, many or a low confidence make the
program unsafe. -/
def ofDangers (dangers : List Danger) : SafetyAssessment :=
  let confidence := confidenceAfter dangers
  let has (level : Level) : Bool := dangers.any (·.level == level)
  { isSafe := Double.lt 0.5 confidence && dangers.length < maxRisks && !has .high && !has .medium
    risks := dangers.map Danger.risk
    confidence := .double (confidence.roundPlaces 4)
    allowExecution := !has .high
    recommendations :=
      (if has .high then
        ["Remove process, network and dynamic-evaluation calls before running this code"] else []) ++
      (if has .medium then
        ["Review filesystem access; the sandbox runs in a throwaway working directory"] else []) ++
      (if dangers.any (·.risk == endlessLoopRisk) then
        ["Add an exit condition to unbounded loops"] else []) }

/-- The verdict on a program text. -/
def ofCode (code : List Char) : SafetyAssessment :=
  ofDangers (scan code)

def toJson (a : SafetyAssessment) : Json :=
  .object [
    ("isSafe", a.isSafe),
    ("risks", Json.strings a.risks),
    ("confidence", a.confidence.roundPlaces 4),
    ("allowExecution", a.allowExecution),
    ("recommendations", Json.strings a.recommendations)]

end SafetyAssessment

end CodeAudit
