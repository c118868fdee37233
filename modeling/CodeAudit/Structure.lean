import CodeAudit.Json.Basic
import CodeAudit.Source.Basic

/-!
The structure of a program text: what it defines and imports, its branches, its size and how deep it nests.
-/

namespace CodeAudit

open Source (Line)

/-- A snapshot of a program's structure. -/
structure Structure where
  functions : List String := []
  classes : List String := []
  variableNames : List String := []
  imports : List String := []
  loops : Nat := 0
  conditionals : Nat := 0
  tryBlocks : Nat := 0
  complexity : Int := 1
  linesOfCode : Nat := 0
  nestingDepth : Int := 0
  hasAsync : Bool := false
  hasErrorHandling : Bool := false
deriving DecidableEq, Inhabited

namespace Structure

open Regex

def functionHeader : Regex :=
  blanks ++ optional ("async" ++ gap) ++ "def" ++ gap ++ group "name" name

def variableHeader : Regex :=
  blanks ++ group "name" name ++ blanks ++ Source.Bindings.annotation ++ Source.Bindings.assignSign

def isImportChar (c : Char) : Bool :=
  Text.isWord c || c == '.' || c == ',' || Text.isBlank c

def plainImport : Regex :=
  blanks ++ "import" ++ gap ++ group "modules" (one isImportChar ++ run isImportChar true) ++ blanks ++ stop

def fromImport : Regex :=
  blanks ++ "from" ++ gap ++ group "name" (many1 isDotted) ++ gap ++ "import" ++ border

def loopHeader : Regex :=
  blanks ++ optional ("async" ++ gap) ++ oneOf ["for", "while"] ++ border

def conditionalHeader : Regex :=
  blanks ++ oneOf ["if", "elif"] ++ border

def tryHeader : Regex :=
  blanks ++ "try" ++ blanks ++ ":"

def exceptHeader : Regex :=
  blanks ++ "except" ++ border

def booleanOperator : Regex :=
  border ++ oneOf ["and", "or"] ++ border

/-- A word that makes a branch inside a statement. -/
def inlineBranch : Regex :=
  border ++ oneOf ["if", "for"] ++ border

def asyncWord : Regex :=
  (border ++ "async" ++ border) <|> (border ++ "await" ++ border)

/-- The names a header gives on some lines, each once. -/
def namesBy (header : Regex) (lines : List Line) : List String :=
  (lines.flatMap fun line => (Source.Bindings.headName header line).map String.ofList).eraseDups

/-- The modules that a line imports. -/
def importedModules (line : Line) : List String :=
  let plain := match plainImport.atStart? line with
    | some m => (Text.splitOn ',' (m.group "modules")).filterMap fun part =>
        let module := Text.strip ((Text.splitOnText " as ".toList (Text.strip part)).head?.getD [])
        if module.isEmpty then none else some (String.ofList module)
    | none => []
  plain ++ (Source.Bindings.headName fromImport line).map String.ofList

def isLoop (line : Line) : Bool :=
  loopHeader.startsText line

def isConditional (line : Line) : Bool :=
  !isLoop line && conditionalHeader.startsText line

/-- A comprehension or a conditional expression inside a statement that is no branch itself: its word stands after
the statement's first character and another one that is not blank. -/
def hasInlineBranch (line : Line) : Bool :=
  let statement := (Text.strip line).drop 1
  let second := (statement.takeWhile Text.isBlank).length
  !isLoop line && !conditionalHeader.startsText line &&
    (inlineBranch.all statement).any fun m => second < m.start

/-- The branches that a line adds: its boolean operators and an inline branch. -/
def branches (line : Line) : Nat :=
  (if hasInlineBranch line then 1 else 0) + (booleanOperator.all line).length

/-- The greatest number of blocks that enclose a header and the header itself. -/
def nesting (blocks : Source.OpenBlocks Unit) (deepest : Nat) : List Line → Nat
  | [] => deepest
  | line :: rest =>
    let blocks := blocks.enclosing (Source.indentOf line)
    if Source.endsWithChar ':' line then
      let blocks := (Source.indentOf line, ()) :: blocks
      nesting blocks (max deepest blocks.length) rest
    else nesting blocks deepest rest

/-- A line of the text that is neither blank nor a comment. -/
def isCodeLine (line : Line) : Bool :=
  match Text.strip line with
  | [] => false
  | c :: _ => c != '#'

/-- The structure of a prepared program text. -/
def ofSource (src : Source) : Structure :=
  let lines := src.masked.filter (!Text.isBlankText ·)
  let loops := lines.countP isLoop
  let conditionals := lines.countP isConditional
  let tryBlocks := lines.countP tryHeader.startsText
  let excepts := lines.countP exceptHeader.startsText
  { functions := namesBy functionHeader lines
    classes := namesBy Source.Bindings.classHeader lines
    variableNames := namesBy variableHeader lines
    imports := (lines.flatMap importedModules).eraseDups
    loops := loops
    conditionals := conditionals
    tryBlocks := tryBlocks
    complexity := (1 + loops + conditionals + excepts + (lines.map branches).foldr (· + ·) 0 : Nat)
    linesOfCode := src.lines.countP isCodeLine
    nestingDepth := nesting [] 0 lines
    hasAsync := src.masked.any asyncWord.occursIn
    hasErrorHandling := decide (0 < tryBlocks) }

def toJson (s : Structure) : Json :=
  .object [
    ("functions", Json.strings s.functions),
    ("classes", Json.strings s.classes),
    ("variables", Json.strings s.variableNames),
    ("imports", Json.strings s.imports),
    ("controlFlow", .object [
      ("loops", s.loops), ("conditionals", s.conditionals), ("tryBlocks", s.tryBlocks)]),
    ("complexity", .object [
      ("cyclomaticComplexity", s.complexity), ("linesOfCode", s.linesOfCode),
      ("nestingDepth", s.nestingDepth)]),
    ("hasAsyncCode", s.hasAsync),
    ("hasErrorHandling", s.hasErrorHandling)]

end Structure

end CodeAudit
