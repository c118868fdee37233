import CodeAudit.Rule.Basic

/-!
Rules on names: use before definition, imports of modules that look made up, and attributes of nothing.
-/

namespace CodeAudit.Rule

open Regex

namespace Naming

/-- A line that only brings names into scope. -/
def scopeLine : Regex :=
  blanks ++ oneOf ["import", "from", "global", "nonlocal"] ++ border

/-- An equals sign after blanks, as in a keyword argument. -/
def assigned : Regex :=
  blanks ++ Source.Bindings.assignSign

def undefinedName : Rule where
  id := "undefined_name"
  name := "Use before definition"
  subkind := .identity
  severity := .high
  confidence := .of 0.85
  expression := notAfter isDotted ++ group "name" Regex.name ++ border
  evidence m src index :=
    let name := m.group "name"
    let line := src.maskedLine index
    let before := Text.stripRight (line.take m.start)
    if (src.isDefined? name index).getD false then .ok []
    else if (src.loopNamesBetween index (Source.bracketedEnd src.masked index)).contains name then .ok []
    else if scopeLine.startsText line then .ok []
    else if before.getLast? == some '.' || assigned.startsText m.rest then .ok []
    else .ok [s!"Variable '{String.ofList name}' used before definition"]
  suggestedFix := "Define or import the name before it is used"
  description := "Uses a name that is never bound before this point"

/-- Libraries that are not part of the language and often used. -/
def knownLibraries : List String := [
  "numpy", "pandas", "scipy", "requests", "flask", "django", "fastapi",
  "pytest", "yaml", "rich", "click", "torch", "sklearn", "matplotlib",
  "aiohttp", "httpx", "pydantic", "sqlalchemy", "boto3", "jinja2", "attr",
  "attrs", "dateutil", "pytz", "six", "tqdm", "PIL", "bs4", "lxml"]

/-- Parts of names that give a made-up module away. -/
def improbableParts : List String :=
  ["nonexistent", "nonexisting", "fake", "invalid", "dummy", "imaginary", "madeup", "notreal"]

/-- Three decimal digits in a row. -/
def threeDigits : Regex :=
  one Text.isDecimal ++ one Text.isDecimal ++ one Text.isDecimal

/-- The longest name of a module that is not suspicious for its length. -/
def maxNameLength : Nat := 20

/-- Whether a top-level module looks made up. -/
def isImprobable (top : List Char) : Bool :=
  !top.isEmpty && !Source.Vocabulary.libraryModules.contains (String.ofList top) &&
    !knownLibraries.contains (String.ofList top) &&
    (maxNameLength < top.length || threeDigits.occursIn top ||
      (Text.allUpper top && 3 < top.length) ||
      improbableParts.any fun part => Text.contains (Text.lower top) part.toList)

/-- A module with an optional alias. -/
def importItem : Regex :=
  many1 isDotted ++ optional (gap ++ "as" ++ gap ++ many1 Text.isWord)

def improbableModule : Rule where
  id := "improbable_module"
  name := "Improbable module import"
  subkind := .externalSource
  severity := .high
  confidence := .of 0.75
  expression :=
    start ++ blanks ++
      (("import" ++ gap ++
          group "imports" (importItem ++ rounds (blanks ++ "," ++ blanks ++ importItem))) <|>
        ("from" ++ gap ++ group "from" (many1 isDotted) ++ gap ++ "import" ++ border))
  evidence m _ _ :=
    let modules := match m.span? "imports" with
      | some imports => (Text.splitOn ',' imports.text).map fun part =>
          Text.strip ((Text.splitOnText " as ".toList (Text.strip part)).head?.getD [])
      | none => [m.group "from"]
    .ok ((modules.filter fun module => isImprobable (Text.before '.' module)).map fun module =>
      s!"Potentially non-existent module: '{String.ofList module}'")
  suggestedFix := "Verify the package exists on the index and is a declared dependency"
  description := "Imports a module whose name looks fabricated"

/-- A branch on a name, or a test that it is something. -/
def guard (name : List Char) : Regex :=
  let name := text (String.ofList name)
  (start ++ blanks ++ oneOf ["if", "elif", "while", "assert"] ++ border ++ many notLineFeed ++
      border ++ name ++ border) <|>
    (border ++ name ++ gap ++ "is" ++ gap ++ "not" ++ gap ++ "None" ++ border)

/-- A test of a name on the line of its use. -/
def inlineGuard (name : List Char) : Regex :=
  let name := text (String.ofList name)
  (border ++ "if" ++ gap ++ name ++ border ++ notAhead ".") <|>
    (border ++ name ++ gap ++ "and" ++ border)

/-- Whether one of the lines from `first` up to but not including `last` guards a name. -/
def isGuarded (src : Source) (name : List Char) (first last : Nat) : Bool :=
  ((src.masked.take last).drop first).any (guard name).occursIn

def noneAttribute : Rule where
  id := "none_attribute_access"
  name := "Attribute access on None"
  subkind := .identity
  severity := .high
  confidence := .of 0.8
  expression := notAfter isDotted ++ group "name" Regex.name ++ "." ++ group "member" Regex.name
  evidence m src index :=
    let name := m.group "name"
    match src.assignmentBefore? name index with
    | some assignment =>
      if assignment.kind != .none || isGuarded src name (assignment.line + 1) index ||
          (inlineGuard name).occursIn (src.maskedLine index) then .ok []
      else
        let member := label m "member"
        .ok [s!"Attribute access on potentially None variable '{String.ofList name}' (.{member})"]
    | none => .ok []
  suggestedFix := "Assign a real object first or guard the access with 'if value is not None'"
  description := "Accesses an attribute of a variable that was explicitly set to None"

end Naming

end CodeAudit.Rule
