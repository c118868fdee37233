import CodeAudit.Regex.Search
import CodeAudit.Source.Layout
import CodeAudit.Source.Vocabulary

/-!
The names that a masked line binds: definitions, parameters, imports, assignments, loop variables and aliases.
-/

namespace CodeAudit.Source

abbrev Name := List Char

namespace Bindings

open Regex

def isKeyword (name : Name) : Bool :=
  Vocabulary.keywords.contains (String.ofList name)

/-- The identifiers of a fragment that are no keywords. -/
def namesIn (fragment : List Char) : List Name :=
  (Regex.name.all fragment).map Found.text |>.filter (!isKeyword ·)

/-- `def`, a name and the opening bracket of its parameters. -/
def defHeader : Regex :=
  blanks ++ optional ("async" ++ gap) ++ "def" ++ gap ++ group "name" name ++ blanks ++ "("

def classHeader : Regex :=
  blanks ++ "class" ++ gap ++ group "name" name

def plainImport : Regex :=
  blanks ++ "import" ++ gap ++ group "modules" (many1 notLineFeed) ++ stop

def fromImport : Regex :=
  blanks ++ "from" ++ gap ++ many1 isDotted ++ gap ++ "import" ++ gap ++ optional "(" ++
    group "names" (many (· != ')')) ++ optional ")"

/-- One equals sign that is not the first half of a comparison. -/
def assignSign : Regex :=
  "=" ++ notAhead "="

/-- A type after a colon, up to an equals sign. -/
def annotation : Regex :=
  optional (":" ++ many1 (· != '='))

def isTargetChar (c : Char) : Bool :=
  Text.isWord c || Text.isBlank c || c == ',' || c == '*'

def assignTargets : Regex :=
  blanks ++ group "targets" (one Text.isNameStart ++ run isTargetChar true) ++ blanks ++
    annotation ++ assignSign

def isAnnotationChar (c : Char) : Bool :=
  Text.isWord c || c == '[' || c == ']' || c == ',' || c == ' ' || c == '.'

def annotatedName : Regex :=
  blanks ++ group "name" name ++ blanks ++ ":" ++ blanks ++ many1 isAnnotationChar ++ stop

def isLoopTargetChar (c : Char) : Bool :=
  isTargetChar c || c == '(' || c == ')'

def loopTargets : Regex :=
  border ++ "for" ++ gap ++
    group "targets" (one isLoopTargetChar ++ run isLoopTargetChar true) ++ gap ++ "in" ++ border

def aliasName : Regex :=
  border ++ "as" ++ gap ++ group "name" name

def namedExpression : Regex :=
  group "name" name ++ blanks ++ ":="

def lambdaParameters : Regex :=
  border ++ "lambda" ++ gap ++ group "parameters" (many (· != ':')) ++ ":"

def outerNames : Regex :=
  blanks ++ oneOf ["global", "nonlocal"] ++ gap ++ group "names" (many1 notLineFeed) ++ stop

def parameterName : Regex :=
  blanks ++ many (· == '*') ++ blanks ++ group "name" name

/-- The pieces of a parameter list between its top-level commas, up to the bracket that closes it. -/
def parameterPieces (depth : Nat) (piece : List Char) : List Char → List (List Char)
  | [] => [piece.reverse]
  | c :: rest =>
    if isClosing c && depth == 0 then [piece.reverse]
    else
      let depth := if isOpening c then depth + 1 else if isClosing c then depth - 1 else depth
      if c == ',' && depth == 0 then piece.reverse :: parameterPieces depth [] rest
      else parameterPieces depth (c :: piece) rest

/-- The names of the parameters of a signature. -/
def parameterNames (signature : List Char) : List Name :=
  (parameterPieces 0 [] signature).filterMap fun piece =>
    (parameterName.atStart? piece).map (·.group "name")

/-- The lines up to one that has a closing bracket, each with a blank in front of it. -/
def untilClosed : List Line → List Char
  | [] => []
  | line :: rest => ' ' :: line ++ if line.contains ')' then [] else untilClosed rest

/-- A signature, with the lines after it unless it has its closing bracket. -/
def wholeSignature (signature : List Char) (following : List Line) : List Char :=
  if signature.contains ')' then signature else signature ++ untilClosed following

/-- The items of an import list on the lines up to the closing bracket, each line with a comma in front of it. -/
def itemsUntilClosed : List Line → List Char
  | [] => []
  | line :: rest =>
    ',' :: Text.before ')' line ++ if line.contains ')' then [] else itemsUntilClosed rest

/-- What an imported item is called: its alias, or itself. -/
def importedAs (item : List Char) : Name :=
  Text.strip ((Text.splitOnText " as ".toList item).getLast?.getD [])

/-- The name that one item of `import ...` binds. -/
def moduleBinding? (item : List Char) : Option Name :=
  let item := Text.strip item
  if Text.contains item " as ".toList then some (importedAs item)
  else if item.isEmpty then none
  else some (Text.before '.' item)

/-- The name that one item of `from ... import ...` binds. -/
def memberBinding? (item : List Char) : Option Name :=
  let item := Text.strip item
  if item.isEmpty || item == ['*'] then none else some (importedAs item)

/-- The loop variables of a line's `for ... in` clauses. -/
def loopNames (line : Line) : List Name :=
  (loopTargets.all line).flatMap fun m => namesIn (m.group "targets")

def definitionNames (line : Line) (following : List Line) : List Name :=
  match defHeader.atStart? line with
  | some m => m.group "name" :: parameterNames (wholeSignature m.rest following)
  | none => []

def importNames (line : Line) : List Name :=
  match plainImport.atStart? line with
  | some m => (Text.splitOn ',' (m.group "modules")).filterMap moduleBinding?
  | none => []

def fromImportNames (line : Line) (following : List Line) : List Name :=
  match fromImport.atStart? line with
  | some m =>
    let names := m.group "names"
    let names :=
      if line.contains '(' && !line.contains ')' then names ++ itemsUntilClosed following else names
    (Text.splitOn ',' names).filterMap memberBinding?
  | none => []

def assignedNames (line : Line) : List Name :=
  match assignTargets.atStart? line with
  | some m => if defHeader.startsText line then [] else namesIn (m.group "targets")
  | none => []

/-- The targets of a line's assignment expressions. A line without their sign is not searched. -/
def expressionTargets (line : Line) : List Name :=
  if Text.contains line ":=".toList then (namedExpression.all line).map (·.group "name") else []

/-- The name group of a match at the start of a line. -/
def headName (header : Regex) (line : Line) : List Name :=
  ((header.atStart? line).map (·.group "name")).toList

/-- The names that a line binds, given the lines after it. -/
def ofLine (line : Line) (following : List Line) : List Name :=
  definitionNames line following ++ headName classHeader line ++ importNames line ++
    fromImportNames line following ++ assignedNames line ++ headName annotatedName line ++
    loopNames line ++ (aliasName.all line).map (·.group "name") ++
    expressionTargets line ++
    (lambdaParameters.all line).flatMap (fun m => parameterNames (m.group "parameters")) ++
    (match outerNames.atStart? line with
      | some m => namesIn (m.group "names")
      | none => [])

end Bindings

end CodeAudit.Source
