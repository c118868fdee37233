import CodeAudit.Rule.Basic

/-!
Rules on time and memory: endless loops, endless recursion, and large ranges, literals and allocations.
-/

namespace CodeAudit.Rule

open Regex
open Source (ValueKind)

namespace Resource

/-- A statement or a call that leaves a loop. -/
def loopExit : Regex :=
  (border ++ oneOf ["break", "return", "raise"] ++ border) <|>
    (border ++ oneOf ["sys.exit", "exit", "quit", "os._exit"] ++ blanks ++ "(")

def infiniteLoop : Rule where
  id := "infinite_while_loop"
  name := "Infinite loop"
  subkind := .computationalBoundary
  severity := .critical
  confidence := .of 0.9
  expression := start ++ blanks ++ "while" ++ gap ++ oneOf ["True", "1"] ++ blanks ++ ":"
  evidence _ src index :=
    if (src.bodyTexts index).any loopExit.occursIn then .ok []
    else .ok ["Potential infinite loop: 'while True' without break or return"]
  suggestedFix := "Add a break condition or bound the loop with a counter"
  description := "A 'while True' loop with no visible way out"
  spansBlock := true

/-- A call of the function, by its name or as a method of its own class. -/
def selfCall (name : List Char) : Regex :=
  notAfter isDotted ++ optional (oneOf ["self.", "cls."]) ++ text (String.ofList name) ++ blanks ++ "("

def branchOrRaise : Regex :=
  border ++ oneOf ["if", "raise"] ++ border

def returnWord : Regex :=
  border ++ "return" ++ border

/-- Whether a body line ends the recursion. -/
def isBaseCase (call : Regex) (line : List Char) : Bool :=
  branchOrRaise.occursIn line || (returnWord.occursIn line && !call.occursIn line)

def endlessRecursion : Rule where
  id := "recursion_without_base_case"
  name := "Recursion without base case"
  subkind := .physicalConstraint
  severity := .critical
  confidence := .of 0.8
  expression := start ++ Source.Bindings.defHeader
  evidence m src index :=
    let function := label m "name"
    let call := selfCall (m.group "name")
    let body := src.bodyTexts index
    if body.any call.occursIn && !body.any (isBaseCase call) then
      .ok [s!"Recursive function '{function}' may lack proper base case"]
    else .ok []
  suggestedFix := "Add a base case that returns without recursing"
  description := "A recursive function with no detectable termination condition"
  spansBlock := true

/-- The least number of rounds that counts as large. -/
def largeRange : Int := 1000000

def oversizedRange : Rule where
  id := "large_range"
  name := "Oversized iteration range"
  subkind := .computationalBoundary
  severity := .high
  confidence := .of 0.8
  expression :=
    border ++ "range" ++ blanks ++ "(" ++ group "arguments" (many fun c => c != '(' && c != ')') ++ ")"
  evidence m src index := do
    let arguments := topLevelPieces 0 [] (m.group "arguments")
    let bound := match arguments with
      | _ :: second :: _ => second
      | [only] => only
      | [] => []
    match ← literalValue bound with
    | some size =>
      if size < largeRange then return []
      else
        let written ← writeThousands size
        return [s!"Large range operation: {rawLabel m src index} iterates {written} times"]
    | none => return []
  suggestedFix := "Process the data in batches or use a generator with a realistic bound"
  description := "Iterates over a range large enough to stall execution"

/-- The most elements of a literal that is not large. -/
def maxElements : Nat := 50

/-- A list without brackets inside. -/
def flatList : Regex :=
  "[" ++ many (fun c => c != '[' && c != ']') ++ "]"

/-- Braces without braces inside. -/
def flatBraces : Regex :=
  "\x7b" ++ many (fun c => c != '{' && c != '}') ++ "\x7d"

def largeLiteral : Rule where
  id := "large_literal"
  name := "Large literal data structure"
  subkind := .physicalConstraint
  severity := .medium
  confidence := .of 0.7
  expression := flatList <|> flatBraces
  evidence m _ _ :=
    let inner := (m.text.drop 1).dropLast
    let elements := (topLevelPieces 0 [] inner).filter (!Text.isBlankText ·)
    if elements.length ≤ maxElements then .ok []
    else .ok [s!"Large data structure detected: literal with {elements.length} elements"]
  suggestedFix := "Load large data from a file or generate it instead of inlining it"
  description := "Inlines a literal with an unusually large number of elements"

/-- The least size of a list that counts as large. -/
def largeAllocation : Int := 10000000

def oversizedAllocation : Rule where
  id := "large_allocation"
  name := "Oversized allocation"
  subkind := .physicalConstraint
  severity := .high
  confidence := .of 0.8
  expression :=
    flatList ++ blanks ++ "*" ++ blanks ++
      group "size" (ValueKind.digits ++
        rounds (blanks ++ "*" ++ optional "*" ++ blanks ++ ValueKind.digits))
  evidence m _ _ := do
    match ← literalValue (m.group "size") with
    | some size =>
      if size < largeAllocation then return []
      else
        let written ← writeThousands size
        return [s!"Large memory allocation: list repeated {written} times"]
    | none => return []
  suggestedFix := "Allocate lazily or use a generator instead of a huge list"
  description := "Allocates a list large enough to exhaust memory"

end Resource

end CodeAudit.Rule
