import CodeAudit.Rule.Basic

/-!
Rules on logic: conditions that cannot hold, division by zero, repeated lines, empty functions and dead code.
-/

namespace CodeAudit.Rule

open Regex
open Source (ValueKind)

namespace Logic

def alwaysFalse : Rule where
  id := "always_false_condition"
  name := "Always false condition"
  subkind := .logicDeviation
  severity := .medium
  confidence := .of 0.85
  expression :=
    start ++ blanks ++ group "keyword" (oneOf ["if", "elif", "while"]) ++ gap ++
      group "condition" (oneOf ["False", "0", "None"] <|> ("not" ++ gap ++ "True")) ++ blanks ++ ":"
  evidence m _ _ :=
    let keyword := label m "keyword"
    let condition := label m "condition"
    .ok [s!"Always false condition: '{keyword} {condition}' block never runs"]
  suggestedFix := "Remove the dead branch or replace the constant with the intended condition"
  description := "A branch guarded by a constant false condition"

def comparison : Regex :=
  oneOf ["==", "!="]

def contradiction : Rule where
  id := "contradictory_condition"
  name := "Contradictory condition"
  subkind := .logicDeviation
  severity := .high
  confidence := .of 0.9
  expression :=
    notAfter isDotted ++ group "left" (many1 isDotted) ++ blanks ++ group "first" comparison ++
      blanks ++ group "right" (many1 isDotted) ++ gap ++ "and" ++ gap ++ again "left" ++ blanks ++
      group "second" comparison ++ blanks ++ again "right" ++ notAhead (one isDotted)
  evidence m src index :=
    if m.group "first" == m.group "second" then .ok []
    else .ok [s!"Contradictory condition: '{rawLabel m src index}' can never be true"]
  suggestedFix := "Rewrite the condition; 'a == b and a != b' is never true"
  description := "A condition that requires two values to be both equal and different"

/-- A name at the end of a text. -/
def lastName : Regex :=
  group "name" Regex.name ++ stop

/-- Whether a percent sign after this text formats a string. -/
def isFormatting (left : List Char) (src : Source) (index : Nat) : Bool :=
  match left.getLast? with
  | some '\'' | some '"' => true
  | _ =>
    match lastName.find? left with
    | some m => src.kindBefore? (m.group "name") index == some .string
    | none => false

def divisionByZero : Rule where
  id := "division_by_zero_literal"
  name := "Division by literal zero"
  subkind := .logicDeviation
  severity := .high
  confidence := .of 0.9
  expression :=
    group "operator" (oneOf ["//", "/", "%"]) ++ optional "=" ++ blanks ++
      group "zero" (many1 (· == '0') ++ optional ("." ++ many (· == '0'))) ++ notAhead (one isDotted)
  evidence m src index :=
    let left := Text.stripRight ((src.maskedLine index).take m.start)
    let operator := label m "operator"
    let zero := label m "zero"
    if m.group "operator" == ['%'] && isFormatting left src index then .ok []
    else
      .ok [s!"Division by literal zero: '{operator} {zero}' raises ZeroDivisionError"]
  suggestedFix := "Guard the divisor or use the intended non-zero value"
  description := "Divides by a literal zero"

/-- Lines that often stand twice. -/
def trivialLines : List String :=
  ["pass", "break", "continue", "return", "else:", "try:", "finally:", "...", ")", "]", "\x7d", "print()"]

def repeatedLine : Rule where
  id := "repeated_line"
  name := "Consecutive duplicate line"
  subkind := .logicBreakdown
  severity := .medium
  confidence := .of 0.75
  expression := start ++ blanks ++ one (!Text.isBlank ·) ++ many notLineFeed ++ stop
  evidence _ src index :=
    let current := Text.strip (src.line index)
    let repeats (i : Nat) : Bool := Text.strip (src.line i) == current
    if index == 0 || trivialLines.contains (String.ofList current) || src.isBlankLine index then .ok []
    else if !repeats (index - 1) || src.isBlankLine (index - 1) then .ok []
    else if 2 ≤ index && repeats (index - 2) then .ok []
    else .ok [s!"Repeated line detected: '{String.ofList current}' appears on consecutive lines"]
  suggestedFix := "Remove the duplicated statement or use a loop if repetition is intended"
  description := "The same statement appears twice in a row"

def emptyFunction : Rule where
  id := "incomplete_function"
  name := "Empty function body"
  subkind := .logicBreakdown
  severity := .high
  confidence := .of 0.85
  expression :=
    start ++ Source.Bindings.defHeader ++ many notLineFeed ++ ")" ++ blanks ++
      optional ("->" ++ many1 (· != ':')) ++ ":" ++ blanks ++ stop
  evidence m src index :=
    let function := label m "name"
    if !(Source.inlineBody (src.maskedLine index)).isEmpty ||
        !(Source.blockBody src.masked index).isEmpty then .ok []
    else .ok [s!"Incomplete function definition: '{function}' has no body"]
  suggestedFix := "Implement the function body or mark it with 'pass' / 'raise NotImplementedError'"
  description := "A function definition with no body"

/-- The first of some lines, counted from `index`, that is not blank. -/
def firstCodeLine (index : Nat) : List Source.Line → Option (Nat × Source.Line)
  | [] => none
  | line :: rest => if Text.isBlankText line then firstCodeLine (index + 1) rest else some (index, line)

def unreachable : Rule where
  id := "unreachable_after_return"
  name := "Code after unconditional exit"
  subkind := .logicBreakdown
  severity := .medium
  confidence := .of 0.8
  expression :=
    start ++ blanks ++ group "statement" (oneOf ["return", "raise", "break", "continue"]) ++ border
  evidence m src index :=
    let next := Source.statementEnd src.masked index + 1
    let statement := label m "statement"
    match firstCodeLine next (src.masked.drop next) with
    | some (i, line) =>
      let isString := (Text.strip line).head?.any fun c => c == '\'' || c == '"'
      if Source.indentOf line == Source.indentOf (src.maskedLine index) && !isString then
        .ok [s!"Unreachable code after {statement}: line {i + 1} can never run"]
      else .ok []
    | none => .ok []
  suggestedFix := "Remove the dead code or move it before the exit statement"
  description := "Statements that follow an unconditional return/raise/break/continue"

def assertFalse : Rule where
  id := "assert_false"
  name := "Assertion that always fails"
  subkind := .logicBreakdown
  severity := .high
  confidence := .of 0.85
  expression := start ++ blanks ++ "assert" ++ gap ++ oneOf ["False", "0"] ++ border
  evidence _ _ _ := .ok ["Assertion always fails: 'assert False' raises AssertionError"]
  suggestedFix := "Replace the placeholder assertion with the intended check"
  description := "An assertion on a constant false value"

end Logic

end CodeAudit.Rule
