import CodeAudit.Execution.Literal
import CodeAudit.Text.Lines

/-!
Test cases: a program with an input bound before it and a check of its result after it.
-/

namespace CodeAudit

/-- One run of a program with an input of its own. -/
structure TestCase where
  description : List Char
  input : Literal := .none
  /-- What the result must be, unless it is the empty value. -/
  expected : Literal := .none
  timeoutMs : Option Number := none
  /-- Whether a failure ends the series. -/
  critical : Bool := false
deriving Inhabited

namespace TestCase

/-- The lines in front of the program. -/
def header (c : TestCase) : List (List Char) :=
  [("# Test case: ".toList ++ Text.joinWith [' '] (Text.words c.description)),
    "test_input = ".toList ++ c.input.write]

/-- The check after the program. -/
def check (c : TestCase) : List Char :=
  if c.expected.isNone then []
  else
    let expected := c.expected.write
    "\n\nif 'result' in globals() and result != ".toList ++ expected ++ ":\n".toList ++
      "    raise AssertionError('Expected ' + repr(".toList ++ expected ++
      ") + ', got ' + repr(result))\n".toList

/-- The program text for a test case. -/
def source (c : TestCase) (code : List Char) : List Char :=
  Text.joinLines c.header ++ '\n' :: code ++ c.check

/-- How many lines stand in front of the program. -/
def offset (c : TestCase) : Nat :=
  c.header.length

end TestCase

end CodeAudit
