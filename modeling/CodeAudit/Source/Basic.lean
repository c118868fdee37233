import CodeAudit.Source.Bindings
import CodeAudit.Source.Mask
import CodeAudit.Source.Value

/-!
A program text with its mask, the names that its lines bind and the values they assign.
-/

namespace CodeAudit

open Source (Line Name ValueKind)

/-- A simple assignment: its line and the kind of value assigned. -/
structure Assignment where
  name : Name
  line : Nat
  kind : ValueKind

/-- A program text prepared for scanning, with the tables that the rules look up. -/
structure Source where
  lines : List Line
  masked : List Line
  /-- Each bound name with its line, in order of the lines. -/
  bindings : List (Name × Nat)
  /-- Per line, whether it is part of a function body. -/
  inFunction : List Bool
  assignments : List Assignment

namespace Source

/-- The names bound by the lines from `index` on, each with its line. -/
def bindingsFrom (index : Nat) : List Line → List (Name × Nat)
  | [] => []
  | line :: rest =>
    (Bindings.ofLine line rest).map (·, index) ++ bindingsFrom (index + 1) rest

open Regex in
/-- A name, an optional type, an equals sign and a value. -/
def simpleAssign : Regex :=
  blanks ++ group "name" name ++ blanks ++ Bindings.annotation ++ Bindings.assignSign ++ blanks ++
    group "value" (one notLineFeed ++ run notLineFeed true) ++ blanks ++ stop

/-- The simple assignment that a masked line is. -/
def assignment? (index : Nat) (line : Line) : Option Assignment :=
  match simpleAssign.atStart? line with
  | some m =>
    let value := m.group "value"
    if Text.startsWith value ['='] then none
    else some ⟨m.group "name", index, ValueKind.ofText value⟩
  | none => none

def assignmentsFrom (index : Nat) : List Line → List Assignment
  | [] => []
  | line :: rest => (assignment? index line).toList ++ assignmentsFrom (index + 1) rest

/-- A program text prepared for scanning. -/
def ofText (code : List Char) : Source :=
  let masked := maskLines code
  { lines := Text.lines code
    masked := masked
    bindings := bindingsFrom 0 masked
    inFunction := insideMarked Bindings.defHeader.startsText [] masked
    assignments := assignmentsFrom 0 masked }

/-- A line of the mask, empty past the end. -/
def maskedLine (src : Source) (index : Nat) : Line :=
  src.masked[index]?.getD []

/-- A line of the text, empty past the end. -/
def line (src : Source) (index : Nat) : Line :=
  src.lines[index]?.getD []

/-- Whether a line of the mask has nothing but blanks. -/
def isBlankLine (src : Source) (index : Nat) : Bool :=
  Text.isBlankText (src.maskedLine index)

/-- The names that line `index` binds. -/
def bindingsOn (src : Source) (index : Nat) : List Name :=
  match src.masked.drop index with
  | [] => []
  | line :: rest => Bindings.ofLine line rest

/-- The first line that binds a name. -/
def firstBinding? (src : Source) (name : Name) : Option Nat :=
  (src.bindings.find? (·.1 == name)).map (·.2)

/-- The loop variables of the lines from `first` to `last`. -/
def loopNamesBetween (src : Source) (first last : Nat) : List Name :=
  ((src.masked.take (last + 1)).drop first).flatMap Bindings.loopNames

/-- Whether a line stands in a function body; a negative index counts back from the end. -/
def inFunctionAt? (src : Source) (index : Int) : Option Bool :=
  if 0 ≤ index then src.inFunction[index.toNat]? else src.inFunction.reverse[index.natAbs - 1]?

/-- Whether a name is bound when line `index` runs: a function body runs late, other code needs the binding on the
line or before it. None when the answer hangs on a line that does not exist. -/
def isDefined? (src : Source) (name : Name) (index : Int) : Option Bool :=
  if Vocabulary.alwaysDefined.contains (String.ofList name) then some true
  else
    match src.firstBinding? name with
    | none => some false
    | some first => (src.inFunctionAt? index).map (· || decide (first ≤ index))

/-- The last assignment to a name before line `index`. -/
def assignmentBefore? (src : Source) (name : Name) (index : Nat) : Option Assignment :=
  ((src.assignments.filter (·.name == name)).takeWhile (·.line < index)).getLast?

/-- The kind of the value last assigned to a name before line `index`. -/
def kindBefore? (src : Source) (name : Name) (index : Nat) : Option ValueKind :=
  (src.assignmentBefore? name index).map (·.kind)

/-- The body of the block that line `index` opens: what follows on the line itself, then the lines below. -/
def bodyTexts (src : Source) (index : Nat) : List Line :=
  inlineBody (src.maskedLine index) :: (blockBody src.masked index).map src.maskedLine

end Source

end CodeAudit
