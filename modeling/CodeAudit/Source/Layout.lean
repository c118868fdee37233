import CodeAudit.Text.Lines

/-!
The layout of masked lines: indentation, blocks and open brackets.
-/

namespace CodeAudit.Source

/-- One line of a program text or of its mask. -/
abbrev Line := List Char

/-- How many blanks a line starts with. -/
def indentOf (line : Line) : Nat :=
  (line.takeWhile Text.isBlank).length

def isOpening (c : Char) : Bool :=
  c == '(' || c == '[' || c == '{'

def isClosing (c : Char) : Bool :=
  c == ')' || c == ']' || c == '}'

/-- Opened minus closed brackets of a line. -/
def bracketDelta (line : Line) : Int :=
  line.countP isOpening - line.countP isClosing

/-- Whether a line ends with that character, blanks after it aside. -/
def endsWithChar (c : Char) (line : Line) : Bool :=
  (line.reverse.dropWhile Text.isBlank).head? == some c

/-- The non-blank lines from `index` on that are indented deeper than `margin`, up to the first that is not. -/
def deeperLines (margin : Nat) (index : Nat) : List Line → List Nat
  | [] => []
  | line :: rest =>
    if Text.isBlankText line then deeperLines margin (index + 1) rest
    else if indentOf line ≤ margin then []
    else index :: deeperLines margin (index + 1) rest

/-- The non-blank lines of the block that line `index` opens. -/
def blockBody (masked : List Line) (index : Nat) : List Nat :=
  match masked.drop index with
  | [] => []
  | header :: rest => deeperLines (indentOf header) (index + 1) rest

/-- The last line of the block that line `index` opens, itself when the block is empty. -/
def blockEnd (masked : List Line) (index : Nat) : Nat :=
  ((blockBody masked index).getLast?).getD index

/-- What follows the first colon outside brackets. -/
def afterColon (depth : Int) : Line → Line
  | [] => []
  | c :: rest =>
    if isOpening c then afterColon (depth + 1) rest
    else if isClosing c then afterColon (depth - 1) rest
    else if c == ':' && depth == 0 then rest
    else afterColon depth rest

/-- The statement on a block's header line after its colon. -/
def inlineBody (line : Line) : Line :=
  Text.strip (afterColon 0 line)

/-- How many brackets are open after some lines, a surplus of closing ones being forgotten line by line. -/
def openAfter (lines : List Line) : Int :=
  lines.foldl (fun depth line => max 0 (depth + bracketDelta line)) 0

/-- How many brackets are open where line `index` starts. -/
def depthBefore (masked : List Line) (index : Nat) : Int :=
  openAfter (masked.take index)

/-- The first line from `index` on where `depth` and the brackets so far come to nothing and `ends` holds, the last
line when there is none. -/
def closingLine (ends : Line → Bool) (depth : Int) (index : Nat) : List Line → Nat
  | [] => index - 1
  | line :: rest =>
    let depth := depth + bracketDelta line
    if depth ≤ 0 && ends line then index
    else closingLine ends depth (index + 1) rest

/-- The last line of the bracketed expression that line `index` is part of. -/
def bracketedEnd (masked : List Line) (index : Nat) : Nat :=
  closingLine (fun _ => true) (depthBefore masked index) index (masked.drop index)

/-- The last line of the statement that starts on line `index`. -/
def statementEnd (masked : List Line) (index : Nat) : Nat :=
  closingLine (fun line => !endsWithChar '\\' line) 0 index (masked.drop index)

/-- The blocks that are open, innermost first: the indentation of each header, and a mark. -/
abbrev OpenBlocks (α : Type) := List (Nat × α)

/-- The blocks that a line of that indentation is inside of. -/
def OpenBlocks.enclosing {α : Type} (blocks : OpenBlocks α) (indent : Nat) : OpenBlocks α :=
  blocks.dropWhile fun b => indent ≤ b.1

/-- Per line, whether it stands inside a block whose header is marked. -/
def insideMarked (isMarked : Line → Bool) : OpenBlocks Bool → List Line → List Bool
  | _, [] => []
  | blocks, line :: rest =>
    if Text.isBlankText line then
      blocks.any (·.2) :: insideMarked isMarked blocks rest
    else
      let blocks := blocks.enclosing (indentOf line)
      blocks.any (·.2) ::
        insideMarked isMarked
          (if endsWithChar ':' line then (indentOf line, isMarked line) :: blocks else blocks) rest

end CodeAudit.Source
