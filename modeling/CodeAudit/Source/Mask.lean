import CodeAudit.Text.Lines

/-!
The mask of a program text: string contents and comments become blanks, all else keeps its place.
-/

namespace CodeAudit.Source

/-- Where the scan of a program text stands. -/
inductive Mode where
  /-- In code, with whether the last character belongs to a word. -/
  | code (afterWord : Bool)
  /-- Before the second letter of a string's leading letters. -/
  | leadingLetter
  | comment
  /-- Before so many more quotes that open a string of three quotes. -/
  | opening (quote : Char) (left : Nat)
  | inside (quote : Char) (long : Bool)
  /-- Before a character that a backslash escapes. -/
  | escaped (quote : Char) (long : Bool)
  /-- Before so many more quotes that close a string of three quotes. -/
  | closing (left : Nat)
deriving DecidableEq, Inhabited

namespace Mask

def isQuote (c : Char) : Bool :=
  c == '"' || c == '\''

/-- The letters that may stand in front of a string. -/
def isLeading (c : Char) : Bool :=
  c == 'r' || c == 'b' || c == 'f' || c == 'u' || c == 'R' || c == 'B' || c == 'F' || c == 'U'

/-- Whether the text goes on with two more of the same quote. -/
def twoMore (quote : Char) : List Char → Bool
  | a :: b :: _ => a == quote && b == quote
  | _ => false

/-- The masked character and the next mode, by the mode, the character and those after it. -/
def step : Mode → Char → List Char → Char × Mode
  | .code afterWord, c, rest =>
    if c == '#' then (' ', .comment)
    else if isQuote c then
      (c, if twoMore c rest then .opening c 2 else .inside c false)
    else if !afterWord && isLeading c then
      match rest with
      | q :: more =>
        if isQuote q then (' ', .code true)
        else if isLeading q && more.head?.any isQuote then (' ', .leadingLetter)
        else (c, .code true)
      | [] => (c, .code true)
    else (c, .code (Text.isWord c))
  | .leadingLetter, _, _ => (' ', .code true)
  | .comment, c, _ => if c == '\n' then (c, .code false) else (' ', .comment)
  | .opening quote left, c, _ =>
    (c, if left ≤ 1 then .inside quote true else .opening quote (left - 1))
  | .inside quote long, c, rest =>
    if c == '\\' && !rest.isEmpty then (' ', .escaped quote long)
    else if c == quote && (!long || twoMore quote rest) then
      (c, if long then .closing 2 else .code false)
    else if c == '\n' then (c, if long then .inside quote long else .code false)
    else (' ', .inside quote long)
  | .escaped quote long, c, _ => (if c == '\n' then c else ' ', .inside quote long)
  | .closing left, c, _ => (c, if left ≤ 1 then .code false else .closing (left - 1))

/-- The masked text after a mode. -/
def blanked (mode : Mode) : List Char → List Char
  | [] => []
  | c :: rest =>
    let (m, next) := step mode c rest
    m :: blanked next rest

/-- The mode in which the scan of a text ends. -/
def modeAfter (mode : Mode) : List Char → Mode
  | [] => mode
  | c :: rest => modeAfter (step mode c rest).2 rest

/-- The masked text in reverse before `done`, built in one pass. -/
def blankedOnto (mode : Mode) (done : List Char) : List Char → List Char
  | [] => done
  | c :: rest =>
    let (m, next) := step mode c rest
    blankedOnto next (m :: done) rest

theorem blankedOnto_eq (mode : Mode) (done s : List Char) :
    blankedOnto mode done s = (blanked mode s).reverse ++ done := by
  induction s generalizing mode done with
  | nil => rfl
  | cons c rest ih => simp [blankedOnto, blanked, ih]

/-- A mask has one character for each one of the text. -/
@[simp] theorem length_blanked (mode : Mode) (s : List Char) :
    (blanked mode s).length = s.length := by
  induction s generalizing mode with
  | nil => rfl
  | cons c rest ih => simp [blanked, ih]

end Mask

/-- The mask of a program text. -/
def maskText (code : List Char) : List Char :=
  (Mask.blankedOnto (.code false) [] code).reverse

theorem maskText_eq (code : List Char) : maskText code = Mask.blanked (.code false) code := by
  simp [maskText, Mask.blankedOnto_eq]

/-- The lines of the mask. -/
def maskLines (code : List Char) : List (List Char) :=
  Text.lines (maskText code)

end CodeAudit.Source
