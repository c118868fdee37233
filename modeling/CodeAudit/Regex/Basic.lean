import CodeAudit.Text.CharClass

/-!
Match expressions as data: character classes, sequence, ordered choice, repetition, named groups and the
conditions on what stands around a position.
-/

namespace CodeAudit

/-- A match expression. Choices are ordered: what comes first is tried first. -/
inductive Regex where
  /-- The empty text. -/
  | empty
  /-- One character of a class. -/
  | one (p : Char → Bool)
  /-- A run of characters of a class, tried from the longest, or from the shortest when lazy. -/
  | run (p : Char → Bool) (lazy : Bool)
  | seq (r s : Regex)
  | alt (r s : Regex)
  /-- As many rounds as possible, each of which moves on. -/
  | rounds (r : Regex)
  | group (name : String) (r : Regex)
  /-- The text of an earlier group again. -/
  | again (name : String)
  /-- The start of the text. -/
  | start
  /-- The end of the text, or the place before a line feed that ends it. -/
  | stop
  /-- The border between a word character and another one or an end. -/
  | border
  /-- The character before is not of the class. -/
  | notAfter (p : Char → Bool)
  /-- The expression does not match from here. -/
  | notAhead (r : Regex)
deriving Inhabited

namespace Regex

instance : Append Regex := ⟨seq⟩
instance : OrElse Regex := ⟨fun r s => alt r (s ())⟩

/-- A fixed text. -/
def text (s : String) : Regex :=
  s.toList.foldr (fun c r => seq (one (· == c)) r) empty

instance : Coe String Regex := ⟨text⟩

/-- The first of several expressions that lets the rest match. -/
def anyOf : List Regex → Regex
  | [] => one fun _ => false
  | [r] => r
  | r :: rs => alt r (anyOf rs)

/-- One of several fixed texts. -/
def oneOf (words : List String) : Regex :=
  anyOf (words.map text)

def optional (r : Regex) : Regex :=
  alt r empty

/-- Any characters of a class, as many as possible. -/
def many (p : Char → Bool) : Regex :=
  run p false

/-- At least one character of a class. -/
def many1 (p : Char → Bool) : Regex :=
  seq (one p) (run p false)

/-- Blanks, if any. -/
def blanks : Regex := many Text.isBlank

/-- At least one blank. -/
def gap : Regex := many1 Text.isBlank

/-- Any character but a line feed. -/
def notLineFeed (c : Char) : Bool := c != '\n'

/-- Word characters and points. -/
def isDotted (c : Char) : Bool := Text.isWord c || c == '.'

/-- An identifier that starts with an ASCII letter or an underscore. -/
def name : Regex := one Text.isNameStart ++ many Text.isWord

end Regex

end CodeAudit
