import CodeAudit.Text.CharTable

/-!
Character classes: word characters, blanks, digits, letter case and printability, over all of Unicode.
-/

namespace CodeAudit.Text

/-- Membership in a table of ranges. -/
def inRanges (table : Array (Nat × Nat)) (c : Char) : Bool :=
  table.any fun r => r.1 ≤ c.toNat && c.toNat ≤ r.2

/-- Membership in a table of stepped ranges. -/
def inSteps (table : Array (Nat × Nat × Nat)) (c : Char) : Bool :=
  table.any fun (first, last, step) =>
    first ≤ c.toNat && c.toNat ≤ last && (c.toNat - first) % step == 0

/-- A letter or a number. -/
def isAlnum (c : Char) : Bool :=
  if c.toNat < 128 then c.isAlphanum else inRanges CharTable.word c

/-- A letter, a number or an underscore. -/
def isWord (c : Char) : Bool :=
  c == '_' || isAlnum c

/-- White space, the four information separators included. -/
def isBlank (c : Char) : Bool :=
  if c.toNat < 128 then c == ' ' || (9 ≤ c.toNat && c.toNat ≤ 13) || (28 ≤ c.toNat && c.toNat ≤ 31)
  else inRanges CharTable.blank c

/-- The value of a decimal digit of any script. -/
def decimalValue? (c : Char) : Option Nat :=
  if c.toNat < 128 then
    if c.isDigit then some (c.toNat - '0'.toNat) else none
  else
    (CharTable.decimal.find? fun r => r.1 ≤ c.toNat && c.toNat ≤ r.2).map fun r =>
      (c.toNat - r.1) % 10

/-- A decimal digit of any script. -/
def isDecimal (c : Char) : Bool :=
  (decimalValue? c).isSome

/-- A decimal digit, or a character such as a superscript that stands for a digit. -/
def isDigit (c : Char) : Bool :=
  isDecimal c || inRanges CharTable.otherDigit c

/-- Whether a character is shown as itself in quoted text; of the blanks only the space is. -/
def isPrintable (c : Char) : Bool :=
  if c.toNat < 128 then 32 ≤ c.toNat && c.toNat < 127 else !inRanges CharTable.unprintable c

def isUpper (c : Char) : Bool :=
  if c.toNat < 128 then c.isUpper else inSteps CharTable.upper c

/-- A letter whose case is not upper: a lower-case or a title-case one. -/
def isLowerOrTitle (c : Char) : Bool :=
  if c.toNat < 128 then c.isLower else inSteps CharTable.lower c || inRanges CharTable.title c

/-- The first letter of an identifier: an ASCII letter or an underscore. -/
def isNameStart (c : Char) : Bool :=
  c.isAlpha || c == '_'

private def shifted (table : Array (Nat × Nat × Nat × Int)) (c : Char) : Char :=
  match table.find? fun (first, last, step, _) =>
      first ≤ c.toNat && c.toNat ≤ last && (c.toNat - first) % step == 0 with
  | some (_, _, _, shift) => Char.ofNat ((c.toNat : Int) + shift).toNat
  | none => c

/-- The lower-case form of one character; only the dotted capital I needs two. -/
def lowerChar (c : Char) : List Char :=
  if c.toNat < 128 then [c.toLower]
  else if c == '\u0130' then ['i', '\u0307']
  else [shifted CharTable.toLower c]

/-- The upper-case form of one character, such as two letters for the sharp s. -/
def upperChar (c : Char) : List Char :=
  if c.toNat < 128 then [c.toUpper]
  else match CharTable.toUpperMany.find? (·.1 == c.toNat) with
    | some (_, letters) => letters.map Char.ofNat
    | none => [shifted CharTable.toUpper c]

/-- A mark, a modifier or joining punctuation: it does not part the letters of a word. -/
def isIgnorable (c : Char) : Bool :=
  if c.toNat < 128 then c == '\'' || c == '.' || c == ':' || c == '^' || c == '\x60'
  else inRanges CharTable.ignorable c

/-- A letter that has a case. -/
def isCased (c : Char) : Bool :=
  isUpper c || isLowerOrTitle c

/-- Whether the text goes on with a cased letter, whatever is ignored before it. -/
def meetsCased (s : List Char) : Bool :=
  (s.dropWhile isIgnorable).head?.any isCased

/-- Lower case after the characters `before`, the nearest first. A capital sigma that ends a word becomes a final
one. -/
def lowerAfter (before : List Char) : List Char → List Char
  | [] => []
  | c :: rest =>
    let lowered :=
      if c == '\u03a3' then if meetsCased before && !meetsCased rest then ['\u03c2'] else ['\u03c3']
      else lowerChar c
    lowered ++ lowerAfter (c :: before) rest

/-- Lower case. -/
def lower (s : List Char) : List Char :=
  lowerAfter [] s

/-- Upper case, character by character. -/
def upper (s : List Char) : List Char :=
  s.flatMap upperChar

/-- Whether a text has an upper-case letter and no letter of another case. -/
def allUpper (s : List Char) : Bool :=
  s.any isUpper && !s.any isLowerOrTitle

end CodeAudit.Text
