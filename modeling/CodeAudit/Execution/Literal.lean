import CodeAudit.Numeric.Number
import CodeAudit.Text.Quoted

/-!
Values that can be written into a Python program as literals.
-/

namespace CodeAudit

/-- A value with a literal. -/
inductive Literal where
  | none
  | bool (b : Bool)
  | number (n : Number)
  | text (s : List Char)
  | bytes (bs : List UInt8)
  | list (items : List Literal)
  | tuple (items : List Literal)
  | dict (entries : List (Literal × Literal))
deriving Inhabited

namespace Literal

/-- Pieces with a comma and a blank between each two. -/
def commaSeparated : List (List Char) → List Char
  | [] => []
  | [p] => p
  | p :: ps => p ++ ',' :: ' ' :: commaSeparated ps

mutual

/-- A value as Python writes it; a tuple of one has a comma after it. -/
def write : Literal → List Char
  | none => "None".toList
  | bool b => if b then "True".toList else "False".toList
  | number n => n.text.toList
  | text s => Text.quoted s
  | bytes bs => Text.quotedBytes bs
  | list items => '[' :: (commaSeparated (writeAll items) ++ [']'])
  | tuple [item] => '(' :: (write item ++ [',', ')'])
  | tuple items => '(' :: (commaSeparated (writeAll items) ++ [')'])
  | dict entries => '{' :: (commaSeparated (writeEntries entries) ++ ['}'])

def writeAll : List Literal → List (List Char)
  | [] => []
  | item :: rest => write item :: writeAll rest

def writeEntries : List (Literal × Literal) → List (List Char)
  | [] => []
  | (key, value) :: rest => (write key ++ ':' :: ' ' :: write value) :: writeEntries rest

end

def isNone : Literal → Bool
  | none => true
  | _ => false

end Literal

end CodeAudit
