import CodeAudit.Json.Basic

/-!
Writing of JSON values in ASCII, on one line or indented.
-/

namespace CodeAudit.Json

namespace Writer

def hexDigit (n : Nat) : Char :=
  Nat.digitChar n

def unitText (n : Nat) : List Char :=
  ['\\', 'u', hexDigit (n / 4096 % 16), hexDigit (n / 256 % 16), hexDigit (n / 16 % 16), hexDigit (n % 16)]

/-- One character of a string; what is not ASCII is written as one or two escapes. -/
def charText (c : Char) : List Char :=
  match c with
  | '"' => ['\\', '"']
  | '\\' => ['\\', '\\']
  | '\n' => ['\\', 'n']
  | '\r' => ['\\', 'r']
  | '\t' => ['\\', 't']
  | '\x08' => ['\\', 'b']
  | '\x0c' => ['\\', 'f']
  | c =>
    let n := c.toNat
    if 32 ≤ n && n < 127 then [c]
    else if n < 0x10000 then unitText n
    else unitText (0xd800 + (n - 0x10000) / 0x400) ++ unitText (0xdc00 + (n - 0x10000) % 0x400)

def stringText (s : String) : String :=
  "\"" ++ s.foldl (fun out c => (charText c).foldl String.push out) "" ++ "\""

def numberText : Number → String
  | .double .nan => "NaN"
  | .double (.infinite negative) => if negative then "-Infinity" else "Infinity"
  | n => n.text

end Writer

mutual

/-- The text of a value on one line, with a blank after each comma and colon. -/
def compact : Json → String
  | .null => "null"
  | .bool b => if b then "true" else "false"
  | .number n => Writer.numberText n
  | .string s => Writer.stringText s
  | .array items => "[" ++ String.intercalate ", " (compactItems items) ++ "]"
  | .object members => "\x7b" ++ String.intercalate ", " (compactMembers members) ++ "\x7d"

def compactItems : List Json → List String
  | [] => []
  | j :: js => compact j :: compactItems js

def compactMembers : List (String × Json) → List String
  | [] => []
  | (key, j) :: rest => (Writer.stringText key ++ ": " ++ compact j) :: compactMembers rest

end

mutual

/-- The text of a value with each member on a line of its own, indented by two blanks a level. -/
def indented (margin : String) : Json → String
  | .array items =>
    if items.isEmpty then "[]"
    else
      let inner := margin ++ "  "
      "[\n" ++ inner ++ String.intercalate (",\n" ++ inner) (indentedItems inner items) ++
        "\n" ++ margin ++ "]"
  | .object members =>
    if members.isEmpty then "\x7b\x7d"
    else
      let inner := margin ++ "  "
      "\x7b\n" ++ inner ++ String.intercalate (",\n" ++ inner) (indentedMembers inner members) ++
        "\n" ++ margin ++ "\x7d"
  | j => compact j

def indentedItems (margin : String) : List Json → List String
  | [] => []
  | j :: js => indented margin j :: indentedItems margin js

def indentedMembers (margin : String) : List (String × Json) → List String
  | [] => []
  | (key, j) :: rest =>
    (Writer.stringText key ++ ": " ++ indented margin j) :: indentedMembers margin rest

end

end CodeAudit.Json
