import CodeAudit.Rule.Basic

/-!
Rules on types and structures: mixed operands, methods that a value lacks, large indices and unchecked keys.
-/

namespace CodeAudit.Rule

open Regex
open Source (ValueKind)

namespace Mapping

/-- A quoted text without its quote or a line feed inside. -/
def quotedBy (q : Char) : Regex :=
  one (· == q) ++ many (fun c => c != q && c != '\n') ++ one (· == q)

/-- A number, a plain name or a quoted text that stands alone. -/
def operand : Regex :=
  anyOf [
    notAfter isDotted ++ ValueKind.digits ++ ValueKind.fraction ++ notAhead (one isDotted),
    notAfter isDotted ++ Regex.name ++ notAhead (one fun c => isDotted c || c == '(' || c == '['),
    quotedBy '"',
    quotedBy '\'']

/-- An unsigned number. -/
def number : Regex :=
  ValueKind.digits ++ ValueKind.fraction ++ stop

/-- The kind of an operand, when it is a number or a string. -/
def operandKind? (text : List Char) (src : Source) (index : Nat) : Option ValueKind :=
  let s := Text.strip text
  if s.head?.any fun c => c == '\'' || c == '"' then some .string
  else if number.startsText s then some .number
  else
    match src.kindBefore? s index with
    | some .number => some .number
    | some .string => some .string
    | _ => none

def mixedOperands : Rule where
  id := "type_mismatch_string_number"
  name := "String/number type mismatch"
  subkind := .dataCompliance
  severity := .high
  confidence := .of 0.9
  expression := group "left" operand ++ blanks ++ "+" ++ blanks ++ group "right" operand
  evidence m src index :=
    match operandKind? (m.group "left") src index, operandKind? (m.group "right") src index with
    | some .number, some .string | some .string, some .number =>
      .ok [s!"Type mismatch detected: '{rawLabel m src index}' adds a number and a string"]
    | _, _ => .ok []
  suggestedFix := "Convert operands explicitly, e.g. str(number) + text or int(text) + number"
  description := "Adds a number to a string, which raises TypeError at runtime"

/-- Methods that numbers have. -/
def numberMethods : List String :=
  ["bit_length", "bit_count", "to_bytes", "from_bytes", "conjugate", "as_integer_ratio",
    "is_integer", "hex", "fromhex"]

/-- Methods that containers have and strings lack. -/
def containerMethods : List String :=
  ["append", "extend", "insert", "pop", "remove", "keys", "values", "items", "update", "sort",
    "reverse", "clear", "add", "discard", "setdefault", "popitem"]

def invalidMethod : Rule where
  id := "invalid_method_on_primitive"
  name := "Method call on primitive"
  subkind := .dataCompliance
  severity := .high
  confidence := .of 0.85
  expression :=
    notAfter isDotted ++ group "name" Regex.name ++ "." ++ group "method" Regex.name ++ blanks ++ "("
  evidence m src index :=
    let name := label m "name"
    let method := label m "method"
    match src.kindBefore? (m.group "name") index with
    | some .number =>
      if numberMethods.contains method || method.startsWith "__" then .ok []
      else .ok [s!"Invalid method call: '{method}' does not exist on number '{name}'"]
    | some .string =>
      if containerMethods.contains method then
        .ok [s!"Invalid method call: '{method}' does not exist on string '{name}'"]
      else .ok []
    | _ => .ok []
  suggestedFix := "Check the variable's type; use a list or dict when container methods are needed"
  description := "Calls a method that the variable's type does not provide"

/-- The least index that counts as large. -/
def largeIndex : Nat := 100

def hardcodedIndex : Rule where
  id := "hardcoded_large_index"
  name := "Hardcoded large index"
  subkind := .structureAccess
  severity := .medium
  confidence := .of 0.7
  expression :=
    notAfter isDotted ++ group "name" Regex.name ++ "[" ++
      group "index" (optional "-" ++ many1 Text.isDecimal) ++ "]"
  evidence m src index := do
    let name := label m "name"
    let position ← Reading.whole (m.group "index")
    if position.natAbs < largeIndex || src.kindBefore? (m.group "name") index == some .dict then
      return []
    else
      return [s!"Potential index out of bounds: {name}[{position}] uses a hardcoded large index"]
  suggestedFix := "Check len() before indexing or iterate over the sequence instead"
  description := "Indexes a sequence at a hardcoded position that is likely out of range"

/-- A key in quotes of either kind. -/
def quotedKey (key : List Char) : Regex :=
  let quote := one fun c => c == '"' || c == '\''
  quote ++ text (String.ofList key) ++ quote

/-- A key in quotes with a colon after it. -/
def declaredKey (key : List Char) : Regex :=
  quotedKey key ++ blanks ++ ":"

/-- A test for a key, a store under it, or a call that may add it. -/
def checkedKey (name key : List Char) : Regex :=
  let name := text (String.ofList name)
  anyOf [
    quotedKey key ++ gap ++ optional ("not" ++ gap) ++ "in" ++ gap ++ name ++ border,
    border ++ name ++ blanks ++ "[" ++ blanks ++ quotedKey key ++ blanks ++ "]" ++ blanks ++
      Source.Bindings.assignSign,
    border ++ name ++ "." ++ oneOf ["setdefault", "update"] ++ blanks ++ "("]

def isHandlerChar (c : Char) : Bool :=
  Text.isWord c || Text.isBlank c || c == ','

/-- A handler for a missing key, or for everything. -/
def keyHandler : Regex :=
  border ++ "except" ++ blanks ++
    ((optional "(" ++ many isHandlerChar ++ border ++ "KeyError" ++ border) <|> ":")

/-- How many lines from the access on are searched for a handler. -/
def handlerReach : Nat := 10

/-- Whether the lines between the assignment of a dictionary and an access to it declare or check the key. -/
def isKeyKnown (src : Source) (name key : List Char) (index : Nat) : Bool :=
  let assigned := ((src.assignmentBefore? name index).map (·.line)).getD 0
  let last := Source.statementEnd src.masked assigned
  let declared := declaredKey key
  let checked := checkedKey name key
  (List.range (index - assigned)).any fun k =>
    let i := assigned + k
    let raw := src.line i
    (i ≤ last && declared.occursIn raw) || checked.occursIn raw

def uncheckedKey : Rule where
  id := "unchecked_dict_access"
  name := "Unchecked dictionary key access"
  subkind := .structureAccess
  severity := .medium
  confidence := .of 0.7
  expression :=
    notAfter isDotted ++ group "name" Regex.name ++ "[" ++
      group "key" (quotedBy '"' <|> quotedBy '\'') ++ "]" ++
      notAhead (blanks ++ Source.Bindings.assignSign)
  evidence m src index :=
    let name := m.group "name"
    if src.kindBefore? name index != some .dict then .ok []
    else
      let key := ((rawText m src index).drop (name.length + 1)).dropLast
      let keyText := (key.drop 1).dropLast
      if isKeyKnown src name keyText index then .ok []
      else if keyHandler.occursIn (Text.joinLines ((src.masked.drop index).take handlerReach)) then .ok []
      else
        let access := String.ofList (name ++ '[' :: key ++ [']'])
        .ok [s!"Unchecked dictionary key access: {access} may raise KeyError"]
  suggestedFix := "Use dict.get(key, default) or test 'key in mapping' first"
  description := "Reads a dictionary key that is neither declared nor checked"

end Mapping

end CodeAudit.Rule
