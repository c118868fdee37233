import CodeAudit.Json.Basic

/-!
Reading of JSON text, with the names for infinities and for no number that scientific writers leave.
-/

namespace CodeAudit.Json

/-- Why a text is refused. -/
inductive Refusal where
  | malformed
  /-- Too many arrays or objects inside each other, with what the innermost is. -/
  | tooDeep (container : String)
deriving DecidableEq

/-- The nesting at which a reader gives up. -/
def maxDepth : Nat := 980

/-- The most digits of a whole number. -/
def maxDigits : Nat := 4300

namespace Reader

def isSpace (c : Char) : Bool :=
  c == ' ' || c == '\t' || c == '\n' || c == '\r'

def skip (s : List Char) : List Char :=
  s.dropWhile isSpace

def hexValue? (c : Char) : Option Nat :=
  if '0' ≤ c && c ≤ '9' then some (c.toNat - '0'.toNat)
  else if 'a' ≤ c && c ≤ 'f' then some (c.toNat - 'a'.toNat + 10)
  else if 'A' ≤ c && c ≤ 'F' then some (c.toNat - 'A'.toNat + 10)
  else none

/-- The four hexadecimal digits of an escape. -/
def unit? : List Char → Option (Nat × List Char)
  | a :: b :: c :: d :: rest => do
    let a ← hexValue? a
    let b ← hexValue? b
    let c ← hexValue? c
    let d ← hexValue? d
    some (((a * 16 + b) * 16 + c) * 16 + d, rest)
  | _ => none

def simpleEscape? : Char → Option Char
  | '"' => some '"'
  | '\\' => some '\\'
  | '/' => some '/'
  | 'b' => some '\x08'
  | 'f' => some '\x0c'
  | 'n' => some '\n'
  | 'r' => some '\r'
  | 't' => some '\t'
  | _ => none

/-- The character of a hexadecimal escape and of the second half that may follow it. -/
def escaped? (s : List Char) : Option (Char × List Char) := do
  let (high, rest) ← unit? s
  if 0xd800 ≤ high && high < 0xdc00 then
    match rest with
    | '\\' :: 'u' :: more =>
      match unit? more with
      | some (low, rest') =>
        if 0xdc00 ≤ low && low < 0xe000 then
          some (Char.ofNat (0x10000 + (high - 0xd800) * 0x400 + (low - 0xdc00)), rest')
        else some ('\ufffd', rest)
      | none => some ('\ufffd', rest)
    | _ => some ('\ufffd', rest)
  else if 0xdc00 ≤ high && high < 0xe000 then some ('\ufffd', rest)
  else some (Char.ofNat high, rest)

/-- The rest of a string after its opening quote. -/
def string : Nat → List Char → List Char → Except Refusal (String × List Char)
  | 0, _, _ => .error .malformed
  | fuel + 1, done, s =>
    match s with
    | [] => .error .malformed
    | '"' :: rest => .ok (String.ofList done.reverse, rest)
    | '\\' :: 'u' :: rest =>
      match escaped? rest with
      | some (c, rest) => string fuel (c :: done) rest
      | none => .error .malformed
    | '\\' :: c :: rest =>
      match simpleEscape? c with
      | some e => string fuel (e :: done) rest
      | none => .error .malformed
    | c :: rest => if c.toNat < 32 then .error .malformed else string fuel (c :: done) rest

/-- The value of a run of ASCII digits. -/
def natOf (ds : List Char) : Nat :=
  ds.foldl (fun n c => n * 10 + (c.toNat - '0'.toNat)) 0

def isAsciiDigit (c : Char) : Bool :=
  '0' ≤ c && c ≤ '9'

/-- The digits of an exponent with its sign, when the text goes on with one. -/
def exponent? : List Char → Option (Int × List Char)
  | e :: rest =>
    if e == 'e' || e == 'E' then
      let (negative, rest) := match rest with
        | '-' :: r => (true, r)
        | '+' :: r => (false, r)
        | r => (false, r)
      let ds := rest.takeWhile isAsciiDigit
      if ds.isEmpty then none
      else
        let n : Int := natOf ds
        some (if negative then -n else n, rest.dropWhile isAsciiDigit)
    else none
  | [] => none

/-- An unsigned number. -/
def magnitude (negative : Bool) (s : List Char) : Except Refusal (Json × List Char) :=
  let whole := match s with
    | '0' :: _ => ['0']
    | _ => s.takeWhile isAsciiDigit
  if whole.isEmpty then .error .malformed
  else
    let rest := s.drop whole.length
    let (fraction, rest) := match rest with
      | '.' :: more =>
        let ds := more.takeWhile isAsciiDigit
        if ds.isEmpty then ([], rest) else (ds, more.drop ds.length)
      | _ => ([], rest)
    match exponent? rest, fraction with
    | none, [] =>
      if maxDigits < whole.length then .error .malformed
      else
        let n : Int := natOf whole
        .ok (.number (.int (if negative then -n else n)), rest)
    | exponent, fraction =>
      let (e, rest) := exponent.getD (0, rest)
      let m := natOf (whole ++ fraction)
      .ok (.number (.double (Decimal.toDouble negative m (e - fraction.length))), rest)

/-- What follows a fixed word. -/
def word? (w : String) (s : List Char) : Option (List Char) :=
  if w.toList.isPrefixOf s then some (s.drop w.length) else none

/-- A value that is neither text, array nor object. -/
def atom (s : List Char) : Except Refusal (Json × List Char) :=
  let words : List (String × Json) := [
    ("null", .null), ("true", .bool true), ("false", .bool false),
    ("NaN", .number (.double .nan)),
    ("Infinity", .number (.double (.infinite false))),
    ("-Infinity", .number (.double (.infinite true)))]
  match words.findSome? fun (w, j) => (word? w s).map fun rest => (j, rest) with
  | some r => .ok r
  | none =>
    match s with
    | '-' :: rest => magnitude true rest
    | _ => magnitude false s

mutual

def value : Nat → Nat → List Char → Except Refusal (Json × List Char)
  | 0, _, _ => .error .malformed
  | fuel + 1, depth, s =>
    match s with
    | '"' :: rest => do
      let (t, rest) ← string (rest.length + 1) [] rest
      .ok (.string t, rest)
    | '[' :: rest =>
      match depth with
      | 0 => .error (.tooDeep "array")
      | depth + 1 =>
        match skip rest with
        | ']' :: rest => .ok (.array [], rest)
        | rest => items fuel depth [] rest
    | '{' :: rest =>
      match depth with
      | 0 => .error (.tooDeep "object")
      | depth + 1 =>
        match skip rest with
        | '}' :: rest => .ok (.object [], rest)
        | rest => members fuel depth [] rest
    | _ => atom s

def items : Nat → Nat → List Json → List Char → Except Refusal (Json × List Char)
  | 0, _, _, _ => .error .malformed
  | fuel + 1, depth, done, s => do
    let (j, rest) ← value fuel depth s
    match skip rest with
    | ',' :: rest => items fuel depth (j :: done) (skip rest)
    | ']' :: rest => .ok (.array (j :: done).reverse, rest)
    | _ => .error .malformed

def members : Nat → Nat → List (String × Json) → List Char → Except Refusal (Json × List Char)
  | 0, _, _, _ => .error .malformed
  | fuel + 1, depth, done, s =>
    match s with
    | '"' :: rest => do
      let (key, rest) ← string (rest.length + 1) [] rest
      match skip rest with
      | ':' :: rest =>
        let (j, rest) ← value fuel depth (skip rest)
        match skip rest with
        | ',' :: rest => members fuel depth ((key, j) :: done) (skip rest)
        | '}' :: rest => .ok (.object ((key, j) :: done).reverse, rest)
        | _ => .error .malformed
      | _ => .error .malformed
    | _ => .error .malformed

end

end Reader

/-- The value that a text writes. -/
def read (s : String) : Except Refusal Json := do
  let cs := s.toList
  let (j, rest) ← Reader.value (2 * cs.length + 2) maxDepth (Reader.skip cs)
  if (Reader.skip rest).isEmpty then .ok j else .error .malformed

end CodeAudit.Json
