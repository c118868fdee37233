import CodeAudit.Text.Lines
import CodeAudit.Text.Quoted
import CodeAudit.Text.Utf8

/-!
Settings documents: sections of named options, comments at `#` and `;`, values that go on over indented lines.
Names of options have no letter case, and the options of the default section hold in every other one.
-/

namespace CodeAudit.Settings

/-- Options with their values in the order in which they were given. -/
abbrev Entries (α : Type) := List (List Char × α)

/-- A settings document: the options of each section. -/
structure Document where
  sections : List (List Char × Entries (List Char)) := []
deriving DecidableEq, Inhabited

/-- The section whose options hold in every section. -/
def defaultName : List Char := "DEFAULT".toList

namespace Document

def find? (d : Document) (name : List Char) : Option (Entries (List Char)) :=
  (d.sections.find? (·.1 == name)).map (·.2)

def defaults (d : Document) : Entries (List Char) :=
  (d.find? defaultName).getD []

/-- The options that hold in a section, its own ones first; none if there is no such section. -/
def options? (d : Document) (name : List Char) : Option (Entries (List Char)) :=
  if name = defaultName then some d.defaults
  else
    (d.find? name).map fun own =>
      own ++ d.defaults.filter fun (key, _) => !own.any (·.1 == key)

/-- The value of an option among others. -/
def value? (options : Entries (List Char)) (key : List Char) : Option (List Char) :=
  (options.find? (·.1 == key)).map (·.2)

end Document

/-- Why a text is no settings document. Lines count from one. -/
inductive DocumentFault where
  /-- A line before the first section. -/
  | noHeader (line : Nat) (text : List Char)
  | repeatedSection (line : Nat) (name : List Char)
  | repeatedOption (line : Nat) (sectionName option : List Char)
  /-- Lines that are neither section nor option. -/
  | unreadable (lines : List (Nat × List Char))
deriving DecidableEq

namespace DocumentFault

def shown (s : List Char) : String :=
  String.ofList (Text.quoted s)

/-- A line number with at least two places. -/
def lineNumber (n : Nat) : String :=
  if n < 10 then s!" {n}" else toString n

/-- The message on a document that was read from the source of that name. -/
def message (source : String) : DocumentFault → String
  | noHeader line text =>
    s!"File contains no section headers.\nfile: {source}, line: {line}\n{shown text}"
  | repeatedSection line name =>
    s!"While reading from {source} [line {lineNumber line}]: section {shown name} already exists"
  | repeatedOption line sectionName option =>
    s!"While reading from {source} [line {lineNumber line}]: " ++
      s!"option {shown option} in section {shown sectionName} already exists"
  | unreadable lines =>
    s!"Source contains parsing errors: {source}" ++
      String.join (lines.map fun (n, text) => s!"\n\t[line {lineNumber n}]: {shown text}")

end DocumentFault

namespace Document

def isCommentSign (c : Char) : Bool :=
  c == '#' || c == ';'

/-- Where a sign stands in a line, each place with whether a comment may begin there: at the start of the line or
after a blank. -/
def places (sign : Char) (line : List Char) : List (Nat × Bool) :=
  ((' ' :: line).zip line).zipIdx.filterMap fun ((before, c), k) =>
    if c == sign then some (k, Text.isBlank before) else none

/-- Where a comment begins after the value of a line. The signs are looked at in rounds, the first `;` with the first
`#`, then the second ones and so on; in the first round with a comment the earlier one counts. -/
def commentStart? (line : List Char) : Option Nat :=
  let semicolons := places ';' line
  let hashes := places '#' line
  (List.range line.length).findSome? fun round =>
    ((([semicolons[round]?, hashes[round]?].filterMap id).filter (·.2)).map (·.1)).min?

/-- What a line says and whether it has a comment. -/
def content (line : List Char) : List Char × Bool :=
  match Text.strip line with
  | c :: _ =>
    if isCommentSign c then ([], true)
    else match commentStart? line with
      | some k => (Text.strip (line.take k), true)
      | none => (Text.strip line, false)
  | [] => ([], false)

/-- The name in a section header: all between the first bracket and the last closing one. -/
def headerName? (value : List Char) : Option (List Char) :=
  match value with
  | '[' :: rest =>
    match rest.reverse.dropWhile (· != ']') with
    | _ :: name => if name.isEmpty then none else some name.reverse
    | [] => none
  | _ => none

def isDelimiter (c : Char) : Bool :=
  c == '=' || c == ':'

/-- An option's name and value at the first delimiter. -/
def option? (value : List Char) : Option (List Char × List Char) :=
  match value.dropWhile (!isDelimiter ·) with
  | _ :: text =>
    some (Text.lower (Text.stripRight (value.takeWhile (!isDelimiter ·))), Text.strip text)
  | [] => none

/-- A document on the way: values are lists of lines, the last line first. -/
structure Draft where
  sections : List (List Char × Entries (List (List Char))) := []
  /-- The section that options go to. -/
  current : Option (List Char) := none
  /-- The option that indented lines go on with; an empty name is none. -/
  key : List Char := []
  /-- The indentation of the last line that was not indented further. -/
  indent : Nat := 0
  unreadable : List (Nat × List Char) := []
deriving Inhabited

namespace Draft

def isOpen (d : Draft) : Bool :=
  d.current.isSome && !d.key.isEmpty

/-- The draft with the options of the current section changed. -/
def change (d : Draft) (f : Entries (List (List Char)) → Entries (List (List Char))) : Draft :=
  { d with sections := d.sections.map fun (name, options) =>
      if d.current = some name then (name, f options) else (name, options) }

/-- One more line for the open option. -/
def continued (d : Draft) (line : List Char) : Draft :=
  d.change fun options => options.map fun (key, lines) =>
    if key = d.key then (key, line :: lines) else (key, lines)

/-- The options of the current section. -/
def currentOptions (d : Draft) : Entries (List (List Char)) :=
  ((d.sections.find? fun s => d.current = some s.1).map (·.2)).getD []

/-- A section begins; only the default one may begin again. -/
def opened (d : Draft) (line : Nat) (name : List Char) : Except DocumentFault Draft :=
  let known := d.sections.any (·.1 == name)
  if known && name != defaultName then .error (.repeatedSection line name)
  else
    .ok { d with
      sections := if known then d.sections else d.sections ++ [(name, [])]
      current := some name
      key := [] }

/-- One more option of the section; one without a name is unreadable. -/
def added (d : Draft) (line : Nat) (sectionName text key value : List Char) : Except DocumentFault Draft :=
  if d.currentOptions.any (·.1 == key) then .error (.repeatedOption line sectionName key)
  else
    let d := { d with
      key := key
      unreadable := if key.isEmpty then d.unreadable ++ [(line, text)] else d.unreadable }
    .ok (d.change (· ++ [(key, [value])]))

/-- The draft after a line that says something. -/
def said (d : Draft) (line : Nat) (text value : List Char) : Except DocumentFault Draft :=
  let indent := (text.takeWhile Text.isBlank).length
  if d.isOpen && d.indent < indent then .ok (d.continued value)
  else
    let d := { d with indent := indent }
    match headerName? value, d.current, option? value with
    | some name, _, _ => d.opened line name
    | none, none, _ => .error (.noHeader line text)
    | none, some sectionName, some (key, value) => d.added line sectionName text key value
    | none, some _, none => .ok { d with unreadable := d.unreadable ++ [(line, text)] }

/-- The draft after one more line; an empty one without a comment belongs to the open option. -/
def read (d : Draft) (line : Nat) (text : List Char) : Except DocumentFault Draft :=
  let (value, hasComment) := content text
  if !value.isEmpty then d.said line text value
  else if d.isOpen && !hasComment then .ok (d.continued [])
  else .ok d

/-- The document that a draft makes when all lines are read. -/
def finish (d : Draft) : Except DocumentFault Document :=
  if d.unreadable.isEmpty then
    .ok ⟨d.sections.map fun (name, options) =>
      (name, options.map fun (key, lines) => (key, Text.stripRight (Text.joinLines lines.reverse)))⟩
  else .error (.unreadable d.unreadable)

end Draft

/-- The draft of some lines with their line feeds. -/
def Draft.ofLines (lines : List (List Char)) : Except DocumentFault Draft :=
  lines.zipIdx.foldlM (fun (d : Draft) (line, k) => d.read (k + 1) line) {}

/-- The document that a text writes. -/
def ofText (text : List Char) : Except DocumentFault Document := do
  (← Draft.ofLines (Text.closedLines (Text.unifyLineEnds text))).finish

end Document

/-- Why bytes are no settings document. -/
inductive SourceFault where
  | encoding (fault : Text.Utf8.Fault)
  | document (fault : DocumentFault)
deriving DecidableEq

namespace Document

/-- The whole lines of some bytes. -/
def wholeLines (bytes : List UInt8) : List (List Char) :=
  match Text.Utf8.decode (bytes.reverse.dropWhile (· != 10)).reverse with
  | .ok text => Text.closedLines (Text.unifyLineEnds text)
  | .error _ => []

/-- Whether bytes might yet become characters if more of them came: they end within one, or after the first two bytes
of half a pair. -/
def isUnfinished (bytes : List UInt8) (fault : Text.Utf8.Fault) : Bool :=
  fault.reason == .ended ||
    (fault.byte == 0xed && fault.place + 2 == bytes.length &&
      bytes.getLast?.any fun b => 0xa0 ≤ b && b ≤ 0xbf)

/-- The document that bytes write. Unfinished bytes are noticed after the lines before them, and their place is counted
from where the character begins. -/
def ofBytes (bytes : List UInt8) : Except SourceFault Document :=
  match Text.Utf8.decode bytes with
  | .ok text => (ofText text).mapError .document
  | .error fault =>
    if isUnfinished bytes fault then
      match Draft.ofLines (wholeLines bytes) with
      | .error early => .error (.document early)
      | .ok _ => .error (.encoding { fault with place := 0 })
    else .error (.encoding fault)

end Document

end CodeAudit.Settings
