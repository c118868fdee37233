import CodeAudit.Finding.Impact
import CodeAudit.Finding.LineSet

/-!
Findings: what a detector reports about a program, how two reports of one problem merge, and which come first.
-/

namespace CodeAudit

/-- A number from zero to one. -/
structure Confidence where
  value : Number
  inRange : (Number.le 0 value && value.le 1) = true
deriving DecidableEq

namespace Confidence

def ofNumber? (x : Number) : Option Confidence :=
  if h : (Number.le 0 x && x.le 1) = true then some ⟨x, h⟩ else none

def zero : Confidence := ⟨0, by decide⟩

instance : Inhabited Confidence := ⟨zero⟩

/-- The confidence that a number in range is; zero for any other. -/
def of (x : Number) : Confidence :=
  (ofNumber? x).getD zero

/-- The exact value. -/
def toRat (c : Confidence) : Rat :=
  match c.value with
  | .int n => n
  | .double x => x.toRat

end Confidence

/-- One report of a problem. -/
structure Finding where
  subkind : Subkind
  severity : Severity
  confidence : Confidence
  evidence : List String
  method : Method
  impact : Impact
  lines : LineSet
  description : String
  errorMessage : Option String
  suggestedFix : Option String
deriving DecidableEq, Inhabited

namespace Finding

/-- Why no finding can be made of some values. -/
inductive Fault where
  | kind (got : String)
  | subkind (kind : Kind) (got : String)
  | severity (got : String)
  | confidence (got : Number)
  | method (got : String)
  | quality (got : Number)

/-- Names in brackets, each in quotes. -/
def choices (names : List String) : String :=
  "(" ++ String.intercalate ", " (names.map fun n => "'" ++ n ++ "'") ++ ")"

def Fault.message : Fault → String
  | .kind got => s!"type must be one of {choices (Kind.all.map Kind.name)}, got '{got}'"
  | .subkind k got =>
    s!"subtype '{got}' is not valid for type '{k.name}' " ++
      s!"(expected one of {choices (k.subkinds.map Subkind.name)})"
  | .severity got => s!"severity must be one of {choices (Severity.all.map Severity.name)}, got '{got}'"
  | .confidence got => s!"confidence must be within [0, 1], got {got.text}"
  | .method got => s!"detection_method must be one of {choices (Method.all.map Method.name)}, got '{got}'"
  | .quality got => s!"quality_impact must be within [0, 100], got {got.text}"

/-- The taxonomy part of a finding, from names; the first fault in this order counts. -/
def classify (kind subkind severity : String) (confidence : Number) (method : String) :
    Except Fault (Subkind × Severity × Confidence × Method) :=
  match Kind.ofName? kind with
  | none => .error (.kind kind)
  | some k =>
    match k.subkinds.find? (·.name == subkind) with
    | none => .error (.subkind k subkind)
    | some sub =>
      match Severity.ofName? severity with
      | none => .error (.severity severity)
      | some sev =>
        match Confidence.ofNumber? confidence with
        | none => .error (.confidence confidence)
        | some c =>
          match Method.ofName? method with
          | none => .error (.method method)
          | some m => .ok (sub, sev, c, m)

def kind (f : Finding) : Kind :=
  f.subkind.kind

/-- The first line of a finding, zero when it has none. -/
def firstLine (f : Finding) : Int :=
  f.lines.first

/-- Whether `g` outranks `f`: by severity, then by confidence. -/
def outrankedBy (f g : Finding) : Bool :=
  f.severity.rank < g.severity.rank ||
    (f.severity.rank == g.severity.rank && f.confidence.toRat < g.confidence.toRat)

/-- The items of a list followed by those of another that are new. -/
def appendNew (items more : List String) : List String :=
  more.foldl (fun done item => if done.contains item then done else done ++ [item]) items

/-- A text that is there and not empty, else the other one. -/
def textOr (first second : Option String) : Option String :=
  match first with
  | some t => if t.isEmpty then second else first
  | none => second

/-- A finding with what another report of the same problem adds to it. -/
def enrichedBy (stronger weaker : Finding) : Finding :=
  { stronger with
    evidence := appendNew stronger.evidence weaker.evidence
    lines := stronger.lines.union weaker.lines
    errorMessage := textOr stronger.errorMessage weaker.errorMessage
    suggestedFix := textOr stronger.suggestedFix weaker.suggestedFix }

/-- Two reports as one: the stronger, the first one when they are equal, takes in the other. -/
def mergedWith (f g : Finding) : Finding :=
  if f.outrankedBy g then g.enrichedBy f else f.enrichedBy g

/-- What makes two findings reports of the same problem: the lines, or without lines the description. -/
inductive Key where
  | atLines (subkind : Subkind) (lines : LineSet)
  | described (subkind : Subkind) (description : String)
deriving DecidableEq

def key (f : Finding) : Key :=
  if f.lines.isEmpty then .described f.subkind f.description else .atLines f.subkind f.lines

/-- The order of reports: worst first, then surest, then by first line, kind, subkind and description. -/
def order (f g : Finding) : Ordering :=
  (compare g.severity.rank f.severity.rank).then <|
  (compareOfLessAndEq g.confidence.toRat f.confidence.toRat).then <|
  (compare f.firstLine g.firstLine).then <|
  (compare f.kind.name g.kind.name).then <|
  (compare f.subkind.name g.subkind.name).then <|
  compare f.description g.description

def toJson (f : Finding) : Json :=
  .object [
    ("type", f.kind.name),
    ("subtype", f.subkind.name),
    ("severity", f.severity.name),
    ("confidence", f.confidence.value.roundPlaces 4),
    ("description", f.description),
    ("evidence", Json.strings f.evidence),
    ("detectionMethod", f.method.name),
    ("lineNumbers", Json.ints f.lines.toList),
    ("errorMessage", Json.orNull .string f.errorMessage),
    ("suggestedFix", Json.orNull .string f.suggestedFix),
    ("businessImpact", f.impact.toJson)]

end Finding

end CodeAudit
