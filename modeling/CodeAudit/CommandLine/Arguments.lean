import CodeAudit.Finding.Kind
import CodeAudit.Numeric.Reading
import CodeAudit.Regex.Search

/-!
The arguments of the command line: one file and some flags. A flag may be shortened while it stays the only one, its
value may follow an equals sign, and after `--` nothing is a flag. A flag whose value is `--` itself is left blank.
-/

namespace CodeAudit.CommandLine

inductive Flag where
  | help
  | language
  | noExecution
  | threshold
  | focus
  | timeoutMs
  | json
  | config
deriving DecidableEq

/-- How many values a flag takes. -/
inductive Arity where
  | none
  | one
  | some
deriving DecidableEq

namespace Flag

def all : List Flag := [help, language, noExecution, threshold, focus, timeoutMs, json, config]

def names : Flag → List String
  | help => ["-h", "--help"]
  | language => ["--language"]
  | noExecution => ["--no-execution"]
  | threshold => ["--threshold"]
  | focus => ["--focus"]
  | timeoutMs => ["--timeout-ms"]
  | json => ["--json"]
  | config => ["--config"]

def arity : Flag → Arity
  | help | noExecution => .none
  | focus => .some
  | _ => .one

/-- The flag as messages show it. -/
def shown (f : Flag) : String :=
  String.intercalate "/" f.names

/-- All names with their flags. -/
def table : List (String × Flag) :=
  all.flatMap fun f => f.names.map fun name => (name, f)

def ofName? (name : String) : Option Flag :=
  (table.find? (·.1 == name)).map (·.2)

end Flag

/-- Why arguments are refused. -/
inductive UsageFault where
  | ambiguous (given : String) (candidates : List String)
  | noValue (flag : Flag)
  | unexpectedValue (flag : Flag) (value : String)
  | badValue (flag : Flag) (type value : String)
  | badChoice (flag : Flag) (value : String)
  | noFile
  | unrecognized (words : List String)
deriving DecidableEq

namespace UsageFault

def about (flag : Flag) (problem : String) : String :=
  s!"argument {flag.shown}: {problem}"

def message : UsageFault → String
  | ambiguous given candidates =>
    let list := String.intercalate ", " candidates
    s!"ambiguous option: {given} could match {list}"
  | noValue flag =>
    about flag (if flag.arity = .some then "expected at least one argument" else "expected one argument")
  | unexpectedValue flag value => about flag s!"ignored explicit argument {Text.quotedText value}"
  | badValue flag type value => about flag s!"invalid {type} value: {Text.quotedText value}"
  | badChoice flag value =>
    let choices := String.intercalate ", " (Kind.all.map fun k => Text.quotedText k.name)
    about flag s!"invalid choice: {Text.quotedText value} (choose from {choices})"
  | noFile => "the following arguments are required: file"
  | unrecognized words =>
    let list := String.intercalate " " words
    s!"unrecognized arguments: {list}"

/-- The message as the program of that name prints it. -/
def report (program : String) (f : UsageFault) : String :=
  s!"{program}: error: {f.message}"

/-- The last line of the message. -/
def lastLine (program : String) (f : UsageFault) : String :=
  match (Text.outputLines (Text.strip (f.report program).toList)).getLast? with
  | some line => String.ofList line
  | none => ""

end UsageFault

/-- An argument by what it looks like. -/
inductive Word where
  | plain (text : String)
  /-- The sign after which nothing is a flag. -/
  | marker
  | flag (flag : Flag) (value : Option String)
  /-- What looks like a flag and is none. -/
  | unknown (text : String)
deriving DecidableEq

namespace Word

def negativeNumber : Regex :=
  Regex.start ++ "-" ++
    ((Regex.many1 Text.isDecimal ++ Regex.stop) <|>
      (Regex.many Text.isDecimal ++ "." ++ Regex.many1 Text.isDecimal ++ Regex.stop))

/-- The text before the first equals sign and the text after it, if there is one. -/
def atEquals (s : List Char) : List Char × Option (List Char) :=
  match s.dropWhile (· != '=') with
  | _ :: value => (s.takeWhile (· != '='), some value)
  | [] => (s, none)

/-- What is left of the value of a one-letter flag when the letter is repeated at its start, none if nothing is. -/
def unrepeated (letter : Char) (value : List Char) : Option (List Char) :=
  if value.isEmpty then some []
  else
    let rest := value.dropWhile (· == letter)
    if rest.isEmpty then none else some rest

/-- The flags that a shortened one may stand for, each with its name and value. A flag of one letter may be repeated
in the word. -/
def candidates (s : List Char) : List (String × Flag × Option (List Char)) :=
  match s with
  | '-' :: '-' :: _ =>
    let (name, value) := atEquals s
    (Flag.table.filter fun (full, _) => name.isPrefixOf full.toList).map fun (full, f) => (full, f, value)
  | '-' :: c :: more =>
    let value := unrepeated c more
    (Flag.table.filter fun (full, _) => full.toList == ['-', c]).map fun (full, f) => (full, f, value)
  | _ => []

/-- What an argument in front of the marker looks like. -/
def ofText (text : String) : Except UsageFault Word :=
  let s := text.toList
  let (name, value) := atEquals s
  match s with
  | '-' :: _ :: _ =>
    match Flag.ofName? text, value, Flag.ofName? (String.ofList name) with
    | some f, _, _ => .ok (.flag f none)
    | none, some value, some f =>
      let value := match name with
        | ['-', letter] => unrepeated letter value
        | _ => some value
      .ok (.flag f (value.map String.ofList))
    | none, _, _ =>
      match candidates s with
      | [(_, f, value)] => .ok (.flag f (value.map String.ofList))
      | [] =>
        if negativeNumber.startsText s || s.contains ' ' then .ok (.plain text) else .ok (.unknown text)
      | several => .error (.ambiguous text (several.map (·.1)))
  | _ => .ok (.plain text)

/-- What the arguments look like. -/
def ofTexts : List String → Except UsageFault (List Word)
  | [] => .ok []
  | text :: rest =>
    if text = "--" then .ok (.marker :: rest.map .plain)
    else do
      let word ← ofText text
      return word :: (← ofTexts rest)

def plain? : Word → Option String
  | plain text => some text
  | _ => none

end Word

/-- A threshold as given; the flag may be left blank. -/
inductive Threshold where
  | value (x : Double)
  | blank
deriving DecidableEq

/-- What the arguments ask for. -/
structure Arguments where
  file : String
  language : String := "python"
  noExecution : Bool := false
  threshold : Option Threshold := none
  focus : Option (List Kind) := none
  timeoutMs : Option Int := none
  json : Option String := none
  config : Option String := none
deriving DecidableEq, Inhabited

/-- Why there is nothing to run. -/
inductive Stop where
  | help
  | usage (fault : UsageFault)
deriving DecidableEq

namespace Arguments

/-- Arguments on the way, with the file if it was given and the words that have no use. -/
structure Draft where
  found : Arguments := { file := "" }
  hasFile : Bool := false
  extras : List String := []

/-- The arguments with a flag that takes no value. -/
def set (a : Arguments) : Flag → Except Stop Arguments
  | .help => .error .help
  | _ => .ok { a with noExecution := true }

def kindOf (value : String) : Except UsageFault Kind :=
  match Kind.ofName? value with
  | some k => .ok k
  | none => .error (.badChoice .focus value)

/-- The arguments with the values of a flag. -/
def setTo (a : Arguments) (f : Flag) (values : List String) : Except UsageFault Arguments :=
  let value := values.head?.getD ""
  match f with
  | .language => .ok { a with language := value }
  | .threshold =>
    match Reading.double value.toList with
    | .ok x => .ok { a with threshold := some (.value x) }
    | .error _ => .error (.badValue f "float" value)
  | .timeoutMs =>
    match Reading.whole value.toList with
    | .ok n => .ok { a with timeoutMs := some n }
    | .error _ => .error (.badValue f "int" value)
  | .focus => do return { a with focus := some (← values.mapM kindOf) }
  | .json => .ok { a with json := some value }
  | .config => .ok { a with config := some value }
  | .help | .noExecution => .ok a

/-- The arguments with a flag that is left blank: most of them are as if they were not given, a language shows as
an empty list, and no kind is in focus. -/
def setBlank (a : Arguments) : Flag → Arguments
  | .language => { a with language := "[]" }
  | .threshold => { a with threshold := some .blank }
  | .focus => { a with focus := some [] }
  | .timeoutMs => { a with timeoutMs := none }
  | .json => { a with json := none }
  | .config => { a with config := none }
  | .help | .noExecution => a

namespace Draft

def withExtra (d : Draft) (text : String) : Draft :=
  { d with extras := d.extras ++ [text] }

def withFile (d : Draft) (text : String) : Draft :=
  { d with found := { d.found with file := text }, hasFile := true }

def setTo (d : Draft) (f : Flag) (values : List String) : Except Stop Draft := do
  return { d with found := ← (d.found.setTo f values).mapError .usage }

/-- The draft after a flag with its value in the same word. -/
def setWithin (d : Draft) (f : Flag) (value : String) : Except Stop Draft :=
  match f.arity with
  | .none => .error (.usage (.unexpectedValue f value))
  | _ => if value = "--" then .ok { d with found := d.found.setBlank f } else d.setTo f [value]

/-- The draft after all words. -/
def consume (d : Draft) : List Word → Except Stop Draft
  | [] => .ok d
  | .flag f (some value) :: rest => do (← d.setWithin f value).consume rest
  | .flag f none :: rest =>
    match f.arity with
    | .none => do
      let found ← d.found.set f
      consume { d with found := found } rest
    | .one =>
      match rest with
      | .plain value :: rest => do (← d.setTo f [value]).consume rest
      | _ => .error (.usage (.noValue f))
    | .some =>
      let values := (rest.takeWhile (·.plain?.isSome)).filterMap Word.plain?
      if values.isEmpty then .error (.usage (.noValue f))
      else do
        let d ← d.setTo f values
        have := (List.dropWhile_suffix (fun w : Word => w.plain?.isSome) (l := rest)).length_le
        d.consume (rest.dropWhile (·.plain?.isSome))
  | .unknown text :: rest => (d.withExtra text).consume rest
  | .marker :: rest =>
    if d.hasFile then (d.withExtra "--").consume rest
    else match rest with
      | .plain text :: rest => (d.withFile text).consume rest
      | rest => (d.withExtra "--").consume rest
  | .plain text :: rest =>
    if d.hasFile then (d.withExtra text).consume rest
    else match rest with
      | .marker :: rest => (d.withFile text).consume rest
      | rest => (d.withFile text).consume rest
termination_by words => words.length

end Draft

/-- The arguments that texts write. -/
def ofTexts (texts : List String) : Except Stop Arguments := do
  let words ← (Word.ofTexts texts).mapError .usage
  let draft ← ({} : Draft).consume words
  if !draft.hasFile then throw (.usage .noFile)
  else if !draft.extras.isEmpty then throw (.usage (.unrecognized draft.extras))
  else return draft.found

end Arguments

end CodeAudit.CommandLine
