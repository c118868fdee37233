import CodeAudit.CommandLine.Arguments
import CodeAudit.CommandLine.Directory
import CodeAudit.Json.Writer
import CodeAudit.Report.Basic
import CodeAudit.Settings.Analyzer
import CodeAudit.Settings.Bundled

/-!
One run of the command line: it reads the settings and the source, analyses it, reports, and writes the result if
asked to.
-/

namespace CodeAudit.CommandLine

/-- What a run works on and what it leaves. -/
structure Session where
  host : Host := {}
  directory : Directory := {}
  /-- The text of the standard input. -/
  input : List Char := []
  console : List Block := []
  /-- The level from which on records are kept at all. -/
  logLevel : Nat := LogLevel.warning.value
  /-- The level from which on records go to the log file, once there is one. -/
  fileLevel : Option Nat := none
deriving Inhabited

/-- What ends a run without an exit code. -/
inductive Failure where
  | noSettings (path : Path)
  | encoding (fault : Text.Utf8.Fault)
  | settings (path : Path) (fault : Settings.DocumentFault)
  | setup (fault : Settings.SetupFault)
  | measure (fault : MeasureFault)
  | file (fault : PathFault)
  /-- The threshold was left blank. -/
  | blankThreshold

namespace Failure

def message : Failure → String
  | noSettings path => s!"Configuration file not found at {path.toString}"
  | encoding fault => fault.message
  | settings path fault => fault.message s!"PosixPath({path.quoted})"
  | setup fault => fault.message
  | measure fault => fault.message
  | file fault => fault.message
  | blankThreshold => "'<=' not supported between instances of 'float' and 'list'"

end Failure

/-- The exit codes of a run. -/
inductive ExitCode where
  | clean
  /-- The source cannot be read or analysed. -/
  | inputError
  | criticalIssues
deriving DecidableEq

def ExitCode.value : ExitCode → Nat
  | clean => 0
  | inputError => 1
  | criticalIssues => 2

/-- How the program ends. -/
inductive Ending where
  /-- It was only asked how it is used. -/
  | help
  /-- Its arguments are no arguments of the program. -/
  | misused (fault : UsageFault)
  | exit (code : ExitCode)
  /-- An error that nothing handles. -/
  | failed (failure : Failure)

namespace Ending

/-- The exit status for arguments that are refused. -/
def usageStatus : Nat := 2

/-- The exit status, none where an error ends the program. -/
def status? : Ending → Option Nat
  | help => some 0
  | misused _ => some usageStatus
  | exit code => some code.value
  | failed _ => none

end Ending

/-- A step of a run. -/
abbrev Step (α : Type) := ExceptT Failure (StateM Session) α

namespace Session

/-- An action on the host as a step. -/
def onHost {α : Type} (action : StateM Host α) : Step α := do
  let s ← get
  let (a, host) := action.run s.host
  set { s with host := host }
  return a

/-- An action on the host that may fail as a step. -/
def tryHost {ε α : Type} (failure : ε → Failure) (action : ExceptT ε (StateM Host) α) : Step α := do
  match ← onHost action.run with
  | .ok a => return a
  | .error e => throw (failure e)

/-- Writes a record to the log of the program itself. -/
def log (level : LogLevel) (message : String) : Step Unit :=
  onHost (modify (·.logged ⟨level, "root", message⟩))

def write (p : Path) (content : String) : Step Unit := do
  let s ← get
  match s.directory.write p content.toUTF8.toList with
  | .ok directory => set { s with directory := directory }
  | .error fault => throw (.file fault)

/-- The settings document at a path, the bundled one if none is named. -/
def document (config : Option String) : Step Settings.Document := do
  let named := (config.filter (!·.isEmpty)).map Path.ofString
  match named with
  | none => (Settings.bundled.mapError (.settings (.ofString Settings.bundledName)) : Except Failure _)
  | some path => do
    let directory := (← get).directory
    if !(← (directory.contains path).mapError Failure.file) then
      let failure := Failure.noSettings path
      onHost (modify (·.logged ⟨.error, "core.config_loader", failure.message⟩))
      throw failure
    else match directory.read path with
      | .error _ => return {}
      | .ok bytes =>
        match Settings.Document.ofBytes bytes with
        | .ok d => return d
        | .error (.encoding fault) => throw (.encoding fault)
        | .error (.document fault) => throw (.settings path fault)

/-- Sets the levels and opens the log file, by its simplified path. -/
def openLog (s : Settings.LoggingSettings) : Step Unit := do
  let level := s.level.value
  modify fun session => { session with logLevel := min level LogLevel.info.value }
  match (← get).directory.touch (Path.ofString s.file).simplify with
  | .ok directory => modify fun session => { session with directory := directory, fileLevel := some level }
  | .error fault => throw (.file fault)

/-- The source that the arguments name with the name to report it by, or why it cannot be read. -/
def source (file : String) : Step (Except String (List Char × String)) := do
  let s ← get
  if file = "-" then return .ok (s.input, "<stdin>")
  else
    let path := Path.ofString file
    match s.directory.read path with
    | .error .zeroCharacter => throw (.file .zeroCharacter)
    | .error fault => return .error fault.message
    | .ok bytes =>
      match Text.Utf8.decode bytes with
      | .error fault => return .error fault.message
      | .ok text => return .ok (Text.unifyLineEnds text, path.toString)

/-- What the arguments ask for instead of the settings. -/
def overrides (a : Arguments) : Settings.DetectionSettings.Overrides :=
  { confidenceThreshold := a.threshold.bind fun
      | .value x => some (.double x)
      | .blank => none
    focus := a.focus.map fun kinds => kinds.map Kind.name
    enableExecution := if a.noExecution then some false else none
    maxTimeMs := a.timeoutMs.map .int }

/-- The analysis of a source, or why there is none. -/
def analysis (analyzer : Analyzer) (d : Settings.Document) (a : Arguments) (code : List Char) :
    Step (Except String Analysis) := do
  let detection ← tryHost (.setup ∘ .expansion) d.detection
  if a.threshold = some .blank then throw .blankThreshold
  match detection.options (overrides a) with
  | .error fault => return .error fault.message
  | .ok options => do
    let result ← onHost (analyzer.analyze (some code) (some a.language) (some options)).run
    return result.mapError InputFault.message

/-- Prints the report on an analysis, as far as it can be written. -/
def report (a : Analysis) (name : String) : Step Unit :=
  (Report.parts a name).forM fun
    | .ok blocks => modify fun s => { s with console := s.console ++ blocks }
    | .error fault => throw (.measure fault)

/-- Writes the result as JSON. -/
def writeResult (a : Analysis) (file : String) : Step Unit := do
  match a.toJson with
  | .error fault => throw (.measure fault)
  | .ok json =>
    write (.ofString file) (json.indented "")
    log .info s!"💾 Result written to {file}"

/-- Ends a run whose source cannot be read or analysed. -/
def refused (message : String) : Step ExitCode := do
  log .error s!"❌ {message}"
  return .inputError

/-- Analyses one source, reports, and writes the result. -/
def conclude (analyzer : Analyzer) (d : Settings.Document) (a : Arguments) (code : List Char) (name : String) :
    Step ExitCode := do
  match ← analysis analyzer d a code with
  | .error message => refused message
  | .ok result => do
    report result name
    match a.json with
    | some file => if file.isEmpty then pure () else writeResult result file
    | none => pure ()
    return if result.hasCritical then .criticalIssues else .clean

/-- A whole run with the arguments, given what the parser of the language says of a text. -/
def run (parse : List Char → ParseVerdict) (a : Arguments) : Step ExitCode := do
  let d ← document a.config
  openLog (← tryHost (.setup ∘ .expansion) d.logging)
  match ← source a.file with
  | .error reason => refused s!"Could not read {a.file}: {reason}"
  | .ok (code, name) => do
    let analyzer ← tryHost .setup d.analyzer
    conclude { analyzer with parse := parse } d a code name

/-- The program, called with arguments as they are written. -/
def invoke (parse : List Char → ParseVerdict) (texts : List String) : StateM Session Ending := do
  match Arguments.ofTexts texts with
  | .error .help => return .help
  | .error (.usage fault) => return .misused fault
  | .ok a =>
    match ← (run parse a).run with
    | .ok code => return .exit code
    | .error failure => return .failed failure

end Session

end CodeAudit.CommandLine
