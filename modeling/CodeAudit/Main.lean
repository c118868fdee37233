import CodeAudit.CommandLine.Session

/-!
The command line. It starts no child process: a run of the analysed program is reported as one that could not start.
-/

namespace CodeAudit.CommandLine

def usage : String :=
  "usage: codeaudit [-h] [--language LANGUAGE] [--no-execution] [--threshold THRESHOLD]\n" ++
    "                 [--focus KIND [KIND ...]] [--timeout-ms TIMEOUT_MS] [--json OUT] [--config CONFIG]\n" ++
    "                 file\n"

/-- A file of the working directory, if it can be read. -/
def loaded (name : String) : IO (List (List (List Char) × List UInt8)) := do
  if name.isEmpty || name == "-" then return []
  try
    let bytes ← IO.FS.readBinFile name
    return [((Path.ofString name).parts, bytes.toList)]
  catch _ => return []

/-- The session that the arguments begin, an empty one for those that begin no run. -/
def begun : Except Stop Arguments → IO Session
  | .error _ => pure {}
  | .ok a => do
    let source ← loaded a.file
    let settings ← loaded (a.config.getD "")
    let input ← if a.file == "-" then (← IO.getStdin).readToEnd else pure ""
    return {
      host := { plans := [{ spawnError := some "no child process can be started" }] }
      directory := ⟨source ++ settings⟩
      input := input.toList }

/-- The file that the arguments name for the result. -/
def resultFile? : Except Stop Arguments → Option String
  | .error _ => none
  | .ok a => a.json

/-- Prints the report and the log and writes the result file. -/
def leave (result : Option String) (s : Session) : IO Unit := do
  s.console.forM fun block => IO.println block.text
  s.host.log.forM fun record => IO.eprintln record.text
  match result with
  | some name =>
    match s.directory.read (.ofString name) with
    | .ok bytes => IO.FS.writeBinFile name (ByteArray.mk bytes.toArray)
    | .error _ => pure ()
  | none => pure ()

/-- Says why a run has no result. -/
def explain : Ending → IO Unit
  | .help => IO.print usage
  | .misused fault => do
    IO.eprint usage
    IO.eprintln (fault.report "codeaudit")
  | .exit _ => pure ()
  | .failed failure => IO.eprintln failure.message

end CodeAudit.CommandLine

open CodeAudit CommandLine in
def main (args : List String) : IO UInt32 := do
  let arguments := Arguments.ofTexts args
  let (ending, s) := (Session.invoke (fun _ => .parses) args).run (← begun arguments)
  leave (resultFile? arguments) s
  explain ending
  return (ending.status?.getD ExitCode.inputError.value).toUInt32
