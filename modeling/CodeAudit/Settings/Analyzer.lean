import CodeAudit.Analysis.Analyzer
import CodeAudit.Settings.Basic

/-!
The analyzer that a settings document describes.
-/

namespace CodeAudit.Settings

/-- Why settings make no analyzer. -/
inductive SetupFault where
  | expansion (fault : ExpansionFault)
  | limits (fault : Limits.Fault)
  | options (fault : Options.Fault)

namespace SetupFault

def message : SetupFault → String
  | expansion fault => fault.message
  | limits fault => fault.message
  | options fault => fault.message

end SetupFault

namespace Document

/-- The analyzer of a document; limits out of range count before options out of range. -/
def analyzer (d : Document) : ExceptT SetupFault (StateM Host) Analyzer := do
  let detection ← ExceptT.adapt .expansion d.detection
  let settings ← ExceptT.adapt .expansion d.sandbox
  let sandbox ← (settings.sandbox.mapError .limits : Except SetupFault Sandbox)
  let options ← ((detection.options {}).mapError .options : Except SetupFault Options)
  return { sandbox := sandbox, options := options, workers := detection.workers }

end Document

end CodeAudit.Settings
