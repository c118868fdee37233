import CodeAudit.Proofs.Settings.Usable
import CodeAudit.Settings.Analyzer

/-! When settings make an analyzer. -/
namespace CodeAudit.Settings

open Outcome

/-- What counts for the sandbox: what the document tells if it is readable, and the standard otherwise. -/
def SandboxSettings.inForce (d : Document) : SandboxSettings :=
  if Readable d then told d else {}

/-- What counts for detection: what the document tells if it is readable, and the standard otherwise. -/
def DetectionSettings.inForce (d : Document) : DetectionSettings :=
  if Readable d then told d else {}

/-- What counts for the sandbox makes limits, and what counts for detection makes options. -/
structure Document.InRange (d : Document) : Prop where
  memory : 0 < (SandboxSettings.inForce d).memoryMb
  time : 0 < (SandboxSettings.inForce d).timeMs
  cores : 0 < (SandboxSettings.inForce d).cores
  detection : (DetectionSettings.inForce d).InRange

/-- A sandbox is made of settings exactly when the three limits are positive. -/
lemma SandboxSettings.exists_sandbox_iff (s : SandboxSettings) :
    (∃ sandbox, s.sandbox = .ok sandbox) ↔ 0 < s.memoryMb ∧ 0 < s.timeMs ∧ 0 < s.cores := by
  rw [← s.exists_limits_iff, sandbox, exists_bind_iff]
  exact exists_congr fun _ => and_iff_left ⟨_, rfl⟩

variable {d : Document}

/-- The settings returned are the ones that count. -/
lemma Gives.run_eq {α : Type} {x : Except Fault α} {p : Prop} [Decidable p] {a : α} (hx : Gives x p a)
    (name : String) (standard : α) (host : Host) :
    ((orStandard name standard x).run host).1 = .ok (if p then a else standard) := by
  obtain ⟨s, hs, htold, hstandard⟩ := hx.run_orStandard name standard host
  rw [hs]
  split
  next hp => rw [htold hp]
  next hp => rw [hstandard hp]

namespace Document

lemma run_sandbox (h : d.Expands "Sandbox" SandboxSettings.keys) (host : Host) :
    (d.sandbox.run host).1 = .ok (SandboxSettings.inForce d) :=
  (SandboxSettings.gives d h).run_eq "Sandbox" {} host

lemma run_detection (h : d.Expands "Detection" DetectionSettings.keys) (host : Host) :
    (d.detection.run host).1 = .ok (DetectionSettings.inForce d) :=
  (DetectionSettings.gives d h).run_eq "Detection" {} host

/-- Settings without a reference that cannot be replaced make an analyzer exactly when they are in range. -/
lemma exists_analyzer_iff (hsandbox : d.Expands "Sandbox" SandboxSettings.keys)
    (hdetection : d.Expands "Detection" DetectionSettings.keys) (host : Host) :
    (∃ a, (d.analyzer.run host).1 = .ok a) ↔ d.InRange := by
  have hdetect : ((ExceptT.adapt SetupFault.expansion d.detection).run : StateM Host _) host =
      (.ok (DetectionSettings.inForce d), (d.detection.run host).2) := by
    rw [run_adapt, run_detection hdetection, mapError_ok]
  have hsand : ((ExceptT.adapt SetupFault.expansion d.sandbox).run : StateM Host _) (d.detection.run host).2 =
      (.ok (SandboxSettings.inForce d), (d.sandbox.run (d.detection.run host).2).2) := by
    rw [run_adapt, run_sandbox hsandbox, mapError_ok]
  unfold analyzer
  rw [run_bind_of_ok hdetect, run_bind_of_ok hsand]
  simp only [run_bind_eq_ok, run_lift, mapError_eq_ok]
  constructor
  · rintro ⟨a, sandbox, hmade, options, hoptions, -⟩
    obtain ⟨hmemory, htime, hcores⟩ := (SandboxSettings.inForce d).exists_sandbox_iff.mp ⟨sandbox, hmade⟩
    exact ⟨hmemory, htime, hcores, (DetectionSettings.inForce d).exists_options_iff.mp ⟨options, hoptions⟩⟩
  · rintro ⟨hmemory, htime, hcores, hrange⟩
    obtain ⟨sandbox, hmade⟩ := (SandboxSettings.inForce d).exists_sandbox_iff.mpr ⟨hmemory, htime, hcores⟩
    obtain ⟨options, hoptions⟩ := (DetectionSettings.inForce d).exists_options_iff.mpr hrange
    exact ⟨_, sandbox, hmade, options, hoptions, rfl⟩

end Document
end CodeAudit.Settings
