import CodeAudit.Proofs.Execution.Limits
import CodeAudit.Proofs.Outcome
import CodeAudit.Settings.Basic

/-!
What becomes of a document that is loaded. Each group of settings is what the document tells, or the standard one if
its section is missing or some value in it has the wrong type; limits and options are made of it when they are in range.
-/
namespace CodeAudit.Settings

open Outcome

namespace Document

/-- The document has a section of that name. -/
def Has (d : Document) (name : String) : Prop :=
  (d.options? name.toList).isSome = true

/-- The references in the values of these options can be replaced. -/
def Expands (d : Document) (name : String) (keys : List String) : Prop :=
  ∀ key ∈ keys, ∃ text, d.get? name.toList (Text.lower key.toList) = .ok text

/-- The text of an option, if there is one and its references can be replaced. -/
def told? (d : Document) (name key : String) : Option (List Char) :=
  (d.get? name.toList (Text.lower key.toList)).toOption.join

/-- What the document tells of an option is of the type that a reader wants. -/
def Readable {α : Type} (d : Document) (name key : String) (reader : List Char → Except Reading.Fault α) : Prop :=
  ∀ text ∈ d.told? name key, ∃ a, reader text = .ok a

instance (d : Document) (name : String) : Decidable (d.Has name) :=
  inferInstanceAs (Decidable (_ = true))

instance (d : Document) (name : String) (keys : List String) : Decidable (d.Expands name keys) :=
  decidable_of_iff (∀ key ∈ keys, (d.get? name.toList (Text.lower key.toList)).isOk = true)
    (forall₂_congr fun _ _ => isOk_iff _)

instance {α : Type} (d : Document) (name key : String) (reader : List Char → Except Reading.Fault α) :
    Decidable (d.Readable name key reader) :=
  decidable_of_iff (∀ text ∈ d.told? name key, (reader text).isOk = true) (forall₂_congr fun _ _ => isOk_iff _)

/-- The value that the document tells of an option, or a standard one. -/
def valueOr {α : Type} (d : Document) (name key : String) (reader : List Char → Except Reading.Fault α)
    (standard : α) : α :=
  ((d.told? name key).bind fun text => (reader text).toOption).getD standard

/-- The text that the document tells of an option, or a standard one. -/
def textOr (d : Document) (name key standard : String) : String :=
  d.valueOr name key (fun t => .ok (String.ofList t)) standard

end Document

/-- A computation gives a value under a condition; otherwise it fails, but not over a reference. -/
structure Gives {α : Type} (x : Except Fault α) (p : Prop) (a : α) : Prop where
  ok : p → x = .ok a
  replaced : ¬ p → ∃ fault, x = .error fault ∧ ∀ f, fault ≠ .expansion f

namespace Gives

variable {α β : Type} {x : Except Fault α} {p q : Prop} {a : α} {f : α → Except Fault β} {b : β}

lemma pure (a : α) : Gives (pure a) True a where
  ok _ := rfl
  replaced h := absurd trivial h

lemma bind (hx : Gives x p a) (hf : Gives (f a) q b) : Gives (x >>= f) (p ∧ q) b where
  ok h := by
    rw [hx.ok h.1]
    exact hf.ok h.2
  replaced h := by
    by_cases hp : p
    · rw [hx.ok hp]
      exact hf.replaced fun hq => h ⟨hp, hq⟩
    · obtain ⟨fault, hfault, hother⟩ := hx.replaced hp
      rw [hfault]
      exact ⟨fault, rfl, hother⟩

lemma congr (hx : Gives x p a) (h : q ↔ p) : Gives x q a where
  ok hq := hx.ok (h.mp hq)
  replaced hq := hx.replaced (mt h.mpr hq)

/-- What is given is returned, and otherwise the standard value is. -/
lemma run_orStandard (hx : Gives x p a) (name : String) (standard : α) (host : Host) :
    ∃ s, ((orStandard name standard x).run host).1 = .ok s ∧ (p → s = a) ∧ (¬ p → s = standard) := by
  by_cases hp : p
  · rw [hx.ok hp]
    exact ⟨a, rfl, fun _ => rfl, fun h => absurd hp h⟩
  · obtain ⟨fault, hfault, hother⟩ := hx.replaced hp
    rw [hfault]
    refine ⟨standard, ?_, fun h => absurd h hp, fun _ => rfl⟩
    cases fault with
    | expansion f => exact absurd rfl (hother f)
    | noSection _ | value _ => rfl

end Gives

section Sections

variable {α : Type} {d : Document} {name : String} {keys : List String} {key : String}

lemma gives_section (d : Document) (name : String) :
    Gives (Section.ofDocument d name) (d.Has name) ⟨d, name.toList⟩ where
  ok h := if_pos h
  replaced h := ⟨_, if_neg h, fun _ => Fault.noConfusion⟩

lemma gives_read (h : d.Expands name keys) (hkey : key ∈ keys) (reader : List Char → Except Reading.Fault α)
    (standard : α) :
    Gives (Section.read ⟨d, name.toList⟩ key reader standard) (d.Readable name key reader)
      (d.valueOr name key reader standard) := by
  obtain ⟨text, htext⟩ := h key hkey
  have htold : d.told? name key = text := by
    rw [Document.told?, htext]
    cases text <;> rfl
  unfold Section.read Section.text? Document.Readable Document.valueOr
  rw [htold, htext]
  cases text with
  | none =>
    refine ⟨fun _ => rfl, fun hnot => absurd ?_ hnot⟩
    rintro _ ⟨⟩
  | some text =>
    change Gives ((reader text).mapError Fault.value) (∀ t ∈ some text, ∃ a, reader t = .ok a)
      ((some text).bind (fun t => (reader t).toOption) |>.getD standard)
    rw [Option.bind_some]
    cases hread : reader text with
    | ok a =>
      refine ⟨fun _ => rfl, fun hnot => absurd ?_ hnot⟩
      rintro _ ⟨⟩
      exact ⟨a, hread⟩
    | error fault =>
      refine ⟨fun hall => ?_, fun _ => ⟨_, rfl, fun _ => Fault.noConfusion⟩⟩
      obtain ⟨a, ha⟩ := hall text rfl
      cases hread.symm.trans ha

lemma gives_text (h : d.Expands name keys) (hkey : key ∈ keys) (standard : String) :
    Gives (Section.text ⟨d, name.toList⟩ key standard) True (d.textOr name key standard) :=
  (gives_read h hkey (fun t => .ok (String.ofList t)) standard).congr
    (iff_of_true trivial fun text _ => ⟨String.ofList text, rfl⟩)

lemma gives_number (h : d.Expands name keys) (hkey : key ∈ keys) (standard : Double) :
    Gives (Section.number ⟨d, name.toList⟩ key standard) (d.Readable name key Reading.double)
      (.double (d.valueOr name key Reading.double standard)) :=
  Gives.congr (.bind (gives_read h hkey Reading.double standard) (.pure _)) (by rw [and_true])

end Sections

namespace SandboxSettings

/-- The options that hold whole numbers. -/
def wholeKeys : List String :=
  ["MaxMemoryMB", "MaxExecutionTimeMs", "MaxCpuCores", "MaxCodeLength"]

/-- The options that are read. -/
def keys : List String :=
  wholeKeys ++ ["Interpreter"]

/-- The section is there, and its numbers are whole. -/
def Readable (d : Document) : Prop :=
  d.Has "Sandbox" ∧ ∀ key ∈ wholeKeys, d.Readable "Sandbox" key Reading.whole

instance (d : Document) : Decidable (Readable d) :=
  inferInstanceAs (Decidable (_ ∧ _))

/-- What a document tells about the sandbox. -/
def told (d : Document) : SandboxSettings :=
  { memoryMb := d.valueOr "Sandbox" "MaxMemoryMB" Reading.whole 128
    timeMs := d.valueOr "Sandbox" "MaxExecutionTimeMs" Reading.whole 5000
    cores := d.valueOr "Sandbox" "MaxCpuCores" Reading.whole 1
    maxCodeLength := d.valueOr "Sandbox" "MaxCodeLength" Reading.whole 100000
    interpreter := String.ofList (Text.strip (d.textOr "Sandbox" "Interpreter" "").toList) }

lemma gives (d : Document) (h : d.Expands "Sandbox" keys) : Gives (ofDocument d) (Readable d) (told d) := by
  have hwhole : ∀ key ∈ keys, ∀ standard, Gives (Section.whole ⟨d, "Sandbox".toList⟩ key standard)
      (d.Readable "Sandbox" key Reading.whole) (d.valueOr "Sandbox" key Reading.whole standard) :=
    fun key hkey => gives_read h hkey Reading.whole
  refine ((gives_section d "Sandbox").bind <| (hwhole "MaxMemoryMB" (by decide) 128).bind <|
    (hwhole "MaxExecutionTimeMs" (by decide) 5000).bind <| (hwhole "MaxCpuCores" (by decide) 1).bind <|
    (hwhole "MaxCodeLength" (by decide) 100000).bind <|
    (gives_text h (show "Interpreter" ∈ keys by decide) "").bind <| .pure (told d)).congr ?_
  simp only [Readable, wholeKeys, List.forall_mem_cons, List.not_mem_nil, false_implies, implies_true, and_true]

/-- Limits are made of settings exactly when the three are positive. -/
lemma exists_limits_iff (s : SandboxSettings) :
    (∃ l, Limits.make s.memoryMb s.timeMs s.cores = .ok l) ↔ 0 < s.memoryMb ∧ 0 < s.timeMs ∧ 0 < s.cores := by
  have hpositive : ∀ n : Int, (Number.int n).le 0 = false ↔ 0 < n := by
    intro n
    have hcompare : (Number.int n).compare? 0 = some (compare n 0) := rfl
    rw [← Int.compare_eq_gt, Number.le, hcompare]
    cases compare n 0 <;> simp
  constructor
  · rintro ⟨l, hl⟩
    obtain ⟨hmemory, htime, hcores⟩ := Limits.make_eq_ok_iff.mp hl
    exact ⟨(hpositive _).mp (hmemory ▸ l.memory_pos), (hpositive _).mp (htime ▸ l.time_pos),
      (hpositive _).mp (hcores ▸ l.cores_pos)⟩
  · rintro ⟨hmemory, htime, hcores⟩
    exact ⟨⟨s.memoryMb, s.timeMs, s.cores, (hpositive _).mpr hmemory, (hpositive _).mpr htime,
      (hpositive _).mpr hcores⟩, Limits.make_eq_ok_iff.mpr ⟨rfl, rfl, rfl⟩⟩

end SandboxSettings

namespace DetectionSettings

def booleanKeys : List String :=
  ["EnableExecutionAnalysis", "EnableStaticAnalysis", "EnablePatternMatching", "GenerateRecommendations"]

def numberKeys : List String :=
  ["ConfidenceThreshold", "MemoryThresholdMB", "ExecutionTimeThresholdMs", "CpuUsageThreshold"]

/-- The options that are read. -/
def keys : List String :=
  booleanKeys ++ numberKeys ++ ["MaxWorkers", "FocusCategories"]

/-- The section is there, and its truth values and numbers are such. -/
def Readable (d : Document) : Prop :=
  d.Has "Detection" ∧ (∀ key ∈ booleanKeys, d.Readable "Detection" key Reading.boolean) ∧
    (∀ key ∈ numberKeys, d.Readable "Detection" key Reading.double) ∧ d.Readable "Detection" "MaxWorkers" Reading.whole

instance (d : Document) : Decidable (Readable d) :=
  inferInstanceAs (Decidable (_ ∧ _ ∧ _ ∧ _))

/-- What a document tells about detection. -/
def told (d : Document) : DetectionSettings :=
  { focus := focusOf (d.textOr "Detection" "FocusCategories" (String.intercalate "," (Kind.all.map Kind.name)))
    confidenceThreshold := .double (d.valueOr "Detection" "ConfidenceThreshold" Reading.double 0.6)
    enableExecution := d.valueOr "Detection" "EnableExecutionAnalysis" Reading.boolean true
    enableStatic := d.valueOr "Detection" "EnableStaticAnalysis" Reading.boolean true
    enablePatterns := d.valueOr "Detection" "EnablePatternMatching" Reading.boolean true
    generateRecommendations := d.valueOr "Detection" "GenerateRecommendations" Reading.boolean true
    workers := d.valueOr "Detection" "MaxWorkers" Reading.whole 4
    memoryThresholdMb := .double (d.valueOr "Detection" "MemoryThresholdMB" Reading.double 100.0)
    timeThresholdMs := .double (d.valueOr "Detection" "ExecutionTimeThresholdMs" Reading.double 3000.0)
    cpuThreshold := .double (d.valueOr "Detection" "CpuUsageThreshold" Reading.double 80.0) }

lemma gives (d : Document) (h : d.Expands "Detection" keys) : Gives (ofDocument d) (Readable d) (told d) := by
  have hboolean : ∀ key ∈ keys, Gives (Section.boolean ⟨d, "Detection".toList⟩ key true)
      (d.Readable "Detection" key Reading.boolean) (d.valueOr "Detection" key Reading.boolean true) :=
    fun key hkey => gives_read h hkey Reading.boolean true
  have hworkers : Gives (Section.whole ⟨d, "Detection".toList⟩ "MaxWorkers" 4)
      (d.Readable "Detection" "MaxWorkers" Reading.whole) (d.valueOr "Detection" "MaxWorkers" Reading.whole 4) :=
    gives_read h (by decide +kernel) Reading.whole 4
  unfold ofDocument
  refine .congr (.bind (gives_section d "Detection") <| .bind (gives_text h (by decide +kernel) _) <|
    .bind (gives_number h (by decide +kernel) _) <| .bind (hboolean _ (by decide +kernel)) <|
    .bind (hboolean _ (by decide +kernel)) <| .bind (hboolean _ (by decide +kernel)) <|
    .bind (hboolean _ (by decide +kernel)) <| .bind hworkers <|
    .bind (gives_number h (by decide +kernel) _) <| .bind (gives_number h (by decide +kernel) _) <|
    .bind (gives_number h (by decide +kernel) _) <| .pure (told d)) ?_
  simp only [Readable, booleanKeys, numberKeys, List.forall_mem_cons, List.not_mem_nil, false_implies, implies_true,
    and_true, true_and]
  constructor
  · rintro ⟨hhas, ⟨hexecution, hstatic, hpatterns, hrecommendations⟩, ⟨hconfidence, hmemory, htime, hcpu⟩, hworkers⟩
    exact ⟨hhas, hconfidence, hexecution, hstatic, hpatterns, hrecommendations, hworkers, hmemory, htime, hcpu⟩
  · rintro ⟨hhas, hconfidence, hexecution, hstatic, hpatterns, hrecommendations, hworkers, hmemory, htime, hcpu⟩
    exact ⟨hhas, ⟨hexecution, hstatic, hpatterns, hrecommendations⟩, ⟨hconfidence, hmemory, htime, hcpu⟩, hworkers⟩

/-- The thresholds are in their ranges, and the names in focus are those of kinds. -/
structure InRange (s : DetectionSettings) : Prop where
  confidence : Number.le 0 s.confidenceThreshold = true ∧ s.confidenceThreshold.le 1 = true
  time : s.timeThresholdMs.le 0 = false
  cpu : Number.lt 0 s.cpuThreshold = true ∧ s.cpuThreshold.le 100 = true
  focus : ∀ name ∈ s.focus, (Kind.ofName? name).isSome = true

lemma exists_options_iff (s : DetectionSettings) : (∃ o, s.options {} = .ok o) ↔ s.InRange := by
  simp only [options, Option.getD_none, Options.check]
  constructor
  · rintro ⟨o, ho⟩
    split at ho
    · cases ho
    split at ho
    · cases ho
    split at ho
    · cases ho
    split at ho
    · rename_i hconfidence htime hcpu hfocus
      refine ⟨by simpa using hconfidence, by simpa using htime, by simpa using hcpu, ?_⟩
      simpa [List.filter_eq_nil_iff, Option.isSome_iff_ne_none] using hfocus
    · cases ho
  · rintro ⟨⟨hlow, hhigh⟩, htime, ⟨hpositive, hmost⟩, hfocus⟩
    have hunknown : (s.focus.filter fun name => (Kind.ofName? name).isNone).isEmpty = true := by
      simpa [List.filter_eq_nil_iff, Option.isSome_iff_ne_none] using hfocus
    simp [hlow, hhigh, htime, hpositive, hmost, hunknown]

end DetectionSettings

namespace LoggingSettings

/-- The options that are read. -/
def keys : List String :=
  ["FileLogLevel", "LogFile"]

/-- What a document tells about the log. -/
def told (d : Document) : LoggingSettings :=
  { fileLevel := String.ofList (Text.upper (d.textOr "Logging" "FileLogLevel" "INFO").toList)
    file := d.textOr "Logging" "LogFile" "halguard_run.log" }

lemma gives (d : Document) (h : d.Expands "Logging" keys) : Gives (ofDocument d) (d.Has "Logging") (told d) := by
  refine ((gives_section d "Logging").bind <| (gives_text h (show "FileLogLevel" ∈ keys by decide) "INFO").bind <|
    (gives_text h (show "LogFile" ∈ keys by decide) "halguard_run.log").bind <| .pure (told d)).congr ?_
  simp only [and_true]

end LoggingSettings

/-- **What is loaded can be used.** Where the references in a document can be replaced, each group of settings is
returned: what the document tells when the section is there and its values are of their types, and the standard
settings otherwise. Limits are made of the settings for the sandbox exactly when the three are positive, and options of
those for detection exactly when they are in range. -/
theorem loaded_settings_usable (d : Document) (host : Host) (hsandbox : d.Expands "Sandbox" SandboxSettings.keys)
    (hdetection : d.Expands "Detection" DetectionSettings.keys) (hlogging : d.Expands "Logging" LoggingSettings.keys) :
    (∃ s, (d.sandbox.run host).1 = .ok s ∧
      (SandboxSettings.Readable d → s = SandboxSettings.told d) ∧ (¬ SandboxSettings.Readable d → s = {}) ∧
      ((∃ l, Limits.make s.memoryMb s.timeMs s.cores = .ok l) ↔ 0 < s.memoryMb ∧ 0 < s.timeMs ∧ 0 < s.cores)) ∧
    (∃ s, (d.detection.run host).1 = .ok s ∧
      (DetectionSettings.Readable d → s = DetectionSettings.told d) ∧ (¬ DetectionSettings.Readable d → s = {}) ∧
      ((∃ o, s.options {} = .ok o) ↔ s.InRange)) ∧
    ∃ s, (d.logging.run host).1 = .ok s ∧
      (d.Has "Logging" → s = LoggingSettings.told d) ∧ (¬ d.Has "Logging" → s = {}) := by
  obtain ⟨sandbox, hs, hstold, hsstandard⟩ :=
    (SandboxSettings.gives d hsandbox).run_orStandard "Sandbox" {} host
  obtain ⟨detection, hd, hdtold, hdstandard⟩ :=
    (DetectionSettings.gives d hdetection).run_orStandard "Detection" {} host
  exact ⟨⟨sandbox, hs, hstold, hsstandard, sandbox.exists_limits_iff⟩,
    ⟨detection, hd, hdtold, hdstandard, detection.exists_options_iff⟩,
    (LoggingSettings.gives d hlogging).run_orStandard "Logging" {} host⟩

/-- A document with a readable value for the sandbox and one for detection that is no number. -/
def mixedText : List Char :=
  "[Sandbox]\nMaxMemoryMB = 256 ; more room\n[Detection]\nConfidenceThreshold = lots\n".toList

def mixed : Document :=
  ⟨[("Sandbox".toList, [("maxmemorymb".toList, "256".toList)]),
    ("Detection".toList, [("confidencethreshold".toList, "lots".toList)])]⟩

/-- The sandbox is as it is told, and the rest as usual. -/
theorem loaded_settings_usable_mixed : Document.ofText mixedText = .ok mixed ∧
    (mixed.sandbox.run {}).1 = .ok { memoryMb := 256 } ∧ (mixed.detection.run {}).1 = .ok {} ∧
    (mixed.logging.run {}).1 = .ok {} := by
  obtain ⟨⟨sandbox, hs, hstold, -, -⟩, ⟨detection, hd, -, hdstandard, -⟩, logging, hl, -, hlstandard⟩ :=
    loaded_settings_usable mixed {} (by decide +kernel) (by decide +kernel) (by decide +kernel)
  refine ⟨by decide +kernel, ?_, ?_, ?_⟩
  · rw [hs, hstold (by decide +kernel)]
    decide +kernel
  · rw [hd, hdstandard (by decide +kernel)]
  · rw [hl, hlstandard (by decide +kernel)]

/-- A document that wants no memory is loaded, and its value is read, but no limits are made of it. -/
theorem zero_memory_loaded_not_limits :
    ∃ d, Document.ofText "[Sandbox]\nMaxMemoryMB = 0\n".toList = .ok d ∧
      (d.sandbox.run {}).1 = .ok { memoryMb := 0 } ∧ Limits.make 0 5000 1 = .error (.notPositive "max_memory_mb" 0) :=
  ⟨⟨[("Sandbox".toList, [("maxmemorymb".toList, "0".toList)])]⟩, by decide +kernel, by decide +kernel, by rfl⟩

end CodeAudit.Settings
