import CodeAudit.CommandLine.Session
import CodeAudit.Proofs.Analysis.Reporting
import CodeAudit.Proofs.Settings.Analyzer

/-!
What the exit status tells. A run takes one of a few courses, and each of them comes to one thing: an error that nothing
handles, a refusal, or an analysis. The status follows from that.
-/
namespace CodeAudit.CommandLine

open Outcome
open Settings (Document DetectionSettings)

/-- What a run comes to. -/
inductive Upshot where
  /-- An error ends it before anything is analysed. -/
  | escaped (failure : Failure)
  /-- The source cannot be read. -/
  | unreadable (reason : String)
  /-- The arguments and the settings ask for options out of their range. -/
  | invalid (fault : Options.Fault)
  /-- The source is not fit for analysis. -/
  | unfit (fault : InputFault)
  /-- The analysis is there, but an error ends the run before all is delivered. -/
  | undelivered (result : Analysis) (failure : Failure)
  | completed (result : Analysis)

namespace Upshot

/-- The result of a run that comes to this. -/
def result : Upshot → Except Failure ExitCode
  | escaped failure | undelivered _ failure => .error failure
  | unreadable _ | invalid _ | unfit _ => .ok .inputError
  | completed r => .ok (if r.hasCritical then .criticalIssues else .clean)

/-- The exit status of a run that comes to this. -/
def status? : Upshot → Option Nat
  | escaped _ | undelivered _ _ => none
  | unreadable _ | invalid _ | unfit _ => some 1
  | completed r => some (if r.hasCritical then 2 else 0)

/-- The input is refused. -/
def Refused : Upshot → Prop
  | unreadable _ | invalid _ | unfit _ => True
  | _ => False

/-- An error ends the run. -/
def Broken : Upshot → Prop
  | escaped _ | undelivered _ _ => True
  | _ => False

variable {e : Upshot}

lemma status?_eq (e : Upshot) : e.status? = e.result.toOption.map ExitCode.value := by
  cases e with
  | completed r => rw [status?, result]; split <;> rfl
  | escaped _ | unreadable _ | invalid _ | unfit _ | undelivered _ _ => rfl

lemma status?_eq_none_iff : e.status? = none ↔ e.Broken := by
  cases e <;> simp [status?, Broken]

lemma status?_eq_one_iff : e.status? = some 1 ↔ e.Refused := by
  cases e with
  | completed r => cases h : r.hasCritical <;> simp [status?, Refused, h]
  | escaped _ | unreadable _ | invalid _ | unfit _ | undelivered _ _ => simp [status?, Refused]

lemma status?_eq_two_iff :
    e.status? = some 2 ↔ ∃ r, e = completed r ∧ ∃ f ∈ r.findings, f.severity = .critical := by
  simp only [← Analysis.hasCritical_iff]
  cases e with
  | completed r => cases h : r.hasCritical <;> simp [status?, h]
  | escaped _ | unreadable _ | invalid _ | unfit _ | undelivered _ _ => simp [status?]

lemma status?_eq_zero_iff :
    e.status? = some 0 ↔ ∃ r, e = completed r ∧ ∀ f ∈ r.findings, f.severity ≠ .critical := by
  have hnone (r : Analysis) : (∀ f ∈ r.findings, f.severity ≠ .critical) ↔ ¬ r.hasCritical = true := by
    simp only [Analysis.hasCritical_iff, not_exists, not_and]
  simp only [hnone]
  cases e with
  | completed r => cases h : r.hasCritical <;> simp [status?, h]
  | escaped _ | unreadable _ | invalid _ | unfit _ | undelivered _ _ => simp [status?]

end Upshot

namespace Session

variable {parse : List Char → ParseVerdict} {a : Arguments} {s t : Session} {d : Document}

/-- The first part of a run: the settings, the log and the source. -/
def load (a : Arguments) : Step (Document × Except String (List Char × String)) := do
  let d ← document a.config
  openLog (← tryHost (.setup ∘ .expansion) d.logging)
  return (d, ← source a.file)

/-- The second part: the analyzer that the settings make and what they tell about detection. -/
def equip (d : Document) : Step (Analyzer × DetectionSettings) := do
  let analyzer ← tryHost .setup d.analyzer
  return (analyzer, ← tryHost (.setup ∘ .expansion) d.detection)

/-- The last part: the report and the file. -/
def deliver (a : Arguments) (result : Analysis) (name : String) : Step Unit := do
  report result name
  match a.json with
  | some file => if file.isEmpty then pure () else writeResult result file
  | none => pure ()

/-- What is between the second part and the last: the options and the analysis. -/
def decideOn (a : Arguments) (code : List Char) (name : String) (analyzer : Analyzer)
    (detection : DetectionSettings) : Step ExitCode :=
  if a.threshold = some .blank then throw .blankThreshold
  else match detection.options (overrides a) with
    | .error fault => refused fault.message
    | .ok options => do
      match ← onHost (analyzer.analyze (some code) (some a.language) (some options)).run with
      | .error fault => refused fault.message
      | .ok result => do
        deliver a result name
        return if result.hasCritical then .criticalIssues else .clean

lemma conclude_eq (analyzer : Analyzer) (code : List Char) (name : String) : conclude analyzer d a code name =
    tryHost (.setup ∘ .expansion) d.detection >>= decideOn a code name analyzer := by
  simp only [conclude, analysis, bind_assoc]
  refine bind_congr fun detection => ?_
  unfold decideOn
  split
  · rfl
  rcases detection.options (overrides a) with fault | options
  · rfl
  simp only [bind_assoc, pure_bind]
  refine bind_congr fun analysed => ?_
  rcases analysed with fault | result
  · rfl
  simp only [mapError_ok, deliver, bind_assoc]
  refine bind_congr fun _ => ?_
  rcases a.json with _ | file
  · rfl
  · cases hempty : file.isEmpty <;> simp [hempty]

/-- The parts of a run with what is between them. -/
lemma run_eq : run parse a = load a >>= fun loaded => match loaded with
    | (_, .error reason) => refused s!"Could not read {a.file}: {reason}"
    | (d, .ok (code, name)) =>
      equip d >>= fun (analyzer, detection) => decideOn a code name { analyzer with parse := parse } detection := by
  simp only [run, load, equip, conclude_eq, bind_assoc, pure_bind]
  refine bind_congr fun d => bind_congr fun _ => bind_congr fun _ => bind_congr fun read => ?_
  rcases read with reason | ⟨code, name⟩ <;> rfl

lemma run_onHost {α : Type} (action : StateM Host α) : ((onHost action).run : StateM Session _) s =
    (.ok (action.run s.host).1, { s with host := (action.run s.host).2 }) := rfl

lemma run_tryHost {ε α : Type} (failure : ε → Failure) (action : ExceptT ε (StateM Host) α) :
    ((tryHost failure action).run : StateM Session _) s =
      ((action.run s.host).1.mapError failure, { s with host := (action.run s.host).2 }) := by
  have hstate : StateT.run action.run s.host = action.run s.host := rfl
  rw [tryHost, run_bind_of_ok (run_onHost _), hstate]
  rcases (action.run s.host).1 with e | a <;> rfl

/-- Settings without a reference that cannot be replaced fail to make an analyzer exactly when they are out of range. -/
lemma equip_fails_iff (hsandbox : d.Expands "Sandbox" Settings.SandboxSettings.keys)
    (hdetection : d.Expands "Detection" DetectionSettings.keys) :
    (∃ failure u, (equip d).run s = (.error failure, u)) ↔ ¬ d.InRange := by
  rw [← Document.exists_analyzer_iff hsandbox hdetection s.host, equip]
  have hfirst := run_tryHost (s := s) .setup d.analyzer
  rcases hmade : (d.analyzer.run s.host).1 with fault | analyzer
  · rw [hmade, mapError_error] at hfirst
    refine iff_of_true ⟨_, _, run_bind_of_error hfirst⟩ ?_
    rintro ⟨_, ⟨⟩⟩
  · rw [hmade, mapError_ok] at hfirst
    refine iff_of_false ?_ (not_not_intro ⟨analyzer, rfl⟩)
    rintro ⟨failure, u, hrun⟩
    rw [run_bind_of_ok hfirst, run_bind_pure, run_tryHost, Document.run_detection hdetection] at hrun
    cases congrArg Prod.fst hrun

/-- A source that is read and settings that make an analyzer. -/
structure Prepared (a : Arguments) (s : Session) where
  document : Document
  code : List Char
  name : String
  analyzer : Analyzer
  detection : DetectionSettings
  /-- The session from then on. -/
  session : Session
  ready : ∃ t, (load a).run s = (.ok (document, .ok (code, name)), t) ∧
    (equip document).run t = (.ok (analyzer, detection), session)

namespace Prepared

variable (p : Prepared a s)

/-- The options, if they are in their ranges. -/
def options : Except Options.Fault Options :=
  p.detection.options (overrides a)

/-- The program to analyse, if it is fit. -/
def program : Except InputFault Program :=
  p.analyzer.program (some p.code) (some a.language)

/-- The analyzer with what the parser of the language says. -/
def parsingBy (parse : List Char → ParseVerdict) : Analyzer :=
  { p.analyzer with parse := parse }

/-- The analysis of a program, and the host after it. -/
def analysis (parse : List Char → ParseVerdict) (o : Options) (program : Program) : Analysis × Host :=
  ((p.parsingBy parse).analysisOf program o).run p.session.host

/-- The session from which an analysis is delivered. -/
def after (host : Host) : Session :=
  { p.session with host := host }

lemma run_eq : ((run parse a).run : StateM Session _) s =
    (decideOn a p.code p.name (p.parsingBy parse) p.detection).run p.session := by
  obtain ⟨t, hload, hequip⟩ := p.ready
  rw [Session.run_eq, run_bind_of_ok hload]
  exact run_bind_of_ok hequip

variable {p} in
lemma run_eq_of_unfit {o : Options} {fault : InputFault} (hthreshold : a.threshold ≠ some .blank)
    (hoptions : p.options = .ok o) (hprogram : p.program = .error fault) :
    ((run parse a).run : StateM Session _) s = (refused fault.message).run p.session := by
  have hanalyze : StateT.run ((p.parsingBy parse).analyze (some p.code) (some a.language) (some o)).run
      p.session.host = (.error fault, p.session.host) := by
    change ((liftM p.program >>= fun program => _ : ExceptT InputFault (StateM Host) Analysis).run :
      StateM Host _) _ = _
    rw [hprogram, run_lift_error_bind]
  rw [options] at hoptions
  rw [p.run_eq, decideOn, if_neg hthreshold, hoptions, run_bind_of_ok (run_onHost _), hanalyze]

variable {p} in
lemma run_eq_of_fit {o : Options} {program : Program} (hthreshold : a.threshold ≠ some .blank)
    (hoptions : p.options = .ok o) (hprogram : p.program = .ok program) :
    ((run parse a).run : StateM Session _) s = ((do
      deliver a (p.analysis parse o program).1 p.name
      return if (p.analysis parse o program).1.hasCritical then .criticalIssues else .clean : Step ExitCode).run :
        StateM Session _) (p.after (p.analysis parse o program).2) := by
  have hanalyze : StateT.run ((p.parsingBy parse).analyze (some p.code) (some a.language) (some o)).run
      p.session.host = (.ok (p.analysis parse o program).1, (p.analysis parse o program).2) :=
    (p.parsingBy parse).run_analyze hprogram p.session.host
  rw [options] at hoptions
  rw [p.run_eq, decideOn, if_neg hthreshold, hoptions, run_bind_of_ok (run_onHost _), hanalyze]
  rfl

end Prepared

/-- The courses of a run with these arguments, each with what it comes to. -/
inductive Ends (parse : List Char → ParseVerdict) (a : Arguments) (s : Session) : Upshot → Prop
  | unloaded {failure t} (hload : (load a).run s = (.error failure, t)) : Ends parse a s (.escaped failure)
  | unreadable {d reason t} (hload : (load a).run s = (.ok (d, .error reason), t)) :
    Ends parse a s (.unreadable reason)
  | unequipped {d read t failure u} (hload : (load a).run s = (.ok (d, .ok read), t))
    (hequip : (equip d).run t = (.error failure, u)) : Ends parse a s (.escaped failure)
  | blank (p : Prepared a s) (hblank : a.threshold = some .blank) : Ends parse a s (.escaped .blankThreshold)
  | invalid {fault} (p : Prepared a s) (hthreshold : a.threshold ≠ some .blank)
    (hoptions : p.options = .error fault) : Ends parse a s (.invalid fault)
  | unfit {o fault} (p : Prepared a s) (hthreshold : a.threshold ≠ some .blank) (hoptions : p.options = .ok o)
    (hprogram : p.program = .error fault) : Ends parse a s (.unfit fault)
  | undelivered {o program result host failure u} (p : Prepared a s) (hthreshold : a.threshold ≠ some .blank)
    (hoptions : p.options = .ok o) (hprogram : p.program = .ok program)
    (hanalysis : p.analysis parse o program = (result, host))
    (hdeliver : (deliver a result p.name).run (p.after host) = (.error failure, u)) :
    Ends parse a s (.undelivered result failure)
  | completed {o program result host u} (p : Prepared a s) (hthreshold : a.threshold ≠ some .blank)
    (hoptions : p.options = .ok o) (hprogram : p.program = .ok program)
    (hanalysis : p.analysis parse o program = (result, host))
    (hdeliver : (deliver a result p.name).run (p.after host) = (.ok (), u)) : Ends parse a s (.completed result)

/-- Each run takes one of the courses. -/
lemma exists_ends (parse : List Char → ParseVerdict) (a : Arguments) (s : Session) : ∃ e, Ends parse a s e := by
  rcases hload : (load a).run s with ⟨failure | ⟨d, reason | ⟨code, name⟩⟩, t⟩
  · exact ⟨_, .unloaded hload⟩
  · exact ⟨_, .unreadable hload⟩
  rcases hequip : (equip d).run t with ⟨failure | ⟨analyzer, detection⟩, u⟩
  · exact ⟨_, .unequipped hload hequip⟩
  let p : Prepared a s := ⟨d, code, name, analyzer, detection, u, t, hload, hequip⟩
  by_cases hthreshold : a.threshold = some .blank
  · exact ⟨_, .blank p hthreshold⟩
  rcases hoptions : p.options with fault | o
  · exact ⟨_, .invalid p hthreshold hoptions⟩
  rcases hprogram : p.program with fault | program
  · exact ⟨_, .unfit p hthreshold hoptions hprogram⟩
  rcases hanalysis : p.analysis parse o program with ⟨result, host⟩
  rcases hdeliver : (deliver a result p.name).run (p.after host) with ⟨failure | ⟨⟨⟩⟩, v⟩
  · exact ⟨_, .undelivered p hthreshold hoptions hprogram hanalysis hdeliver⟩
  · exact ⟨_, .completed p hthreshold hoptions hprogram hanalysis hdeliver⟩

/-- A run has the result of what it comes to. -/
lemma Ends.run_eq {e : Upshot} (h : Ends parse a s e) : ((run parse a).run s).1 = e.result := by
  cases h with
  | unloaded hload => rw [Session.run_eq, run_bind_of_error hload]; rfl
  | unreadable hload => rw [Session.run_eq, run_bind_of_ok hload]; rfl
  | unequipped hload hequip =>
    rw [Session.run_eq, run_bind_of_ok hload]
    exact congrArg Prod.fst (run_bind_of_error hequip)
  | blank p hblank => rw [p.run_eq, decideOn, if_pos hblank]; rfl
  | invalid p hthreshold hoptions =>
    rw [Prepared.options] at hoptions
    rw [p.run_eq, decideOn, if_neg hthreshold, hoptions]
    rfl
  | unfit p hthreshold hoptions hprogram => rw [p.run_eq_of_unfit hthreshold hoptions hprogram]; rfl
  | undelivered p hthreshold hoptions hprogram hanalysis hdeliver =>
    rw [p.run_eq_of_fit hthreshold hoptions hprogram, hanalysis]
    exact congrArg Prod.fst (run_bind_of_error hdeliver)
  | completed p hthreshold hoptions hprogram hanalysis hdeliver =>
    rw [p.run_eq_of_fit hthreshold hoptions hprogram, hanalysis]
    exact congrArg Prod.fst (run_bind_of_ok hdeliver)

/-- With these texts as its arguments the program makes a run that comes to this. -/
def Comes (parse : List Char → ParseVerdict) (texts : List String) (s : Session) (e : Upshot) : Prop :=
  ∃ a, Arguments.ofTexts texts = .ok a ∧ Ends parse a s e

lemma Comes.status?_eq {texts : List String} {e : Upshot} (h : Comes parse texts s e) :
    ((invoke parse texts).run s).1.status? = e.status? := by
  obtain ⟨a, harguments, hends⟩ := h
  have hbind (f : Except Failure ExitCode → StateM Session Ending) : ((run parse a).run >>= f).run s =
      (f ((run parse a).run s).1).run ((run parse a).run s).2 := rfl
  simp only [invoke, harguments, hbind, hends.run_eq, e.status?_eq]
  cases e.result <;> rfl

/-- The status follows from the arguments or from what the run comes to. -/
lemma status?_invoke_eq_iff {texts : List String} {x : Option Nat} :
    ((invoke parse texts).run s).1.status? = x ↔
      Arguments.ofTexts texts = .error .help ∧ x = some 0 ∨
      (∃ fault, Arguments.ofTexts texts = .error (.usage fault)) ∧ x = some 2 ∨
      ∃ e, Comes parse texts s e ∧ e.status? = x := by
  rcases harguments : Arguments.ofTexts texts with (_ | fault) | a
  · have hstatus : ((invoke parse texts).run s).1.status? = some 0 := by rw [invoke, harguments]; rfl
    simp [hstatus, Comes, harguments, eq_comm]
  · have hstatus : ((invoke parse texts).run s).1.status? = some 2 := by rw [invoke, harguments]; rfl
    simp [hstatus, Comes, harguments, eq_comm]
  · obtain ⟨e, hends⟩ := exists_ends parse a s
    have hcomes : Comes parse texts s e := ⟨a, harguments, hends⟩
    constructor
    · exact fun hx => .inr (.inr ⟨e, hcomes, hcomes.status?_eq.symm.trans hx⟩)
    · rintro (⟨⟨⟩, -⟩ | ⟨⟨_, ⟨⟩⟩, -⟩ | ⟨e', hcomes', hx⟩)
      exact hcomes'.status?_eq.trans hx

/-- **What the exit status tells.** The status is 2 when the analysis is completed with a critical finding, but also for
every fault in the arguments themselves; 0 when it is completed without one or help is asked for; and 1 when the source
cannot be read, the options are out of their ranges or the source is not fit. There is none exactly when an error ends
the run: once the settings are loaded and the source is read, with a threshold that is not blank, that is when the
settings are out of range, which no refusal covers, or the result cannot be delivered. -/
theorem exit_status_iff (parse : List Char → ParseVerdict) (texts : List String) (s : Session) :
    (((invoke parse texts).run s).1.status? = some 2 ↔
      (∃ fault, Arguments.ofTexts texts = .error (.usage fault)) ∨
        ∃ r, Comes parse texts s (.completed r) ∧ ∃ f ∈ r.findings, f.severity = .critical) ∧
    (((invoke parse texts).run s).1.status? = some 0 ↔
      Arguments.ofTexts texts = .error .help ∨
        ∃ r, Comes parse texts s (.completed r) ∧ ∀ f ∈ r.findings, f.severity ≠ .critical) ∧
    (((invoke parse texts).run s).1.status? = some 1 ↔ ∃ e, Comes parse texts s e ∧ e.Refused) ∧
    (((invoke parse texts).run s).1.status? = none ↔ ∃ e, Comes parse texts s e ∧ e.Broken) ∧
    ∀ a d read t, Arguments.ofTexts texts = .ok a → (load a).run s = (.ok (d, .ok read), t) →
      d.Expands "Sandbox" Settings.SandboxSettings.keys → d.Expands "Detection" DetectionSettings.keys →
      a.threshold ≠ some .blank →
      (((invoke parse texts).run s).1.status? = none ↔
        ¬ d.InRange ∨ ∃ r failure, Ends parse a s (.undelivered r failure)) := by
  have hbroken : ((invoke parse texts).run s).1.status? = none ↔ ∃ e, Comes parse texts s e ∧ e.Broken := by
    simp [status?_invoke_eq_iff, Upshot.status?_eq_none_iff]
  refine ⟨?critical, ?clean, ?refused, hbroken, ?loaded⟩
  case critical => simp [status?_invoke_eq_iff, Upshot.status?_eq_two_iff]
  case clean => simp [status?_invoke_eq_iff, Upshot.status?_eq_zero_iff]
  case refused => simp [status?_invoke_eq_iff, Upshot.status?_eq_one_iff]
  case loaded =>
    intro a d read t harguments hload hsandbox hdetection hthreshold
    rw [hbroken]
    constructor
    · rintro ⟨e, ⟨a', harguments', hends⟩, he⟩
      obtain rfl : a = a' := Except.ok.inj (harguments.symm.trans harguments')
      have hcourse := hends
      cases hends with
      | unloaded hload' => cases hload.symm.trans hload'
      | unequipped hload' hequip =>
        cases hload.symm.trans hload'
        exact .inl ((equip_fails_iff hsandbox hdetection).mp ⟨_, _, hequip⟩)
      | blank _ hblank => exact absurd hblank hthreshold
      | undelivered => exact .inr ⟨_, _, hcourse⟩
      | unreadable | invalid | unfit | completed => exact he.elim
    · rintro (hrange | ⟨r, failure, hends⟩)
      · obtain ⟨failure, u, hequip⟩ := (equip_fails_iff hsandbox hdetection).mpr hrange
        exact ⟨_, ⟨a, harguments, .unequipped hload hequip⟩, trivial⟩
      · exact ⟨_, ⟨a, harguments, hends⟩, trivial⟩

/-- A program to analyse, with settings that tell nothing and settings that want no memory. -/
def zeroMemory : Session :=
  { directory := ⟨[(["main.py".toList], "print(1)\n".toUTF8.toList), (["empty.ini".toList], []),
      (["zero.ini".toList], "[Sandbox]\nMaxMemoryMB = 0\n".toUTF8.toList)]⟩ }

/-- A threshold out of its range is refused, a limit out of its range ends the program with an error, and a threshold
that is no number has the status of a critical finding. -/
theorem zero_memory_escapes :
    ((invoke (fun _ => .parses) ["main.py", "--config", "empty.ini", "--threshold", "2"]).run zeroMemory).1.status? =
        some 1 ∧
      ((invoke (fun _ => .parses) ["main.py", "--config", "zero.ini"]).run zeroMemory).1.status? = none ∧
      ((invoke (fun _ => .parses) ["main.py", "--threshold", "high"]).run zeroMemory).1.status? = some 2 := by
  decide +kernel

end Session
end CodeAudit.CommandLine
