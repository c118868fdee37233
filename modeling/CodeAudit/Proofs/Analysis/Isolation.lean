import CodeAudit.Proofs.Analysis.Reporting

/-!
Detectors that fail. A detector that fails leaves no trace but its name, so that the analysis is the one in which it is
disabled: those before the execution only write to the log, nothing looks at the log, and nothing follows the execution.
-/
namespace CodeAudit

open Outcome

/-- The options with some detectors disabled. -/
def Options.without (o : Options) (off : List Method) : Options :=
  { o with
    enablePatterns := o.enablePatterns && .pattern ∉ off
    enableStatic := o.enableStatic && .static ∉ off
    enableExecution := o.enableExecution && .execution ∉ off }

open Host (SameButLog)

/-- From two states of the host that differ in the log at most the action gives the same, and it leaves two such
states. -/
def LogBlind {α : Type} (x : StateM Host α) : Prop :=
  ∀ ⦃host host' : Host⦄, SameButLog host host' →
    (x host).1 = (x host').1 ∧ SameButLog (x host).2 (x host').2

namespace LogBlind

variable {ε ε' α β : Type}

lemma pure (a : α) : LogBlind (Pure.pure a : StateM Host α) :=
  fun _ _ h => ⟨rfl, h⟩

lemma lift (x : Except ε α) : LogBlind (liftM x : ExceptT ε (StateM Host) α).run := by
  intro host host' h
  rw [run_lift, run_lift]
  exact ⟨rfl, h⟩

lemma bind {x : ExceptT ε (StateM Host) α} {f : α → ExceptT ε (StateM Host) β} (hx : LogBlind x.run)
    (hf : ∀ a, LogBlind (f a).run) : LogBlind (x >>= f).run := by
  intro host host' h
  obtain ⟨hresult, hnext⟩ := hx h
  rw [run_bind, run_bind, ← hresult]
  cases (x.run host).1 with
  | error e => exact ⟨rfl, hnext⟩
  | ok a => exact hf a hnext

lemma adapt {x : ExceptT ε (StateM Host) α} (f : ε → ε') (hx : LogBlind x.run) : LogBlind (ExceptT.adapt f x).run := by
  intro host host' h
  obtain ⟨hresult, hnext⟩ := hx h
  exact ⟨congrArg (Except.mapError f) hresult, hnext⟩

end LogBlind

namespace Sandbox

variable (box : Sandbox)

lemma follow_sameButLog (limits : Limits) (timeout : Double) (source : List Char) (offset : Nat) (flags : List String)
    (plan : ChildPlan) {host host' : Host} (h : SameButLog host host') :
    (box.follow limits timeout source offset flags plan host).1 =
        (box.follow limits timeout source offset flags plan host').1 ∧
      SameButLog (box.follow limits timeout source offset flags plan host).2
        (box.follow limits timeout source offset flags plan host').2 := by
  obtain ⟨clock, plans, launches, log⟩ := host
  obtain ⟨_, _, _, log'⟩ := host'
  obtain ⟨rfl, rfl, rfl⟩ := h
  unfold follow
  cases plan.spawnError with
  | some reason => exact ⟨rfl, rfl, rfl, rfl⟩
  | none =>
    dsimp only
    split
    · exact ⟨rfl, rfl, rfl, rfl⟩
    · exact ⟨rfl, rfl, rfl, rfl⟩

lemma nextPlan_sameButLog {host host' : Host} (h : SameButLog host host') :
    host.nextPlan.1 = host'.nextPlan.1 ∧ SameButLog host.nextPlan.2 host'.nextPlan.2 := by
  unfold Host.nextPlan
  rw [h.plans]
  cases host.plans with
  | nil => exact ⟨rfl, h⟩
  | cons plan rest => exact ⟨rfl, h.clock, rfl, h.launches⟩

lemma run_logBlind (limits : Limits) (source : List Char) (offset : Nat) (flags : List String) :
    LogBlind (box.run limits source offset flags).run := by
  intro host host' h
  cases hlimit : seconds limits.timeMs with
  | error fault =>
    rw [run_of_seconds_error box hlimit, run_of_seconds_error box hlimit]
    exact ⟨rfl, h⟩
  | ok timeout =>
    obtain ⟨hplan, hnext⟩ := nextPlan_sameButLog h
    rw [run_of_seconds box hlimit, run_of_seconds box hlimit, ← hplan]
    exact box.follow_sameButLog limits timeout source offset flags _ hnext

lemma execute_logBlind (code : Option (List Char)) (language : Option String) (limits : Option Limits) :
    LogBlind (box.execute code language limits).run := by
  unfold execute
  cases box.problem? code language with
  | some problem => exact .pure _
  | none => exact box.run_logBlind _ _ _ _

end Sandbox

namespace Analyzer

section Attempt

variable (a : Analyzer) (s : Subject)

/-- Calling a detector does not look at the log. -/
lemma attempt_logBlind (method : Method) : LogBlind (a.attempt s method) := by
  by_cases hne : method = .execution
  · subst hne
    cases h : a.defect (.detector .execution) with
    | some reason =>
      rw [a.attempt_of_defect s h]
      exact .pure _
    | none =>
      rw [a.attempt_of_inOrder s h]
      change LogBlind (a.detectByExecution s).run
      unfold detectByExecution
      split
      · exact .pure _
      · refine .adapt _ (.bind (.lift _) fun limits => .bind (a.sandbox.execute_logBlind _ _ _) fun result => ?_)
        exact .bind (.lift _) fun findings => .pure _
  · obtain ⟨result, hquiet⟩ := a.attempt_quiet s hne
    intro host host' h
    obtain ⟨next, hrun, hsame⟩ := hquiet host
    obtain ⟨next', hrun', hsame'⟩ := hquiet host'
    have hfirst : a.attempt s method host = (result, next) := hrun
    have hsecond : a.attempt s method host' = (result, next') := hrun'
    rw [hfirst, hsecond]
    exact ⟨rfl, (hsame.symm.trans h).trans hsame'⟩

/-- A detector that does not fail lists none that did. -/
lemma failed_of_attempt {method : Method} {host next : Host} {outcome : Outcome}
    (h : (a.attempt s method).run host = (.ok outcome, next)) : outcome.failed = [] := by
  cases hdefect : a.defect (.detector method) with
  | some reason =>
    rw [a.attempt_of_defect s hdefect] at h
    cases h
  | none =>
    rw [a.attempt_of_inOrder s hdefect] at h
    cases method with
    | pattern =>
      obtain ⟨_, hrun, -⟩ := a.run_detectPatterns s host
      cases hrun.symm.trans h
      rfl
    | static =>
      have hstatic : a.staticOutcome s = .ok outcome := congrArg Prod.fst ((a.run_detectStatic s host).symm.trans h)
      unfold staticOutcome at hstatic
      split at hstatic
      · cases hstatic
        rfl
      · cases hstatic
    | execution =>
      have hrun : ((a.detectByExecution s).run host).1 = .ok outcome := congrArg Prod.fst h
      unfold detectByExecution at hrun
      split at hrun
      · cases hrun
        rfl
      · have hexecute : ((a.execute s).run host).1 = .ok outcome := mapError_eq_ok.mp hrun
        obtain ⟨limits, -, hexecute⟩ := run_bind_eq_ok.mp hexecute
        obtain ⟨result, -, hexecute⟩ := run_bind_eq_ok.mp hexecute
        obtain ⟨findings, -, hexecute⟩ := run_bind_eq_ok.mp hexecute
        obtain rfl := Except.ok.inj hexecute
        rfl

/-- A detector fails when it is called in that state of the host. -/
def Raises (host : Host) (method : Method) : Prop :=
  ∃ fault, ((a.attempt s method).run host).1 = .error fault

lemma run_outcomeOfAll_cons (method : Method) (rest : List Method) (host : Host) :
    (a.outcomeOfAll s (method :: rest)).run host =
      let first := (a.outcomeOf s method).run host
      let later := (a.outcomeOfAll s rest).run first.2
      (first.1.append later.1, later.2) := rfl

end Attempt

section Isolation

variable {a b : Analyzer} {s t : Subject} {failing : List Method} {start : Host}

/-- What comes of a detector comes of it in any state that differs in the log at most. -/
lemma attempt_elsewhere {method : Method} {result : Except DetectorFault Outcome} {host : Host}
    (h : ((a.attempt s method).run start).1 = result) (hhost : SameButLog start host) :
    ∃ next, (a.attempt s method).run host = (result, next) ∧ (method ≠ .execution → SameButLog start next) := by
  refine ⟨((a.attempt s method).run host).2, Prod.ext ?_ rfl, fun hne => ?_⟩
  · exact (a.attempt_logBlind s method hhost).1.symm.trans h
  · exact hhost.trans (a.attempt_sameButLog s hne host)

/-- A detector that fails leaves its name behind. -/
lemma outcomeOf_of_raises {method : Method} (h : a.Raises s start method) {host : Host}
    (hhost : SameButLog start host) : ∃ next,
    (a.outcomeOf s method).run host = ({ failed := [method.name] }, next) ∧
      (method ≠ .execution → SameButLog start next) := by
  obtain ⟨fault, hfault⟩ := h
  obtain ⟨next, hrun, hnext⟩ := attempt_elsewhere hfault hhost
  refine ⟨next.logged (detectorWarning method fault), ?_, fun hne => (hnext hne).trans (.logged next _)⟩
  rw [run_outcomeOf, hrun]

/-- A detector that does not fail has the same outcome wherever it is called in the same way. -/
lemma outcomeOf_of_not_raises {method : Method} (h : ¬ a.Raises s start method)
    (hsame : b.attempt t method = a.attempt s method) {host host' : Host} (hhost : SameButLog start host)
    (hhost' : SameButLog start host') : ∃ outcome next next',
    (a.outcomeOf s method).run host = (outcome, next) ∧ (b.outcomeOf t method).run host' = (outcome, next') ∧
      outcome.failed = [] ∧ (method ≠ .execution → SameButLog start next ∧ SameButLog start next') := by
  cases hresult : ((a.attempt s method).run start).1 with
  | error fault => exact absurd ⟨fault, hresult⟩ h
  | ok outcome =>
    obtain ⟨next, hrun, hnext⟩ := attempt_elsewhere hresult hhost
    obtain ⟨next', hrun', hnext'⟩ := attempt_elsewhere hresult hhost'
    refine ⟨outcome, next, next', ?_, ?_, a.failed_of_attempt s hrun, fun hne => ⟨hnext hne, hnext' hne⟩⟩
    · rw [run_outcomeOf, hrun]
    · rw [run_outcomeOf, hsame, hrun']

/-- The detectors that fail only leave their names behind, which makes the outcome that of the others alone. The
induction is on the detectors that run; one that has others after it leaves the host as it was but for the log. -/
lemma outcomeOfAll_isolated {methods : List Method} (hlast : methods.Pairwise fun method _ => method ≠ .execution)
    (hfailing : ∀ method ∈ methods, method ∈ failing ↔ a.Raises s start method)
    (hsame : ∀ method ∈ methods, method ∉ failing → b.attempt t method = a.attempt s method) {host host' : Host}
    (hhost : methods ≠ [] → SameButLog start host) (hhost' : methods ≠ [] → SameButLog start host') :
    ((a.outcomeOfAll s methods).run host).1 =
      { ((b.outcomeOfAll t (methods.filter (· ∉ failing))).run host').1 with
        failed := (methods.filter (· ∈ failing)).map Method.name } ∧
      ((b.outcomeOfAll t (methods.filter (· ∉ failing))).run host').1.failed = [] := by
  induction methods generalizing host host' with
  | nil => exact ⟨rfl, rfl⟩
  | cons method rest ih =>
    obtain ⟨hbefore, hrestLast⟩ := List.pairwise_cons.mp hlast
    obtain ⟨hmethod, hrest⟩ := List.forall_mem_cons.mp hfailing
    obtain ⟨hmethodSame, hrestSame⟩ := List.forall_mem_cons.mp hsame
    have hquiet : rest ≠ [] → method ≠ .execution := fun hne =>
      (List.exists_mem_of_ne_nil rest hne).elim hbefore
    have hstart := hhost (List.cons_ne_nil _ _)
    have hstart' := hhost' (List.cons_ne_nil _ _)
    rw [run_outcomeOfAll_cons]
    by_cases hmem : method ∈ failing
    · obtain ⟨next, hrun, hnext⟩ := outcomeOf_of_raises (hmethod.mp hmem) hstart
      obtain ⟨hall, hnone⟩ := ih hrestLast hrest hrestSame (fun hne => hnext (hquiet hne)) fun _ => hstart'
      rw [List.filter_cons_of_neg (by simpa using hmem), List.filter_cons_of_pos (by simpa using hmem), hrun]
      refine ⟨?_, hnone⟩
      dsimp only
      rw [hall]
      simp [Outcome.append]
    · obtain ⟨outcome, next, next', hrun, hrun', hfailed, hnext⟩ :=
        outcomeOf_of_not_raises (mt hmethod.mpr hmem) (hmethodSame hmem) hstart hstart'
      obtain ⟨hall, hnone⟩ := ih hrestLast hrest hrestSame (fun hne => (hnext (hquiet hne)).1) fun hne =>
        (hnext (hquiet hne)).2
      rw [List.filter_cons_of_pos (by simpa using hmem), List.filter_cons_of_neg (by simpa using hmem),
        run_outcomeOfAll_cons, hrun, hrun']
      dsimp only
      rw [hall]
      refine ⟨?_, ?_⟩
      · simp [Outcome.append, hfailed]
      · exact List.append_eq_nil_iff.mpr ⟨hfailed, hnone⟩

/-- The second analyzer is the first one, but that among those detectors, and in the safety gate, other parts may be
out of order; a gate in order stays so. -/
structure SameBut (a b : Analyzer) (failing : List Method) : Prop where
  sandbox : b.sandbox = a.sandbox
  rules : b.rules = a.rules
  parse : b.parse = a.parse
  outline : b.defect .outline = a.defect .outline
  detector : ∀ method, method ∉ failing → b.defect (.detector method) = a.defect (.detector method)
  safety : a.defect .safety = none → b.defect .safety = none

lemma SameBut.refl (a : Analyzer) (failing : List Method) : SameBut a a failing :=
  ⟨rfl, rfl, rfl, rfl, fun _ _ => rfl, id⟩

/-- The detectors to disable instead of letting them fail: without a safety assessment execution is one of them. -/
def disabled (a : Analyzer) (failing : List Method) : List Method :=
  if a.defect .safety = none then failing else .execution :: failing

section Same

variable {p : Program} {o : Options}

lemma SameBut.outlined_eq (h : SameBut a b failing) (code : List Char) : b.outlined code = a.outlined code := by
  unfold outlined
  rw [h.outline]

lemma SameBut.assessed_eq (h : SameBut a b failing) (hsafety : a.defect .safety = none) (code : List Char) :
    b.assessed code = a.assessed code := by
  unfold assessed
  rw [hsafety, h.safety hsafety]

lemma SameBut.program_eq (h : SameBut a b failing) (code : Option (List Char)) (language : Option String) :
    b.program code language = a.program code language := by
  unfold program
  rw [h.sandbox]

lemma safety_of_execution_mem (h : .execution ∈ a.running p o) : a.defect .safety = none := by
  obtain ⟨-, hsome⟩ := execution_mem_methods.mp h
  unfold assessed at hsome
  split at hsome
  · assumption
  · cases hsome

/-- A detector that runs and does not fail is called by both analyzers in the same way. -/
lemma SameBut.attempt_eq (h : SameBut a b failing) {method : Method} (hrunning : method ∈ a.running p o)
    (hmem : method ∉ failing) (off : List Method) :
    b.attempt (b.subject p (o.without off)) method = a.attempt (a.subject p o) method := by
  unfold attempt
  rw [h.detector method hmem]
  cases a.defect (.detector method) with
  | some reason => rfl
  | none =>
    dsimp only
    cases method with
    | pattern =>
      unfold detectBy detectPatterns subject
      rw [h.rules, h.outlined_eq]
    | static =>
      unfold detectBy detectStatic subject
      rw [h.parse, h.outlined_eq]
    | execution =>
      unfold detectBy detectByExecution execute runLimits subject
      rw [h.sandbox, h.outlined_eq, h.assessed_eq (safety_of_execution_mem hrunning)]
      rfl

/-- Disabled, they are the only ones that no longer run. -/
lemma SameBut.running_without (h : SameBut a b failing) :
    b.running p (o.without (a.disabled failing)) = (a.running p o).filter (· ∉ failing) := by
  unfold running methods
  rw [List.filter_filter]
  refine List.filter_congr fun method _ => ?_
  by_cases hsafety : a.defect .safety = none
  · cases method <;> simp [Options.without, disabled, assessed, hsafety, h.safety hsafety, Bool.and_comm]
  · cases method <;> simp [Options.without, disabled, assessed, hsafety, Bool.and_comm]

end Same

/-- The second result says of the program what the first one says of it. -/
structure SameReport (r r' : Analysis) : Prop where
  findings : r'.findings = r.findings
  rate : r'.rate = r.rate
  summary : r'.summary = r.summary
  impact : r'.impact = r.impact
  recommendations : r'.recommendations = r.recommendations
  execution : r'.execution = r.execution
  codeStructure : r'.codeStructure = r.codeStructure
  statistics : r'.metadata.statistics = r.metadata.statistics

lemma Reports.sameReport {o o' : Options} {outcome outcome' : Outcome} {r r' : Analysis} (h : Reports o outcome r)
    (h' : Reports o' outcome' r') (hreported : reported o' outcome' = reported o outcome)
    (hgenerate : o'.generateRecommendations = o.generateRecommendations)
    (hexecution : outcome'.execution = outcome.execution) (hstatistics : outcome'.statistics = outcome.statistics)
    (hstructure : r'.codeStructure = r.codeStructure) : SameReport r r' := by
  have hfindings : r'.findings = r.findings := by rw [h.findings, h'.findings, hreported]
  have hrate : r'.rate = r.rate := by rw [h.rate, h'.rate, hfindings]
  refine ⟨hfindings, hrate, ?_, ?_, ?_, ?_, hstructure, ?_⟩
  · rw [h.summary, h'.summary, hfindings, hrate]
  · rw [h.impact, h'.impact, hfindings]
  · rw [h.recommendations, h'.recommendations, hfindings, hrate, hgenerate]
  · rw [h.execution, h'.execution, hexecution]
  · rw [h.statistics, h'.statistics, hstatistics]

end Isolation

/-- Detectors that fail are isolated. Whichever of those that run do fail, the analysis comes to a result, with the
report of the analysis in which they are disabled; it lists them in their order and no others, and before them the
safety gate if that fails, in whose case execution is disabled as well. -/
theorem failures_isolated (a b : Analyzer) (code : Option (List Char)) (language : Option String)
    (given : Option Options) (host : Host) (p : Program) (failing : List Method)
    (hp : a.program code language = .ok p) (hsame : SameBut a b failing)
    (hfailing : ∀ method ∈ a.running p (given.getD a.options),
      method ∈ failing ↔ a.Raises (a.subject p (given.getD a.options)) host method) :
    ∃ r last r' last', (a.analyze code language given).run host = (.ok r, last) ∧
      (b.analyze code language (some ((given.getD a.options).without (a.disabled failing)))).run host =
        (.ok r', last') ∧
      SameReport r r' ∧
      r.metadata.failed = (if a.defect .safety = none then [] else ["safety"]) ++
        ((a.running p (given.getD a.options)).filter (· ∈ failing)).map Method.name ∧
      r'.metadata.failed = if b.defect .safety = none then [] else ["safety"] := by
  let o := given.getD a.options
  let o' := o.without (a.disabled failing)
  obtain ⟨mid, outcome, r, last, hmid, hall, hrun, hreports, hstructure, -, hfailed⟩ := a.run_analysisOf p o host
  obtain ⟨mid', outcome', r', last', hmid', hall', hrun', hreports', hstructure', -, hfailed'⟩ :=
    b.run_analysisOf p o' host
  have hlast : (a.running p o).Pairwise fun method _ => method ≠ .execution :=
    List.Pairwise.filter _ (by decide)
  obtain ⟨houtcome, hnone⟩ := outcomeOfAll_isolated hlast hfailing
    (fun method hrunning hmem => hsame.attempt_eq hrunning hmem (a.disabled failing)) (fun _ => hmid) fun _ => hmid'
  rw [← hsame.running_without] at houtcome hnone
  rw [hall, hall'] at houtcome
  rw [hall'] at hnone
  dsimp only at houtcome hnone
  have hreport : SameReport r r' := by
    refine hreports.sameReport hreports' ?_ rfl ?_ ?_ ?_
    · rw [houtcome]
      rfl
    · rw [houtcome]
    · rw [houtcome]
    · rw [hstructure, hstructure', hsame.outlined_eq]
  have hanalyze : (a.analyze code language given).run host = (.ok r, last) := by
    rw [a.run_analyze hp host, hrun]
  have hanalyze' : (b.analyze code language (some o')).run host = (.ok r', last') := by
    have hgiven : (b.analysisOf p ((some o').getD b.options)).run host = (r', last') := hrun'
    rw [b.run_analyze ((hsame.program_eq code language).trans hp) host, hgiven]
  refine ⟨r, last, r', last', hanalyze, hanalyze', hreport, ?_, ?_⟩
  · rw [hfailed, houtcome]
  · rw [hfailed', hnone, List.append_nil]

/-- An analyzer whose rules and safety gate are out of order, for a text that does not parse. -/
def brokenAnalyzer : Analyzer :=
  { parse := fun _ => .refused "invalid syntax" (some 1) (some "x =")
    defect := fun part => if part = .detector .pattern ∨ part = .safety then some "boom" else none }

/-- The same result comes of it without the rules and execution, and of an analyzer in order. -/
theorem broken_rules_isolated : ∃ r last,
    (brokenAnalyzer.analyze (some "x =".toList) (some "python") none).run {} = (.ok r, last) ∧
      r.metadata.failed = ["safety", "pattern"] ∧
      ∀ b ∈ [brokenAnalyzer, { brokenAnalyzer with defect := fun _ => none }], ∃ r' last',
        (b.analyze (some "x =".toList) (some "python") (some (({} : Options).without [.execution, .pattern]))).run {} =
          (.ok r', last') ∧ SameReport r r' := by
  have hp : brokenAnalyzer.program (some "x =".toList) (some "python") = .ok ⟨"x =".toList, "python"⟩ := rfl
  have hrepaired : SameBut brokenAnalyzer { brokenAnalyzer with defect := fun _ => none } [.pattern] := by
    refine ⟨rfl, rfl, rfl, rfl, fun method hmem => ?_, fun _ => rfl⟩
    cases method with
    | pattern => exact absurd List.mem_cons_self hmem
    | static => rfl
    | execution => rfl
  have hfailing : ∀ method ∈ brokenAnalyzer.running ⟨"x =".toList, "python"⟩ {}, method ∈ [Method.pattern] ↔
      brokenAnalyzer.Raises (brokenAnalyzer.subject ⟨"x =".toList, "python"⟩ {}) {} method := by
    intro method hmethod
    cases method with
    | pattern => exact iff_of_true List.mem_cons_self ⟨_, rfl⟩
    | static => exact iff_of_false (by decide) fun ⟨_, h⟩ => by cases h
    | execution => exact absurd hmethod (by decide)
  have hsame : ∀ b ∈ [brokenAnalyzer, { brokenAnalyzer with defect := fun _ => none }],
      SameBut brokenAnalyzer b [.pattern] := by
    simpa using ⟨SameBut.refl brokenAnalyzer [.pattern], hrepaired⟩
  have hisolated := fun b hb => failures_isolated brokenAnalyzer b (some "x =".toList) (some "python") none {} _
    [.pattern] hp (hsame b hb) hfailing
  obtain ⟨r, last, _, _, hrun, -, -, hfailed, -⟩ := hisolated brokenAnalyzer List.mem_cons_self
  refine ⟨r, last, hrun, hfailed, fun b hb => ?_⟩
  obtain ⟨r₂, last₂, r', last', hrun₂, hrun', hreport, -⟩ := hisolated b hb
  cases hrun.symm.trans hrun₂
  exact ⟨r', last', hrun', hreport⟩

end Analyzer

end CodeAudit
