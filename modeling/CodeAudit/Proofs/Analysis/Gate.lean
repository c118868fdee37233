import CodeAudit.Proofs.Analysis.Course

/-!
The safety gate of an analysis: which children it starts, whatever parts of it are out of order.
-/
namespace CodeAudit

open Outcome Sandbox

namespace Analyzer

open Host (Starts)
open Launch (RunOnce)

variable (a : Analyzer) (s : Subject) (host : Host)

/-- The limits of a run by the options are sound, and their time has a number of seconds. -/
def Timed (o : Options) : Prop :=
  ∃ limits timeout, a.runLimits o = .ok limits ∧ seconds limits.timeMs = .ok timeout

/-- Nothing but the gate keeps the execution detector from starting a child. -/
structure Ready (o : Options) : Prop where
  inOrder : a.defect (.detector .execution) = none
  timed : Timed a o

/-- The safety of the program, if it is known, allows a run. -/
def Allowed : Prop :=
  ∀ safety ∈ s.safety, safety.allowExecution = true

lemma execute_starts (hfit : a.sandbox.problem? (some s.program.code) (some s.program.language) = none) :
    ∃ ls, Starts ls host ((a.execute s).run host).2 ∧ RunOnce s.program.code (Timed a s.options) ls := by
  unfold execute Timed
  cases hlimits : a.runLimits s.options with
  | error fault =>
    rw [run_lift_error_bind]
    exact ⟨[], .refl host, .none _ (by simp)⟩
  | ok limits =>
    rw [run_lift_ok_bind, Sandbox.execute, hfit]
    obtain ⟨ls, hstarts, hls⟩ := a.sandbox.run_starts limits s.program.code 0
      (SafetyAssessment.ofCode s.program.code).risks host
    refine ⟨ls, hstarts.bind_none fun result h => ?_, hls.congr (by simp)⟩
    apply Starts.bind_none
    · rw [run_lift]
      exact .refl h
    · exact fun findings h => .refl h

variable {a s} in
lemma detectByExecution_starts
    (hfit : a.sandbox.problem? (some s.program.code) (some s.program.language) = none) :
    ∃ ls, Starts ls host ((a.detectByExecution s).run host).2 ∧
      RunOnce s.program.code (Allowed s ∧ Timed a s.options) ls := by
  have hallowed : Allowed s ↔ ¬ s.safety.any (!·.allowExecution) = true := by
    unfold Allowed
    cases s.safety <;> simp
  unfold detectByExecution
  split
  · rename_i hdenied
    exact ⟨[], .refl host, .none _ fun h => hallowed.mp h.1 hdenied⟩
  · rename_i hgranted
    obtain ⟨ls, hstarts, hls⟩ := execute_starts a s host hfit
    exact ⟨ls, hstarts, hls.congr (and_iff_right (hallowed.mpr hgranted)).symm⟩

/-- Listing a detector that failed starts nothing. -/
lemma outcomeOf_starts {method : Method} {ls : List Launch}
    (h : Starts ls host ((a.attempt s method).run host).2) : Starts ls host ((a.outcomeOf s method).run host).2 := by
  rw [run_outcomeOf]
  rcases hrun : (a.attempt s method).run host with ⟨fault | outcome, next⟩
  all_goals rw [hrun] at h
  · exact h.before_none (.logged next _)
  · exact h

lemma outcomeOf_starts_none {method : Method} (hne : method ≠ .execution) :
    Starts [] host ((a.outcomeOf s method).run host).2 := by
  apply outcomeOf_starts
  exact (a.attempt_sameButLog s hne host).starts

lemma outcomeOf_execution_starts
    (hfit : a.sandbox.problem? (some s.program.code) (some s.program.language) = none) :
    ∃ ls, Starts ls host ((a.outcomeOf s .execution).run host).2 ∧
      RunOnce s.program.code (Allowed s ∧ Ready a s.options) ls := by
  cases h : a.defect (.detector .execution) with
  | some reason =>
    refine ⟨[], outcomeOf_starts a s host ?_, .none _ fun he => ?_⟩
    · rw [a.attempt_of_defect s h]
      exact .refl host
    · rw [he.2.inOrder] at h
      cases h
  | none =>
    obtain ⟨ls, hstarts, hls⟩ := detectByExecution_starts host hfit
    refine ⟨ls, outcomeOf_starts a s host ?_, hls.congr ?_⟩
    · rw [a.attempt_of_inOrder s h]
      exact hstarts
    · exact and_congr_right fun _ => ⟨fun htimed => ⟨h, htimed⟩, Ready.timed⟩

/-- Of detectors that all differ only the execution detector starts a child. -/
lemma outcomeOfAll_starts
    (hfit : a.sandbox.problem? (some s.program.code) (some s.program.language) = none)
    {methods : List Method} (hnodup : methods.Nodup) :
    ∃ ls, Starts ls host ((a.outcomeOfAll s methods).run host).2 ∧
      RunOnce s.program.code (.execution ∈ methods ∧ Allowed s ∧ Ready a s.options) ls := by
  induction methods generalizing host with
  | nil => exact ⟨[], .refl host, .none _ (by simp)⟩
  | cons method rest ih =>
    obtain ⟨hnotin, hrest⟩ := List.nodup_cons.mp hnodup
    obtain ⟨later, hlater, hlaterOnce⟩ := ih ((a.outcomeOf s method).run host).2 hrest
    by_cases hm : method = .execution
    · subst hm
      obtain ⟨first, hfirst, hfirstOnce⟩ := outcomeOf_execution_starts a s host hfit
      -- the execution detector comes once, so the later ones start nothing
      rw [hlaterOnce.eq_nil fun h => hnotin h.1] at hlater
      exact ⟨first, hfirst.before_none hlater, hfirstOnce.congr (by simp)⟩
    · refine ⟨later, (outcomeOf_starts_none a s host hm).after_none hlater, hlaterOnce.congr ?_⟩
      simp [Ne.symm hm]

section Whole

variable {code : Option (List Char)} {language : Option String} {p : Program} {o : Options}

lemma canonicalLanguage?_canonical {name : String} (h : canonicalLanguage? language = some name) :
    canonicalLanguage? (some name) = some name := by
  unfold canonicalLanguage? at h
  split at h
  all_goals cases h
  all_goals decide

/-- A program that is fit for analysis is fit for the sandbox. -/
lemma problem?_of_program (h : a.program code language = .ok p) :
    code = some p.code ∧ a.sandbox.problem? (some p.code) (some p.language) = none := by
  unfold program at h
  split at h
  · cases h
  · cases h
  · rename_i c hne
    split at h
    · cases h
    · rename_i name hname
      split at h
      · cases h
      · rename_i hshort
        cases h
        refine ⟨rfl, ?_⟩
        cases c with
        | nil => exact absurd rfl hne
        | cons d ds =>
          dsimp only [problem?]
          rw [canonicalLanguage?_canonical hname, if_neg (by simp), if_neg hshort]

lemma execution_mem_methods {safety : Option SafetyAssessment} :
    Method.execution ∈ methods o safety ↔ o.enableExecution = true ∧ safety.isSome = true := by
  simp [methods, Method.all]

lemma methods_nodup (safety : Option SafetyAssessment) : (methods o safety).Nodup :=
  List.Pairwise.filter _ (by decide)

/-- The gate before the child of an analysis: the input is valid, execution is enabled, and the safety of the code
is assessed and allows it. -/
structure Admits (a : Analyzer) (code : Option (List Char)) (language : Option String) (o : Options) : Prop where
  valid : ∃ p, a.program code language = .ok p
  enabled : o.enableExecution = true
  assessed : a.defect .safety = none
  allowed : ∀ c, code = some c → (SafetyAssessment.ofCode c).allowExecution = true

lemma analysisOf_starts (hfit : a.sandbox.problem? (some p.code) (some p.language) = none) :
    ∃ ls, Starts ls host ((a.analysisOf p o).run host).2 ∧
      RunOnce p.code (o.enableExecution = true ∧ a.defect .safety = none ∧
        (SafetyAssessment.ofCode p.code).allowExecution = true ∧ Ready a o) ls := by
  obtain ⟨mid, outcome, r, last, hsame, hall, hrun, -⟩ := a.run_analysisOf p o host
  obtain ⟨ls, hstarts, hls⟩ :=
    a.outcomeOfAll_starts (a.subject p o) mid hfit (methods_nodup (o := o) (a.assessed p.code))
  have hlast : ((a.outcomeOfAll (a.subject p o) (methods o (a.assessed p.code))).run mid).2 = last :=
    congrArg Prod.snd hall
  rw [hlast] at hstarts
  rw [hrun]
  refine ⟨ls, hsame.starts.after_none hstarts, hls.congr ?_⟩
  rw [execution_mem_methods, Allowed, subject, assessed]
  by_cases hdefect : a.defect .safety = none
  · simp only [hdefect, if_true, Option.isSome_some, Option.mem_some_iff, forall_eq', and_true, true_and]
  · simp [hdefect]

/-- An analysis starts at most one child, and only through the gate, with the very text that was submitted; behind
the gate it does start one, unless the execution detector is out of order or the limits of the run are unsound. -/
theorem analyze_starts_through_gate (a : Analyzer) (code : Option (List Char)) (language : Option String)
    (given : Option Options) (host : Host) :
    ∃ ls, ((a.analyze code language given).run host).2.launches = host.launches ++ ls ∧ ls.length ≤ 1 ∧
      (∀ l ∈ ls, Admits a code language (given.getD a.options) ∧ code = some l.source) ∧
      (ls ≠ [] ↔ Admits a code language (given.getD a.options) ∧ Ready a (given.getD a.options)) := by
  unfold analyze
  cases hp : a.program code language with
  | error fault =>
    have hinvalid : ¬ Admits a code language (given.getD a.options) := fun hadmits => by
      obtain ⟨p, h⟩ := hadmits.valid
      rw [hp] at h
      cases h
    exact ⟨[], (List.append_nil _).symm, by simp, by simp, by simp [hinvalid]⟩
  | ok p =>
    obtain ⟨rfl, hfit⟩ := problem?_of_program a hp
    obtain ⟨ls, hstarts, hls⟩ := analysisOf_starts a host (o := given.getD a.options) hfit
    have hiff : ls ≠ [] ↔
        Admits a (some p.code) language (given.getD a.options) ∧ Ready a (given.getD a.options) := by
      rw [hls.ne_nil_iff]
      constructor
      · rintro ⟨henabled, hassessed, hallowed, hready⟩
        refine ⟨⟨⟨p, hp⟩, henabled, hassessed, ?_⟩, hready⟩
        rintro c ⟨⟩
        exact hallowed
      · rintro ⟨hadmits, hready⟩
        exact ⟨hadmits.enabled, hadmits.assessed, hadmits.allowed p.code rfl, hready⟩
    refine ⟨ls, hstarts, hls.length_le, fun l hl => ⟨?_, ?_⟩, hiff⟩
    · exact (hiff.mp (List.ne_nil_of_mem hl)).1
    · rw [hls.source_eq l hl]

end Whole

end Analyzer
end CodeAudit
