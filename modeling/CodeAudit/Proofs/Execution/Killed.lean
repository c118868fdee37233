import CodeAudit.Proofs.Execution.Completion
import CodeAudit.Proofs.Regex.Spelling

/-!
What is told of a child that was killed. The signal has its say only where the output of the child is read as no
other end: neither as the exception that it ends with, nor by a phrase when there is none.
-/
namespace CodeAudit

namespace Traceback

/-- No phrase in an output suggests an error. -/
def SuggestsNothing (stderr : List Char) : Prop :=
  ∀ s ∈ suggestions, ∀ r ∈ s.2, r.occursIn stderr = false

instance (stderr : List Char) : Decidable (SuggestsNothing stderr) :=
  inferInstanceAs (Decidable (∀ s ∈ suggestions, _))

section Suggested

variable {stderr : List Char}

lemma suggestsNothing_iff :
    SuggestsNothing stderr ↔ (suggestions.find? fun s => s.2.any fun r => r.occursIn stderr) = none := by
  simp only [List.find?_eq_none, List.any_eq_true, not_exists, not_and, Bool.not_eq_true]
  exact Iff.rfl

/-- No phrase suggests an error of the process itself. -/
lemma suggested_type_eq_process_iff : (suggested stderr).type = "ProcessError" ↔ SuggestsNothing stderr := by
  have hother : ∀ s ∈ suggestions, s.1 ≠ "ProcessError" := by decide
  rw [suggestsNothing_iff]
  unfold suggested
  cases hfound : suggestions.find? fun s => s.2.any fun r => r.occursIn stderr with
  | none => exact iff_of_true rfl rfl
  | some s => exact iff_of_false (hother s (List.mem_of_find?_eq_some hfound)) (Option.some_ne_none s)

/-- Phrases of memory are looked for before all others. -/
lemma suggested_type_of_exhausted (h : Sandbox.memoryExhaustion.occursIn stderr = true) :
    (suggested stderr).type = "MemoryError" := by
  have hphrase : ∀ s, (phrase s).refersBack = false := by
    intro s
    rw [phrase]
    induction s.toList with
    | nil => rfl
    | cons c rest ih => exact ih
  have hmemory : (phrase "MemoryError").occursIn stderr = true ∨ (phrase "Cannot allocate memory").occursIn stderr = true ∨
      (phrase "out of memory").occursIn stderr = true := by
    have hothers : (phrase "Cannot allocate memory" <|> phrase "out of memory").refersBack = false :=
      Bool.or_eq_false_iff.mpr ⟨hphrase _, hphrase _⟩
    exact ((Regex.find?_orElse_isSome_iff (hphrase _) hothers).mp h).imp_right
      (Regex.find?_orElse_isSome_iff (hphrase _) (hphrase _)).mp
  unfold suggested
  rw [suggestions, List.find?_cons_of_pos]
  · rfl
  · rcases hmemory with h | h | h <;> simp [h]

end Suggested

end Traceback

namespace Sandbox

open Outcome Traceback

/-- The child starts, ends within its time and is terminated by the signal that cannot be caught. -/
structure Killed (plan : ChildPlan) : Prop where
  started : plan.spawnError = none
  ended : plan.outlives = false
  exitCode : plan.exitCode = -9

/-- One error tells of a killed child: of memory when the output shows that there was none left and only then, and
else of the signal. -/
def ToldAsKilled (stderr : List Char) (errors : List ExecutionError) : Prop :=
  ∃ e, errors = [e] ∧ (e.type = "MemoryError" ↔ memoryExhaustion.occursIn stderr = true) ∧
    (memoryExhaustion.occursIn stderr = false →
      e.type = "ProcessError" ∧ e.message = "Process terminated by SIGKILL")

/-- The output is read as no end that contradicts the signal: by an exception of another name, or without one by a
phrase that is not of exhausted memory. -/
structure LeftToSignal (stderr : List Char) : Prop where
  raised : ∀ name, raised? stderr = some name →
    name = "ProcessError" ∨ name = "MemoryError" ∧ memoryExhaustion.occursIn stderr = true
  silent : raised? stderr = none →
    Text.isBlankText stderr = true ∨ SuggestsNothing stderr ∨ memoryExhaustion.occursIn stderr = true

section Errors

variable {stderr : List Char}

lemma toldAsKilled_signalError : ToldAsKilled stderr [signalError (-9) stderr] := by
  have hname : Signal.name (-9 : Int).natAbs = "SIGKILL" := rfl
  refine ⟨_, rfl, ?_⟩
  rw [signalError, if_pos (by decide), hname]
  cases hmemory : memoryExhaustion.occursIn stderr with
  | true => exact ⟨iff_of_true rfl rfl, fun h => (by cases h)⟩
  | false => exact ⟨iff_of_false (show "ProcessError" ≠ "MemoryError" by decide) Bool.false_ne_true, fun _ => ⟨rfl, rfl⟩⟩

/-- An error that the output tells of replaces that of the signal, which is right for exhausted memory only. -/
lemma toldAsKilled_reported_iff {told : Option ExecutionError} :
    ToldAsKilled stderr [reported (-9) stderr told] ↔
      ∀ e ∈ told, e.type = "ProcessError" ∨ e.type = "MemoryError" ∧ memoryExhaustion.occursIn stderr = true := by
  cases told with
  | none => exact iff_of_true toldAsKilled_signalError (by simp)
  | some e =>
    simp only [Option.mem_some_iff, forall_eq']
    by_cases hprocess : e.type = "ProcessError"
    · have hsignal : reported (-9) stderr (some e) = signalError (-9) stderr := by simp [reported, hprocess]
      rw [hsignal]
      exact iff_of_true toldAsKilled_signalError (.inl hprocess)
    · have htold : reported (-9) stderr (some e) = e := by simp [reported, hprocess]
      rw [htold, or_iff_right hprocess]
      constructor
      · rintro ⟨_, hone, hmemory, hsignal⟩
        cases hone
        cases hexhausted : memoryExhaustion.occursIn stderr with
        | true => exact ⟨hmemory.mpr hexhausted, rfl⟩
        | false => exact absurd (hsignal hexhausted).1 hprocess
      · rintro ⟨htype, hexhausted⟩
        exact ⟨e, rfl, iff_of_true htype hexhausted, fun h => (by rw [hexhausted] at h; cases h)⟩

lemma leftToSignal_iff {source : List Source.Line} {offset : Int} {told : Option ExecutionError}
    (h : error? stderr (some "main.py") source offset = .ok told) :
    (∀ e ∈ told, e.type = "ProcessError" ∨ e.type = "MemoryError" ∧ memoryExhaustion.occursIn stderr = true) ↔
      LeftToSignal stderr := by
  cases hraised : raised? stderr with
  | some name =>
    obtain ⟨e, rfl, rfl⟩ := (error?_of_raised hraised).2 told h
    simp only [Option.mem_some_iff, forall_eq']
    refine ⟨fun he => ⟨fun name hname => ?_, fun hnone => ?_⟩, fun hleft => hleft.raised e.type hraised⟩
    · cases hraised.symm.trans hname
      exact he
    · cases hraised.symm.trans hnone
  | none =>
    rw [error?_eq_of_not_raised hraised] at h
    obtain rfl := Except.ok.inj h
    have hsilent : LeftToSignal stderr ↔
        Text.isBlankText stderr = true ∨ SuggestsNothing stderr ∨ memoryExhaustion.occursIn stderr = true :=
      ⟨fun hleft => hleft.silent hraised, fun hs => ⟨fun _ hname => (by cases hraised.symm.trans hname), fun _ => hs⟩⟩
    rw [hsilent]
    split
    · rename_i hblank
      exact iff_of_true (by simp) (.inl hblank)
    · rename_i hblank
      rw [or_iff_right hblank, ← suggested_type_eq_process_iff]
      simp only [Option.mem_some_iff, forall_eq']
      exact or_congr_right (and_iff_right_of_imp suggested_type_of_exhausted)

end Errors

variable {limits : Limits} {source : List Char} {offset : Nat} {flags : List String} {plan : ChildPlan}

/-- The run of a killed child comes to one error, of exhausted memory or else of the signal, exactly when what the
child leaves can be told at all and its output is read as no other end. -/
theorem killed_told_iff (box : Sandbox) {host : Host} {timeout : Double} (hplan : host.nextPlan.1 = plan)
    (hlimit : seconds limits.timeMs = .ok timeout) (hkilled : Killed plan) :
    (∃ r, ((box.run limits source offset flags).run host).1 = .ok r ∧ ToldAsKilled plan.stderr.toList r.errors) ↔
      Presentable plan (elapsedMs host plan) ∧ LeftToSignal plan.stderr.toList := by
  subst hplan
  rw [run_of_started box hlimit hkilled.started, ← exists_resultOf_iff limits source offset flags]
  generalize host.nextPlan.1 = plan at *
  have hbad : EndsBadly plan := ⟨hkilled.ended, by rw [hkilled.exitCode]; decide⟩
  -- the errors of any result are the one that is reported for what the output tells
  have htold : ∀ r, resultOf limits source offset flags plan (elapsedMs host plan) = .ok r →
      (ToldAsKilled plan.stderr.toList r.errors ↔ LeftToSignal plan.stderr.toList) := by
    intro r hr
    obtain ⟨usage, -, errors, herrors, rfl⟩ := (resultOf_eq_ok_iff limits source offset flags plan).mp hr
    rw [errorsOf_of_endsBadly hbad, exitError_eq, hkilled.exitCode] at herrors
    obtain ⟨e, he, rfl⟩ := map_eq_ok.mp herrors
    obtain ⟨told, htold, rfl⟩ := map_eq_ok.mp he
    exact toldAsKilled_reported_iff.trans (leftToSignal_iff htold)
  constructor
  · rintro ⟨r, hr, hkill⟩
    exact ⟨⟨r, hr⟩, (htold r hr).mp hkill⟩
  · rintro ⟨⟨r, hr⟩, hleft⟩
    exact ⟨r, hr, (htold r hr).mpr hleft⟩

/-- A child that was killed after that output. -/
def killedPlan (stderr : String) : ChildPlan :=
  { stderr := stderr, exitCode := -9 }

theorem killed_told_exhausted :
    Killed (killedPlan "step 1\nfatal: out of memory\n") ∧
      ∃ r, ((({} : Sandbox).run .standard "grow()".toList 0 []).run
          { plans := [killedPlan "step 1\nfatal: out of memory\n"] }).1 = .ok r ∧
        ToldAsKilled "step 1\nfatal: out of memory\n".toList r.errors := by
  have hlimit : seconds Limits.standard.timeMs = .ok 5 := by decide +kernel
  have hkilled : Killed (killedPlan "step 1\nfatal: out of memory\n") := ⟨rfl, rfl, rfl⟩
  have hraised : raised? "step 1\nfatal: out of memory\n".toList = none := by decide +kernel
  have hframe : frameDigits? "step 1\nfatal: out of memory\n".toList = none := by decide +kernel
  have hexhausted : memoryExhaustion.occursIn "step 1\nfatal: out of memory\n".toList = true := by decide +kernel
  refine ⟨hkilled, (killed_told_iff {} (by rfl) hlimit hkilled).mpr
    ⟨⟨fun text h => (by cases h), fun _ digits h => ?_⟩, ?_, ?_⟩⟩
  · cases hframe.symm.trans h
  · intro name h
    cases hraised.symm.trans h
  · exact fun _ => .inr (.inr hexhausted)

/-- The output of a program that goes on after an error. -/
def handledOutput : String :=
  "Traceback (most recent call last):\n  File \"main.py\", line 2, in <module>\nValueError: bad\nretrying\n"

lemma exists_run_killedPlan (stderr : String) {es : List ExecutionError}
    (h : errorsOf .standard "work()".toList 0 (killedPlan stderr) = .ok es) :
    ∃ r, ((({} : Sandbox).run .standard "work()".toList 0 []).run { plans := [killedPlan stderr] }).1 = .ok r ∧
      r.errors = es := by
  have hlimit : seconds Limits.standard.timeMs = .ok 5 := by decide +kernel
  rw [run_of_started _ hlimit rfl]
  exact ⟨_, (resultOf_eq_ok_iff _ _ _ _ _).mpr ⟨_, rfl, _, h, rfl⟩, rfl⟩

/-- A killed child is told of as out of memory because its output says that it was killed, and by an error that the
program had handled before. -/
theorem killed_told_otherwise :
    (Killed (killedPlan "Killed\n") ∧
      ∃ r, ((({} : Sandbox).run .standard "work()".toList 0 []).run { plans := [killedPlan "Killed\n"] }).1 = .ok r ∧
        r.errors = [{ type := "MemoryError", message := "Killed" }] ∧
        ¬ ToldAsKilled "Killed\n".toList r.errors) ∧
    (Killed (killedPlan handledOutput) ∧
      ∃ r, ((({} : Sandbox).run .standard "work()".toList 0 []).run { plans := [killedPlan handledOutput] }).1 = .ok r ∧
        r.errors = [{ type := "ValueError", message := "bad", line := some 2 }] ∧
        ¬ ToldAsKilled handledOutput.toList r.errors) := by
  have hnot : ∀ {stderr : List Char} {e : ExecutionError}, memoryExhaustion.occursIn stderr = false →
      e.type ≠ "ProcessError" → ¬ ToldAsKilled stderr [e] := by
    rintro stderr e hexhausted hother ⟨_, hone, -, hsignal⟩
    cases hone
    exact hother (hsignal hexhausted).1
  constructor
  · have htold : errorsOf .standard "work()".toList 0 (killedPlan "Killed\n") =
        .ok [{ type := "MemoryError", message := "Killed" }] := by decide +kernel
    obtain ⟨r, hr, herrors⟩ := exists_run_killedPlan "Killed\n" htold
    refine ⟨⟨rfl, rfl, rfl⟩, r, hr, herrors, ?_⟩
    rw [herrors]
    exact hnot (by decide +kernel) (by decide)
  · have htold : errorsOf .standard "work()".toList 0 (killedPlan handledOutput) =
        .ok [{ type := "ValueError", message := "bad", line := some 2 }] := by decide +kernel
    obtain ⟨r, hr, herrors⟩ := exists_run_killedPlan handledOutput htold
    refine ⟨⟨rfl, rfl, rfl⟩, r, hr, herrors, ?_⟩
    rw [herrors]
    exact hnot (by decide +kernel) (by decide)

end Sandbox

end CodeAudit
