import CodeAudit.Proofs.Execution.Limits
import Mathlib.Data.List.Forall2

/-!
Runs one after the other. They take the children that are to come in their order, so that a series of test cases is
told by its results, by its children and by where it stops.
-/
namespace CodeAudit

open Outcome

/-- Between two states of the host these children were started, each by the next plan; those that fail to start are the
ones without a wait. -/
structure Host.Took (ls : List Launch) (before after : Host) : Prop where
  starts : Host.Starts ls before after
  plans : after.plans = before.plans.drop ls.length
  waits_eq_nil_iff : ∀ i l, ls[i]? = some l → (l.waits = [] ↔ before.child? i = none)

namespace Host.Took

variable {first second third : Host} {ls ms : List Launch}

lemma refl (host : Host) : Took [] host host :=
  ⟨.refl host, rfl, by simp⟩

lemma trans (h : Took ls first second) (h' : Took ms second third) : Took (ls ++ ms) first third where
  starts := h.starts.trans h'.starts
  plans := by rw [h'.plans, h.plans, List.drop_drop, List.length_append]
  waits_eq_nil_iff := by
    intro i l hl
    by_cases hi : i < ls.length
    · rw [List.getElem?_append_left hi] at hl
      exact h.waits_eq_nil_iff i l hl
    · have hle := Nat.le_of_not_lt hi
      rw [List.getElem?_append_right hle] at hl
      rw [h'.waits_eq_nil_iff _ l hl, child?_of_drop h.plans, Nat.sub_add_cancel hle]

end Host.Took

namespace Sandbox

open Host (Took)

section Run

variable (box : Sandbox) (limits : Limits) (source : List Char) (offset : Nat) (flags : List String) (host : Host)

/-- A run takes one child, which is given the run's limits, or it takes none and has no result. -/
lemma run_took :
    (∃ l, Took [l] host ((box.run limits source offset flags).run host).2 ∧ l.source = source ∧
      l.Given limits.memoryMb limits.timeMs limits.cores) ∨
    ∃ fault, (box.run limits source offset flags).run host = (.error fault, host) := by
  cases h : seconds limits.timeMs with
  | error fault => exact .inr ⟨_, run_of_seconds_error box h⟩
  | ok timeout =>
    refine .inl ⟨_, ⟨run_starts_of_seconds box h, ?_, ?_⟩, rfl, launched_given h box.interpreter source host.nextPlan.1⟩
    · exact run_plans_of_seconds box h
    · intro i l hl
      cases i with
      | zero =>
        obtain rfl := Option.some.inj hl
        rw [host.child?_zero]
        cases hspawn : host.nextPlan.1.spawnError with
        | some reason => simp [launched, hspawn]
        | none =>
          simp only [launched, hspawn]
          split
          · rename_i hsome
            cases hsome
          · split <;> simp
      | succ j => cases hl

end Run

/-- A child that runs a test case of a program: it has the source that is made for the case, and the sandbox's limits
but for the time, which may be the case's own. -/
structure RunsCase (box : Sandbox) (code : List Char) (c : TestCase) (l : Launch) : Prop where
  source : l.source = c.source code
  given : l.Given box.limits.memoryMb (c.timeIn box.limits) box.limits.cores

/-- A test case of a program is run with its own source, within the sandbox's limits but for the time, which may be its
own. -/
def RunOfCase (box : Sandbox) (code : List Char) (flags : List String) (c : TestCase) (host : Host)
    (result : Except RunFault ExecutionResult) (next : Host) : Prop :=
  ∃ limits : Limits, limits.memoryMb = box.limits.memoryMb ∧ limits.timeMs = c.timeIn box.limits ∧
    limits.cores = box.limits.cores ∧ (box.run limits (c.source code) c.offset flags).run host = (result, next)

/-- The results of test cases, each from a run of its own on the host that the run before it left. -/
inductive Series (box : Sandbox) (code : List Char) (flags : List String) :
    Host → List TestCase → List ExecutionResult → Host → Prop
  | nil (host : Host) : Series box code flags host [] [] host
  | cons {host next last : Host} {c : TestCase} {r : ExecutionResult} {cases : List TestCase}
      {rs : List ExecutionResult} (first : box.RunOfCase code flags c host (.ok r) next)
      (later : Series box code flags next cases rs last) : Series box code flags host (c :: cases) (r :: rs) last

/-- The place of the first critical case with a failed result, counted from one. -/
def criticalFailure? (cases : List TestCase) (rs : List ExecutionResult) : Option Nat :=
  ((cases.zip rs).findIdx? fun run => run.1.critical && !run.2.success).map (· + 1)

section Cases

variable (box : Sandbox) (code : List Char) (flags : List String)

lemma criticalFailure?_cons (c : TestCase) (r : ExecutionResult) (cases : List TestCase) (rs : List ExecutionResult) :
    criticalFailure? (c :: cases) (r :: rs) =
      if c.critical && !r.success then some 1 else (criticalFailure? cases rs).map (· + 1) := by
  unfold criticalFailure?
  rw [List.zip_cons_cons, List.findIdx?_cons]
  split
  · rfl
  · rw [Option.map_map]

/-- What a series does with a case: it ends for want of limits, or it runs the case, and goes on with the others if
there is a result that is no critical failure. -/
lemma runCases_cons (c : TestCase) (rest : List TestCase) (host : Host) :
    (∃ fault, (box.runCases code flags (c :: rest)).run host = (.error fault, host)) ∨
    ∃ l result next, Took [l] host next ∧ box.RunsCase code c l ∧ box.RunOfCase code flags c host result next ∧
      (box.runCases code flags (c :: rest)).run host =
        match result with
        | .error fault => (.error fault, next)
        | .ok r =>
          if c.critical && !r.success then (.ok [r], next)
          else
            let later := (box.runCases code flags rest).run next
            (later.1.map (r :: ·), later.2) := by
  rw [runCases]
  cases hlimits : box.limitsFor c with
  | error fault => exact .inl ⟨fault, run_lift_error_bind _ _⟩
  | ok limits =>
    rw [run_lift_ok_bind]
    obtain ⟨hmemory, htime, hcores⟩ := limitsFor_eq_ok_iff.mp hlimits
    rcases box.run_took limits (c.source code) c.offset flags host with ⟨l, htook, hsource, hgiven⟩ | ⟨fault, hrun⟩
    · rcases hrun : (box.run limits (c.source code) c.offset flags).run host with ⟨result, next⟩
      rw [hrun] at htook
      refine .inr ⟨l, result, next, htook, ⟨hsource, by rwa [hmemory, htime, hcores] at hgiven⟩,
        ⟨limits, hmemory, htime, hcores, hrun⟩, ?_⟩
      cases result with
      | error fault =>
        rw [run_bind, hrun]
        rfl
      | ok r =>
        rw [run_bind_of_ok hrun]
        dsimp only
        split
        · rfl
        · exact run_bind_pure _ _
    · rw [run_bind, hrun]
      exact .inl ⟨fault, rfl⟩

/-- Whether it comes to its end or not, a series takes a child for each of the first cases, up to some case. -/
lemma runCases_took (cases : List TestCase) (host : Host) :
    ∃ ran ls, ran <+: cases ∧ Took ls host ((box.runCases code flags cases).run host).2 ∧
      List.Forall₂ (box.RunsCase code) ran ls ∧
      ∀ rs, ((box.runCases code flags cases).run host).1 = .ok rs → rs.length = ran.length := by
  induction cases generalizing host with
  | nil =>
    refine ⟨[], [], List.prefix_rfl, .refl host, .nil, fun rs h => ?_⟩
    obtain rfl := Except.ok.inj h
    rfl
  | cons c rest ih =>
    have hone : [c] <+: c :: rest := ⟨rest, rfl⟩
    rcases box.runCases_cons code flags c rest host with ⟨fault, hrun⟩ | ⟨l, result, next, htook, hcase, -, hrun⟩
    · rw [hrun]
      exact ⟨[], [], List.nil_prefix, .refl host, .nil, fun rs h => (by cases h)⟩
    · rw [hrun]
      cases result with
      | error fault => exact ⟨[c], [l], hone, htook, .cons hcase .nil, fun rs h => (by cases h)⟩
      | ok r =>
        dsimp only
        split
        · refine ⟨[c], [l], hone, htook, .cons hcase .nil, fun rs h => ?_⟩
          obtain rfl := Except.ok.inj h
          rfl
        · obtain ⟨ran, ls, hran, hlater, hcases, hlength⟩ := ih next
          refine ⟨c :: ran, l :: ls, List.cons_prefix_cons.mpr ⟨rfl, hran⟩, htook.trans hlater, .cons hcase hcases,
            fun rs h => ?_⟩
          obtain ⟨later, hlater, rfl⟩ := map_eq_ok.mp h
          exact congrArg (· + 1) (hlength later hlater)

variable {box code flags} in
/-- A series that comes to its end has its results one after the other, and ends at the first critical failure. -/
lemma series_of_runCases {cases : List TestCase} {host last : Host} {rs : List ExecutionResult}
    (h : (box.runCases code flags cases).run host = (.ok rs, last)) :
    box.Series code flags host (cases.take rs.length) rs last ∧
      rs.length = (criticalFailure? cases rs).getD cases.length := by
  induction cases generalizing host rs with
  | nil =>
    cases h
    exact ⟨.nil last, rfl⟩
  | cons c rest ih =>
    rcases box.runCases_cons code flags c rest host with ⟨fault, hrun⟩ | ⟨l, result, next, -, -, hcase, hrun⟩
    · rw [hrun] at h
      cases h
    · rw [hrun] at h
      cases result with
      | error fault => cases h
      | ok r =>
        dsimp only at h
        split at h
        · rename_i hcritical
          cases h
          rw [criticalFailure?_cons, if_pos hcritical]
          exact ⟨.cons hcase (.nil last), rfl⟩
        · rename_i hcritical
          obtain ⟨hok, hlast⟩ := Prod.mk.inj h
          obtain ⟨later, hlater, rfl⟩ := map_eq_ok.mp hok
          obtain ⟨hseries, hlength⟩ := ih (Prod.ext hlater hlast)
          refine ⟨.cons hcase hseries, ?_⟩
          rw [criticalFailure?_cons, if_neg hcritical, List.length_cons, hlength]
          cases criticalFailure? rest later <;> rfl

end Cases

/-- Three cases of which the second one is critical. -/
def threeCases : List TestCase :=
  [{ description := [] }, { description := [], critical := true }, { description := [] }]

/-- A host whose second child does not start. -/
def hostWithoutSecond : Host :=
  { plans := [{}, { spawnError := some "not found" }, {}] }

end Sandbox
end CodeAudit
