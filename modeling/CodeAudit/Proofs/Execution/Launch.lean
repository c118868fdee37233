import CodeAudit.Execution.Sandbox
import CodeAudit.Proofs.Outcome

/-! What one run does to the host: it starts one child, unless its time limit has no number of seconds. -/
namespace CodeAudit

open Outcome

lemma Host.nextPlan_launches (host : Host) : host.nextPlan.2.launches = host.launches := by
  unfold nextPlan
  split
  · rfl
  · rfl

lemma Host.nextPlan_clock (host : Host) : host.nextPlan.2.clock = host.clock := by
  unfold nextPlan
  split
  · rfl
  · rfl

/-- The behaviour of a later child, by its place among those to come, if it starts. -/
def Host.child? (host : Host) (i : Nat) : Option ChildPlan :=
  let plan := (host.plans[i]?).getD {}
  if plan.spawnError = none then some plan else none

lemma Host.nextPlan_fst (host : Host) : host.nextPlan.1 = (host.plans[0]?).getD {} := by
  unfold nextPlan
  cases host.plans with
  | nil => rfl
  | cons plan rest => rfl

lemma Host.nextPlan_plans (host : Host) : host.nextPlan.2.plans = host.plans.drop 1 := by
  unfold nextPlan
  cases h : host.plans with
  | nil => simp [h]
  | cons plan rest => rfl

lemma Host.child?_zero (host : Host) :
    host.child? 0 = if host.nextPlan.1.spawnError = none then some host.nextPlan.1 else none := by
  rw [nextPlan_fst]
  rfl

lemma Host.child?_of_drop {first second : Host} {n : Nat} (h : second.plans = first.plans.drop n) (i : Nat) :
    second.child? i = first.child? (i + n) := by
  unfold child?
  rw [h, List.getElem?_drop, Nat.add_comm]

/-- Between two states of the host these children were started, in this order. -/
def Host.Starts (ls : List Launch) (before after : Host) : Prop :=
  after.launches = before.launches ++ ls

namespace Host.Starts

variable {first second third : Host} {ls ms : List Launch}

lemma refl (host : Host) : Starts [] host host :=
  (List.append_nil _).symm

lemma logged (host : Host) (r : LogRecord) : Starts [] host (host.logged r) :=
  (List.append_nil _).symm

lemma trans (h : Starts ls first second) (h' : Starts ms second third) : Starts (ls ++ ms) first third := by
  unfold Starts at *
  rw [h', h, List.append_assoc]

/-- After a step that starts nothing. -/
lemma after_none (h : Starts [] first second) (h' : Starts ms second third) : Starts ms first third :=
  h.trans h'

/-- Before a step that starts nothing. -/
lemma before_none (h : Starts ls first second) (h' : Starts [] second third) : Starts ls first third := by
  have ht := h.trans h'
  rwa [List.append_nil] at ht

/-- An action whose result is worked on without starting anything. -/
lemma bind_none {ε α β : Type} {x : ExceptT ε (StateM Host) α} {f : α → ExceptT ε (StateM Host) β} {host : Host}
    (hx : Starts ls host (x.run host).2) (hf : ∀ a h, Starts [] h ((f a).run h).2) :
    Starts ls host ((x >>= f).run host).2 := by
  rw [run_bind]
  cases (x.run host).1 with
  | error e => exact hx
  | ok a => exact hx.before_none (hf a _)

end Host.Starts

/-- Two states of the host that differ in the log at most. -/
structure Host.SameButLog (host host' : Host) : Prop where
  clock : host'.clock = host.clock
  plans : host'.plans = host.plans
  launches : host'.launches = host.launches

namespace Host.SameButLog

variable {first second third : Host}

lemma refl (host : Host) : SameButLog host host :=
  ⟨rfl, rfl, rfl⟩

lemma logged (host : Host) (r : LogRecord) : SameButLog host (host.logged r) :=
  ⟨rfl, rfl, rfl⟩

lemma symm (h : SameButLog first second) : SameButLog second first :=
  ⟨h.clock.symm, h.plans.symm, h.launches.symm⟩

lemma trans (h : SameButLog first second) (h' : SameButLog second third) : SameButLog first third :=
  ⟨h'.clock.trans h.clock, h'.plans.trans h.plans, h'.launches.trans h.launches⟩

lemma starts (h : SameButLog first second) : Starts [] first second :=
  h.launches.trans (List.append_nil _).symm

end Host.SameButLog

/-- What may be started to run a text once: one child with that text if `started` holds, and else none. -/
structure Launch.RunOnce (source : List Char) (started : Prop) (ls : List Launch) : Prop where
  length_le : ls.length ≤ 1
  source_eq : ∀ l ∈ ls, l.source = source
  ne_nil_iff : ls ≠ [] ↔ started

namespace Launch.RunOnce

variable {source : List Char} {started started' : Prop} {ls : List Launch}

lemma none (source : List Char) (h : ¬ started) : RunOnce source started [] :=
  ⟨by simp, by simp, by simp [h]⟩

lemma congr (h : RunOnce source started ls) (hiff : started ↔ started') : RunOnce source started' ls :=
  ⟨h.length_le, h.source_eq, h.ne_nil_iff.trans hiff⟩

lemma eq_nil (h : RunOnce source started ls) (hnot : ¬ started) : ls = [] :=
  Classical.not_not.mp fun hne => hnot (h.ne_nil_iff.mp hne)

end Launch.RunOnce

namespace Sandbox

/-- The milliseconds that a child takes from now on. -/
def elapsedMs (host : Host) (plan : ChildPlan) : Double :=
  (host.after plan.elapsed).millisecondsSince host.clock

/-- What comes of a child that follows the plan, and the host after it. -/
def follow (box : Sandbox) (limits : Limits) (timeout : Double) (source : List Char) (offset : Nat)
    (flags : List String) (plan : ChildPlan) (host : Host) : Except RunFault ExecutionResult × Host :=
  let started := host.started (launched box.interpreter limits timeout source plan)
  match plan.spawnError with
  | some reason =>
    let name := Launch.interpreterName box.interpreter
    (.ok (.failed "ExecutionError" s!"Failed to start interpreter: {reason}" flags),
      started.logged ⟨.error, "evaluator.executor",
        s!"Failed to start sandbox interpreter '{name}': {reason}"⟩)
  | none =>
    let later := started.after plan.elapsed
    (resultOf limits source offset flags plan (elapsedMs host plan),
      if plan.outlives && plan.kill = .denied then later.logged killWarning else later)

section Run

variable (box : Sandbox) {limits : Limits} {source : List Char} {offset : Nat} {flags : List String} {host : Host}

lemma run_of_seconds_error {fault : TimeFault} (h : seconds limits.timeMs = .error fault) :
    (box.run limits source offset flags).run host = (.error (.time fault), host) := by
  rw [run, h, mapError_error, run_lift_error_bind]

lemma run_of_seconds {timeout : Double} (h : seconds limits.timeMs = .ok timeout) :
    (box.run limits source offset flags).run host =
      box.follow limits timeout source offset flags host.nextPlan.1 host.nextPlan.2 := by
  rw [run, h, mapError_ok, run_lift_ok_bind, run_get_bind, follow]
  cases hspawn : host.nextPlan.1.spawnError with
  | some reason =>
    simp only [hspawn]
    rfl
  | none =>
    simp only [hspawn]
    rw [run_set_bind, run_lift]
    unfold elapsedMs Host.millisecondsSince
    split
    · rfl
    · rfl

lemma follow_host (limits : Limits) (timeout : Double) (source : List Char) (offset : Nat) (flags : List String)
    (plan : ChildPlan) (host : Host) :
    Host.Starts [launched box.interpreter limits timeout source plan] host
        (box.follow limits timeout source offset flags plan host).2 ∧
      (box.follow limits timeout source offset flags plan host).2.plans = host.plans := by
  unfold follow Host.Starts
  split
  · exact ⟨rfl, rfl⟩
  · dsimp only
    split
    · exact ⟨rfl, rfl⟩
    · exact ⟨rfl, rfl⟩

/-- A run whose time limit has a number of seconds starts one child. -/
lemma run_starts_of_seconds {timeout : Double} (h : seconds limits.timeMs = .ok timeout) :
    Host.Starts [launched box.interpreter limits timeout source host.nextPlan.1] host
      ((box.run limits source offset flags).run host).2 := by
  obtain ⟨hstarts, -⟩ := box.follow_host limits timeout source offset flags host.nextPlan.1 host.nextPlan.2
  rw [run_of_seconds box h]
  unfold Host.Starts at *
  rwa [host.nextPlan_launches] at hstarts

/-- Such a run takes the behaviour of the next child. -/
lemma run_plans_of_seconds {timeout : Double} (h : seconds limits.timeMs = .ok timeout) :
    ((box.run limits source offset flags).run host).2.plans = host.plans.drop 1 := by
  rw [run_of_seconds box h, (box.follow_host limits timeout source offset flags host.nextPlan.1 host.nextPlan.2).2,
    host.nextPlan_plans]

variable (limits source offset flags host) in
/-- A run starts one child with the program's text, or none if the time limit has no number of seconds. -/
theorem run_starts : ∃ ls, Host.Starts ls host ((box.run limits source offset flags).run host).2 ∧
    Launch.RunOnce source (∃ timeout, seconds limits.timeMs = .ok timeout) ls := by
  cases h : seconds limits.timeMs with
  | error fault =>
    rw [run_of_seconds_error box h]
    exact ⟨[], .refl host, .none source (by simp)⟩
  | ok timeout =>
    exact ⟨_, run_starts_of_seconds box h, by simp, by simp [launched], by simp⟩

/-- The result of a run whose child starts. -/
lemma run_of_started {timeout : Double} (h : seconds limits.timeMs = .ok timeout)
    (hstart : host.nextPlan.1.spawnError = none) :
    ((box.run limits source offset flags).run host).1 =
      resultOf limits source offset flags host.nextPlan.1 (elapsedMs host host.nextPlan.1) := by
  rw [run_of_seconds box h, follow, hstart]
  unfold elapsedMs Host.millisecondsSince Host.after
  rw [host.nextPlan_clock]

end Run

end Sandbox
end CodeAudit
