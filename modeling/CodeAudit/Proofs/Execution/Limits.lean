import CodeAudit.Proofs.Execution.Launch
import Mathlib.Data.List.Induction

/-! How limits come about from others, by overrides under names or by the time of a test case, and what a child is given
of them. -/
namespace CodeAudit

open Outcome

namespace Limits

variable {l m : Limits}

lemma make_eq_ok_iff {memoryMb timeMs cores : Number} :
    make memoryMb timeMs cores = .ok l ↔ l.memoryMb = memoryMb ∧ l.timeMs = timeMs ∧ l.cores = cores := by
  constructor
  · intro h
    unfold make at h
    split_ifs at h
    cases h
    exact ⟨rfl, rfl, rfl⟩
  · rintro ⟨rfl, rfl, rfl⟩
    simp only [make, l.memory_pos, l.time_pos, l.cores_pos, dite_true]

/-- The names under which limits are overridden. -/
def names : List String := ["max_memory_mb", "max_execution_time_ms", "max_cpu_cores"]

/-- The last value that is given for a name. -/
def given? (fields : List (String × Number)) (name : String) : Option Number :=
  fields.reverse.lookup name

lemma given?_append (fields : List (String × Number)) (field name : String) (n : Number) :
    given? (fields ++ [(field, n)]) name = if field = name then some n else given? fields name := by
  by_cases h : field = name
  · simp [given?, h]
  · have hne : (name == field) = false := beq_eq_false_iff_ne.mpr (Ne.symm h)
    simp [given?, List.lookup_cons, h, hne]

namespace Changes

lemma add_eq_ok_iff {c d : Changes} {field : String} {n : Number} :
    c.add field n = .ok d ↔ field ∈ names ∧
      d.memoryMb = (if field = "max_memory_mb" then some n else c.memoryMb) ∧
      d.timeMs = (if field = "max_execution_time_ms" then some n else c.timeMs) ∧
      d.cores = (if field = "max_cpu_cores" then some n else c.cores) := by
  obtain ⟨memoryMb, timeMs, cores⟩ := d
  unfold add
  split
  · simp [names, eq_comm]
  · simp [names, eq_comm]
  · simp [names, eq_comm]
  · rename_i hmemory htime hcores
    have hunknown : field ∉ names := by
      simp only [names, List.mem_cons, List.not_mem_nil, or_false, not_or]
      exact ⟨hmemory, htime, hcores⟩
    simp [hunknown]

/-- Under known names each limit gets the last value that is given for it; the induction is on the fields from the
left. -/
lemma ofFields_eq_ok_iff {fields : List (String × Number)} {c : Changes} :
    ofFields fields = .ok c ↔ (∀ f ∈ fields, f.1 ∈ names) ∧ c.memoryMb = given? fields "max_memory_mb" ∧
      c.timeMs = given? fields "max_execution_time_ms" ∧ c.cores = given? fields "max_cpu_cores" := by
  induction fields using List.reverseRecOn generalizing c with
  | nil =>
    obtain ⟨memoryMb, timeMs, cores⟩ := c
    have hnil : ofFields [] = .ok {} := rfl
    simp [hnil, given?, eq_comm]
  | append_singleton fields f ih =>
    obtain ⟨field, n⟩ := f
    have hstep : ofFields (fields ++ [(field, n)]) = ofFields fields >>= fun c => c.add field n := by
      simp [ofFields]
    rw [hstep, bind_eq_ok]
    simp only [List.forall_mem_append, List.forall_mem_singleton, given?_append]
    constructor
    · rintro ⟨d, hd, hadd⟩
      obtain ⟨hknown, hmemory, htime, hcores⟩ := ih.mp hd
      obtain ⟨hfield, hrest⟩ := add_eq_ok_iff.mp hadd
      rw [hmemory, htime, hcores] at hrest
      exact ⟨⟨hknown, hfield⟩, hrest⟩
    · rintro ⟨⟨hknown, hfield⟩, hrest⟩
      refine ⟨⟨given? fields "max_memory_mb", given? fields "max_execution_time_ms", given? fields "max_cpu_cores"⟩,
        ih.mpr ⟨hknown, rfl, rfl, rfl⟩, add_eq_ok_iff.mpr ⟨hfield, hrest⟩⟩

end Changes

/-- The limits with new values under their names; none when a name is unknown or a value is not positive. -/
def overridden? (l : Limits) (fields : List (String × Number)) : Option Limits :=
  let memoryMb := (given? fields "max_memory_mb").getD l.memoryMb
  let timeMs := (given? fields "max_execution_time_ms").getD l.timeMs
  let cores := (given? fields "max_cpu_cores").getD l.cores
  if h : (∀ f ∈ fields, f.1 ∈ names) ∧ memoryMb.le 0 = false ∧ timeMs.le 0 = false ∧ cores.le 0 = false then
    some ⟨memoryMb, timeMs, cores, h.2.1, h.2.2.1, h.2.2.2⟩
  else none

lemma overridden?_eq_some_iff {fields : List (String × Number)} :
    l.overridden? fields = some m ↔ (∀ f ∈ fields, f.1 ∈ names) ∧
      m.memoryMb = (given? fields "max_memory_mb").getD l.memoryMb ∧
      m.timeMs = (given? fields "max_execution_time_ms").getD l.timeMs ∧
      m.cores = (given? fields "max_cpu_cores").getD l.cores := by
  constructor
  · intro h
    simp only [overridden?, Option.dite_none_right_eq_some, Option.some.injEq] at h
    obtain ⟨hsound, rfl⟩ := h
    exact ⟨hsound.1, rfl, rfl, rfl⟩
  · rintro ⟨hknown, hmemory, htime, hcores⟩
    simp only [overridden?, ← hmemory, ← htime, ← hcores, m.memory_pos, m.time_pos, m.cores_pos, and_true]
    rw [dif_pos hknown]

end Limits

namespace Sandbox

variable {box : Sandbox}

/-- Overriding succeeds exactly when the names are known and the values positive, and changes nothing else. -/
lemma setLimits_eq_ok_iff {fields : List (String × Number)} {changed : Sandbox} :
    box.setLimits fields = .ok changed ↔
      ∃ l, box.limits.overridden? fields = some l ∧ changed = { box with limits := l } := by
  have hlimits : ∀ l, (∃ c, Limits.Changes.ofFields fields = .ok c ∧ box.limits.change c = .ok l) ↔
      box.limits.overridden? fields = some l := by
    intro l
    rw [Limits.overridden?_eq_some_iff]
    constructor
    · rintro ⟨c, hc, hl⟩
      obtain ⟨hknown, hmemory, htime, hcores⟩ := Limits.Changes.ofFields_eq_ok_iff.mp hc
      rw [Limits.change, Limits.make_eq_ok_iff, hmemory, htime, hcores] at hl
      exact ⟨hknown, hl⟩
    · rintro ⟨hknown, hl⟩
      refine ⟨⟨Limits.given? fields "max_memory_mb", Limits.given? fields "max_execution_time_ms",
        Limits.given? fields "max_cpu_cores"⟩, ?_, Limits.make_eq_ok_iff.mpr hl⟩
      exact Limits.Changes.ofFields_eq_ok_iff.mpr ⟨hknown, rfl, rfl, rfl⟩
  unfold setLimits
  simp only [bind_eq_ok, pure_eq_ok, ← hlimits]
  constructor
  · rintro ⟨c, hc, l, hl, rfl⟩
    exact ⟨l, ⟨c, hc, hl⟩, rfl⟩
  · rintro ⟨l, ⟨c, hc, hl⟩, rfl⟩
    exact ⟨c, hc, l, hl, rfl⟩

/-- Overriding fails exactly when it makes no limits. -/
lemma exists_setLimits_error_iff {fields : List (String × Number)} :
    (∃ fault, box.setLimits fields = .error fault) ↔ box.limits.overridden? fields = none := by
  cases h : box.setLimits fields with
  | error fault =>
    refine iff_of_true ⟨fault, rfl⟩ (Option.eq_none_iff_forall_ne_some.mpr fun l hl => ?_)
    rw [setLimits_eq_ok_iff.mpr ⟨l, hl, rfl⟩] at h
    cases h
  | ok changed =>
    obtain ⟨l, hl, -⟩ := setLimits_eq_ok_iff.mp h
    exact iff_of_false (fun ⟨fault, hfault⟩ => by cases hfault) (by simp [hl])

end Sandbox

/-- The time of a test case within limits: its own, unless it has none or zero. -/
def TestCase.timeIn (c : TestCase) (l : Limits) : Number :=
  (c.timeoutMs.filter fun timeMs => !timeMs.isZero).getD l.timeMs

lemma Sandbox.limitsFor_eq_ok_iff {box : Sandbox} {c : TestCase} {l : Limits} :
    box.limitsFor c = .ok l ↔
      l.memoryMb = box.limits.memoryMb ∧ l.timeMs = c.timeIn box.limits ∧ l.cores = box.limits.cores := by
  have hself : ∀ m : Limits, (Except.ok m : Except RunFault Limits) = .ok l ↔
      l.memoryMb = m.memoryMb ∧ l.timeMs = m.timeMs ∧ l.cores = m.cores := by
    intro m
    rw [← Limits.make_eq_ok_iff, Limits.make_eq_ok_iff.mpr ⟨rfl, rfl, rfl⟩, Except.ok.injEq, Except.ok.injEq]
  unfold limitsFor TestCase.timeIn
  cases c.timeoutMs with
  | none => exact hself box.limits
  | some timeMs =>
    dsimp only
    split
    · rename_i hzero
      simpa [Option.filter, hzero] using hself box.limits
    · rename_i hzero
      rw [mapError_eq_ok, Limits.withTime, Limits.change, Limits.make_eq_ok_iff]
      simp [Option.filter, hzero]

/-- A child was given these amounts: the memory and the cores as they are, the processor's seconds rounded up and one
more, and the time for its first wait, a second one having no limit. -/
structure Launch.Given (memoryMb timeMs cores : Number) (l : Launch) : Prop where
  memory : l.memoryMb = memoryMb
  cores : l.cores = cores
  time : ∃ timeout, Sandbox.seconds timeMs = .ok timeout ∧ l.cpuSeconds = timeout.toRat.ceil + 1 ∧
    l.waits <+: [some (.double timeout), none]

lemma Sandbox.launched_given {limits : Limits} {timeout : Double} (h : seconds limits.timeMs = .ok timeout)
    (interpreter : Option String) (source : List Char) (plan : ChildPlan) :
    (launched interpreter limits timeout source plan).Given limits.memoryMb limits.timeMs limits.cores := by
  refine ⟨rfl, rfl, timeout, h, rfl, ?_⟩
  unfold launched
  dsimp only
  split_ifs
  · exact List.nil_prefix
  · exact List.prefix_rfl
  · exact List.prefix_append _ [none]

end CodeAudit
