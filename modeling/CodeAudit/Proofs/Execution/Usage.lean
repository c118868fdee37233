import CodeAudit.Execution.Findings
import CodeAudit.Proofs.Outcome

/-!
When the measures of a run can be worked with: a whole number beyond binary64 stops the arithmetic on the
processor's time and the wording of a finding.
-/
namespace CodeAudit

open Outcome

/-- The number has a value in binary64. -/
def Number.Fits (x : Number) : Prop :=
  ∃ y, x.toDouble? = .ok y

namespace Number

lemma fits_double (y : Double) : (double y).Fits :=
  ⟨y, rfl⟩

lemma fixed?_ok_iff (x : Number) (places : Nat) : (∃ s, x.fixed? places = .ok s) ↔ x.Fits := by
  unfold fixed? Fits
  constructor
  · rintro ⟨s, hs⟩
    obtain ⟨y, hy, _⟩ := bind_eq_ok.mp hs
    exact ⟨y, hy⟩
  · rintro ⟨y, hy⟩
    exact ⟨_, bind_eq_ok.mpr ⟨y, hy, rfl⟩⟩

lemma fits_of_isZero {n : Int} (h : (int n).isZero = true) : (int n).Fits := by
  have hn : compare n 0 = .eq := by
    simpa [isZero, same, compare?] using h
  rw [Int.compare_eq_eq.mp hn]
  have h0 : Double.ofInt 0 = 0 := by decide
  exact ⟨0, by simp only [toDouble?, toDouble, h0]⟩

end Number

namespace Json

/-- The members of an object are all numbers. -/
def AllNumbers (members : List (String × Json)) : Prop :=
  ∀ m ∈ members, ∃ n, m.2 = number n

lemma get_of_allNumbers {members : List (String × Json)} (h : AllNumbers members) (key : String) :
    (object members).get key = null ∨ ∃ n, (object members).get key = number n := by
  simp only [get]
  cases hf : members.reverse.find? (·.1 == key) with
  | none => exact .inl rfl
  | some m => exact .inr (h m (List.mem_reverse.mp (List.mem_of_find?_eq_some hf)))

end Json

namespace Usage

/-- A report that is missing or no JSON, or an object of numbers. -/
def NumericReport (report : Option String) : Prop :=
  ∀ text, report = some text →
    Json.read text = .error .malformed ∨ ∃ members, Json.read text = .ok (.object members) ∧ Json.AllNumbers members

/-- The number that a report tells under a name. -/
def told? (report : Option String) (key : String) : Option Number :=
  match report.map Json.read with
  | some (.ok data) => (data.get key).asNumber?
  | _ => none

/-- The measures are numbers, those that the sandbox computes binary64 ones. -/
structure Numeric (u : Usage) : Prop where
  memory : ∃ n, u.memoryMb = .number n
  peak : u.peakMb = .null ∨ ∃ n, u.peakMb = .number n
  time : ∃ t, u.timeMs = .double t
  cpu : ∃ c, u.cpu = .double c

lemma numeric_ofTime (t : Double) : (ofTime t).Numeric :=
  ⟨⟨_, rfl⟩, .inl rfl, ⟨_, rfl⟩, ⟨_, rfl⟩⟩

/-- A measure that is missing or a number counts as a number, which fits if the measure does. -/
lemma orZero_of_number {j : Json} (h : j = .null ∨ ∃ n, j = .number n) :
    ∃ n, orZero j = .number n ∧ (n.Fits ↔ ∀ m, j.asNumber? = some m → m.Fits) := by
  rcases h with rfl | ⟨n, rfl⟩
  · refine ⟨0.0, rfl, fun _ m hm => ?_, fun _ => Number.fits_double _⟩
    cases hm
  · by_cases hz : n.isZero = true
    · refine ⟨0.0, by simp [orZero, Json.isEmptyValue, hz], fun _ m hm => ?_, fun _ => Number.fits_double _⟩
      cases hm
      cases n with
      | int k => exact Number.fits_of_isZero hz
      | double x => exact Number.fits_double x
    · refine ⟨n, by simp [orZero, Json.isEmptyValue, hz], fun hn m hm => ?_, fun hn => hn n rfl⟩
      cases hm
      exact hn

lemma cpuShare_ok_iff {j : Json} {t : Double} :
    (∃ c, cpuShare j t = .ok c) ↔ (Double.lt 0 t = true → ∃ n, j.asNumber? = some n ∧ n.Fits) := by
  unfold cpuShare
  split
  · rename_i ht
    simp only [ht, true_implies]
    cases hj : j.asNumber? with
    | none => simp
    | some n =>
      simp only [Option.some.injEq, exists_eq_left']
      constructor
      · rintro ⟨c, hc⟩
        obtain ⟨y, hy, _⟩ := bind_eq_ok.mp hc
        exact ⟨y, mapError_eq_ok.mp hy⟩
      · rintro ⟨y, hy⟩
        exact ⟨_, bind_eq_ok.mpr ⟨y, mapError_eq_ok.mpr hy, rfl⟩⟩
  · rename_i ht
    exact ⟨fun _ h => absurd h ht, fun _ => ⟨0.0, rfl⟩⟩

lemma cpuShare_double {j : Json} {t : Double} {c : Number} (h : cpuShare j t = .ok c) : ∃ x, c = .double x := by
  unfold cpuShare at h
  split at h
  · split at h
    · cases h
    · obtain ⟨y, _, hc⟩ := bind_eq_ok.mp h
      exact ⟨_, (Except.ok.inj hc).symm⟩
  · exact ⟨_, (Except.ok.inj h).symm⟩

/-- A report that is missing or no JSON, or an object whose processor's time can be divided by the time of the run. -/
def Measurable (report : Option String) (t : Double) : Prop :=
  ∀ text, report = some text →
    Json.read text = .error .malformed ∨
      ∃ members, Json.read text = .ok (.object members) ∧
        (Double.lt 0 t = true →
          ∃ n, (orZero ((Json.object members).get "cpuTimeMs")).asNumber? = some n ∧ n.Fits)

/-- Whatever a child left makes a usage exactly when it is measurable. -/
theorem exists_ofReport_iff (report : Option String) (t : Double) :
    (∃ u, ofReport report t = .ok u) ↔ Measurable report t := by
  cases report with
  | none => exact iff_of_true ⟨ofTime t, rfl⟩ fun text h => (by cases h)
  | some text =>
    simp only [Measurable, Option.some.injEq, forall_eq', ofReport]
    cases hread : Json.read text with
    | error fault =>
      cases fault with
      | malformed => exact iff_of_true ⟨ofTime t, rfl⟩ (.inl rfl)
      | tooDeep container => simp
    | ok data =>
      cases data with
      | object members =>
        simp only [reduceCtorEq, false_or, Except.ok.injEq, Json.object.injEq, exists_eq_left', ← cpuShare_ok_iff]
        constructor
        · rintro ⟨u, hu⟩
          obtain ⟨c, hc, _⟩ := bind_eq_ok.mp hu
          exact ⟨c, hc⟩
        · rintro ⟨c, hc⟩
          exact ⟨_, bind_eq_ok.mpr ⟨c, hc, rfl⟩⟩
      | _ => simp

/-- A report of numbers makes a usage unless the processor's time cannot be divided by the time of the run. -/
theorem ofReport_ok_iff {report : Option String} (hreport : NumericReport report) (t : Double) :
    (∃ u, ofReport report t = .ok u) ↔
      (Double.lt 0 t = true → ∀ n, told? report "cpuTimeMs" = some n → n.Fits) := by
  rw [exists_ofReport_iff]
  cases report with
  | none => exact iff_of_true (fun text h => by cases h) fun _ n hn => (by cases hn)
  | some text =>
    simp only [Measurable, Option.some.injEq, forall_eq', told?, Option.map_some]
    rcases hreport text rfl with hread | ⟨members, hread, hall⟩
    · simp only [hread]
      exact iff_of_true (.inl trivial) fun _ n hn => (by cases hn)
    · obtain ⟨n, hn, hfits⟩ := orZero_of_number (Json.get_of_allNumbers hall "cpuTimeMs")
      simp only [hread, reduceCtorEq, false_or, Except.ok.injEq, Json.object.injEq, exists_eq_left', hn,
        Json.asNumber?, Option.some.injEq, hfits]

lemma numeric_of_ofReport {report : Option String} (hreport : NumericReport report) {t : Double} {u : Usage}
    (h : ofReport report t = .ok u) : u.Numeric := by
  cases report with
  | none =>
    cases h
    exact numeric_ofTime t
  | some text =>
    rcases hreport text rfl with hread | ⟨members, hread, hall⟩
    · simp only [ofReport, hread] at h
      cases h
      exact numeric_ofTime t
    · simp only [ofReport, hread] at h
      obtain ⟨c, hc, hu⟩ := bind_eq_ok.mp h
      cases hu
      obtain ⟨m, hm, _⟩ := orZero_of_number (Json.get_of_allNumbers hall "memoryMB")
      exact ⟨⟨m, hm⟩, Json.get_of_allNumbers hall "peakMemoryMB", ⟨t, rfl⟩, cpuShare_double hc⟩

/-- Every number that a finding on the usage would quote fits binary64. -/
structure Quotable (u : Usage) (o : Options) (timedOut : Bool) : Prop where
  memory : ∀ n, u.memoryMb.asNumber? = some n → o.memoryThresholdMb.lt n = true →
    n.Fits ∧ o.memoryThresholdMb.Fits ∧ ∀ p, u.peakMb.asNumber? = some p → p.Fits
  time : timedOut = false → o.timeThresholdMs.lt u.timeMs = true → o.timeThresholdMs.Fits
  cpu : timedOut = false → ExecutionFindings.minCpuSampleMs.le u.timeMs = true →
    o.cpuThreshold.lt u.cpu = true → o.cpuThreshold.Fits

lemma format_number_ok_iff {n : Number} : (∃ s, format (.number n) = .ok s) ↔ n.Fits := by
  unfold format
  simp only [Json.asNumber?, mapError_eq_ok]
  exact Number.fixed?_ok_iff n 1

end Usage

namespace ExecutionFindings

open Usage

variable {u : Usage} {o : Options}

/-- Two numbers can be quoted together exactly when both fit. -/
lemma quoteBoth_ok_iff {α : Type} {x y : Number} {places : Nat} {f : String → String → α} :
    (∃ a, (do return f (← x.fixed? places) (← y.fixed? places) : Except RangeFault α) = .ok a) ↔
      x.Fits ∧ y.Fits := by
  rw [← Number.fixed?_ok_iff x places, ← Number.fixed?_ok_iff y places]
  constructor
  · rintro ⟨a, ha⟩
    obtain ⟨s, hs, ha⟩ := bind_eq_ok.mp ha
    obtain ⟨t, ht, _⟩ := bind_eq_ok.mp ha
    exact ⟨⟨s, hs⟩, ⟨t, ht⟩⟩
  · rintro ⟨⟨s, hs⟩, ⟨t, ht⟩⟩
    exact ⟨f s t, bind_eq_ok.mpr ⟨s, hs, bind_eq_ok.mpr ⟨t, ht, rfl⟩⟩⟩

lemma ofMemory_ok_iff (hu : u.Numeric) :
    (∃ fs, ofMemory u o = .ok fs) ↔ ∀ n, u.memoryMb.asNumber? = some n → o.memoryThresholdMb.lt n = true →
      n.Fits ∧ o.memoryThresholdMb.Fits ∧ ∀ p, u.peakMb.asNumber? = some p → p.Fits := by
  obtain ⟨n, hn⟩ := hu.memory
  have hexceeds : exceeds u.memoryMb o.memoryThresholdMb = .ok (o.memoryThresholdMb.lt n) := by
    rw [hn]
    rfl
  simp only [ofMemory, bind_eq_ok, hexceeds, Except.ok.injEq, exists_eq_left']
  by_cases hlt : o.memoryThresholdMb.lt n = true
  · have hmemory := format_number_ok_iff (n := n)
    have hbound := Number.fixed?_ok_iff o.memoryThresholdMb 0
    simp only [hn, Json.asNumber?, Option.some.injEq, forall_eq', hlt, if_true, true_implies, ← hmemory, ← hbound,
      bind_eq_ok, mapError_eq_ok]
    rcases hu.peak with hp | ⟨p, hp⟩
    · simp only [hp, Json.isNull, if_true]
      constructor
      · rintro ⟨_, used, hused, bound, hbound, _⟩
        exact ⟨⟨used, hused⟩, ⟨bound, hbound⟩, fun p h => by cases h⟩
      · rintro ⟨⟨used, hused⟩, ⟨bound, hbound⟩, _⟩
        exact ⟨_, used, hused, bound, hbound, rfl⟩
    · simp only [hp, Json.isNull, Bool.false_eq_true, if_false, Option.some.injEq, forall_eq',
        ← format_number_ok_iff (n := p)]
      constructor
      · rintro ⟨_, used, hused, bound, hbound, hrest⟩
        obtain ⟨peak, hpeak, _⟩ := bind_eq_ok.mp hrest
        exact ⟨⟨used, hused⟩, ⟨bound, hbound⟩, ⟨peak, hpeak⟩⟩
      · rintro ⟨⟨used, hused⟩, ⟨bound, hbound⟩, ⟨peak, hpeak⟩⟩
        exact ⟨_, used, hused, bound, hbound, bind_eq_ok.mpr ⟨peak, hpeak, rfl⟩⟩
  · simp [hn, Json.asNumber?, hlt, pure_eq_ok]

lemma ofTime_ok_iff (hu : u.Numeric) :
    (∃ fs, ofTime u o = .ok fs) ↔ (o.timeThresholdMs.lt u.timeMs = true → o.timeThresholdMs.Fits) := by
  obtain ⟨t, ht⟩ := hu.time
  have hfits : u.timeMs.Fits := ht ▸ Number.fits_double t
  unfold ofTime
  split
  · rename_i hlt
    simp only [hlt, true_implies]
    exact quoteBoth_ok_iff.trans (and_iff_right hfits)
  · rename_i hlt
    exact ⟨fun _ h => absurd h hlt, fun _ => ⟨[], rfl⟩⟩

lemma ofCpu_ok_iff (hu : u.Numeric) :
    (∃ fs, ofCpu u o = .ok fs) ↔
      (minCpuSampleMs.le u.timeMs = true → o.cpuThreshold.lt u.cpu = true → o.cpuThreshold.Fits) := by
  obtain ⟨c, hc⟩ := hu.cpu
  have hfits : u.cpu.Fits := hc ▸ Number.fits_double c
  unfold ofCpu
  split
  · rename_i hlt
    obtain ⟨hlong, hlt⟩ := Bool.and_eq_true_iff.mp hlt
    simp only [hlong, hlt, true_implies]
    exact quoteBoth_ok_iff.trans (and_iff_right hfits)
  · rename_i hlt
    exact ⟨fun _ hlong h => absurd (Bool.and_eq_true_iff.mpr ⟨hlong, h⟩) hlt, fun _ => ⟨[], rfl⟩⟩

/-- The findings on a usage of numbers come about exactly when all that they would quote fits. -/
theorem ofUsage_ok_iff {r : ExecutionResult} (hu : r.usage.Numeric) :
    (∃ fs, ofUsage r o = .ok fs) ↔ r.usage.Quotable o r.timedOut := by
  have hquotable : r.usage.Quotable o r.timedOut ↔
      (∃ fs, ofMemory r.usage o = .ok fs) ∧
        (r.timedOut = false → (∃ fs, ofTime r.usage o = .ok fs) ∧ ∃ fs, ofCpu r.usage o = .ok fs) := by
    rw [ofMemory_ok_iff hu, ofTime_ok_iff hu, ofCpu_ok_iff hu]
    exact ⟨fun h => ⟨h.memory, fun ht => ⟨h.time ht, h.cpu ht⟩⟩,
      fun ⟨hm, h⟩ => ⟨hm, fun ht => (h ht).1, fun ht => (h ht).2⟩⟩
  rw [hquotable]
  unfold ofUsage
  cases ht : r.timedOut with
  | true => simp
  | false =>
    simp only [bind_eq_ok, mapError_eq_ok, pure_eq_ok, Bool.false_eq_true, if_false, true_implies]
    constructor
    · rintro ⟨_, memory, hmemory, time, htime, cpu, hcpu, _⟩
      exact ⟨⟨memory, hmemory⟩, ⟨time, htime⟩, ⟨cpu, hcpu⟩⟩
    · rintro ⟨⟨memory, hmemory⟩, ⟨time, htime⟩, ⟨cpu, hcpu⟩⟩
      exact ⟨_, memory, hmemory, time, htime, cpu, hcpu, rfl⟩

end ExecutionFindings
end CodeAudit
