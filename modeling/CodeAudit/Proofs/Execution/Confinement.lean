import CodeAudit.Execution.Confinement
import CodeAudit.Proofs.Numeric.Magnitude
import CodeAudit.Proofs.Outcome

/-! What a child asks of the system, from its first call to its last: each request may be refused and the candidate may
fail, and still every later call is made. -/
namespace CodeAudit.Confinement

open Outcome

variable {s : System}

namespace Work

/-- Ending well from every record, with those calls added to it. -/
def Makes (w : Work Unit) (calls : List Call) : Prop :=
  ∀ r, ∃ complaints, (w.run : StateM Record _) r = (.ok (), { calls := r.calls ++ calls, complaints })

lemma makes_nothing : Makes (pure ()) [] := fun r => ⟨r.complaints, by rw [List.append_nil]; rfl⟩

lemma Makes.bind {w w' : Work Unit} {calls calls' : List Call} (h : w.Makes calls) (h' : w'.Makes calls') :
    Makes (do w; w') (calls ++ calls') := by
  intro r
  obtain ⟨complaints, hrun⟩ := h r
  obtain ⟨complaints', hrun'⟩ := h' { calls := r.calls ++ calls, complaints }
  exact ⟨complaints', by rw [run_bind_of_ok hrun, hrun', List.append_assoc]⟩

/-- A request whose refusal is only complained about is made, granted or not. -/
lemma makes_ask (name refusal : String) (c : Call) (complaint : Fault → String) :
    Makes (try ask s name refusal c catch fault => complain (complaint fault)) [c] := by
  intro r
  by_cases hrefused : s.refused.contains name = true
  · refine ⟨r.complaints ++ [complaint (.refused refusal)], ?_⟩
    simp only [ask, hrefused]
    rfl
  · refine ⟨r.complaints, ?_⟩
    simp only [ask, hrefused]
    rfl

/-- The call by which a limit is asked for, the hard limit staying as it is. -/
def limitCall (s : System) (name : String) (soft : Int) : Call :=
  .limit name soft (s.hardLimit? name)

lemma makes_requestLimit (name : String) (value : Int) :
    (requestLimit s name value).Makes
      (if s.known.contains name then [limitCall s name (softLimit value (s.hardLimit? name))] else []) := by
  unfold requestLimit
  split
  · exact makes_ask _ _ _ _
  · exact makes_nothing

/-- The cores that are asked for. -/
def wantedCores (s : System) (most : Int) : Option (List Int) :=
  s.cores.map fun cores => firstCores most (cores.mergeSort fun a b => decide (a ≤ b))

lemma makes_requestCores (most : Int) :
    (requestCores s most).Makes ((wantedCores s most).toList.map .affinity) := by
  unfold requestCores wantedCores
  cases s.cores with
  | none => exact makes_nothing
  | some cores => exact makes_ask _ _ _ _

/-- The names and soft limits that are asked for, of the limits that the platform knows. -/
def wantedLimits (s : System) (t : Task) : List (String × Int) :=
  if s.hasLimits then
    [("RLIMIT_AS", softLimit (addressSpace s + t.memoryMb * bytesPerMb) (s.hardLimit? "RLIMIT_AS")),
      ("RLIMIT_CPU", softLimit t.cpuSeconds (s.hardLimit? "RLIMIT_CPU"))].filter fun limit => s.known.contains limit.1
  else []

/-- The calls by which the limits of a task are asked for. -/
def limitCalls (s : System) (t : Task) : List Call :=
  (wantedLimits s t).map (fun limit => limitCall s limit.1 limit.2) ++ (wantedCores s t.cores).toList.map .affinity

lemma makes_applyLimits (t : Task) : (applyLimits s t).Makes (limitCalls s t) := by
  have hfilter (name : String) (soft : Int) (rest : List (String × Int)) :
      (((name, soft) :: rest).filter fun limit => s.known.contains limit.1).map
          (fun limit => limitCall s limit.1 limit.2) =
        (if s.known.contains name then [limitCall s name soft] else []) ++
          (rest.filter fun limit => s.known.contains limit.1).map fun limit => limitCall s limit.1 limit.2 := by
    rw [List.filter_cons]
    split <;> rfl
  unfold applyLimits limitCalls wantedLimits
  split
  · rw [hfilter, hfilter, List.append_assoc, List.append_assoc]
    exact (makes_requestLimit _ _).bind ((makes_requestLimit _ _).bind (makes_requestCores _))
  · exact makes_requestCores _

lemma map_fst_wantedLimits (t : Task) :
    (wantedLimits s t).map Prod.fst =
      if s.hasLimits then ["RLIMIT_AS", "RLIMIT_CPU"].filter fun name => s.known.contains name else [] := by
  unfold wantedLimits
  split
  · exact (List.filter_map (p := fun name => s.known.contains name)).symm
  · rfl

lemma softLimit_le (value hard : Int) : softLimit value (some hard) ≤ hard := min_le_right value hard

lemma soft_le_of_mem_wantedLimits {t : Task} {limit : String × Int} (h : limit ∈ wantedLimits s t) {hard : Int}
    (hhard : s.hardLimit? limit.1 = some hard) : limit.2 ≤ hard := by
  unfold wantedLimits at h
  split at h
  · have hlimit := (List.mem_filter.mp h).1
    simp only [List.mem_cons, List.not_mem_nil, or_false] at hlimit
    rcases hlimit with rfl | rfl
    · exact hhard ▸ softLimit_le _ hard
    · exact hhard ▸ softLimit_le _ hard
  · exact absurd h List.not_mem_nil

/-- The report is made however the candidate ends, whose error then ends the child. -/
lemma run_target_then_report {base : Option Double} {used : Call} (t : Task) (hused : usage s base = .ok used)
    (r : Record) :
    (ExceptT.run (try runTarget s t finally report s base) : StateM Record _) r =
      (match s.candidateError with
        | none => .ok ()
        | some message => .error (.candidate message),
        { r with calls := r.calls ++ [.run t.target [t.target], used] }) := by
  rw [List.append_cons]
  unfold runTarget report
  rw [hused]
  cases s.candidateError with
  | none => rfl
  | some message => rfl

end Work

/-- A child that is told what to do and can read what it uses makes all its calls and ends as the candidate does. -/
lemma trace_eq {arguments : List String} {t : Task} {base : Option Double} {used : Call}
    (htask : Task.ofArguments arguments = .ok t) (hbase : memoryAt s 0 = .ok base) (hused : usage s base = .ok used) :
    (trace s arguments).calls =
        Work.limitCalls s t ++ [.run t.target [t.target], used] ∧
      (trace s arguments).fault = s.candidateError.map .candidate := by
  obtain ⟨complaints, hlimits⟩ := Work.makes_applyLimits (s := s) t {}
  have hlive : ((Work.live s arguments).run : StateM Record _) {} =
      (match s.candidateError with
        | none => .ok ()
        | some message => .error (.candidate message),
        { calls := Work.limitCalls s t ++
            [.run t.target [t.target], used], complaints }) := by
    unfold Work.live
    rw [htask, hbase, mapError_ok, run_lift_ok_bind, run_lift_ok_bind, run_bind_of_ok hlimits,
      Work.run_target_then_report t hused]
    rfl
  unfold trace
  simp only [StateT.run]
  rw [hlive]
  cases s.candidateError with
  | none => exact ⟨rfl, rfl⟩
  | some message => exact ⟨rfl, rfl⟩

lemma ofMachine_reading {readings : List Number} (h : ∀ r ∈ readings, r.OfMachine) (i : ℕ) :
    (reading readings i).OfMachine := by
  unfold reading
  cases hat : readings[i]? with
  | some r => exact h r (List.mem_of_getElem? hat)
  | none =>
    cases hlast : readings.getLast? with
    | some r => exact h r (List.mem_of_getLast? hlast)
    | none => exact (by decide : (0 : Number).OfMachine)

lemma exists_memoryAt (h : ∀ r ∈ s.peaks, r.OfMachine) (i : ℕ) : ∃ memory, memoryAt s i = .ok memory := by
  unfold memoryAt megabytes
  split
  · have hunit : (Number.int (if s.inBytes then bytesPerMb else 1024)).OfMachine := by split <;> decide
    obtain ⟨memory, hmemory⟩ := Number.exists_div? (ofMachine_reading h i) hunit (by split <;> decide)
    exact ⟨some memory, by rw [hmemory]; rfl⟩
  · exact ⟨none, rfl⟩

lemma zero_le_maxFirst (x : Double) : (0 : Number).le (.double (Double.maxFirst 0 x)) = true := by
  unfold Double.maxFirst
  split
  · rename_i hlt
    have hcompare : (0 : Number).compare? (.double x) = some .lt := eq_of_beq hlt
    rw [Number.le, hcompare]
  · decide

/-- What was used can be told from the readings of a machine, and memory does not shrink. -/
lemma exists_usage (hpeaks : ∀ r ∈ s.peaks, r.OfMachine) (htimes : ∀ r ∈ s.times, r.OfMachine)
    (base : Option Double) :
    ∃ peak used cpu, usage s base = .ok (.report peak used cpu) ∧ ∀ u ∈ used, (0 : Number).le u = true := by
  obtain ⟨passed, hpassed⟩ := Number.exists_sub? (ofMachine_reading htimes 1) (ofMachine_reading htimes 0)
  obtain ⟨cpu, hcpu⟩ := Number.exists_mul? passed (n := 1000) (by decide)
  obtain ⟨peak, hpeak⟩ := exists_memoryAt hpeaks 1
  refine ⟨_, _, _, bind_eq_ok.mpr ⟨passed, hpassed, bind_eq_ok.mpr ⟨cpu, hcpu, bind_eq_ok.mpr ⟨peak, hpeak, rfl⟩⟩⟩,
    fun u hu => ?_⟩
  obtain ⟨p, -, hgrowth⟩ := Option.bind_eq_some_iff.mp hu
  obtain ⟨b, -, rfl⟩ := Option.map_eq_some_iff.mp hgrowth
  exact zero_le_maxFirst _

/-- Some of the cores, so many if there are so many, and none of the rest is lower. -/
def Lowest (n : ℕ) (available chosen : List Int) : Prop :=
  ∃ others, (chosen ++ others).Perm available ∧ chosen.length = min n available.length ∧
    ∀ a ∈ chosen, ∀ b ∈ others, a ≤ b

lemma lowest_firstCores {most : Int} (h : 0 ≤ most) (available : List Int) :
    Lowest most.toNat available (firstCores most (available.mergeSort fun a b => decide (a ≤ b))) := by
  have hsorted : (available.mergeSort fun a b => decide (a ≤ b)).Pairwise (· ≤ ·) := by
    refine (List.pairwise_mergeSort ?_ ?_ available).imp of_decide_eq_true
    · intro a b c hab hbc
      exact decide_eq_true ((of_decide_eq_true hab).trans (of_decide_eq_true hbc))
    · intro a b
      rcases le_total a b with hab | hba
      · simp [hab]
      · simp [hba]
  rw [firstCores, if_pos h]
  refine ⟨(available.mergeSort fun a b => decide (a ≤ b)).drop most.toNat, ?_, ?_, ?_⟩
  · rw [List.take_append_drop]
    exact List.mergeSort_perm _ _
  · rw [List.length_take, List.length_mergeSort]
  · rw [← List.take_append_drop most.toNat (available.mergeSort _), List.pairwise_append] at hsorted
    exact hsorted.2.2

/-- All that a child does in a system, with what holds of each call. -/
structure Life (s : System) (target : String) (most : ℕ) where
  /-- Names and soft limits. -/
  limits : List (String × Int)
  affinity : Option (List Int)
  peakMb : Option Number
  usedMb : Option Number
  cpuMs : Number
  nodup_limits : (limits.map Prod.fst).Nodup
  mem_limits : ∀ name, name ∈ limits.map Prod.fst ↔
    s.hasLimits = true ∧ name ∈ s.known ∧ (name = "RLIMIT_AS" ∨ name = "RLIMIT_CPU")
  soft_le : ∀ limit ∈ limits, ∀ hard, s.hardLimit? limit.1 = some hard → limit.2 ≤ hard
  isSome_affinity : affinity.isSome = s.cores.isSome
  lowest : ∀ chosen ∈ affinity, ∀ available ∈ s.cores, Lowest most available chosen
  used_nonneg : ∀ used ∈ usedMb, (0 : Number).le used = true

namespace Life

/-- The calls in their order: limits, the hard ones being as they are, then cores, the target with itself as its only
argument, and the report. -/
def calls {target : String} {most : ℕ} (l : Life s target most) : List Call :=
  l.limits.map (fun limit => .limit limit.1 limit.2 (s.hardLimit? limit.1)) ++ l.affinity.toList.map .affinity ++
    [.run target [target], .report l.peakMb l.usedMb l.cpuMs]

/-- The life of a child that uses so much. -/
def ofTask (t : Task) (hmost : 0 < t.cores) {peakMb usedMb : Option Number} (cpuMs : Number)
    (hused : ∀ used ∈ usedMb, (0 : Number).le used = true) : Life s t.target t.cores.toNat where
  limits := Work.wantedLimits s t
  affinity := Work.wantedCores s t.cores
  peakMb := peakMb
  usedMb := usedMb
  cpuMs := cpuMs
  nodup_limits := by
    rw [Work.map_fst_wantedLimits]
    split
    · exact List.Pairwise.filter _ (by decide)
    · exact List.nodup_nil
  mem_limits name := by
    rw [Work.map_fst_wantedLimits]
    split
    · simp [and_comm, *]
    · simp [*]
  soft_le _ hlimit _ hhard := Work.soft_le_of_mem_wantedLimits hlimit hhard
  isSome_affinity := Option.isSome_map
  lowest chosen hchosen available havailable := by
    rw [Work.wantedCores, Option.mem_def.mp havailable] at hchosen
    obtain rfl := Option.mem_some_iff.mp hchosen
    exact lowest_firstCores hmost.le available
  used_nonneg := hused

end Life

/-- A system that knows both limits but refuses one of them and the cores, below a candidate that fails. -/
def reluctant : System where
  sizes := none
  hard := [("RLIMIT_CPU", 4)]
  refused := ["RLIMIT_AS", "affinity"]
  cores := some [3, 1, 2]
  peaks := [2048, 4096]
  times := [0, 1]
  candidateError := some "candidate failed"

end CodeAudit.Confinement
