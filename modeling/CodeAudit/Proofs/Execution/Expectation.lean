import CodeAudit.Execution.Findings
import CodeAudit.Proofs.Numeric.Unit
import CodeAudit.Proofs.Outcome
import CodeAudit.Proofs.Text.Similarity

/-!
Outputs against the expected ones. A finding on an output carries what its similarity leaves to one as its confidence,
which is in range whatever the two texts are; and an output that is the expected one has nothing left.
-/
namespace CodeAudit.ExecutionFindings

open Outcome

variable {r : ExecutionResult} {o : Options} {fs : List Finding}

/-- What a finding on an output that is not the expected one says. -/
def deviation : String := "Output does not match expectation"

/-- What the findings on the usage of a run say. -/
def excesses : List String := ["Excessive memory usage", "Excessive execution time", "High CPU usage"]

section Output

lemma inUnit_outputSimilarity (actual expected : String) : (outputSimilarity actual expected).InUnit := by
  obtain ⟨hnonneg, hone⟩ := Text.Similarity.ratio_mem_unit (Text.strip actual.toList) (Text.strip expected.toList)
  exact Double.inUnit_ofRat hnonneg hone

lemma outputSimilarity_of_eq {actual expected : String}
    (h : Text.strip actual.toList = Text.strip expected.toList) : outputSimilarity actual expected = .ofRat 1 := by
  rw [outputSimilarity, h, Text.similarity, Text.Similarity.ratio_self]

lemma ofOutput_of_eq {expected : String} (h : Text.strip r.output.toList = Text.strip expected.toList) :
    ofOutput r expected = .ok [] := by
  have hlike : (Double.ofRat 1).lt similarityThreshold = false := by decide +kernel
  unfold ofOutput
  rw [outputSimilarity_of_eq h]
  dsimp only
  rw [hlike]
  rfl

/-- Whatever the two texts are, the confidence that they leave is in range, so that only their similarity decides. -/
lemma exists_ofOutput (r : ExecutionResult) (expected : String) :
    ∃ fs, ofOutput r expected = .ok fs ∧ fs.map Finding.description =
      if (outputSimilarity r.output expected).lt similarityThreshold then [deviation] else [] := by
  unfold ofOutput
  dsimp only
  split
  · obtain ⟨c, hc⟩ :=
      Confidence.exists_ofNumber? ((inUnit_outputSimilarity r.output expected).one_sub.roundPlaces 4)
    rw [hc]
    exact ⟨_, rfl, rfl⟩
  · exact ⟨[], rfl, rfl⟩

end Output

section Description

lemma description_ofError_ne (e : ExecutionError) : (ofError e).description ≠ deviation := by
  intro h
  have hchars := congrArg String.toList h
  have hruntime : (ofError e).description.toList = 'R' :: ("untime ".toList ++ e.type.toList) := by
    simp [ofError, finding, toString]
  rw [hruntime] at hchars
  cases hchars

lemma description_of_mem_ofMemory (h : ofMemory r.usage o = .ok fs) :
    ∀ f ∈ fs, f.description = "Excessive memory usage" := by
  obtain ⟨exceeds, -, h⟩ := bind_eq_ok.mp h
  cases exceeds with
  | false =>
    obtain rfl := pure_eq_ok.mp h
    exact List.forall_mem_nil _
  | true =>
    obtain ⟨used, -, h⟩ := bind_eq_ok.mp h
    obtain ⟨bound, -, h⟩ := bind_eq_ok.mp h
    dsimp only at h
    split at h
    · obtain rfl := pure_eq_ok.mp h
      exact List.forall_mem_singleton.mpr rfl
    · obtain ⟨peak, -, h⟩ := bind_eq_ok.mp h
      obtain rfl := pure_eq_ok.mp h
      exact List.forall_mem_singleton.mpr rfl

lemma description_of_mem_ofTime (h : ofTime r.usage o = .ok fs) :
    ∀ f ∈ fs, f.description = "Excessive execution time" := by
  unfold ofTime at h
  split at h
  · obtain ⟨taken, -, h⟩ := bind_eq_ok.mp h
    obtain ⟨bound, -, h⟩ := bind_eq_ok.mp h
    obtain rfl := pure_eq_ok.mp h
    exact List.forall_mem_singleton.mpr rfl
  · obtain rfl := pure_eq_ok.mp h
    exact List.forall_mem_nil _

lemma description_of_mem_ofCpu (h : ofCpu r.usage o = .ok fs) : ∀ f ∈ fs, f.description = "High CPU usage" := by
  unfold ofCpu at h
  split at h
  · obtain ⟨share, -, h⟩ := bind_eq_ok.mp h
    obtain ⟨bound, -, h⟩ := bind_eq_ok.mp h
    obtain rfl := pure_eq_ok.mp h
    exact List.forall_mem_singleton.mpr rfl
  · obtain rfl := pure_eq_ok.mp h
    exact List.forall_mem_nil _

lemma description_of_mem_ofUsage (h : ofUsage r o = .ok fs) : ∀ f ∈ fs, f.description ∈ excesses := by
  obtain ⟨memory, hmemory, h⟩ := bind_eq_ok.mp h
  have hmem : ∀ f ∈ memory, f.description ∈ excesses := fun f hf => by
    simp [excesses, description_of_mem_ofMemory hmemory f hf]
  split at h
  · obtain rfl := pure_eq_ok.mp h
    exact hmem
  · obtain ⟨time, htime, h⟩ := bind_eq_ok.mp h
    obtain ⟨cpu, hcpu, h⟩ := bind_eq_ok.mp h
    obtain rfl := pure_eq_ok.mp h
    refine List.forall_mem_append.mpr ⟨List.forall_mem_append.mpr ⟨hmem, fun f hf => ?_⟩, fun f hf => ?_⟩
    · simp [excesses, description_of_mem_ofTime (mapError_eq_ok.mp htime) f hf]
    · simp [excesses, description_of_mem_ofCpu (mapError_eq_ok.mp hcpu) f hf]

end Description

section Result

/-- The findings on the output of a run that ended well, if some output is expected of it. -/
def onOutput (r : ExecutionResult) (o : Options) : Except Finding.Fault (List Finding) :=
  match o.expectedOutput with
  | some expected => if r.success then ofOutput r expected else .ok []
  | none => .ok []

lemma exists_onOutput (r : ExecutionResult) (o : Options) : ∃ fs, onOutput r o = .ok fs := by
  unfold onOutput
  split
  · rename_i expected _
    split
    · obtain ⟨fs, hfs, -⟩ := exists_ofOutput r expected
      exact ⟨fs, hfs⟩
    · exact ⟨[], rfl⟩
  · exact ⟨[], rfl⟩

lemma onOutput_of_none (h : o.expectedOutput = none) : onOutput r o = .ok [] := by
  rw [onOutput, h]

lemma onOutput_of_failed (o : Options) (h : r.success = false) : onOutput r o = .ok [] := by
  unfold onOutput
  split
  · exact if_neg (Bool.eq_false_iff.mp h)
  · rfl

lemma onOutput_of_eq {expected : String} (hexpected : o.expectedOutput = some expected)
    (h : Text.strip r.output.toList = Text.strip expected.toList) : onOutput r o = .ok [] := by
  rw [onOutput, hexpected]
  dsimp only
  rw [ofOutput_of_eq h, ite_self]

/-- The findings on the errors, on the usage and on the output, of which only those on the usage may fail. -/
lemma ofResult_eq {output : List Finding} (h : onOutput r o = .ok output) :
    ofResult r o =
      if r.isVerified then
        ((ofUsage r o).mapError .measure).map fun usage => r.errors.map ofError ++ usage ++ output
      else .ok [] := by
  unfold onOutput at h
  unfold ofResult
  cases r.isVerified with
  | false => rfl
  | true =>
    cases hexpected : o.expectedOutput with
    | none =>
      rw [hexpected] at h
      cases h
      rfl
    | some expected =>
      rw [hexpected] at h
      cases hsuccess : r.success with
      | false =>
        rw [hsuccess] at h
        cases h
        rfl
      | true =>
        rw [hsuccess] at h
        dsimp only at h ⊢
        rw [show ofOutput r expected = .ok output from h]
        rfl

/-- An output that is the expected one is as good as an output of which nothing is expected. -/
lemma ofResult_of_eq {expected : String} (hexpected : o.expectedOutput = some expected)
    (h : Text.strip r.output.toList = Text.strip expected.toList) :
    ofResult r o = ofResult r { o with expectedOutput := none } := by
  have husage : ofUsage r { o with expectedOutput := none } = ofUsage r o := rfl
  rw [ofResult_eq (onOutput_of_eq hexpected h), ofResult_eq (onOutput_of_none rfl), husage]

/-- Without findings on the output no finding says that it deviates. -/
lemma description_ne_deviation (hnothing : onOutput r o = .ok []) (h : ofResult r o = .ok fs) :
    ∀ f ∈ fs, f.description ≠ deviation := by
  rw [ofResult_eq hnothing] at h
  split at h
  · obtain ⟨usage, husage, rfl⟩ := map_eq_ok.mp h
    have hout : deviation ∉ excesses := by decide
    rw [List.append_nil]
    refine List.forall_mem_append.mpr ⟨List.forall_mem_map.mpr fun e _ => description_ofError_ne e, fun f hf => ?_⟩
    exact ne_of_mem_of_not_mem (description_of_mem_ofUsage (mapError_eq_ok.mp husage) f hf) hout
  · cases h
    exact List.forall_mem_nil _

lemma ofResult_ne_finding (r : ExecutionResult) (o : Options) (fault : Finding.Fault) :
    ofResult r o ≠ .error (.finding fault) := by
  obtain ⟨output, houtput⟩ := exists_onOutput r o
  intro h
  rw [ofResult_eq houtput] at h
  split at h
  · cases husage : ofUsage r o with
    | error measure =>
      rw [husage] at h
      cases h
    | ok usage =>
      rw [husage] at h
      cases h
  · cases h

end Result

/-- An output that is the expected one but for the blanks around it changes nothing in what is found in a run, and
none of the findings is about the output. Every two texts are alike to a degree between zero and one, so that the
finding on an output that is less like the expected one than the threshold can always be made, and no run goes
unreported for it. -/
theorem matching_output_unreported (r : ExecutionResult) (o : Options) :
    (∀ expected, o.expectedOutput = some expected → Text.strip r.output.toList = Text.strip expected.toList →
      ofResult r o = ofResult r { o with expectedOutput := none } ∧
        ∀ fs, ofResult r o = .ok fs → ∀ f ∈ fs, f.description ≠ "Output does not match expectation") ∧
      (∀ actual expected, (outputSimilarity actual expected).InUnit) ∧
      (∀ expected, ∃ fs, ofOutput r expected = .ok fs ∧ fs.map Finding.description =
        if (outputSimilarity r.output expected).lt similarityThreshold then ["Output does not match expectation"]
        else []) ∧
      ∀ fault, ofResult r o ≠ .error (.finding fault) := by
  refine ⟨fun expected hexpected hequal => ?_, inUnit_outputSimilarity, exists_ofOutput r, ofResult_ne_finding r o⟩
  exact ⟨ofResult_of_eq hexpected hequal, fun fs => description_ne_deviation (onOutput_of_eq hexpected hequal)⟩

/-- A long output of one character, too frequent to start a block, and a line end. -/
def monotone : ExecutionResult :=
  { success := true, output := String.ofList (List.replicate 300 '-' ++ ['\n']) }

/-- Options that expect that output between blanks. -/
def expectsMonotone : Options :=
  { expectedOutput := some (String.ofList ("\t ".toList ++ List.replicate 300 '-')) }

theorem monotone_output_unreported :
    monotone.isVerified = true ∧ monotone.success = true ∧
      (ofResult monotone expectsMonotone).toOption = some [] := by
  have hequal : Text.strip monotone.output.toList =
      Text.strip (String.ofList ("\t ".toList ++ List.replicate 300 '-')).toList := by
    rw [monotone, String.toList_ofList, String.toList_ofList]
    decide +kernel
  refine ⟨rfl, rfl, ?_⟩
  rw [((matching_output_unreported monotone expectsMonotone).1 _ rfl hequal).1]
  decide +kernel

end CodeAudit.ExecutionFindings
