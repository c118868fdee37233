import CodeAudit.Proofs.Safety.Scan

/-! Programs that the safety gate has nothing to say of but that they are long. -/
namespace CodeAudit

namespace Safety

open Source (Line)

/-- The line has no call or import that is dangerous, opens no endless loop, and imports allowed modules only. -/
structure Harmless (line : Line) : Prop where
  patterns : ∀ p ∈ patterns, p.expression.find? line = none
  imports : ∀ top ∈ importedTops line, top = [] ∨ String.ofList top ∈ allowedModules
  loop : endlessLoop.startsText line = false

/-- The note on a long text, none on others. -/
def lengthNotes (code : List Char) : List Danger :=
  if maxLength < code.length then [⟨.low, s!"Code is unusually long ({code.length} characters)", 0⟩] else []

section Line

variable {line : Line} (h : Harmless line)
include h

lemma Harmless.patternDangers_eq (index : ℕ) : patternDangers index line = [] := by
  refine List.filterMap_eq_nil_iff.mpr fun p hp => ?_
  rw [h.patterns p hp]
  rfl

lemma Harmless.importNotes_eq (flagged : List (List Char)) (index : ℕ) : importNotes flagged index line = [] := by
  refine List.filterMap_eq_nil_iff.mpr fun top htop => ?_
  rcases h.imports top htop with rfl | hallowed
  · rfl
  · rw [if_pos]
    simp [hallowed]

lemma Harmless.loopDanger_eq (src : Source) (index : ℕ) : loopDanger src index line = [] := by
  rw [loopDanger, h.loop]
  rfl

end Line

/-- The run over the lines, by induction on them: no module is flagged on the way. -/
lemma scanFrom_eq_nil {lines : List Line} (h : ∀ line ∈ lines, Text.isBlankText line = true ∨ Harmless line)
    (src : Source) (flagged : List (List Char)) (index : ℕ) : scanFrom src flagged index lines = [] := by
  induction lines generalizing flagged index with
  | nil => rfl
  | cons line rest ih =>
    obtain ⟨hline, hrest⟩ := List.forall_mem_cons.mp h
    rw [scanFrom]
    by_cases hblank : Text.isBlankText line = true
    · rw [if_pos hblank, ih hrest]
    · have hharmless := hline.resolve_left hblank
      rw [if_neg hblank, hharmless.patternDangers_eq]
      dsimp only
      rw [ih hrest, hharmless.importNotes_eq, hharmless.loopDanger_eq]
      rfl

lemma scan_eq_lengthNotes {code : List Char}
    (h : ∀ line ∈ Source.maskLines code, Text.isBlankText line = true ∨ Harmless line) :
    scan code = lengthNotes code := by
  have hlines : scanFrom (Source.ofText code) [] 0 (Source.ofText code).masked = [] := scanFrom_eq_nil h _ _ _
  rw [scan, hlines]
  rfl

end Safety

/-- Nothing, or the length of the text alone, makes no program unsafe. -/
lemma SafetyAssessment.granted_of_scan_eq {code : List Char} (h : Safety.scan code = Safety.lengthNotes code) :
    (ofCode code).isSafe = true ∧ (ofCode code).allowExecution = true := by
  rw [ofCode, h, Safety.lengthNotes]
  split
  · -- the verdict looks at the level of the note and not at its text
    generalize s!"Code is unusually long ({code.length} characters)" = risk
    have hconfidence : Double.lt 0.5 (confidenceAfter [⟨.low, risk, 0⟩]) = true := by
      change Double.lt 0.5 (Double.maxFirst 0 (1 - (0 + Safety.Level.low.penalty))) = true
      decide +kernel
    simp [ofDangers, hconfidence, maxRisks]
  · decide +kernel

end CodeAudit
