import CodeAudit.Finding.Basic
import Mathlib.Data.Prod.Lex
import Mathlib.Algebra.Order.Ring.Rat
import Mathlib.Tactic.Lemma

/-! How strong a finding is, the first strongest of a list of reports, and what merging two reports of one
problem keeps. -/
namespace CodeAudit.Finding

/-- Strength goes by the severity's rank and among equal ranks by the exact confidence. -/
def strength (f : Finding) : ℕ ×ₗ ℚ := toLex (f.severity.rank, f.confidence.toRat)

lemma strength_lt_iff (f g : Finding) :
    f.strength < g.strength ↔ f.severity.rank < g.severity.rank ∨
      f.severity.rank = g.severity.rank ∧ f.confidence.toRat < g.confidence.toRat := by
  simp [strength, Prod.Lex.toLex_lt_toLex]

lemma strength_le_iff (f g : Finding) :
    f.strength ≤ g.strength ↔ f.severity.rank < g.severity.rank ∨
      f.severity.rank = g.severity.rank ∧ f.confidence.toRat ≤ g.confidence.toRat := by
  simp [strength, Prod.Lex.toLex_le_toLex]

/-- The comparison that merging uses is the strict order of strength. -/
lemma outrankedBy_iff (f g : Finding) : f.outrankedBy g = true ↔ f.strength < g.strength := by
  rw [strength_lt_iff]
  simp [outrankedBy]

lemma rank_le_of_strength_le {f g : Finding} (h : f.strength ≤ g.strength) :
    f.severity.rank ≤ g.severity.rank := by
  rcases (strength_le_iff f g).mp h with h | ⟨h, _⟩ <;> omega

/-- What a finding hands down unchanged when it takes in weaker reports: all of it but evidence, lines and the
two optional texts. -/
structure SameIdentity (f g : Finding) : Prop where
  subkind : f.subkind = g.subkind
  severity : f.severity = g.severity
  confidence : f.confidence = g.confidence
  description : f.description = g.description
  method : f.method = g.method
  impact : f.impact = g.impact

namespace SameIdentity

lemma refl (f : Finding) : SameIdentity f f := ⟨rfl, rfl, rfl, rfl, rfl, rfl⟩

lemma trans {f g h : Finding} (hfg : SameIdentity f g) (hgh : SameIdentity g h) : SameIdentity f h :=
  ⟨hfg.subkind.trans hgh.subkind, hfg.severity.trans hgh.severity, hfg.confidence.trans hgh.confidence,
    hfg.description.trans hgh.description, hfg.method.trans hgh.method, hfg.impact.trans hgh.impact⟩

lemma symm {f g : Finding} (h : SameIdentity f g) : SameIdentity g f :=
  ⟨h.subkind.symm, h.severity.symm, h.confidence.symm, h.description.symm, h.method.symm, h.impact.symm⟩

lemma strength {f g : Finding} (h : SameIdentity f g) : f.strength = g.strength := by
  simp only [Finding.strength, h.severity, h.confidence]

end SameIdentity

lemma enrichedBy_sameIdentity (f g : Finding) : SameIdentity (f.enrichedBy g) f :=
  ⟨rfl, rfl, rfl, rfl, rfl, rfl⟩

lemma mergedWith_of_lt {f g : Finding} (h : f.strength < g.strength) : f.mergedWith g = g.enrichedBy f := by
  simp [mergedWith, (outrankedBy_iff f g).mpr h]

lemma mergedWith_of_le {f g : Finding} (h : g.strength ≤ f.strength) : f.mergedWith g = f.enrichedBy g := by
  have hn : ¬ f.outrankedBy g = true := fun ho => absurd ((outrankedBy_iff f g).mp ho) h.not_gt
  simp [mergedWith, hn]

/-- The earliest among the strongest findings of a list: what stands before it is weaker, what stands behind is
not stronger. -/
def FirstStrongest (c : Finding) (fs : List Finding) : Prop :=
  ∃ earlier later, fs = earlier ++ c :: later ∧
    (∀ f ∈ earlier, f.strength < c.strength) ∧ ∀ f ∈ later, f.strength ≤ c.strength

namespace FirstStrongest

lemma mem {c : Finding} {fs : List Finding} (h : FirstStrongest c fs) : c ∈ fs := by
  obtain ⟨earlier, later, rfl, _, _⟩ := h
  simp

lemma strength_le {c f : Finding} {fs : List Finding} (h : FirstStrongest c fs) (hf : f ∈ fs) :
    f.strength ≤ c.strength := by
  obtain ⟨earlier, later, rfl, he, hl⟩ := h
  rcases List.mem_append.mp hf with hf | hf
  · exact (he f hf).le
  · rcases List.mem_cons.mp hf with rfl | hf
    · exact le_rfl
    · exact hl f hf

lemma singleton (c : Finding) : FirstStrongest c [c] := ⟨[], [], rfl, by simp, by simp⟩

lemma append_le {c f : Finding} {fs : List Finding} (h : FirstStrongest c fs)
    (hf : f.strength ≤ c.strength) : FirstStrongest c (fs ++ [f]) := by
  obtain ⟨earlier, later, rfl, he, hl⟩ := h
  refine ⟨earlier, later ++ [f], by simp, he, fun g hg => ?_⟩
  rcases List.mem_append.mp hg with hg | hg
  · exact hl g hg
  · rw [List.mem_singleton.mp hg]
    exact hf

lemma append_gt {c f : Finding} {fs : List Finding} (h : FirstStrongest c fs)
    (hf : c.strength < f.strength) : FirstStrongest f (fs ++ [f]) :=
  ⟨fs, [], rfl, fun _ hg => (h.strength_le hg).trans_lt hf, by simp⟩

end FirstStrongest

@[simp] lemma mem_appendNew (items more : List String) (e : String) :
    e ∈ appendNew items more ↔ e ∈ items ∨ e ∈ more := by
  induction more generalizing items with
  | nil => simp [appendNew]
  | cons item more ih =>
    change e ∈ appendNew (if items.contains item then items else items ++ [item]) more ↔ _
    rw [ih]
    by_cases h : item ∈ items
    · simp only [List.contains_iff_mem, h, if_true, List.mem_cons]
      constructor
      · tauto
      · rintro (hi | rfl | hm)
        · exact .inl hi
        · exact .inl h
        · exact .inr hm
    · simp [h, or_assoc]

/-- What is new is taken in once, where it first comes up. -/
lemma appendNew_eq (items more : List String) :
    appendNew items more = items ++ (more.filter (· ∉ items)).eraseDups := by
  induction more generalizing items with
  | nil => exact (List.append_nil items).symm
  | cons item rest ih =>
    change appendNew (if items.contains item then items else items ++ [item]) rest = _
    rw [ih]
    by_cases h : item ∈ items
    · rw [if_pos (List.contains_iff_mem.mpr h), List.filter_cons_of_neg (by simpa using h)]
    · rw [if_neg (by simpa using h), List.filter_cons_of_pos (by simpa using h), List.eraseDups_cons,
        List.filter_filter, List.append_assoc, List.singleton_append]
      simp only [List.mem_append, List.mem_singleton, not_or, Bool.decide_and, Bool.and_comm, decide_not,
        beq_eq_decide]

/-- An optional text that is there and not empty. -/
def HasText (t : Option String) : Prop := ∃ s, t = some s ∧ s ≠ ""

lemma hasText_textOr (t u : Option String) : HasText (textOr t u) ↔ HasText t ∨ HasText u := by
  cases t with
  | none => simp [textOr, HasText]
  | some s => by_cases h : s = "" <;> simp [textOr, HasText, h]

@[simp] lemma mem_evidence_mergedWith (f g : Finding) (e : String) :
    e ∈ (f.mergedWith g).evidence ↔ e ∈ f.evidence ∨ e ∈ g.evidence := by
  unfold mergedWith
  split <;> simp [enrichedBy, or_comm]

@[simp] lemma hasText_errorMessage_mergedWith (f g : Finding) :
    HasText (f.mergedWith g).errorMessage ↔ HasText f.errorMessage ∨ HasText g.errorMessage := by
  unfold mergedWith
  split <;> simp [enrichedBy, hasText_textOr, or_comm]

@[simp] lemma hasText_suggestedFix_mergedWith (f g : Finding) :
    HasText (f.mergedWith g).suggestedFix ↔ HasText f.suggestedFix ∨ HasText g.suggestedFix := by
  unfold mergedWith
  split <;> simp [enrichedBy, hasText_textOr, or_comm]

end CodeAudit.Finding
