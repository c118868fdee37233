import CodeAudit.Proofs.Finding.Ranking
import CodeAudit.Proofs.Numeric.Order

/-! Which problems a threshold leaves in a report: reports merge before they are filtered, so the most severe
reports of a problem decide whether it is kept. -/
namespace CodeAudit

/-- A confidence is a finite number. -/
lemma Confidence.toRat?_value (c : Confidence) : c.value.toRat? = some c.toRat := by
  obtain ⟨v, hv⟩ := c
  cases v with
  | int n => rfl
  | double x =>
    cases x with
    | finite x => rfl
    | negZero => rfl
    | infinite negative => cases negative <;> simp [Number.le, Number.compare?, Double.compare?] at hv
    | nan => simp [Number.le, Number.compare?, Double.compare?] at hv

lemma Severity.rank_le_critical (s : Severity) : s.rank ≤ rank .critical := by
  cases s <;> decide

lemma Severity.eq_critical_of_rank_le {s : Severity} (h : rank .critical ≤ s.rank) : s = .critical := by
  cases s with
  | critical => rfl
  | low => exact absurd h (by decide)
  | medium => exact absurd h (by decide)
  | high => exact absurd h (by decide)

namespace Finding

lemma le_confidence_iff (t : Number) (f : Finding) :
    t.le f.confidence.value = true ↔ t.AtMost f.confidence.toRat :=
  t.le_iff_atMost f.confidence.toRat?_value

/-- A sure enough report that is as severe as any of its group makes the first strongest one sure enough. -/
lemma FirstStrongest.atMost {c s : Finding} {fs : List Finding} {t : Number} (hc : FirstStrongest c fs)
    (hs : s ∈ fs) (hsevere : c.severity.rank ≤ s.severity.rank) (ht : t.AtMost s.confidence.toRat) :
    t.AtMost c.confidence.toRat := by
  rcases (strength_le_iff s c).mp (hc.strength_le hs) with hlt | ⟨_, hle⟩
  · omega
  · exact ht.mono hle

lemma mem_keep {t : Number} {focus : List Kind} {fs : List Finding} {f : Finding} :
    f ∈ keep t focus fs ↔ f ∈ fs ∧ t.AtMost f.confidence.toRat ∧ f.kind ∈ focus := by
  simp [keep, le_confidence_iff]

/-- No report of a problem is more severe than a critical one, so a sure critical report has a critical finding of its
problem kept. -/
lemma exists_critical_mem_keep_merge {t : Number} {focus : List Kind} {fs : List Finding} {f : Finding} (hf : f ∈ fs)
    (hcritical : f.severity = .critical) (ht : t.le f.confidence.value = true) (hfocus : f.kind ∈ focus) :
    ∃ g ∈ keep t focus (merge fs), g.key = f.key ∧ g.severity = .critical := by
  have hledger := mergeByKey_isLedger fs
  obtain ⟨g, hg, hk⟩ := List.mem_map.mp ((hledger.mem_keys f.key).mpr (List.mem_map_of_mem hf))
  obtain ⟨c, hc, hgc⟩ := (hledger.condenses g hg).identity
  rw [hk] at hc
  have hfc : f ∈ group f.key fs := mem_group.mpr ⟨hf, rfl⟩
  have hsevere : c.severity = .critical := by
    apply Severity.eq_critical_of_rank_le
    rw [← hcritical]
    exact rank_le_of_strength_le (hc.strength_le hfc)
  have htc : t.AtMost c.confidence.toRat := by
    apply hc.atMost hfc
    · rw [hcritical]
      exact c.severity.rank_le_critical
    · exact (le_confidence_iff t f).mp ht
  have hkind : g.kind = f.kind := congrArg Subkind.kind ((key_eq_iff g f).mp hk).1
  refine ⟨g, mem_keep.mpr ⟨(merge_perm fs).mem_iff.mpr hg, ?_, hkind ▸ hfocus⟩, hk, hgc.severity.trans hsevere⟩
  rwa [hgc.confidence]

/-- A report's problem is kept exactly when its kind is in focus and, among the most severe reports of the
problem, there is one that reaches the threshold. -/
theorem exists_mem_keep_merge_iff (t : Number) (focus : List Kind) (fs : List Finding) (f : Finding) :
    (∃ g ∈ keep t focus (merge fs), g.key = f.key) ↔ f.kind ∈ focus ∧
      ∃ s ∈ fs, s.key = f.key ∧ t.le s.confidence.value = true ∧
        ∀ d ∈ fs, d.key = f.key → d.severity.rank ≤ s.severity.rank := by
  have hledger := mergeByKey_isLedger fs
  have hkind : ∀ g : Finding, g.key = f.key → g.kind = f.kind := fun g hg =>
    congrArg Subkind.kind ((key_eq_iff g f).mp hg).1
  constructor
  · rintro ⟨g, hg, hk⟩
    obtain ⟨hm, ht, hfocus⟩ := mem_keep.mp hg
    have hg := hledger.condenses g ((merge_perm fs).mem_iff.mp hm)
    obtain ⟨c, hc, hgc⟩ := hg.identity
    rw [hk] at hc
    obtain ⟨hcm, hck⟩ := mem_group.mp hc.mem
    refine ⟨hkind g hk ▸ hfocus, c, hcm, hck, ?_, fun d hd hdk => ?_⟩
    · rwa [le_confidence_iff, ← hgc.confidence]
    · exact rank_le_of_strength_le (hc.strength_le (mem_group.mpr ⟨hd, hdk⟩))
  · rintro ⟨hfocus, s, hs, hsk, ht, hsevere⟩
    obtain ⟨g, hg, hk⟩ := List.mem_map.mp ((hledger.mem_keys f.key).mpr (hsk ▸ List.mem_map_of_mem hs))
    obtain ⟨c, hc, hgc⟩ := (hledger.condenses g hg).identity
    rw [hk] at hc
    obtain ⟨hcm, hck⟩ := mem_group.mp hc.mem
    rw [le_confidence_iff] at ht
    have htc := hc.atMost (mem_group.mpr ⟨hs, hsk⟩) (hsevere c hcm hck) ht
    refine ⟨g, mem_keep.mpr ⟨(merge_perm fs).mem_iff.mpr hg, ?_, ?_⟩, hk⟩
    · rwa [hgc.confidence]
    · rwa [hkind g hk]

/-- A report of one logic problem on the first line. -/
def logicReport (severity : Severity) (confidence : Confidence) : Finding where
  subkind := .logicDeviation
  severity := severity
  confidence := confidence
  evidence := ["something"]
  method := .pattern
  impact := Impact.ofKind .logic
  lines := .ofList [1]
  description := ""
  errorMessage := none
  suggestedFix := none

/-- A sure report does not always keep its problem: a more severe report below the threshold takes it over. -/
theorem sure_report_not_always_kept :
    ¬ ∀ (t : Number) (focus : List Kind) (fs : List Finding), ∀ f ∈ fs, t.le f.confidence.value = true →
      f.kind ∈ focus → ∃ g ∈ keep t focus (merge fs), g.key = f.key := by
  intro h
  let mild := logicReport .low (.of 0.9)
  let severe := logicReport .critical (.of 0.25)
  obtain ⟨g, hg, _⟩ := h 0.5 Kind.all [mild, severe] mild (by simp) (by decide +kernel) (by decide)
  have hmerge : merge [mild, severe] = [mild.mergedWith severe] := by
    have hkey : mergeByKey [mild, severe] = [mild.mergedWith severe] := by decide +kernel
    rw [merge, hkey, sort, List.mergeSort_singleton]
  have hnone : keep 0.5 Kind.all [mild.mergedWith severe] = [] := by decide +kernel
  rw [hmerge, hnone] at hg
  exact List.not_mem_nil hg

end Finding
end CodeAudit
