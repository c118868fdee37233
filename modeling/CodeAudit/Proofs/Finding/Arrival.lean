import CodeAudit.Proofs.Finding.Enrichment
import CodeAudit.Proofs.Finding.Retention

/-! Whether the order in which reports arrive makes a difference to what merging makes of them. The strongest report of a
problem that arrives first gives the finding its identity, evidence is taken in as it arrives, the first text stands, and
findings that rank the same stand as their problems first arrived. Merging depends on nothing else of the order. -/
namespace CodeAudit.Finding

section Leaders

variable {gs : List Finding} {t s x : Finding} {others others' : List Finding}

/-- Two reports in different places, of which the first one is as strong as any. -/
def Beside (gs : List Finding) (t x : Finding) : Prop := ∃ others, Leads gs t (x :: others)

namespace Leads

lemma congr (h : Leads gs t others) (hperm : others.Perm others') : Leads gs t others' :=
  ⟨h.perm.trans (hperm.cons t), h.strongest⟩

lemma beside_of_mem (h : Leads gs t others) (hx : x ∈ others) : Beside gs t x :=
  ⟨others.erase x, h.congr (List.perm_cons_erase hx)⟩

lemma mem (h : Leads gs t others) : t ∈ gs := h.perm.mem_iff.mpr List.mem_cons_self

lemma mem_of_mem (h : Leads gs t others) (hx : x ∈ others) : x ∈ gs := h.perm.mem_iff.mpr (List.mem_cons_of_mem t hx)

lemma mem_of_ne (h : Leads gs t others) (hx : x ∈ gs) (hne : x ≠ t) : x ∈ others :=
  (List.mem_cons.mp (h.perm.mem_iff.mp hx)).resolve_left hne

/-- Two leaders are the same one with the same others, or each of them is among the others of the other one. -/
lemma eq_or_exists (h : Leads gs t others) (h' : Leads gs s others') :
    (t = s ∧ others.Perm others') ∨
      ∃ rest, Leads gs t (s :: rest) ∧ Leads gs s (t :: rest) ∧ others.Perm (s :: rest) ∧ others'.Perm (t :: rest) := by
  by_cases hts : t = s
  · subst hts
    exact .inl ⟨rfl, (h.perm.symm.trans h'.perm).cons_inv⟩
  · have hrest : others.Perm (s :: others.erase s) := List.perm_cons_erase (h.mem_of_ne h'.mem (Ne.symm hts))
    have hswap : gs.Perm (s :: t :: others.erase s) := (h.perm.trans (hrest.cons t)).trans (.swap s t _)
    have hrest' : others'.Perm (t :: others.erase s) := (h'.perm.symm.trans hswap).cons_inv
    exact .inr ⟨_, h.congr hrest, h'.congr hrest', hrest, hrest'⟩

end Leads

lemma Beside.exists_swap (hts : Beside gs t s) (hst : Beside gs s t) :
    ∃ rest, Leads gs t (s :: rest) ∧ Leads gs s (t :: rest) := by
  obtain ⟨rest, h⟩ := hts
  obtain ⟨_, h'⟩ := hst
  exact ⟨rest, h, h.perm.trans (.swap s t rest), h'.strongest⟩

end Leaders

section Evidence

/-- The evidence of some reports comes to the same list in whichever order it is taken in. -/
structure EvidenceSettled (gs : List Finding) : Prop where
  /-- It makes no difference which of two strongest reports takes in the other one. -/
  leaders : ∀ {t s}, Beside gs t s → Beside gs s t → appendNew t.evidence s.evidence = appendNew s.evidence t.evidence
  /-- What one report adds to a strongest one another adds as well, in the same order, as far as one of them goes. -/
  others : ∀ {t x y}, Beside gs t x → Beside gs t y → InStep t.evidence x.evidence y.evidence

variable {gs : List Finding}

/-- The evidence that a leader comes to with what the others add. -/
def evidenceOf (t : Finding) (others : List Finding) : List String := (others.map evidence).foldl appendNew t.evidence

lemma isPrefix_evidenceOf (t x : Finding) (others : List Finding) :
    appendNew t.evidence x.evidence <+: evidenceOf t (x :: others) := by
  rw [evidenceOf, List.map_cons, List.foldl_cons, foldl_appendNew]
  exact isPrefix_appendNew _ _

lemma evidenceSettled_iff :
    EvidenceSettled gs ↔ ∀ {t others s others'}, Leads gs t others → Leads gs s others' →
      evidenceOf t others = evidenceOf s others' := by
  constructor
  · intro h t others s others' ht hs
    have hinStep : ∀ {t others}, Leads gs t others → ∀ new ∈ others.map evidence, ∀ later ∈ others.map evidence,
        InStep t.evidence new later := by
      intro t others ht new hnew later hlater
      obtain ⟨x, hx, rfl⟩ := List.mem_map.mp hnew
      obtain ⟨y, hy, rfl⟩ := List.mem_map.mp hlater
      exact h.others (ht.beside_of_mem hx) (ht.beside_of_mem hy)
    rcases ht.eq_or_exists hs with ⟨rfl, hperm⟩ | ⟨rest, hts, hst, hperm, hperm'⟩
    · exact foldl_appendNew_perm (hinStep ht) (hperm.map evidence)
    · calc evidenceOf t others
          = evidenceOf t (s :: rest) := foldl_appendNew_perm (hinStep ht) (hperm.map evidence)
        _ = evidenceOf s (t :: rest) := congrArg (List.foldl appendNew · _) (h.leaders ⟨rest, hts⟩ ⟨rest, hst⟩)
        _ = evidenceOf s others' := (foldl_appendNew_perm (hinStep hs) (hperm'.map evidence)).symm
  · intro h
    refine ⟨fun {t s} hts hst => ?_, fun {t x y} hx hy => ?_⟩
    · obtain ⟨rest, hts, hst⟩ := hts.exists_swap hst
      have heq : evidenceOf t (s :: rest) = evidenceOf s (t :: rest) := h hts hst
      simp only [evidenceOf, List.map_cons, List.foldl_cons, foldl_appendNew, appendNew_eq (appendNew _ _),
        mem_appendNew, or_comm (a := _ ∈ t.evidence)] at heq
      exact List.append_cancel_right heq
    · obtain ⟨restx, hx⟩ := hx
      obtain ⟨resty, hy⟩ := hy
      refine List.prefix_or_prefix_of_prefix (isPrefix_evidenceOf t x restx) ?_
      rw [h hx hy]
      exact isPrefix_evidenceOf t y resty

end Evidence

section Texts

/-- Of some reports the same optional text stands in whichever order they come. -/
structure TextSettled (text : Finding → Option String) (gs : List Finding) : Prop where
  /-- Strongest reports that have a text have the same one. -/
  leaders : ∀ {t s}, Beside gs t s → Beside gs s t → HasText (text t) → HasText (text s) → text t = text s
  /-- Where a strongest report leaves it to the others, those that have a text have the same one. -/
  others : ∀ {t x y}, Beside gs t x → Beside gs t y → ¬ HasText (text t) → HasText (text x) → HasText (text y) →
    text x = text y
  /-- Where nobody has a text, those that may come last either have none or have an empty one. -/
  silent : ∀ {t x s y}, (∀ f ∈ gs, ¬ HasText (text f)) → Beside gs t x → Beside gs s y → text x = text y

variable {gs : List Finding} {text : Finding → Option String} {t : Finding} {others : List Finding}

/-- The text that stands of a leader's and those of the others. -/
def textOf (text : Finding → Option String) (t : Finding) (others : List Finding) : Option String :=
  (others.map text).foldl textOr (text t)

/-- A leader without text leaves it to the others. -/
lemma Leads.exists_textOf (h : Leads gs t others) (ht : ¬ HasText (text t)) (hne : others ≠ []) :
    ∃ x ∈ others, textOf text t others = text x ∧ ((∃ f ∈ gs, HasText (text f)) → HasText (text x)) := by
  obtain ⟨x, hx, heq⟩ := List.mem_map.mp (foldl_textOr_mem ht (by simpa using hne))
  refine ⟨x, hx, heq.symm, fun ⟨f, hf, htext⟩ => ?_⟩
  have hft : f ≠ t := by
    rintro rfl
    exact ht htext
  rw [heq, hasText_foldl_textOr]
  exact .inr ⟨text f, List.mem_map_of_mem (h.mem_of_ne hf hft), htext⟩

lemma textOf_cons {x : Finding} (ht : ¬ HasText (text t)) (hx : HasText (text x)) (rest : List Finding) :
    textOf text t (x :: rest) = text x := by
  rw [textOf, List.map_cons, List.foldl_cons, textOr_of_not_hasText ht, foldl_textOr_of_hasText hx]

lemma Leads.textOf_last {x : Finding} {rest : List Finding} (h : Leads gs t (x :: rest))
    (hnone : ∀ f ∈ gs, ¬ HasText (text f)) : textOf text t (rest ++ [x]) = text x := by
  rw [textOf, List.map_append]
  refine foldl_textOr_last (hnone t h.mem) fun u hu => ?_
  obtain ⟨f, hf, rfl⟩ := List.mem_map.mp hu
  exact hnone f (h.mem_of_mem (List.mem_cons_of_mem x hf))

section Settled

variable {s : Finding} {others' : List Finding} (h : TextSettled text gs) (hleads : Leads gs t others)
  (hleads' : Leads gs s others')
include h hleads hleads'

lemma TextSettled.textOf_eq_of_hasText (ht : HasText (text t)) (hs : ¬ HasText (text s)) :
    textOf text t others = textOf text s others' := by
  have hts : t ≠ s := by
    rintro rfl
    exact hs ht
  have hmem := hleads'.mem_of_ne hleads.mem hts
  obtain ⟨y, hy, heq, hspoken⟩ := hleads'.exists_textOf hs (List.ne_nil_of_mem hmem)
  rw [heq, textOf, foldl_textOr_of_hasText ht]
  exact h.others (hleads'.beside_of_mem hmem) (hleads'.beside_of_mem hy) hs ht (hspoken ⟨t, hleads.mem, ht⟩)

lemma TextSettled.textOf_eq_of_not_hasText (ht : ¬ HasText (text t)) (hs : ¬ HasText (text s)) :
    textOf text t others = textOf text s others' := by
  by_cases hne : others = []
  · subst hne
    rcases hleads.eq_or_exists hleads' with ⟨rfl, hperm⟩ | ⟨_, -, -, hperm, -⟩
    · rw [hperm.nil_eq]
    · cases hperm.nil_eq
  · have hne' : others' ≠ [] := by
      rintro rfl
      have hlength := (hleads.perm.symm.trans hleads'.perm).length_eq
      exact hne (by simpa using hlength)
    obtain ⟨x, hx, heq, hxspoken⟩ := hleads.exists_textOf ht hne
    obtain ⟨y, hy, heq', hyspoken⟩ := hleads'.exists_textOf hs hne'
    rw [heq, heq']
    by_cases hany : ∃ f ∈ gs, HasText (text f)
    · -- the text that stands behind the one leader is a text of the others behind the other leader too
      have hyt : y ≠ t := by
        rintro rfl
        exact ht (hyspoken hany)
      have hyothers : y ∈ others := hleads.mem_of_ne (hleads'.mem_of_mem hy) hyt
      exact h.others (hleads.beside_of_mem hx) (hleads.beside_of_mem hyothers) ht (hxspoken hany) (hyspoken hany)
    · have hnone : ∀ f ∈ gs, ¬ HasText (text f) := fun f hf htext => hany ⟨f, hf, htext⟩
      exact h.silent hnone (hleads.beside_of_mem hx) (hleads'.beside_of_mem hy)

lemma TextSettled.textOf_eq : textOf text t others = textOf text s others' := by
  by_cases ht : HasText (text t)
  · by_cases hs : HasText (text s)
    · rw [textOf, textOf, foldl_textOr_of_hasText ht, foldl_textOr_of_hasText hs]
      rcases hleads.eq_or_exists hleads' with ⟨rfl, -⟩ | ⟨rest, hts, hst, -⟩
      · rfl
      · exact h.leaders ⟨rest, hts⟩ ⟨rest, hst⟩ ht hs
    · exact h.textOf_eq_of_hasText hleads hleads' ht hs
  · by_cases hs : HasText (text s)
    · exact (h.textOf_eq_of_hasText hleads' hleads hs ht).symm
    · exact h.textOf_eq_of_not_hasText hleads hleads' ht hs

end Settled

lemma textSettled_iff :
    TextSettled text gs ↔ ∀ {t others s others'}, Leads gs t others → Leads gs s others' →
      textOf text t others = textOf text s others' := by
  constructor
  · exact fun h {_ _ _ _} hleads hleads' => h.textOf_eq hleads hleads'
  · intro h
    refine ⟨fun {t s} hts hst ht hs => ?_, fun {t x y} hx hy ht htextx htexty => ?_, fun {t x s y} hnone hx hy => ?_⟩
    · obtain ⟨rest, hts, hst⟩ := hts.exists_swap hst
      simpa only [textOf, foldl_textOr_of_hasText ht, foldl_textOr_of_hasText hs] using h hts hst
    · obtain ⟨restx, hx⟩ := hx
      obtain ⟨resty, hy⟩ := hy
      rw [← textOf_cons ht htextx restx, ← textOf_cons ht htexty resty]
      exact h hx hy
    · obtain ⟨restx, hx⟩ := hx
      obtain ⟨resty, hy⟩ := hy
      rw [← hx.textOf_last hnone, ← hy.textOf_last hnone]
      exact h (hx.congr (List.perm_append_singleton x restx).symm) (hy.congr (List.perm_append_singleton y resty).symm)

end Texts

section Groups

/-- The reports of a problem make one finding in whichever order they arrive. -/
structure Harmonious (gs : List Finding) : Prop where
  identity : ∀ {t s}, Beside gs t s → Beside gs s t → SameIdentity t s
  evidence : EvidenceSettled gs
  errorMessage : TextSettled errorMessage gs
  suggestedFix : TextSettled suggestedFix gs

variable {gs hs : List Finding} {t s : Finding} {others others' : List Finding} {k : Key}

lemma enrichedByAll_eq (h : ∀ x ∈ others, x.lines = t.lines) :
    t.enrichedByAll others = { t with
      evidence := evidenceOf t others
      errorMessage := textOf errorMessage t others
      suggestedFix := textOf suggestedFix t others } := by
  induction others generalizing t with
  | nil => rfl
  | cons x others ih =>
    obtain ⟨hx, hothers⟩ := List.forall_mem_cons.mp h
    have hlines : (t.enrichedBy x).lines = t.lines := enrichedBy_lines hx
    have hstep : t.enrichedByAll (x :: others) = (t.enrichedBy x).enrichedByAll others := rfl
    rw [hstep, ih (fun y hy => (hothers y hy).trans hlines.symm), hlines]
    rfl

lemma enrichedByAll_eq_iff (ht : ∀ x ∈ others, x.lines = t.lines) (hs : ∀ x ∈ others', x.lines = s.lines)
    (hts : t.lines = s.lines) :
    t.enrichedByAll others = s.enrichedByAll others' ↔ SameIdentity t s ∧ evidenceOf t others = evidenceOf s others' ∧
      textOf errorMessage t others = textOf errorMessage s others' ∧
      textOf suggestedFix t others = textOf suggestedFix s others' := by
  constructor
  · intro heq
    have hs' := enrichedByAll_sameIdentity s others'
    rw [← heq] at hs'
    rw [enrichedByAll_eq ht, enrichedByAll_eq hs] at heq
    exact ⟨(enrichedByAll_sameIdentity t others).symm.trans hs', congrArg evidence heq, congrArg errorMessage heq,
      congrArg suggestedFix heq⟩
  · rintro ⟨⟨hsubkind, hseverity, hconfidence, hdescription, hmethod, himpact⟩, hevidence, hmessage, hfix⟩
    rw [enrichedByAll_eq ht, enrichedByAll_eq hs]
    simp only [hsubkind, hseverity, hconfidence, hdescription, hmethod, himpact, hevidence, hmessage, hfix, hts]

variable (hlines : ∀ f ∈ gs, f.lines = k.lines)
include hlines

lemma Leads.lines_eq (h : Leads gs t others) : ∀ x ∈ others, x.lines = t.lines := fun x hx =>
  (hlines x (h.mem_of_mem hx)).trans (hlines t h.mem).symm

lemma harmonious_iff :
    Harmonious gs ↔ ∀ {t others s others'}, Leads gs t others → Leads gs s others' →
      t.enrichedByAll others = s.enrichedByAll others' := by
  have hsplit : ∀ {t others s others'}, Leads gs t others → Leads gs s others' →
      (t.enrichedByAll others = s.enrichedByAll others' ↔ _) := fun hleads hleads' =>
    enrichedByAll_eq_iff (hleads.lines_eq hlines) (hleads'.lines_eq hlines)
      ((hlines _ hleads.mem).trans (hlines _ hleads'.mem).symm)
  constructor
  · intro h t others s others' hleads hleads'
    rw [hsplit hleads hleads']
    refine ⟨?_, evidenceSettled_iff.mp h.evidence hleads hleads', textSettled_iff.mp h.errorMessage hleads hleads',
      textSettled_iff.mp h.suggestedFix hleads hleads'⟩
    rcases hleads.eq_or_exists hleads' with ⟨rfl, -⟩ | ⟨rest, hts, hst, -⟩
    · exact .refl t
    · exact h.identity ⟨rest, hts⟩ ⟨rest, hst⟩
  · intro h
    have hagree : ∀ {t others s others'}, Leads gs t others → Leads gs s others' → _ := fun hleads hleads' =>
      (hsplit hleads hleads').mp (h hleads hleads')
    refine ⟨fun ⟨_, hts⟩ ⟨_, hst⟩ => (hagree hts hst).1, ?_, ?_, ?_⟩
    · exact evidenceSettled_iff.mpr fun hleads hleads' => (hagree hleads hleads').2.1
    · exact textSettled_iff.mpr fun hleads hleads' => (hagree hleads hleads').2.2.1
    · exact textSettled_iff.mpr fun hleads hleads' => (hagree hleads hleads').2.2.2

/-- What comes of some reports is a leader with what the others add. -/
lemma exists_condensed? (hne : gs ≠ []) :
    ∃ t others, Leads gs t others ∧ condensed? gs = some (t.enrichedByAll others) := by
  obtain ⟨f, rest, rfl⟩ := List.exists_cons_of_ne_nil hne
  obtain ⟨hf, hrest⟩ := List.forall_mem_cons.mp hlines
  obtain ⟨t, others, hleads, heq⟩ := exists_leads fun x hx => (hrest x hx).trans hf.symm
  exact ⟨t, others, hleads, congrArg some heq⟩

lemma Harmonious.condensed?_eq (h : Harmonious gs) (hperm : hs.Perm gs) : condensed? hs = condensed? gs := by
  by_cases hne : gs = []
  · subst hne
    rw [hperm.eq_nil]
  · have hne' : hs ≠ [] := fun hnil => hne (hnil ▸ hperm).nil_eq.symm
    obtain ⟨t, others, hleads, heq⟩ := exists_condensed? hlines hne
    obtain ⟨s, others', hleads', heq'⟩ := exists_condensed? (fun f hf => hlines f (hperm.mem_iff.mp hf)) hne'
    have hagain : Leads gs s others' := ⟨hperm.symm.trans hleads'.perm, fun f hf => hleads'.strongest f (hperm.mem_iff.mpr hf)⟩
    rw [heq, heq', (harmonious_iff hlines).mp h hleads hagain]

end Groups

section Order

variable {fs gs hs : List Finding} {f g : Finding} {k : Key}

/-- The report is as strong as any of its problem. -/
def IsStrongest (fs : List Finding) (f : Finding) : Prop := f ∈ fs ∧ ∀ g ∈ fs, g.key = f.key → g.strength ≤ f.strength

/-- Strongest reports that rank the same are reports of the same problem. -/
def RankedApart (fs : List Finding) : Prop :=
  ∀ f g, IsStrongest fs f → IsStrongest fs g → f.rankKey = g.rankKey → f.key = g.key

lemma rankKey_eq (h : SameIdentity f g) (hlines : f.lines = g.lines) : f.rankKey = g.rankKey := by
  simp only [rankKey, firstLine, kind, h.subkind, h.severity, h.confidence, h.description, hlines]

lemma lines_of_mem_group (hf : f ∈ group k fs) : f.lines = k.lines := by
  rw [← (mem_group.mp hf).2, lines_key]

lemma IsStrongest.exists_leads (h : IsStrongest fs f) : ∃ others, Leads (group f.key fs) f others :=
  ⟨_, List.perm_cons_erase (mem_group.mpr ⟨h.1, rfl⟩), fun g hg => h.2 g (mem_group.mp hg).1 (mem_group.mp hg).2⟩

/-- A finding ranks as a strongest report of its problem. -/
lemma exists_strongest (hg : g ∈ merge fs) :
    ∃ c, IsStrongest fs c ∧ c.key = g.key ∧ g.rankKey = c.rankKey := by
  have hcondenses := (mergeByKey_isLedger fs).condenses g ((merge_perm fs).mem_iff.mp hg)
  obtain ⟨c, hc, hidentity⟩ := hcondenses.identity
  obtain ⟨hmem, hkey⟩ := mem_group.mp hc.mem
  refine ⟨c, ⟨hmem, fun d hd hdkey => hc.strength_le (mem_group.mpr ⟨hd, hdkey.trans hkey⟩)⟩, hkey, ?_⟩
  exact rankKey_eq hidentity ((key_eq_iff g c).mp hkey.symm).2.1

/-- Where all strongest reports of a problem agree, its finding ranks as each of them. -/
lemma IsStrongest.exists_mem_merge (h : IsStrongest fs f) (hharmonious : Harmonious (group f.key fs)) :
    ∃ g ∈ merge fs, g.key = f.key ∧ g.rankKey = f.rankKey := by
  obtain ⟨g, hg, hgkey⟩ := List.mem_map.mp (((mergeByKey_isLedger fs).mem_keys f.key).mpr (List.mem_map_of_mem h.1))
  have hmem : g ∈ merge fs := (merge_perm fs).mem_iff.mpr hg
  obtain ⟨c, hc, hckey, hrank⟩ := exists_strongest hmem
  have hcf : c.key = f.key := hckey.trans hgkey
  obtain ⟨others, hleads⟩ := h.exists_leads
  obtain ⟨others', hleads'⟩ := hc.exists_leads
  rw [hcf] at hleads'
  refine ⟨g, hmem, hgkey, hrank.trans ?_⟩
  rcases hleads'.eq_or_exists hleads with ⟨rfl, -⟩ | ⟨rest, hcf', hfc', -⟩
  · rfl
  · exact rankKey_eq (hharmonious.identity ⟨rest, hcf'⟩ ⟨rest, hfc'⟩) ((key_eq_iff c f).mp hcf).2.1

/-- The reports of one problem may arrive before all others, in any order. -/
lemma perm_front (hperm : hs.Perm (group k fs)) : (hs ++ fs.filter (·.key ≠ k)).Perm fs := by
  refine (hperm.append_right _).trans ?_
  simpa [group] using List.filter_append_perm (fun f : Finding => decide (f.key = k)) fs

lemma group_front (hperm : hs.Perm (group k fs)) : group k (hs ++ fs.filter (·.key ≠ k)) = hs := by
  have hself : group k hs = hs := List.filter_eq_self.mpr fun f hf =>
    decide_eq_true (mem_group.mp (hperm.mem_iff.mp hf)).2
  have hnone : group k (fs.filter (·.key ≠ k)) = [] := by simp [group, List.filter_filter]
  rw [group_append, hself, hnone, List.append_nil]

lemma enrichedByAll_key {t : Finding} {others : List Finding} (h : ∀ x ∈ others, x.lines = t.lines) :
    (t.enrichedByAll others).key = t.key := by
  rw [enrichedByAll_eq h]
  rfl

/-- What a leader of a problem's reports makes of them is among the findings if its reports arrive so. -/
lemma Leads.mem_merge {t : Finding} {others : List Finding} (h : Leads (group k fs) t others) :
    t.enrichedByAll others ∈ merge (t :: others ++ fs.filter (·.key ≠ k)) ∧ (t.enrichedByAll others).key = k := by
  have hkey : (t.enrichedByAll others).key = k :=
    (enrichedByAll_key (h.lines_eq fun _ => lines_of_mem_group)).trans (mem_group.mp h.mem).2
  refine ⟨(merge_perm _).mem_iff.mpr (mem_mergeByKey_iff.mpr ?_), hkey⟩
  rw [hkey, group_front h.perm.symm]
  exact congrArg some (foldl_mergedWith_of_le fun x hx => h.strongest x (h.mem_of_mem hx))

lemma idxOf_front (hf : f ∈ fs) : ((group f.key fs ++ fs.filter (·.key ≠ f.key)).map key).idxOf f.key = 0 := by
  have hmem : f ∈ group f.key fs := mem_group.mpr ⟨hf, rfl⟩
  obtain ⟨g, rest, hgroup⟩ := List.exists_cons_of_ne_nil (List.ne_nil_of_mem hmem)
  have hkey : g.key = f.key := (mem_group.mp (hgroup ▸ List.mem_cons_self : g ∈ group f.key fs)).2
  rw [hgroup, List.cons_append, List.map_cons, hkey, List.idxOf_cons_self]

section Free

variable (hfree : ∀ gs, gs.Perm fs → merge gs = merge fs)
include hfree

lemma harmonious_of_free (k : Key) : Harmonious (group k fs) := by
  rw [harmonious_iff fun _ => lines_of_mem_group]
  intro t others s others' hleads hleads'
  obtain ⟨hmem, hkey⟩ := hleads.mem_merge
  obtain ⟨hmem', hkey'⟩ := hleads'.mem_merge
  rw [hfree _ (perm_front hleads.perm.symm)] at hmem
  rw [hfree _ (perm_front hleads'.perm.symm)] at hmem'
  exact List.inj_on_of_nodup_map (nodup_keys_merge fs) hmem hmem' (hkey.trans hkey'.symm)

/-- Findings that rank the same would change places if the problem of the later one were reported first. -/
lemma pairwise_lt_of_free : (merge fs).Pairwise fun f g => f.rankKey < g.rankKey := by
  rw [List.pairwise_iff_getElem]
  intro i j hi hj hij
  obtain ⟨c, hc, hckey, -⟩ := exists_strongest (List.getElem_mem hj)
  have horder := merge_pairwise (group c.key fs ++ fs.filter (·.key ≠ c.key))
  rw [hfree _ (perm_front (.refl _))] at horder
  rcases List.pairwise_iff_getElem.mp horder i j hi hj hij with hlt | ⟨-, hlt⟩
  · exact hlt
  · rw [← hckey, idxOf_front hc.1] at hlt
    exact absurd hlt (Nat.not_lt_zero _)

lemma rankedApart_of_free : RankedApart fs := by
  intro f g hf hg hrank
  obtain ⟨f', hf', hfkey, hfrank⟩ := hf.exists_mem_merge (harmonious_of_free hfree f.key)
  obtain ⟨g', hg', hgkey, hgrank⟩ := hg.exists_mem_merge (harmonious_of_free hfree g.key)
  have hnodup : ((merge fs).map rankKey).Nodup := List.pairwise_map.mpr ((pairwise_lt_of_free hfree).imp fun hlt => hlt.ne)
  have hsame : f' = g' := List.inj_on_of_nodup_map hnodup hf' hg' (by rw [hfrank, hgrank, hrank])
  rw [← hfkey, hsame, hgkey]

end Free

lemma RankedApart.perm (h : RankedApart fs) (hperm : gs.Perm fs) : RankedApart gs := by
  have hstrongest : ∀ f, IsStrongest gs f → IsStrongest fs f := fun f hf =>
    ⟨hperm.mem_iff.mp hf.1, fun g hg => hf.2 g (hperm.mem_iff.mpr hg)⟩
  exact fun f g hf hg => h f g (hstrongest f hf) (hstrongest g hg)

lemma RankedApart.pairwise_lt (h : RankedApart fs) : (merge fs).Pairwise fun f g => f.rankKey < g.rankKey := by
  refine (merge_pairwise fs).imp_of_mem fun {f g} hf hg horder => ?_
  rcases horder with hlt | ⟨hrank, hlt⟩
  · exact hlt
  · obtain ⟨c, hc, hckey, hcrank⟩ := exists_strongest hf
    obtain ⟨d, hd, hdkey, hdrank⟩ := exists_strongest hg
    have hkey : c.key = d.key := h c d hc hd (by rw [← hcrank, ← hdrank, hrank])
    rw [← hckey, ← hdkey, hkey] at hlt
    exact absurd hlt (lt_irrefl _)

/-- Merging does not depend on the order of the reports exactly when the reports of each problem are in harmony and the
problems are ranked apart. -/
theorem merge_order_free_iff (fs : List Finding) :
    (∀ gs, gs.Perm fs → merge gs = merge fs) ↔ (∀ k, Harmonious (group k fs)) ∧ RankedApart fs := by
  constructor
  · exact fun hfree => ⟨harmonious_of_free hfree, rankedApart_of_free hfree⟩
  · -- each problem has one finding whatever the order, and distinct ranks leave one order for them
    rintro ⟨hharmonious, hapart⟩ gs hperm
    have hmem : ∀ g, g ∈ mergeByKey gs ↔ g ∈ mergeByKey fs := by
      intro g
      have hgroups : (group g.key gs).Perm (group g.key fs) := hperm.filter _
      rw [mem_mergeByKey_iff, mem_mergeByKey_iff,
        (hharmonious g.key).condensed?_eq (fun _ => lines_of_mem_group) hgroups]
    have hnodup : ∀ fs, (mergeByKey fs).Nodup := fun fs => List.Nodup.of_map key (mergeByKey_isLedger fs).nodup
    have hsame : (merge gs).Perm (merge fs) :=
      ((merge_perm gs).trans ((List.perm_ext_iff_of_nodup (hnodup gs) (hnodup fs)).mpr hmem)).trans (merge_perm fs).symm
    exact hsame.eq_of_pairwise (fun f g _ _ hlt hgt => absurd hgt hlt.not_gt) (hapart.perm hperm).pairwise_lt
      hapart.pairwise_lt

end Order

/-- Two equally strong reports of one problem have their evidence in the order in which they arrive. -/
theorem evidence_keeps_order_of_arrival : ¬ ∀ fs gs : List Finding, gs.Perm fs → merge gs = merge fs := by
  intro h
  let first := { logicReport .high (.of 0.5) with evidence := ["first"] }
  let second := { logicReport .high (.of 0.5) with evidence := ["second"] }
  have hmerge : ∀ f g : Finding, mergeByKey [f, g] = [f.mergedWith g] → merge [f, g] = [f.mergedWith g] := by
    intro f g hkey
    rw [merge, hkey, sort, List.mergeSort_singleton]
  have hswap := h [first, second] [second, first] (.swap first second [])
  rw [hmerge first second (by decide +kernel), hmerge second first (by decide +kernel)] at hswap
  have hother : [second.mergedWith first] ≠ [first.mergedWith second] := by decide +kernel
  exact hother hswap

end CodeAudit.Finding
