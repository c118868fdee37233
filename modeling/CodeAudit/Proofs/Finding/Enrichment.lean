import CodeAudit.Proofs.Finding.Merging
import Mathlib.Data.List.Infix
import Mathlib.Data.List.Nodup

/-! What comes of a group of reports, exactly: one of the strongest takes in the others one after the other. Which one it
is and in which order it takes them in is all that the order of the reports decides. -/
namespace CodeAudit.Finding

section Evidence

variable {items new later : List String} {lists others : List (List String)}

lemma appendNew_cons (items : List String) (item : String) (more : List String) :
    appendNew items (item :: more) = appendNew (if item ∈ items then items else items ++ [item]) more := by
  simp [appendNew]

lemma appendNew_append (items new later : List String) :
    appendNew items (new ++ later) = appendNew (appendNew items new) later := List.foldl_append

lemma appendNew_of_subset (h : ∀ e ∈ new, e ∈ items) : appendNew items new = items := by
  have hnone : new.filter (· ∉ items) = [] := List.filter_eq_nil_iff.mpr fun e he => by simpa using h e he
  rw [appendNew_eq, hnone]
  exact List.append_nil items

lemma isPrefix_appendNew (items new : List String) : items <+: appendNew items new := by
  rw [appendNew_eq]
  exact List.prefix_append _ _

/-- Items may be taken in together or one list after the other. -/
lemma appendNew_assoc (items new later : List String) :
    appendNew items (appendNew new later) = appendNew (appendNew items new) later := by
  induction later generalizing new with
  | nil => rfl
  | cons e later ih =>
    rw [appendNew_cons, appendNew_cons, ih]
    by_cases he : e ∈ new
    · rw [if_pos he, if_pos ((mem_appendNew items new e).mpr (.inr he))]
    · have hlast : appendNew items (new ++ [e]) =
          if e ∈ appendNew items new then appendNew items new else appendNew items new ++ [e] := by
        rw [appendNew_append, appendNew_cons]
        rfl
      rw [if_neg he, hlast]

lemma foldl_appendNew (items : List String) (lists : List (List String)) :
    lists.foldl appendNew items = appendNew items lists.flatten := by
  induction lists generalizing items with
  | nil => rfl
  | cons new lists ih => rw [List.foldl_cons, ih, List.flatten_cons, appendNew_append]

/-- What has been taken in of some items already is not taken in again. -/
lemma appendNew_of_isPrefix (hitems : items <+: later) (h : later <+: appendNew items new) :
    appendNew later new = appendNew items new := by
  induction new generalizing items with
  | nil => exact antisymm h hitems
  | cons e new ih =>
    by_cases he : e ∈ items
    · rw [appendNew_cons, if_pos he] at h
      rw [appendNew_cons, appendNew_cons, if_pos he, if_pos (hitems.subset he)]
      exact ih hitems h
    · have hnext : appendNew items (e :: new) = appendNew (items ++ [e]) new := by rw [appendNew_cons, if_neg he]
      have hcases : later = items ∨ items ++ [e] <+: later := by
        rw [hnext] at h
        rcases List.prefix_or_prefix_of_prefix h (isPrefix_appendNew (items ++ [e]) new) with hle | hge
        · rcases List.prefix_concat_iff.mp hle with rfl | hle
          · exact .inr List.prefix_rfl
          · exact .inl (antisymm hle hitems)
        · exact .inr hge
      rcases hcases with rfl | hge
      · rfl
      · rw [hnext] at h ⊢
        rw [appendNew_cons, if_pos (hge.subset (by simp))]
        exact ih hge h

/-- Of two lists of items, one adds to some others what the other one does, and perhaps more after it. -/
def InStep (items new later : List String) : Prop :=
  appendNew items new <+: appendNew items later ∨ appendNew items later <+: appendNew items new

/-- Lists that are in step come to what the longest of them adds. -/
lemma longest_of_inStep (h : ∀ new ∈ lists, ∀ later ∈ lists, InStep items new later) :
    (∀ new ∈ lists, appendNew items new <+: lists.foldl appendNew items) ∧
      (lists = [] ∨ ∃ new ∈ lists, lists.foldl appendNew items = appendNew items new) := by
  induction lists using List.reverseRecOn with
  | nil => simp
  | append_singleton lists later ih =>
    have hlater : later ∈ lists ++ [later] := List.mem_append_right _ (List.mem_singleton_self later)
    obtain ⟨hall, hlongest⟩ := ih fun new hnew other hother =>
      h new (List.mem_append_left _ hnew) other (List.mem_append_left _ hother)
    rw [List.foldl_append, List.foldl_cons, List.foldl_nil]
    rcases hlongest with rfl | ⟨longest, hmem, heq⟩
    · exact ⟨by simp, .inr ⟨later, hlater, rfl⟩⟩
    · rw [heq] at hall ⊢
      rcases h longest (List.mem_append_left _ hmem) later hlater with hle | hge
      · rw [appendNew_of_isPrefix (isPrefix_appendNew items longest) hle]
        refine ⟨List.forall_mem_append.mpr ⟨fun new hnew => (hall new hnew).trans hle, by simp⟩, .inr ⟨later, hlater, rfl⟩⟩
      · have hsubset : ∀ e ∈ later, e ∈ appendNew items longest := fun e he =>
          hge.subset ((mem_appendNew items later e).mpr (.inr he))
        rw [appendNew_of_subset hsubset]
        exact ⟨List.forall_mem_append.mpr ⟨hall, by simpa using hge⟩, .inr ⟨longest, List.mem_append_left _ hmem, rfl⟩⟩

/-- It makes no difference in which order lists are taken in that are in step. -/
lemma foldl_appendNew_perm (h : ∀ new ∈ lists, ∀ later ∈ lists, InStep items new later) (hperm : lists.Perm others) :
    lists.foldl appendNew items = others.foldl appendNew items := by
  have hothers : ∀ new ∈ others, ∀ later ∈ others, InStep items new later := fun new hnew later hlater =>
    h new (hperm.mem_iff.mpr hnew) later (hperm.mem_iff.mpr hlater)
  obtain ⟨hall, hlongest⟩ := longest_of_inStep h
  obtain ⟨hallOthers, hlongestOthers⟩ := longest_of_inStep hothers
  rcases hlongest with rfl | ⟨longest, hmem, heq⟩
  · rw [hperm.nil_eq]
  · rcases hlongestOthers with rfl | ⟨longestOther, hmemOther, heqOther⟩
    · rw [hperm.eq_nil]
    · have hle := hallOthers longest (hperm.mem_iff.mp hmem)
      have hge := hall longestOther (hperm.mem_iff.mpr hmemOther)
      rw [← heq] at hle
      rw [← heqOther] at hge
      exact antisymm hle hge

end Evidence

section Texts

variable {t u : Option String} {texts : List (Option String)}

lemma textOr_assoc (t u v : Option String) : textOr t (textOr u v) = textOr (textOr t u) v := by
  cases t with
  | none => rfl
  | some s => by_cases h : s = "" <;> simp [textOr, h]

lemma textOr_of_hasText (h : HasText t) : textOr t u = t := by
  obtain ⟨s, rfl, hs⟩ := h
  simp [textOr, hs]

lemma textOr_of_not_hasText (h : ¬ HasText t) : textOr t u = u := by
  cases t with
  | none => rfl
  | some s =>
    by_cases hs : s = ""
    · simp [textOr, hs]
    · exact absurd ⟨s, rfl, hs⟩ h

lemma hasText_foldl_textOr : HasText (texts.foldl textOr t) ↔ HasText t ∨ ∃ u ∈ texts, HasText u := by
  induction texts generalizing t with
  | nil => simp
  | cons u texts ih => rw [List.foldl_cons, ih, hasText_textOr, List.exists_mem_cons_iff, or_assoc]

lemma foldl_textOr_of_hasText (h : HasText t) : texts.foldl textOr t = t := by
  induction texts with
  | nil => rfl
  | cons u texts ih => rw [List.foldl_cons, textOr_of_hasText h, ih]

/-- Without a text at first, one of the later ones stands. -/
lemma foldl_textOr_mem (h : ¬ HasText t) (hne : texts ≠ []) : texts.foldl textOr t ∈ texts := by
  induction texts generalizing t with
  | nil => exact absurd rfl hne
  | cons u texts ih =>
    rw [List.foldl_cons, textOr_of_not_hasText h]
    by_cases hu : HasText u
    · rw [foldl_textOr_of_hasText hu]
      exact List.mem_cons_self
    · cases texts with
      | nil => exact List.mem_cons_self
      | cons v texts => exact List.mem_cons_of_mem _ (ih hu (List.cons_ne_nil v texts))

/-- Where there is no text at all, the last of them stands. -/
lemma foldl_textOr_last (h : ¬ HasText t) (htexts : ∀ v ∈ texts, ¬ HasText v) : (texts ++ [u]).foldl textOr t = u := by
  rw [List.foldl_append, List.foldl_cons, List.foldl_nil, textOr_of_not_hasText]
  rw [hasText_foldl_textOr]
  exact not_or.mpr ⟨h, by simpa using htexts⟩

end Texts

section Enrichment

variable {f g h t : Finding} {k : Key} {fs others rest : List Finding}

lemma enrichedBy_lines (h : g.lines = f.lines) : (f.enrichedBy g).lines = f.lines := by
  simp [enrichedBy, h]

lemma enrichedBy_assoc (hg : g.lines = f.lines) (hh : h.lines = f.lines) :
    f.enrichedBy (g.enrichedBy h) = (f.enrichedBy g).enrichedBy h := by
  simp only [enrichedBy, hg, hh, LineSet.union_self, appendNew_assoc, textOr_assoc]

/-- A finding with what others add to it, one after the other. -/
def enrichedByAll (t : Finding) (others : List Finding) : Finding := others.foldl enrichedBy t

lemma enrichedByAll_sameIdentity (t : Finding) (others : List Finding) : SameIdentity (t.enrichedByAll others) t := by
  induction others generalizing t with
  | nil => exact .refl t
  | cons x others ih => exact (ih (t.enrichedBy x)).trans (enrichedBy_sameIdentity t x)

/-- What a finding adds may have been added to another one before. -/
lemma enrichedBy_enrichedByAll (ht : t.lines = g.lines) (hothers : ∀ x ∈ others, x.lines = g.lines) :
    g.enrichedBy (t.enrichedByAll others) = g.enrichedByAll (t :: others) := by
  induction others generalizing t with
  | nil => rfl
  | cons x others ih =>
    obtain ⟨hx, hothers⟩ := List.forall_mem_cons.mp hothers
    have hstep := ih ((enrichedBy_lines (hx.trans ht.symm)).trans ht) hothers
    calc g.enrichedBy (t.enrichedByAll (x :: others))
        = (g.enrichedBy (t.enrichedBy x)).enrichedByAll others := hstep
      _ = g.enrichedByAll (t :: x :: others) := by
          rw [enrichedBy_assoc ht hx]
          rfl

/-- A report comes first that is as strong as any, and the others after it. -/
structure Leads (fs : List Finding) (t : Finding) (others : List Finding) : Prop where
  perm : fs.Perm (t :: others)
  strongest : ∀ f ∈ fs, f.strength ≤ t.strength

/-- Reports that come after a strongest one are all taken in by it. -/
lemma foldl_mergedWith_of_le (h : ∀ x ∈ others, x.strength ≤ t.strength) :
    others.foldl mergedWith t = t.enrichedByAll others := by
  induction others generalizing t with
  | nil => rfl
  | cons x others ih =>
    obtain ⟨hx, hothers⟩ := List.forall_mem_cons.mp h
    rw [List.foldl_cons, mergedWith_of_le hx]
    refine ih fun y hy => ?_
    rw [(enrichedBy_sameIdentity t x).strength]
    exact hothers y hy

/-- However the reports are ordered, what comes of them is a strongest one with what the others add. The induction is on
the reports from the left: a stronger one takes in the leader so far with all that it has taken in. -/
lemma exists_leads (hlines : ∀ x ∈ rest, x.lines = f.lines) :
    ∃ t others, Leads (f :: rest) t others ∧ rest.foldl mergedWith f = t.enrichedByAll others := by
  induction rest using List.reverseRecOn with
  | nil => exact ⟨f, [], ⟨.refl _, by simp⟩, rfl⟩
  | append_singleton rest x ih =>
    have hrest : ∀ y ∈ rest, y.lines = f.lines := fun y hy => hlines y (List.mem_append_left _ hy)
    have hx : x.lines = f.lines := hlines x (List.mem_append_right _ (List.mem_singleton_self x))
    obtain ⟨t, others, ⟨hperm, hstrongest⟩, hfold⟩ := ih hrest
    have hall : ∀ y ∈ t :: others, y.lines = x.lines := by
      intro y hy
      rw [hx]
      rcases List.mem_cons.mp (hperm.mem_iff.mpr hy) with rfl | hy
      · rfl
      · exact hrest y hy
    obtain ⟨ht, hothers⟩ := List.forall_mem_cons.mp hall
    have hstrength : (t.enrichedByAll others).strength = t.strength := (enrichedByAll_sameIdentity t others).strength
    rw [List.foldl_append, hfold, List.foldl_cons, List.foldl_nil]
    rw [← List.cons_append]
    rcases lt_or_ge t.strength x.strength with hlt | hle
    · refine ⟨x, t :: others, ⟨?_, List.forall_mem_append.mpr ⟨fun y hy => ?_, by simp⟩⟩, ?_⟩
      · exact List.perm_append_comm.trans (hperm.cons x)
      · exact (hstrongest y hy).trans hlt.le
      · rw [mergedWith_of_lt (hstrength ▸ hlt)]
        exact enrichedBy_enrichedByAll ht hothers
    · refine ⟨t, others ++ [x], ⟨hperm.append_right [x], ?_⟩, ?_⟩
      · exact List.forall_mem_append.mpr ⟨hstrongest, by simpa using hle⟩
      · rw [mergedWith_of_le (hstrength.symm ▸ hle), enrichedByAll, enrichedByAll, List.foldl_append]
        rfl

end Enrichment

section Lookup

/-- What comes of the reports of one problem. -/
def condensed? : List Finding → Option Finding
  | [] => none
  | f :: rest => some (rest.foldl mergedWith f)

lemma condensed?_append (fs : List Finding) (f : Finding) :
    condensed? (fs ++ [f]) = some ((condensed? fs).elim f (·.mergedWith f)) := by
  cases fs with
  | nil => rfl
  | cons g fs => simp [condensed?, List.foldl_append]

lemma find?_mergeInto (f : Finding) (out : List Finding) (k : Key) :
    (mergeInto f out).find? (·.key = k) =
      if f.key = k then some ((out.find? (·.key = k)).elim f (·.mergedWith f)) else out.find? (·.key = k) := by
  induction out with
  | nil =>
    by_cases hf : f.key = k
    · simp [mergeInto, hf]
    · simp [mergeInto, hf]
  | cons g rest ih =>
    by_cases hg : g.key = f.key
    · have hkey : (g.mergedWith f).key = f.key := (mergedWith_key hg).trans hg
      by_cases hf : f.key = k
      · simp [mergeInto, hg, hf, hkey]
      · simp [mergeInto, hg, hf, hkey]
    · by_cases hk : g.key = k
      · have hf : f.key ≠ k := fun h => hg (hk.trans h.symm)
        simp [mergeInto, hk, hf, hf.symm]
      · simp [mergeInto, hg, hk, ih]

/-- The finding of a key is what comes of the reports of the key's problem. -/
lemma find?_mergeByKey (fs : List Finding) (k : Key) : (mergeByKey fs).find? (·.key = k) = condensed? (group k fs) := by
  induction fs using List.reverseRecOn with
  | nil => rfl
  | append_singleton fs f ih =>
    have hstep : mergeByKey (fs ++ [f]) = mergeInto f (mergeByKey fs) := by
      rw [mergeByKey, List.foldl_append]
      rfl
    rw [hstep, find?_mergeInto, ih, group_append]
    by_cases hf : f.key = k
    · rw [if_pos hf, ← hf, group_singleton_self, condensed?_append]
    · rw [if_neg hf, group_singleton_of_ne hf, List.append_nil]

lemma mem_mergeByKey_iff {fs : List Finding} {g : Finding} :
    g ∈ mergeByKey fs ↔ condensed? (group g.key fs) = some g := by
  rw [← find?_mergeByKey]
  constructor
  · intro hg
    have hfound : ((mergeByKey fs).find? (·.key = g.key)).isSome = true := List.find?_isSome.mpr ⟨g, hg, by simp⟩
    obtain ⟨e, he⟩ := Option.isSome_iff_exists.mp hfound
    have hkey : decide (e.key = g.key) = true := List.find?_some (p := fun f : Finding => f.key = g.key) he
    rw [he, List.inj_on_of_nodup_map (mergeByKey_isLedger fs).nodup (List.mem_of_find?_eq_some he) hg
      (of_decide_eq_true hkey)]
  · exact List.mem_of_find?_eq_some

end Lookup

end CodeAudit.Finding
