import CodeAudit.Proofs.Regex.Ends
import CodeAudit.Proofs.Text.Classes

/-! Expressions that match nowhere in a text of blanks: whichever way they match, they ask for a character that is not
blank. -/
namespace CodeAudit

namespace Text

/-- All blanks. -/
def allBlanks : List Char := [
  ' ', '\t', '\n', '\x0b', '\x0c', '\r', '\x1c', '\x1d', '\x1e', '\x1f', '\u0085', '\u00a0', '\u1680',
  '\u2000', '\u2001', '\u2002', '\u2003', '\u2004', '\u2005', '\u2006', '\u2007', '\u2008', '\u2009', '\u200a',
  '\u2028', '\u2029', '\u202f', '\u205f', '\u3000']

lemma mem_allBlanks {c : Char} (h : isBlank c = true) : c ∈ allBlanks := by
  by_cases hc : c.toNat < 128
  · exact of_ascii (P := fun c => isBlank c = true → c ∈ allBlanks) (by decide +kernel) hc h
  · have hlisted : ∀ r ∈ CharTable.blank.toList, ∀ n ∈ List.range' r.1 (r.2 + 1 - r.1), Char.ofNat n ∈ allBlanks := by
      decide +kernel
    rw [isBlank, if_neg hc] at h
    obtain ⟨r, hr, hin⟩ := Array.any_eq_true'.mp h
    simp only [Bool.and_eq_true, decide_eq_true_eq] at hin
    have hmem := hlisted r hr.val c.toNat (List.mem_range'_1.mpr (by omega))
    rwa [Char.ofNat_toNat] at hmem

end Text

namespace Regex

variable {r : Regex} {s t : Cursor}

section Suffix

lemma isSuffix_of_past? {w : List Char} (h : s.past? w = some t) : t.rest <:+ s.rest := by
  induction w generalizing s with
  | nil =>
    obtain rfl := Option.some.inj h
    exact List.suffix_rfl
  | cons c more ih =>
    rw [Cursor.past?] at h
    split at h
    · rename_i d rest hs
      split at h
      · rw [hs]
        exact (ih h).trans (List.suffix_cons d rest)
      · cases h
    · cases h

lemma isSuffix_of_mem_go {step : Cursor → List Cursor} (hstep : ∀ s t, t ∈ step s → t.rest <:+ s.rest) {n : ℕ}
    (h : t ∈ ends.go step n s) : t.rest <:+ s.rest := by
  induction n generalizing s with
  | zero =>
    obtain rfl := List.mem_singleton.mp h
    exact List.suffix_rfl
  | succ n ih =>
    rcases List.mem_append.mp h with hround | hself
    · obtain ⟨u, hu, ht⟩ := List.mem_flatMap.mp hround
      exact (ih ht).trans (hstep s u (List.mem_filter.mp hu).1)
    · obtain rfl := List.mem_singleton.mp hself
      exact List.suffix_rfl

/-- A condition on a place goes on from that place. -/
lemma isSuffix_of_mem_ite {p : Prop} [Decidable p] {here there : List Cursor} (h : t ∈ if p then here else there)
    (hhere : ∀ u ∈ here, u = s) (hthere : ∀ u ∈ there, u = s) : t.rest <:+ s.rest := by
  split at h
  · exact hhere t h ▸ List.suffix_rfl
  · exact hthere t h ▸ List.suffix_rfl

/-- What is left of a text behind a match is an end of it. -/
lemma isSuffix_of_mem_ends (h : t ∈ r.ends s) : t.rest <:+ s.rest := by
  induction r generalizing s t with
  | empty =>
    obtain rfl := List.mem_singleton.mp h
    exact List.suffix_rfl
  | one p =>
    obtain ⟨c, rest, hs, -, rfl⟩ := mem_ends_one h
    rw [hs]
    exact List.suffix_cons c rest
  | run p lazy =>
    obtain ⟨w, hw, -⟩ := mem_ends_run h
    exact ⟨w, hw.1.symm⟩
  | seq r q ihr ihq =>
    obtain ⟨u, hu, ht⟩ := mem_ends_seq.mp h
    exact (ihq ht).trans (ihr hu)
  | alt r q ihr ihq => exact (List.mem_append.mp h).elim ihr ihq
  | rounds r ih => exact isSuffix_of_mem_go (fun _ _ => ih) h
  | group name r ih =>
    obtain ⟨u, hu, rfl⟩ := mem_ends_group h
    change u.rest <:+ s.rest
    exact ih hu
  | again name =>
    obtain ⟨span, -, ht⟩ := Option.bind_eq_some_iff.mp (Option.mem_toList.mp h)
    exact isSuffix_of_past? ht
  | start => exact isSuffix_of_mem_ite h (by simp) (by simp)
  | stop => exact isSuffix_of_mem_ite h (by simp) (by simp)
  | border => exact isSuffix_of_mem_ite h (by simp) (by simp)
  | notAfter p => exact isSuffix_of_mem_ite h (by simp) (by simp)
  | notAhead r => exact isSuffix_of_mem_ite h (by simp) (by simp)

end Suffix

/-- However the expression matches, there is a character in the match that is not blank. -/
def needsInk : Regex → Bool
  | one p => !Text.allBlanks.any p
  | seq r q => r.needsInk || q.needsInk
  | alt r q => r.needsInk && q.needsInk
  | group _ r => r.needsInk
  | empty | run _ _ | rounds _ | again _ | start | stop | border | notAfter _ | notAhead _ => false

lemma needsInk_append (r q : Regex) : (r ++ q).needsInk = (r.needsInk || q.needsInk) := rfl

/-- Where only blanks follow, there is no way to match; for a sequence it is enough that a part of it has none, since
what its first part leaves are blanks again. -/
lemma ends_eq_nil_of_needsInk (h : r.needsInk = true) (hs : ∀ c ∈ s.rest, Text.isBlank c = true) : r.ends s = [] := by
  induction r generalizing s with
  | one p =>
    unfold ends
    split
    · rename_i c rest hrest
      have hc : c ∈ Text.allBlanks := Text.mem_allBlanks (hs c (by simp [hrest]))
      have hp : p c = false := Text.eq_false_of_any ((Bool.not_eq_true' _).mp h) c hc
      rw [if_neg (Bool.eq_false_iff.mp hp)]
    · rfl
  | seq r q ihr ihq =>
    rcases Bool.or_eq_true_iff.mp h with hr | hq
    · rw [ends, ihr hr hs]
      rfl
    · refine List.flatMap_eq_nil_iff.mpr fun u hu => ihq hq fun c hc => hs c ?_
      exact (isSuffix_of_mem_ends hu).subset hc
  | alt r q ihr ihq =>
    obtain ⟨hr, hq⟩ := Bool.and_eq_true_iff.mp h
    rw [ends, ihr hr hs, ihq hq hs]
    rfl
  | group name r ih =>
    rw [ends, ih h hs]
    rfl
  | empty => cases h
  | run p lazy => cases h
  | rounds r => cases h
  | again name => cases h
  | start => cases h
  | stop => cases h
  | border => cases h
  | notAfter p => cases h
  | notAhead r => cases h

/-- Such a match is not empty: what is left behind it is shorter. For a sequence it is enough that one part of it takes
a character, since the other one gives none back. -/
lemma length_rest_lt_of_needsInk (h : r.needsInk = true) (ht : t ∈ r.ends s) : t.rest.length < s.rest.length := by
  induction r generalizing s t with
  | one p =>
    obtain ⟨c, rest, hs, -, rfl⟩ := mem_ends_one ht
    rw [hs]
    exact Nat.lt_succ_self rest.length
  | seq r q ihr ihq =>
    obtain ⟨u, hu, ht⟩ := mem_ends_seq.mp ht
    rcases Bool.or_eq_true_iff.mp h with hr | hq
    · exact (isSuffix_of_mem_ends ht).length_le.trans_lt (ihr hr hu)
    · exact (ihq hq ht).trans_le (isSuffix_of_mem_ends hu).length_le
  | alt r q ihr ihq =>
    obtain ⟨hr, hq⟩ := Bool.and_eq_true_iff.mp h
    exact (List.mem_append.mp ht).elim (ihr hr) (ihq hq)
  | group name r ih =>
    obtain ⟨u, hu, rfl⟩ := mem_ends_group ht
    change u.rest.length < s.rest.length
    exact ih h hu
  | empty => cases h
  | run p lazy => cases h
  | rounds r => cases h
  | again name => cases h
  | start => cases h
  | stop => cases h
  | border => cases h
  | notAfter p => cases h
  | notAhead r => cases h

section Texts

variable {text : List Char}

lemma foundAt_eq_none (h : r.needsInk = true) (hs : ∀ c ∈ s.rest, Text.isBlank c = true) : r.foundAt s = none := by
  rw [foundAt, matchThen_eq_findSome?, ends_eq_nil_of_needsInk h hs]
  rfl

lemma foundFrom_eq_none (h : r.needsInk = true) (hs : s.rest = text) (htext : Text.isBlankText text = true) :
    r.foundFrom s text = none := by
  induction text generalizing s with
  | nil => exact foundAt_eq_none h (by simp [hs])
  | cons c rest ih =>
    have hall := Text.isBlank_of_mem htext
    rw [foundFrom, foundAt_eq_none h (hs ▸ hall)]
    exact ih rfl (List.all_eq_true.mpr fun d hd => hall d (List.mem_cons_of_mem c hd))

lemma all_eq_nil_of_isBlankText (h : r.needsInk = true) (htext : Text.isBlankText text = true) : r.all text = [] := by
  rw [all, allFrom, foundFrom_eq_none h rfl htext]
  rfl

lemma occursIn_eq_false_of_isBlankText (h : r.needsInk = true) (htext : Text.isBlankText text = true) :
    r.occursIn text = false := by
  have hnone : r.foundFrom (.ofText text) text = none := foundFrom_eq_none h rfl htext
  rw [occursIn, find?, hnone]
  rfl

end Texts

end Regex

end CodeAudit
