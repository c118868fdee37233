import CodeAudit.Regex.Search
import Mathlib.Tactic.Lemma

/-! Where a match ends and what its last group covers, read off the list of all ways to match. -/
namespace CodeAudit.Regex

/-- The second position lies behind the first one by a text. -/
def Cursor.Passes (s : Cursor) (w : List Char) (t : Cursor) : Prop :=
  s.rest = w ++ t.rest ∧ t.index = s.index + w.length

namespace Cursor.Passes

lemma refl (s : Cursor) : s.Passes [] s := ⟨rfl, rfl⟩

lemma moveTo {s t : Cursor} {c : Char} {rest w : List Char} (hs : s.rest = c :: rest)
    (h : (s.moveTo c rest).Passes w t) : s.Passes (c :: w) t := by
  obtain ⟨hr, hi⟩ := h
  refine ⟨?_, ?_⟩
  · rw [hs]
    exact congrArg (c :: ·) hr
  · rw [hi, List.length_cons]
    change s.index + 1 + w.length = s.index + (w.length + 1)
    omega

/-- The span between the two positions covers the text. -/
lemma text_between {s t : Cursor} {w : List Char} (h : s.Passes w t) : (s.between t).text = w := by
  obtain ⟨hr, hi⟩ := h
  have hsize : t.index - s.index = w.length := by omega
  simp only [Cursor.between, Span.text, hr, hsize, List.take_left]

end Cursor.Passes

/-- A run stays within its class wherever it ends. -/
lemma mem_along {p : Char → Bool} {s t : Cursor} {cs : List Char} {found : List Cursor} (hs : s.rest = cs)
    (h : t ∈ s.along p cs found) : t ∈ found ∨ ∃ w, s.Passes w t ∧ ∀ c ∈ w, p c = true := by
  induction cs generalizing s found with
  | nil =>
    rcases List.mem_cons.mp h with rfl | h
    · exact .inr ⟨[], .refl t, by simp⟩
    · exact .inl h
  | cons c cs ih =>
    rw [Cursor.along] at h
    split at h
    · rename_i hc
      rcases ih rfl h with h | ⟨w, hw, hp⟩
      · rcases List.mem_cons.mp h with rfl | h
        · exact .inr ⟨[], .refl t, by simp⟩
        · exact .inl h
      · refine .inr ⟨c :: w, hw.moveTo hs, ?_⟩
        simpa [hc] using hp
    · rcases List.mem_cons.mp h with rfl | h
      · exact .inr ⟨[], .refl t, by simp⟩
      · exact .inl h

lemma mem_ends_run {p : Char → Bool} {greedyOrLazy : Bool} {s t : Cursor}
    (h : t ∈ (run p greedyOrLazy).ends s) : ∃ w, s.Passes w t ∧ ∀ c ∈ w, p c = true := by
  have ht : t ∈ s.along p s.rest [] := by
    cases greedyOrLazy
    · exact h
    · exact List.mem_reverse.mp h
  rcases mem_along rfl ht with hn | hw
  · exact absurd hn List.not_mem_nil
  · exact hw

lemma mem_ends_one {p : Char → Bool} {s t : Cursor} (h : t ∈ (one p).ends s) :
    ∃ c rest, s.rest = c :: rest ∧ p c = true ∧ t = s.moveTo c rest := by
  unfold ends at h
  split at h
  · rename_i c rest hs
    split at h
    · exact ⟨c, rest, hs, ‹_›, List.mem_singleton.mp h⟩
    · exact absurd h List.not_mem_nil
  · exact absurd h List.not_mem_nil

lemma mem_ends_seq {r q : Regex} {s t : Cursor} : t ∈ (r ++ q).ends s ↔ ∃ u ∈ r.ends s, t ∈ q.ends u := by
  change t ∈ (r.ends s).flatMap q.ends ↔ _
  rw [List.mem_flatMap]

lemma mem_ends_many1 {p : Char → Bool} {s t : Cursor} (h : t ∈ (many1 p).ends s) :
    ∃ w, s.Passes w t ∧ w ≠ [] ∧ ∀ c ∈ w, p c = true := by
  obtain ⟨u, hu, ht⟩ := mem_ends_seq.mp h
  obtain ⟨c, rest, hs, hc, rfl⟩ := mem_ends_one hu
  obtain ⟨w, hw, hp⟩ := mem_ends_run ht
  refine ⟨c :: w, hw.moveTo hs, List.cons_ne_nil c w, ?_⟩
  simpa [hc] using hp

lemma mem_ends_group {name : String} {r : Regex} {s t : Cursor} (h : t ∈ (group name r).ends s) :
    ∃ u ∈ r.ends s, t = { u with groups := (name, s.between u) :: u.groups } := by
  obtain ⟨u, hu, rfl⟩ := List.mem_map.mp h
  exact ⟨u, hu, rfl⟩

lemma atStart?_eq_some {r : Regex} {line : List Char} {m : Found} (h : r.atStart? line = some m) :
    ∃ t ∈ r.ends (.ofText line), m.groups = t.groups := by
  obtain ⟨⟨found, t⟩, hf, rfl⟩ := Option.map_eq_some_iff.mp h
  rw [foundAt, matchThen_eq_findSome?] at hf
  obtain ⟨u, hu, hm⟩ := List.exists_of_findSome?_eq_some hf
  cases hm
  exact ⟨t, hu, rfl⟩

/-- A group that ends an expression and asks for characters of a class covers such characters, and not none. -/
lemma group_of_atStart? {r : Regex} {name : String} {p : Char → Bool} {line : List Char} {m : Found}
    (h : (r ++ group name (many1 p)).atStart? line = some m) :
    m.group name ≠ [] ∧ ∀ c ∈ m.group name, p c = true := by
  obtain ⟨t, ht, hm⟩ := atStart?_eq_some h
  obtain ⟨s, _, ht⟩ := mem_ends_seq.mp ht
  obtain ⟨u, hu, rfl⟩ := mem_ends_group ht
  obtain ⟨w, hw, hne, hp⟩ := mem_ends_many1 hu
  have hg : m.group name = w := by
    simp only [Found.group, Found.span?, hm, List.find?_cons, beq_self_eq_true, Option.map_some, Option.getD_some]
    exact hw.text_between
  rw [hg]
  exact ⟨hne, hp⟩

end CodeAudit.Regex
