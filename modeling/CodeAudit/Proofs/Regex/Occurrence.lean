import CodeAudit.Proofs.Regex.Spelling

/-! Where the matches of an expression stand in a text: each covers a piece of it that the expression spells there. -/
namespace CodeAudit.Regex

/-- The match covers the middle one of three parts of a text, which the expression spells. -/
structure Found.Covers (m : Found) (r : Regex) (pre w post : List Char) : Prop where
  start : m.start = pre.length
  stop : m.stop = pre.length + w.length
  spells : r.Spells pre w post

variable {r : Regex} {s t : Cursor} {m : Found} {pre post text : List Char}

/-- A way to match from a place in a text goes on to a place behind it. -/
def Advances (r : Regex) : Prop :=
  ∀ {s t : Cursor} {pre post : List Char}, s.At pre post → t ∈ r.ends s →
    ∃ w post', post = w ++ post' ∧ t.At (pre ++ w) post'

lemma advances (h : r.refersBack = false) : r.Advances := by
  intro s t pre post hs ht
  obtain ⟨w, post', hpost, hat, -⟩ := (faithful h s pre post hs).1 t ht
  exact ⟨w, post', hpost, hat⟩

/-- The match from a position is the first way to match. -/
lemma foundAt_eq (r : Regex) (s : Cursor) :
    r.foundAt s = (r.ends s).head?.map fun t => (⟨s.between t, t.groups, t.rest⟩, t) := by
  rw [foundAt, matchThen_eq_findSome?]
  cases r.ends s <;> rfl

lemma mem_ends_of_foundAt (hm : r.foundAt s = some (m, t)) : t ∈ r.ends s ∧ m = ⟨s.between t, t.groups, t.rest⟩ := by
  rw [foundAt_eq] at hm
  obtain ⟨u, hu, hm⟩ := Option.map_eq_some_iff.mp hm
  obtain ⟨rfl, rfl⟩ := Prod.mk.inj hm
  exact ⟨List.mem_of_mem_head? hu, rfl⟩

lemma covers_of_foundAt (h : r.refersBack = false) (hs : s.At pre post) (hm : r.foundAt s = some (m, t)) :
    ∃ w post', post = w ++ post' ∧ t.At (pre ++ w) post' ∧ m.Covers r pre w post' := by
  obtain ⟨ht, rfl⟩ := mem_ends_of_foundAt hm
  obtain ⟨w, post', hw, hat, hspells⟩ := (faithful h s pre post hs).1 t ht
  refine ⟨w, post', hw, hat, hs.index, ?_, hspells⟩
  simp only [Found.stop, Span.stop, Cursor.between, hs.index, hat.index, List.length_append]
  omega

/-- A search stops at a place where something is found. -/
lemma exists_place_of_foundFrom (hs : s.At pre post) (hm : r.foundFrom s post = some (m, t)) :
    ∃ skipped rest u, post = skipped ++ rest ∧ u.At (pre ++ skipped) rest ∧ u.groups = s.groups ∧
      r.foundAt u = some (m, t) := by
  induction post generalizing s pre with
  | nil => exact ⟨[], [], s, rfl, by rwa [List.append_nil], rfl, hm⟩
  | cons c rest ih =>
    rw [foundFrom] at hm
    split at hm
    · rename_i found hfound
      exact ⟨[], c :: rest, s, rfl, by rwa [List.append_nil], rfl, hfound.trans hm⟩
    · obtain ⟨skipped, rest', u, rfl, hu, hgroups, hhere⟩ := ih hs.moveTo hm
      exact ⟨c :: skipped, rest', u, rfl, by simpa using hu, hgroups, hhere⟩

lemma covers_of_foundFrom (h : r.refersBack = false) (hs : s.At pre post) (hm : r.foundFrom s post = some (m, t)) :
    ∃ skipped w post', post = skipped ++ (w ++ post') ∧ t.At (pre ++ skipped ++ w) post' ∧
      m.Covers r (pre ++ skipped) w post' := by
  obtain ⟨skipped, rest, u, rfl, hu, -, hhere⟩ := exists_place_of_foundFrom hs hm
  obtain ⟨w, post', rfl, hcovers⟩ := covers_of_foundAt h hu hhere
  exact ⟨skipped, w, post', rfl, hcovers⟩

/-- Every search is made from a place in the text, and so every match is found at one. -/
lemma exists_place_of_mem_all (h : r.Advances) (hm : m ∈ r.all text) :
    ∃ pre post s t, text = pre ++ post ∧ s.At pre post ∧ s.groups = [] ∧ r.foundAt s = some (m, t) := by
  have hnext : ∀ s m t, (∃ pre post, text = pre ++ post ∧ s.At pre post ∧ s.groups = []) →
      r.foundFrom s s.rest = some (m, t) →
        (∃ pre post, text = pre ++ post ∧ Cursor.At { t with groups := [] } pre post ∧ ([] : List (String × Span)) = []) ∧
          ∀ c rest, t.rest = c :: rest → ∃ pre post, text = pre ++ post ∧
            (Cursor.moveTo { t with groups := [] } c rest).At pre post ∧ ([] : List (String × Span)) = [] := by
    rintro s m t ⟨pre, post, rfl, hs, -⟩ hfound
    rw [hs.rest] at hfound
    obtain ⟨skipped, rest, u, rfl, hu, -, hhere⟩ := exists_place_of_foundFrom hs hfound
    obtain ⟨w, post', rfl, hat⟩ := h hu (mem_ends_of_foundAt hhere).1
    have hafter := hat.withGroups []
    refine ⟨⟨_, post', by simp, hafter, rfl⟩, fun c rest hrest => ?_⟩
    obtain rfl : post' = c :: rest := hat.rest.symm.trans hrest
    exact ⟨_, rest, by simp, hafter.moveTo, rfl⟩
  obtain ⟨s, t, ⟨pre, post, rfl, hs, hnone⟩, hfound⟩ :=
    exists_foundFrom_of_mem_all ⟨[], text, rfl, .ofText text, rfl⟩ hnext hm
  rw [hs.rest] at hfound
  obtain ⟨skipped, rest, u, rfl, hu, hgroups, hhere⟩ := exists_place_of_foundFrom hs hfound
  exact ⟨pre ++ skipped, rest, u, t, by simp, hu, hgroups.trans hnone, hhere⟩

theorem exists_covers_of_mem_all (h : r.refersBack = false) (hm : m ∈ r.all text) :
    ∃ pre w post, text = pre ++ (w ++ post) ∧ m.Covers r pre w post := by
  obtain ⟨pre, _, s, t, rfl, hs, -, hfound⟩ := exists_place_of_mem_all (advances h) hm
  obtain ⟨w, post, rfl, -, hcovers⟩ := covers_of_foundAt h hs hfound
  exact ⟨pre, w, post, rfl, hcovers⟩

end CodeAudit.Regex
