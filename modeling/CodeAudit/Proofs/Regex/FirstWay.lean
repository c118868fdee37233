import CodeAudit.Proofs.Regex.Groups
import CodeAudit.Proofs.Text.Classes

/-! What an expression takes of a text where the matcher never has to go back: the first way to match, part by part
along the expression. -/
namespace CodeAudit.Regex

lemma not_isBlank_of_isDotted {c : Char} (h : isDotted c = true) : Text.isBlank c = false := by
  rcases Bool.or_eq_true_iff.mp h with h | h
  · exact Text.not_isBlank_of_isWord h
  · rw [beq_iff_eq.mp h]
    rfl

lemma not_isDotted_of_isBlank {c : Char} (h : Text.isBlank c = true) : isDotted c = false := by
  by_contra hc
  rw [Bool.not_eq_false] at hc
  rw [not_isBlank_of_isDotted hc] at h
  cases h

/-- After `pre` the first way to match takes the text `w` and leaves `post`; it catches these groups, the last one
first. -/
def Reads (r : Regex) (pre w post : List Char) (caught : List (String × List Char)) : Prop :=
  ∀ s : Cursor, s.At pre (w ++ post) →
    ∃ t, (r.ends s).head? = some t ∧ t.At (pre ++ w) post ∧ t.captured = caught ++ s.captured

section Parts

variable {r q : Regex} {p : Char → Bool} {pre v w post : List Char} {caught more : List (String × List Char)}
  {name : String}

lemma Reads.append (hr : r.Reads pre v (w ++ post) caught) (hq : q.Reads (pre ++ v) w post more) :
    (r ++ q).Reads pre (v ++ w) post (more ++ caught) := by
  intro s hs
  rw [List.append_assoc] at hs
  obtain ⟨u, hu, hat, hcaught⟩ := hr s hs
  obtain ⟨t, ht, hend, hmore⟩ := hq u hat
  refine ⟨t, ?_, by simpa using hend, by rw [hmore, hcaught, List.append_assoc]⟩
  obtain ⟨others, hends⟩ := List.head?_eq_some_iff.mp hu
  change ((r.ends s).flatMap q.ends).head? = some t
  rw [List.head?_flatMap, hends, List.findSome?_cons, ht]

lemma Reads.group (h : r.Reads pre w post caught) (name : String) :
    (group name r).Reads pre w post ((name, w) :: caught) := by
  intro s hs
  obtain ⟨t, ht, hat, hcaught⟩ := h s hs
  have hpasses : s.Passes w t := by
    refine ⟨by rw [hs.rest, hat.rest], ?_⟩
    rw [hs.index, hat.index, List.length_append]
  refine ⟨{ t with groups := (name, s.between t) :: t.groups }, ?_, hat.withGroups _, ?_⟩
  · rw [ends, List.head?_map, ht]
    rfl
  · rw [Cursor.captured, List.map_cons, hpasses.text_between]
    exact congrArg ((name, w) :: ·) hcaught

/-- An expression that has one way to match, the empty one. -/
lemma reads_of_ends_eq (h : ∀ s : Cursor, s.At pre post → r.ends s = [s]) : r.Reads pre [] post [] := by
  intro s hs
  exact ⟨s, by rw [h s hs]; rfl, by rwa [List.append_nil], rfl⟩

lemma reads_one {c : Char} (hc : p c = true) : (one p).Reads pre [c] post [] := by
  intro s hs
  refine ⟨s.moveTo c post, ?_, hs.moveTo, rfl⟩
  rw [ends, hs.rest]
  simp [hc]

lemma reads_many (hw : ∀ c ∈ w, p c = true) (hpost : post.head?.any p = false) : (many p).Reads pre w post [] := by
  intro s hs
  obtain ⟨t, ht, hrest, hindex⟩ := head?_along (p := p) (s := s) [] rfl
  have hmem : t ∈ (many p).ends s := List.mem_of_mem_head? ht
  obtain ⟨u, post', htext, hat, -⟩ := (faithful rfl s pre (w ++ post) hs).1 t hmem
  rw [hs.rest, Text.takeWhile_run hw hpost] at hrest
  obtain rfl : post = t.rest := List.append_cancel_left hrest
  obtain rfl : post' = t.rest := hat.rest.symm
  obtain rfl := List.append_cancel_right htext
  refine ⟨t, ht, hat, ?_⟩
  rw [Cursor.captured, groups_of_mem_ends rfl hmem]
  rfl

lemma reads_many1 (hne : w ≠ []) (hw : ∀ c ∈ w, p c = true) (hpost : post.head?.any p = false) :
    (many1 p).Reads pre w post [] := by
  obtain ⟨c, w, rfl⟩ := List.exists_cons_of_ne_nil hne
  obtain ⟨hc, hw⟩ := List.forall_mem_cons.mp hw
  exact (reads_one hc).append (reads_many hw hpost)

lemma reads_text (word : String) : (text word).Reads pre word.toList post [] := by
  rw [text]
  induction word.toList generalizing pre with
  | nil => exact reads_of_ends_eq fun _ _ => rfl
  | cons c rest ih => exact (reads_one (by simp)).append ih

lemma Reads.orElse (h : r.Reads pre w post caught) : (r <|> q).Reads pre w post caught := by
  intro s hs
  obtain ⟨t, ht, hat, hcaught⟩ := h s hs
  obtain ⟨others, hends⟩ := List.head?_eq_some_iff.mp ht
  refine ⟨t, ?_, hat, hcaught⟩
  change (r.ends s ++ q.ends s).head? = some t
  rw [hends]
  rfl

lemma ends_eq_nil (hr : r.refersBack = false) {s : Cursor} (hs : s.At pre post)
    (h : ∀ u v, post = u ++ v → ¬ r.Spells pre u v) : r.ends s = [] := by
  refine List.eq_nil_iff_forall_not_mem.mpr fun t ht => ?_
  obtain ⟨u, v, htext, -, hspells⟩ := (faithful hr s pre post hs).1 t ht
  exact h u v htext hspells

lemma Reads.orElse_of_not_spells (hq : q.Reads pre w post caught) (hr : r.refersBack = false)
    (h : ∀ u v, w ++ post = u ++ v → ¬ r.Spells pre u v) : (r <|> q).Reads pre w post caught := by
  intro s hs
  obtain ⟨t, ht, hat, hcaught⟩ := hq s hs
  refine ⟨t, ?_, hat, hcaught⟩
  change (r.ends s ++ q.ends s).head? = some t
  rw [ends_eq_nil hr hs h]
  exact ht

lemma reads_optional_of_not_spells (hr : r.refersBack = false) (h : ∀ u v, post = u ++ v → ¬ r.Spells pre u v) :
    (optional r).Reads pre [] post [] :=
  Reads.orElse_of_not_spells (reads_of_ends_eq fun _ _ => rfl) hr h

lemma reads_start : start.Reads [] [] post [] :=
  reads_of_ends_eq fun _ hs => if_pos hs.index

lemma reads_stop : stop.Reads pre [] [] [] :=
  reads_of_ends_eq fun _ hs => if_pos (by rw [Cursor.atStop, hs.rest]; rfl)

lemma reads_border (h : pre.getLast?.any Text.isWord ≠ post.head?.any Text.isWord) : border.Reads pre [] post [] := by
  refine reads_of_ends_eq fun s hs => if_pos ?_
  simpa [Cursor.atBorder, Cursor.beforeIs, Cursor.afterIs, hs.before, hs.rest] using h

lemma reads_notAfter (h : pre.getLast?.any p = false) : (notAfter p).Reads pre [] post [] := by
  refine reads_of_ends_eq fun s hs => ?_
  rw [ends, Cursor.beforeIs, hs.before, h]
  rfl

lemma reads_notAhead (hr : r.refersBack = false) (h : ∀ u v, post = u ++ v → ¬ r.Spells pre u v) :
    (notAhead r).Reads pre [] post [] := by
  refine reads_of_ends_eq fun s hs => ?_
  rw [ends, ends_eq_nil hr hs h]
  rfl

end Parts

/-- A match takes the middle one of three parts of a text and catches these groups. -/
structure Found.Takes (m : Found) (pre w post : List Char) (caught : List (String × List Char)) : Prop where
  start : m.start = pre.length
  stop : m.stop = pre.length + w.length
  text : m.text = w
  rest : m.rest = post
  captured : m.captured = caught

section Matches

variable {r : Regex} {pre w post : List Char} {caught : List (String × List Char)}

lemma Reads.exists_foundAt (h : r.Reads pre w post caught) {s : Cursor} (hs : s.At pre (w ++ post))
    (hgroups : s.groups = []) :
    ∃ m t, r.foundAt s = some (m, t) ∧ t.At (pre ++ w) post ∧ m.span.size = w.length ∧ m.Takes pre w post caught := by
  obtain ⟨t, ht, hat, hcaught⟩ := h s hs
  have hsize : t.index - s.index = w.length := by
    rw [hat.index, hs.index, List.length_append]
    omega
  have hpasses : s.Passes w t := ⟨by rw [hs.rest, hat.rest], by rw [← hsize, hs.index, hat.index]; simp⟩
  refine ⟨⟨s.between t, t.groups, t.rest⟩, t, by rw [foundAt_eq, ht]; rfl, hat, hsize, ?_⟩
  refine ⟨hs.index, ?_, hpasses.text_between, hat.rest, ?_⟩
  · change s.index + (t.index - s.index) = pre.length + w.length
    rw [hsize, hs.index]
  · change t.captured = caught
    rw [hcaught, Cursor.captured, hgroups]
    exact List.append_nil caught

lemma Reads.exists_atStart? (h : r.Reads [] w post caught) :
    ∃ m, r.atStart? (w ++ post) = some m ∧ m.Takes [] w post caught := by
  obtain ⟨m, t, hm, -, -, htakes⟩ := h.exists_foundAt (.ofText _) rfl
  exact ⟨m, by rw [atStart?, hm]; rfl, htakes⟩

lemma Found.Takes.group_eq {m : Found} (h : m.Takes pre w post caught) (name : String) :
    m.group name = ((caught.find? (·.1 == name)).map (·.2)).getD [] := by
  rw [m.group_eq, h.captured]

end Matches

end CodeAudit.Regex
