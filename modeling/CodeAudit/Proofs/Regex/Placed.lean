import CodeAudit.Proofs.Regex.Sequence

/-! The match at a given place among all matches of a text. It is one of them if none that begins before reaches into
it, and there is no other one there. -/
namespace CodeAudit.Regex

variable {r : Regex} {pre w post : List Char} {m : Found} {t : Cursor} {caught : List (String × List Char)}

/-- A search passes over the places where nothing is found, and stops at the first one where something is. -/
lemma exists_foundAt_of_foundFrom (h : r.foundFrom (.after pre post) post = some (m, t)) :
    ∃ skipped rest, post = skipped ++ rest ∧ r.foundAt (.after (pre ++ skipped) rest) = some (m, t) ∧
      ∀ a c b, skipped = a ++ c :: b → r.foundAt (.after (pre ++ a) (c :: (b ++ rest))) = none := by
  induction post generalizing pre with
  | nil => exact ⟨[], [], rfl, by rwa [List.append_nil], by simp⟩
  | cons d post ih =>
    rw [foundFrom] at h
    cases hhere : r.foundAt (.after pre (d :: post)) with
    | some found =>
      rw [hhere] at h
      cases h
      exact ⟨[], d :: post, rfl, by rwa [List.append_nil], by simp⟩
    | none =>
      simp only [hhere] at h
      rw [(Cursor.at_after pre (d :: post)).moveTo.eq_after rfl] at h
      obtain ⟨skipped, rest, rfl, hfound, hbefore⟩ := ih h
      refine ⟨d :: skipped, rest, rfl, by simpa using hfound, fun a c b hskipped => ?_⟩
      cases a with
      | nil =>
        obtain ⟨rfl, rfl⟩ := List.cons.inj hskipped
        rwa [List.append_nil]
      | cons e a =>
        obtain ⟨rfl, rfl⟩ := List.cons.inj hskipped
        simpa using hbefore a c b rfl

/-- Each of all matches is the one that is found at its start. -/
lemma exists_foundAt_of_mem_all (h : r.refersBack = false) {text : List Char} (hm : m ∈ r.all text) :
    ∃ pre post t, text = pre ++ post ∧ m.start = pre.length ∧ r.foundAt (.after pre post) = some (m, t) := by
  obtain ⟨pre, post, s, t, rfl, hs, hgroups, hhere⟩ := exists_place_of_mem_all (advances h) hm
  obtain ⟨_, _, -, -, hcovers⟩ := covers_of_foundAt h hs hhere
  rw [hs.eq_after hgroups] at hhere
  exact ⟨pre, post, t, rfl, hcovers.start, hhere⟩

/-- Where a match is read there is no other one. -/
lemma Reads.takes_of_mem_all (h : r.refersBack = false) (hr : r.Reads pre w post caught)
    (hm : m ∈ r.all (pre ++ (w ++ post))) (hstart : m.start = pre.length) : m.Takes pre w post caught := by
  obtain ⟨pre', post', t, htext, hplace, hfound⟩ := exists_foundAt_of_mem_all h hm
  obtain ⟨rfl, rfl⟩ := List.append_inj htext (hstart.symm.trans hplace)
  obtain ⟨found, _, hread, -, -, htakes⟩ := hr.exists_foundAt (Cursor.at_after pre (w ++ post)) rfl
  cases hread.symm.trans hfound
  exact htakes

/-- No match that begins before a place in a text reaches beyond it. -/
def EndsBefore (r : Regex) (pre post : List Char) : Prop :=
  ∀ a b, pre = a ++ b → b ≠ [] → ∀ u back, b ++ post = u ++ back → r.Spells a u back → u.length ≤ b.length

/-- Behind a match that begins and ends before a place, the search goes on before that place or at it. -/
lemma exists_allAfter_of_foundFrom (h : r.refersBack = false) {skipped ahead rest u : List Char}
    (hfound : r.foundFrom (.after pre (skipped ++ (u ++ ahead) ++ rest)) (skipped ++ (u ++ ahead) ++ rest) = some (m, t))
    (hat : t.At (pre ++ skipped ++ u) (ahead ++ rest)) (hsize : m.span.size = u.length) (hne : u ++ ahead ≠ []) :
    ∃ v left, u ++ ahead = v ++ left ∧ v ≠ [] ∧
      r.allAfter pre (skipped ++ (u ++ ahead) ++ rest) = m :: r.allAfter (pre ++ skipped ++ v) (left ++ rest) := by
  have hlength : (skipped ++ (u ++ ahead) ++ rest).length = skipped.length + u.length + ahead.length + rest.length := by
    simp only [List.length_append]
    omega
  rw [allAfter, allFrom_of_found hfound hat, hlength]
  cases u with
  | cons c u =>
    refine ⟨c :: u, ahead, rfl, List.cons_ne_nil c u, congrArg (m :: ·) ?_⟩
    rw [List.length_cons] at hsize
    have hbehind : ∀ n, r.allBehind n m (pre ++ skipped ++ c :: u) (ahead ++ rest) =
        r.allFrom n (.after (pre ++ skipped ++ c :: u) (ahead ++ rest)) [] := by
      intro n
      cases ahead ++ rest <;> exact if_neg (by omega)
    rw [hbehind]
    exact allFrom_congr h (by simp only [List.length_append, List.length_cons]; omega) (Nat.lt_succ_self _)
  | nil =>
    obtain ⟨c, ahead, rfl⟩ := List.exists_cons_of_ne_nil hne
    refine ⟨[c], ahead, rfl, List.cons_ne_nil c [], congrArg (m :: ·) ?_⟩
    rw [List.append_nil, List.cons_append]
    refine (if_pos hsize).trans (allFrom_congr h ?_ (Nat.lt_succ_self _))
    simp only [List.length_append, List.length_cons]
    omega

/-- The first match from a place before one that is read is that one, or it has ended before. -/
lemma Reads.exists_foundFrom (h : r.refersBack = false) {front between : List Char}
    (hr : r.Reads (front ++ between) w post caught) (hends : r.EndsBefore (front ++ between) (w ++ post)) :
    ∃ m t, r.foundFrom (.after front (between ++ (w ++ post))) (between ++ (w ++ post)) = some (m, t) ∧
      (m.Takes (front ++ between) w post caught ∧ t.At (front ++ between ++ w) post ∨
        ∃ skipped u ahead, between = skipped ++ (u ++ ahead) ∧ u ++ ahead ≠ [] ∧
          t.At (front ++ skipped ++ u) (ahead ++ (w ++ post)) ∧ m.span.size = u.length) := by
  obtain ⟨m, t, hm, hat, -, htakes⟩ := hr.exists_foundAt (Cursor.at_after (front ++ between) (w ++ post)) rfl
  have hfirst : ∃ first, r.foundFrom (.after front (between ++ (w ++ post))) (between ++ (w ++ post)) = some first := by
    rw [← Option.isSome_iff_exists, foundFrom_isSome_iff h (Cursor.at_after front _)]
    obtain ⟨u, back, hu, -, hcovers⟩ := covers_of_foundAt h (Cursor.at_after _ _) hm
    exact ⟨between, u, back, by rw [hu], hcovers.spells⟩
  obtain ⟨⟨m₁, t₁⟩, hfound⟩ := hfirst
  refine ⟨m₁, t₁, hfound, ?_⟩
  obtain ⟨skipped, rest, htext, hm₁, hbefore⟩ := exists_foundAt_of_foundFrom hfound
  have hhere : skipped = between → rest = w ++ post →
      m₁.Takes (front ++ between) w post caught ∧ t₁.At (front ++ between ++ w) post := by
    rintro rfl rfl
    cases hm.symm.trans hm₁
    exact ⟨htakes, hat⟩
  rcases List.append_eq_append_iff.mp htext with ⟨x, hskipped, hrest⟩ | ⟨x, rfl, rfl⟩
  · cases x with
    | nil => exact .inl (hhere (by simpa using hskipped) hrest.symm)
    | cons c x =>
      -- the search would have stopped at the match that is read
      have hnone := hbefore between c x hskipped
      rw [← List.cons_append, ← hrest, hm] at hnone
      cases hnone
  · by_cases hx : x = []
    · subst hx
      exact .inl (hhere (List.append_nil skipped).symm rfl)
    · obtain ⟨u, back, hrest, hat₁, hcovers⟩ := covers_of_foundAt h (Cursor.at_after (front ++ skipped) _) hm₁
      have hlength := hends (front ++ skipped) x (List.append_assoc front skipped x).symm hx u back hrest hcovers.spells
      obtain ⟨ahead, rfl⟩ : u <+: x :=
        List.prefix_of_prefix_length_le (hrest ▸ List.prefix_append u back) (List.prefix_append x _) hlength
      obtain rfl : ahead ++ (w ++ post) = back := List.append_cancel_left ((List.append_assoc u ahead _).symm.trans hrest)
      have hstop : m₁.start + m₁.span.size = m₁.start + u.length := hcovers.stop.trans (by rw [hcovers.start])
      exact .inr ⟨skipped, u, ahead, rfl, hx, hat₁, by omega⟩

/-- A match that is read is found by a search from any place before it, by induction on the characters between. -/
lemma Reads.exists_mem_allAfter (h : r.refersBack = false) {front between : List Char}
    (hr : r.Reads (front ++ between) w post caught) (hends : r.EndsBefore (front ++ between) (w ++ post)) :
    ∃ m ∈ r.allAfter front (between ++ (w ++ post)), m.Takes (front ++ between) w post caught := by
  induction hn : between.length using Nat.strong_induction_on generalizing front between with
  | _ n ih =>
    subst hn
    obtain ⟨m, t, hfound, ⟨htakes, hat⟩ | ⟨skipped, u, ahead, rfl, hne, hat, hsize⟩⟩ := hr.exists_foundFrom h hends
    · refine ⟨m, ?_, htakes⟩
      rw [allAfter, allFrom_of_found hfound hat]
      exact List.mem_cons_self
    · obtain ⟨v, left, hv, hvne, hall⟩ := exists_allAfter_of_foundFrom h hfound hat hsize hne
      have hshorter : left.length < (skipped ++ (u ++ ahead)).length := by
        have := List.length_pos_iff.mpr hvne
        rw [hv, List.length_append, List.length_append]
        omega
      have hfront : front ++ skipped ++ v ++ left = front ++ (skipped ++ (u ++ ahead)) := by
        rw [hv]
        simp
      rw [← hfront] at hr hends
      obtain ⟨found, hmem, hfoundTakes⟩ := ih left.length hshorter hr hends rfl
      exact ⟨found, hall ▸ List.mem_cons_of_mem m hmem, hfront ▸ hfoundTakes⟩

/-- A match that is read is one of all if none that begins before reaches into it. -/
lemma Reads.exists_mem_all (h : r.refersBack = false) (hr : r.Reads pre w post caught)
    (hends : r.EndsBefore pre (w ++ post)) : ∃ m ∈ r.all (pre ++ (w ++ post)), m.Takes pre w post caught :=
  Reads.exists_mem_allAfter h (show r.Reads ([] ++ pre) w post caught from hr) hends

end CodeAudit.Regex
