import CodeAudit.Proofs.Regex.Ends
import CodeAudit.Proofs.Regex.Occurrence

/-! What the groups of a match hold. A match is taken apart along its expression: parts without groups leave the
groups as they are, a group adds the text that it covers, and a text is asked for again by the name of its group. -/
namespace CodeAudit.Regex

/-- The expression neither makes a group nor asks for one. -/
def isPlain : Regex → Bool
  | again _ | group _ _ => false
  | seq r t | alt r t => r.isPlain && t.isPlain
  | rounds r | notAhead r => r.isPlain
  | empty | one _ | run _ _ | start | stop | border | notAfter _ => true

/-- The groups with their texts, the last one first. -/
def Cursor.captured (s : Cursor) : List (String × List Char) :=
  s.groups.map fun g => (g.1, g.2.text)

def Found.captured (m : Found) : List (String × List Char) :=
  m.groups.map fun g => (g.1, g.2.text)

lemma Found.group_eq (m : Found) (name : String) :
    m.group name = ((m.captured.find? (·.1 == name)).map (·.2)).getD [] := by
  rw [Found.group, Found.span?, Found.captured, List.find?_map, Option.map_map, Option.map_map]
  rfl

/-- A way to match from a position ends behind a text that the expression spells, and adds these groups. -/
structure Captures (r : Regex) (s t : Cursor) (pre w post : List Char) (caught : List (String × List Char)) :
    Prop where
  at_end : t.At (pre ++ w) post
  captured : t.captured = caught ++ s.captured
  spells : r.Spells pre w post

section Ways

variable {r q : Regex} {s t : Cursor} {p : Char → Bool} {pre w post text : List Char} {name : String}

lemma refersBack_of_isPlain (h : r.isPlain = true) : r.refersBack = false := by
  induction r with
  | seq r t ihr iht | alt r t ihr iht =>
    obtain ⟨hr, ht⟩ := Bool.and_eq_true_iff.mp h
    exact Bool.or_eq_false_iff.mpr ⟨ihr hr, iht ht⟩
  | rounds r ih | notAhead r ih => exact ih h
  | again name | group name r _ => cases h
  | empty | one p | run p lazy | start | stop | border | notAfter p => rfl

lemma isPlain_text (word : String) : (Regex.text word).isPlain = true := by
  rw [Regex.text]
  induction word.toList with
  | nil => rfl
  | cons c rest ih => exact ih

lemma groups_of_mem_along {cs : List Char} {found : List Cursor} (hfound : ∀ t ∈ found, t.groups = s.groups)
    (ht : t ∈ s.along p cs found) : t.groups = s.groups := by
  induction cs generalizing s found with
  | nil =>
    rcases List.mem_cons.mp ht with rfl | ht
    · rfl
    · exact hfound t ht
  | cons c cs ih =>
    rw [Cursor.along] at ht
    split at ht
    · refine ih (s := s.moveTo c cs) ?_ ht
      simpa [Cursor.moveTo] using hfound
    · rcases List.mem_cons.mp ht with rfl | ht
      · rfl
      · exact hfound t ht

lemma groups_of_mem_go {step : Cursor → List Cursor} (hstep : ∀ s t, t ∈ step s → t.groups = s.groups) {n : ℕ}
    (ht : t ∈ ends.go step n s) : t.groups = s.groups := by
  induction n generalizing s with
  | zero => rw [List.mem_singleton.mp ht]
  | succ n ih =>
    rcases List.mem_append.mp ht with ht | ht
    · obtain ⟨u, hu, ht⟩ := List.mem_flatMap.mp ht
      exact (ih ht).trans (hstep s u (List.mem_filter.mp hu).1)
    · rw [List.mem_singleton.mp ht]

/-- Groups come from groups only, by induction on the expression. -/
lemma groups_of_mem_ends (h : r.isPlain = true) (ht : t ∈ r.ends s) : t.groups = s.groups := by
  induction r generalizing s t with
  | empty => rw [List.mem_singleton.mp ht]
  | one p =>
    obtain ⟨c, rest, _, _, rfl⟩ := mem_ends_one ht
    rfl
  | run p lazy =>
    have halong : t ∈ s.along p s.rest [] := by
      cases lazy
      · exact ht
      · exact List.mem_reverse.mp ht
    exact groups_of_mem_along (by simp) halong
  | seq r q ihr ihq =>
    obtain ⟨hr, hq⟩ := Bool.and_eq_true_iff.mp h
    obtain ⟨u, hu, ht⟩ := List.mem_flatMap.mp ht
    exact (ihq hq ht).trans (ihr hr hu)
  | alt r q ihr ihq =>
    obtain ⟨hr, hq⟩ := Bool.and_eq_true_iff.mp h
    rcases List.mem_append.mp ht with ht | ht
    · exact ihr hr ht
    · exact ihq hq ht
  | rounds r ih => exact groups_of_mem_go (fun _ _ hu => ih h hu) ht
  | group name r _ | again name => cases h
  | start | stop | border | notAfter p | notAhead r _ =>
    -- a condition leaves the position where it is, or there is no way
    simp only [ends] at ht
    split at ht
    all_goals simp_all

lemma exists_captures (h : r.isPlain = true) (hs : s.At pre post) (ht : t ∈ r.ends s) :
    ∃ w post', post = w ++ post' ∧ Captures r s t pre w post' [] := by
  obtain ⟨w, post', hw, hat, hspells⟩ := (faithful (refersBack_of_isPlain h) s pre post hs).1 t ht
  refine ⟨w, post', hw, hat, ?_, hspells⟩
  rw [Cursor.captured, groups_of_mem_ends h ht]
  rfl

lemma exists_captures_group (h : r.isPlain = true) (hs : s.At pre post) (ht : t ∈ (group name r).ends s) :
    ∃ w post', post = w ++ post' ∧ Captures (group name r) s t pre w post' [(name, w)] := by
  obtain ⟨u, hu, rfl⟩ := mem_ends_group ht
  obtain ⟨w, post', rfl, hat, hcaptured, hspells⟩ := exists_captures h hs hu
  have hpasses : s.Passes w u := by
    refine ⟨by rw [hs.rest, hat.rest], ?_⟩
    rw [hs.index, hat.index, List.length_append]
  refine ⟨w, post', rfl, hat.withGroups _, ?_, hspells⟩
  rw [Cursor.captured, List.map_cons, hpasses.text_between]
  exact congrArg ((name, w) :: ·) hcaptured

lemma ends_append (r q : Regex) : (r ++ q).ends = fun s => (r.ends s).flatMap q.ends := rfl

lemma Cursor.At.past? (hs : s.At pre post) (ht : s.past? w = some t) :
    ∃ post', post = w ++ post' ∧ t.At (pre ++ w) post' ∧ t.groups = s.groups := by
  induction w generalizing s pre post with
  | nil =>
    obtain rfl := Option.some.inj ht
    exact ⟨post, rfl, by rwa [List.append_nil], rfl⟩
  | cons c w ih =>
    rw [Cursor.past?, hs.rest] at ht
    cases post with
    | nil => cases ht
    | cons d post =>
      dsimp only at ht
      split at ht
      · rename_i hcd
        obtain rfl := beq_iff_eq.mp hcd
        obtain ⟨post', rfl, hat, hgroups⟩ := ih hs.moveTo ht
        exact ⟨post', rfl, by simpa using hat, hgroups⟩
      · cases ht

/-- The text that is asked for again is that of the last group of the name. -/
lemma exists_again (hs : s.At pre post) (ht : t ∈ (again name).ends s) :
    ∃ w post', post = w ++ post' ∧ t.At (pre ++ w) post' ∧ t.captured = s.captured ∧
      (s.captured.find? (·.1 == name)).map (·.2) = some w := by
  obtain ⟨span, hspan, hpast⟩ := Option.bind_eq_some_iff.mp (Option.mem_toList.mp ht)
  obtain ⟨post', hpost, hat, hgroups⟩ := hs.past? hpast
  refine ⟨span.text, post', hpost, hat, by rw [Cursor.captured, Cursor.captured, hgroups], ?_⟩
  obtain ⟨g, hg, rfl⟩ := Option.map_eq_some_iff.mp hspan
  rw [Cursor.captured, List.find?_map, Option.map_map]
  exact Option.map_eq_some_iff.mpr ⟨g, hg, rfl⟩

lemma captured_of_atStart? {m : Found} (h : r.atStart? text = some m) :
    ∃ t ∈ r.ends (.ofText text), m.captured = t.captured := by
  obtain ⟨t, ht, hm⟩ := atStart?_eq_some h
  exact ⟨t, ht, by rw [Found.captured, hm, Cursor.captured]⟩

/-- A run first goes as far as its class does. -/
lemma head?_along {cs : List Char} (found : List Cursor) (hs : s.rest = cs) :
    ∃ t, (s.along p cs found).head? = some t ∧ s.Passes (cs.takeWhile p) t := by
  induction cs generalizing s found with
  | nil => exact ⟨s, rfl, .refl s⟩
  | cons c cs ih =>
    rw [Cursor.along, List.takeWhile_cons]
    split
    · obtain ⟨t, ht, hpasses⟩ := ih (s := s.moveTo c cs) (s :: found) rfl
      exact ⟨t, ht, hpasses.moveTo hs⟩
    · exact ⟨s, rfl, .refl s⟩

lemma head?_ends_many1 (h : ((many1 p).ends s).head? = some t) :
    s.rest.takeWhile p ≠ [] ∧ s.Passes (s.rest.takeWhile p) t := by
  change ((((one p).ends s).flatMap (run p false).ends).head?) = some t at h
  rw [List.head?_flatMap] at h
  obtain ⟨u, hu, h⟩ := List.exists_of_findSome?_eq_some h
  obtain ⟨c, rest, hrest, hc, rfl⟩ := mem_ends_one hu
  obtain ⟨v, hv, hpasses⟩ := head?_along (p := p) (s := s.moveTo c rest) [] rfl
  cases hv.symm.trans h
  rw [hrest, List.takeWhile_cons, if_pos hc]
  exact ⟨List.cons_ne_nil _ _, hpasses.moveTo hrest⟩

/-- A group at the end of an expression that asks for as many characters of a class as there are, and at least one,
holds all of the class that follow the rest of the match. -/
lemma captured_of_greedy {m : Found} (h : (r ++ group name (many1 p)).atStart? text = some m) :
    ∃ u ∈ r.ends (.ofText text), u.rest.takeWhile p ≠ [] ∧
      m.captured = (name, u.rest.takeWhile p) :: u.captured := by
  rw [atStart?, foundAt_eq, Option.map_map] at h
  obtain ⟨t, hfirst, rfl⟩ := Option.map_eq_some_iff.mp h
  obtain ⟨u, hu, hfirst⟩ := List.exists_of_findSome?_eq_some (List.head?_flatMap.symm.trans hfirst)
  have hgroup : ((group name (many1 p)).ends u).head? =
      (((many1 p).ends u).head?).map fun t => { t with groups := (name, u.between t) :: t.groups } := List.head?_map
  obtain ⟨v, hv, rfl⟩ := Option.map_eq_some_iff.mp (hgroup.symm.trans hfirst)
  obtain ⟨hne, hpasses⟩ := head?_ends_many1 hv
  have hplain : v.groups = u.groups := groups_of_mem_ends rfl (List.mem_of_mem_head? hv)
  refine ⟨u, hu, hne, ?_⟩
  refine congrArg₂ List.cons (Prod.ext rfl hpasses.text_between) ?_
  rw [hplain]
  rfl

/-- A match of a whole text has the groups of a way to match that ends with the text. -/
lemma captured_of_matchesAll? {m : Found} (h : r.matchesAll? text = some m) :
    ∃ t ∈ r.ends (.ofText text), t.rest = [] ∧ m.captured = t.captured := by
  rw [matchesAll?, matchThen_eq_findSome?] at h
  obtain ⟨t, ht, hm⟩ := List.exists_of_findSome?_eq_some h
  split at hm
  · rename_i hend
    cases hm
    exact ⟨t, ht, List.isEmpty_iff.mp hend, rfl⟩
  · cases hm

lemma matchesAll?_isSome_of_spells (h : r.refersBack = false) (hr : r.Spells [] text []) :
    (r.matchesAll? text).isSome = true := by
  obtain ⟨t, ht, hat⟩ := (faithful h _ [] text (.ofText text)).2 text [] (List.append_nil text).symm hr
  rw [matchesAll?, matchThen_eq_findSome?, List.isSome_findSome?, List.any_eq_true]
  refine ⟨t, ht, ?_⟩
  rw [hat.rest]
  rfl

end Ways

end CodeAudit.Regex
