import CodeAudit.Regex.Search
import Mathlib.Data.List.Basic

/-! What an expression matches, said without the matcher: which texts it spells between what stands before them and
what comes after. The matcher finds a match exactly where one is spelled. Expressions that ask for the text of an
earlier group again are left out, since what they match depends on how the groups were matched. -/
namespace CodeAudit.Regex

/-- The position between the two parts of a text. -/
structure Cursor.At (s : Cursor) (pre post : List Char) : Prop where
  index : s.index = pre.length
  before : s.before = pre.getLast?
  rest : s.rest = post

namespace Cursor.At

variable {s : Cursor} {pre post : List Char}

lemma ofText (text : List Char) : (Cursor.ofText text).At [] text := ⟨rfl, rfl, rfl⟩

lemma moveTo {c : Char} (h : s.At pre (c :: post)) : (s.moveTo c post).At (pre ++ [c]) post where
  index := by simp [Cursor.moveTo, h.index]
  before := by simp [Cursor.moveTo]
  rest := rfl

lemma withGroups (h : s.At pre post) (groups : List (String × Span)) : At { s with groups := groups } pre post :=
  ⟨h.index, h.before, h.rest⟩

end Cursor.At

/-- Pieces of a text one after the other, none of them empty, each of which matches in its place. -/
inductive Pieces (R : List Char → List Char → List Char → Prop) : List Char → List Char → List Char → Prop where
  | nil (pre post : List Char) : Pieces R pre [] post
  | cons {pre u v post : List Char} : u ≠ [] → R pre u (v ++ post) → Pieces R (pre ++ u) v post →
      Pieces R pre (u ++ v) post

/-- The expression can match the middle one of three parts of a text, in this place. -/
def Spells : Regex → List Char → List Char → List Char → Prop
  | empty, _, w, _ => w = []
  | one p, _, w, _ => ∃ c, p c = true ∧ w = [c]
  | run p _, _, w, _ => ∀ c ∈ w, p c = true
  | seq r t, pre, w, post => ∃ u v, w = u ++ v ∧ r.Spells pre u (v ++ post) ∧ t.Spells (pre ++ u) v post
  | alt r t, pre, w, post => r.Spells pre w post ∨ t.Spells pre w post
  | rounds r, pre, w, post => Pieces r.Spells pre w post
  | group _ r, pre, w, post => r.Spells pre w post
  | again _, _, _, _ => False
  | start, pre, w, _ => w = [] ∧ pre = []
  | stop, _, w, post => w = [] ∧ (post = [] ∨ post = ['\n'])
  | border, pre, w, post => w = [] ∧ pre.getLast?.any Text.isWord ≠ post.head?.any Text.isWord
  | notAfter p, pre, w, _ => w = [] ∧ pre.getLast?.any p = false
  | notAhead r, pre, w, post => w = [] ∧ ¬ ∃ u v, post = u ++ v ∧ r.Spells pre u v

/-- Whether the expression asks for the text of an earlier group again. -/
def refersBack : Regex → Bool
  | again _ => true
  | seq r t | alt r t => r.refersBack || t.refersBack
  | rounds r | group _ r | notAhead r => r.refersBack
  | empty | one _ | run _ _ | start | stop | border | notAfter _ => false

section Along

variable {p : Char → Bool} {s t : Cursor} {pre w post : List Char} {found : List Cursor}

lemma Cursor.At.here (hs : s.At pre post) :
    ∃ w post', post = w ++ post' ∧ s.At (pre ++ w) post' ∧ ∀ c ∈ w, p c = true :=
  ⟨[], post, rfl, by rwa [List.append_nil], by simp⟩

lemma at_of_mem_along (hs : s.At pre post) (ht : t ∈ s.along p post found) :
    t ∈ found ∨ ∃ w post', post = w ++ post' ∧ t.At (pre ++ w) post' ∧ ∀ c ∈ w, p c = true := by
  induction post generalizing s pre found with
  | nil =>
    rcases List.mem_cons.mp ht with rfl | ht
    · exact .inr hs.here
    · exact .inl ht
  | cons c post ih =>
    rw [Cursor.along] at ht
    split at ht
    · rename_i hc
      rcases ih hs.moveTo ht with ht | ⟨w, post', rfl, ht, hw⟩
      · rcases List.mem_cons.mp ht with rfl | ht
        · exact .inr hs.here
        · exact .inl ht
      · exact .inr ⟨c :: w, post', rfl, by simpa using ht, by simpa [hc] using hw⟩
    · rcases List.mem_cons.mp ht with rfl | ht
      · exact .inr hs.here
      · exact .inl ht

lemma mem_along_of_mem (ht : t ∈ found) : t ∈ s.along p post found := by
  induction post generalizing s found with
  | nil => exact List.mem_cons_of_mem _ ht
  | cons c post ih =>
    rw [Cursor.along]
    split
    · exact ih (List.mem_cons_of_mem _ ht)
    · exact List.mem_cons_of_mem _ ht

lemma exists_mem_along (found : List Cursor) (hs : s.At pre (w ++ post)) (hw : ∀ c ∈ w, p c = true) :
    ∃ t ∈ s.along p (w ++ post) found, t.At (pre ++ w) post := by
  induction w generalizing s pre found with
  | nil =>
    refine ⟨s, ?_, by rwa [List.append_nil]⟩
    cases post with
    | nil => exact List.mem_cons_self
    | cons c post =>
      rw [List.nil_append, Cursor.along]
      split
      · exact mem_along_of_mem List.mem_cons_self
      · exact List.mem_cons_self
  | cons c w ih =>
    obtain ⟨hc, hw⟩ := List.forall_mem_cons.mp hw
    obtain ⟨t, ht, hat⟩ := ih (s :: found) hs.moveTo hw
    refine ⟨t, ?_, by simpa using hat⟩
    rwa [List.cons_append, Cursor.along, if_pos hc]

end Along

/-- A way to match from a position: where it ends, and that it spells what lies between. -/
def EndsSpelled (r : Regex) (pre post : List Char) (t : Cursor) : Prop :=
  ∃ w post', post = w ++ post' ∧ t.At (pre ++ w) post' ∧ r.Spells pre w post'

/-- The ways to match are those that are spelled. -/
def Faithful (r : Regex) : Prop :=
  ∀ (s : Cursor) (pre post : List Char), s.At pre post →
    (∀ t ∈ r.ends s, r.EndsSpelled pre post t) ∧
      ∀ w post', post = w ++ post' → r.Spells pre w post' → ∃ t ∈ r.ends s, t.At (pre ++ w) post'

namespace Faithful

variable {r q : Regex}

lemma one (p : Char → Bool) : Faithful (.one p) := by
  rintro s pre post hs
  constructor
  · intro t ht
    unfold ends at ht
    split at ht
    · rename_i c rest hrest
      split at ht
      · rename_i hc
        obtain rfl := List.mem_singleton.mp ht
        rw [← hs.rest, hrest]
        rw [← hs.rest, hrest] at hs
        exact ⟨[c], rest, rfl, hs.moveTo, c, hc, rfl⟩
      · exact absurd ht List.not_mem_nil
    · exact absurd ht List.not_mem_nil
  · rintro _ post' rfl ⟨c, hc, rfl⟩
    refine ⟨s.moveTo c post', ?_, hs.moveTo⟩
    rw [ends, hs.rest]
    simp [hc]

lemma run (p : Char → Bool) (lazy : Bool) : Faithful (.run p lazy) := by
  rintro s pre post hs
  have hends : ∀ t, t ∈ (Regex.run p lazy).ends s ↔ t ∈ s.along p s.rest [] := by
    intro t
    cases lazy
    · exact Iff.rfl
    · exact List.mem_reverse
  simp only [hends, hs.rest]
  constructor
  · intro t ht
    rcases at_of_mem_along hs ht with ht | ⟨w, post', h, ht, hw⟩
    · exact absurd ht List.not_mem_nil
    · exact ⟨w, post', h, ht, hw⟩
  · rintro w post' rfl hw
    exact exists_mem_along [] hs hw

lemma seq (hr : Faithful r) (hq : Faithful q) : Faithful (.seq r q) := by
  rintro s pre post hs
  constructor
  · intro t ht
    obtain ⟨u, hu, ht⟩ := List.mem_flatMap.mp ht
    obtain ⟨v, rest, rfl, hu, hv⟩ := (hr s pre post hs).1 u hu
    obtain ⟨w, post', rfl, ht, hw⟩ := (hq u (pre ++ v) rest hu).1 t ht
    exact ⟨v ++ w, post', by simp, by simpa using ht, v, w, rfl, hv, hw⟩
  · rintro _ post' rfl ⟨v, w, rfl, hv, hw⟩
    obtain ⟨u, hu, hat⟩ := (hr s pre _ hs).2 v (w ++ post') (by simp) hv
    obtain ⟨t, ht, hat⟩ := (hq u (pre ++ v) _ hat).2 w post' rfl hw
    exact ⟨t, List.mem_flatMap.mpr ⟨u, hu, ht⟩, by simpa using hat⟩

lemma alt (hr : Faithful r) (hq : Faithful q) : Faithful (.alt r q) := by
  rintro s pre post hs
  constructor
  · intro t ht
    rcases List.mem_append.mp ht with ht | ht
    · obtain ⟨w, post', h, ht, hw⟩ := (hr s pre post hs).1 t ht
      exact ⟨w, post', h, ht, .inl hw⟩
    · obtain ⟨w, post', h, ht, hw⟩ := (hq s pre post hs).1 t ht
      exact ⟨w, post', h, ht, .inr hw⟩
  · rintro w post' h (hw | hw)
    · obtain ⟨t, ht, hat⟩ := (hr s pre post hs).2 w post' h hw
      exact ⟨t, List.mem_append_left _ ht, hat⟩
    · obtain ⟨t, ht, hat⟩ := (hq s pre post hs).2 w post' h hw
      exact ⟨t, List.mem_append_right _ ht, hat⟩

lemma group (hr : Faithful r) (name : String) : Faithful (.group name r) := by
  rintro s pre post hs
  constructor
  · intro t ht
    obtain ⟨u, hu, rfl⟩ := List.mem_map.mp ht
    obtain ⟨w, post', h, hu, hw⟩ := (hr s pre post hs).1 u hu
    exact ⟨w, post', h, hu.withGroups _, hw⟩
  · rintro w post' h hw
    obtain ⟨t, ht, hat⟩ := (hr s pre post hs).2 w post' h hw
    exact ⟨_, List.mem_map_of_mem ht, hat.withGroups _⟩

/-- A condition on the place, which matches the empty text where it holds. -/
lemma condition (holds : Cursor → Bool) (R : List Char → List Char → Prop)
    (hends : ∀ s, r.ends s = if holds s then [s] else [])
    (hspells : ∀ pre w post, r.Spells pre w post ↔ w = [] ∧ R pre post)
    (hholds : ∀ {s pre post}, s.At pre post → (holds s = true ↔ R pre post)) : Faithful r := by
  rintro s pre post hs
  rw [hends]
  constructor
  · intro t ht
    split at ht
    · rename_i h
      obtain rfl := List.mem_singleton.mp ht
      exact ⟨[], post, rfl, by rwa [List.append_nil], (hspells _ _ _).mpr ⟨rfl, (hholds hs).mp h⟩⟩
    · exact absurd ht List.not_mem_nil
  · rintro w post' rfl hw
    obtain ⟨rfl, hR⟩ := (hspells _ _ _).mp hw
    rw [if_pos ((hholds hs).mpr hR)]
    exact ⟨s, List.mem_singleton_self s, by rwa [List.append_nil]⟩

lemma notAhead (hr : Faithful r) : Faithful (.notAhead r) := by
  apply condition (fun s => (r.ends s).isEmpty) (fun pre post => ¬ ∃ u v, post = u ++ v ∧ r.Spells pre u v)
    (fun _ => rfl) (fun _ _ _ => Iff.rfl)
  intro s pre post hs
  rw [List.isEmpty_iff, List.eq_nil_iff_forall_not_mem]
  constructor
  · rintro hnone ⟨u, v, h, hu⟩
    obtain ⟨t, ht, _⟩ := (hr s pre post hs).2 u v h hu
    exact hnone t ht
  · rintro hnone t ht
    obtain ⟨w, post', h, _, hw⟩ := (hr s pre post hs).1 t ht
    exact hnone ⟨w, post', h, hw⟩

section Rounds

variable {s : Cursor} {pre post : List Char}

lemma at_of_mem_go (hr : Faithful r) {n : ℕ} (hs : s.At pre post) {t : Cursor} (ht : t ∈ ends.go r.ends n s) :
    EndsSpelled (.rounds r) pre post t := by
  have hhere : EndsSpelled (.rounds r) pre post s := ⟨[], post, rfl, by rwa [List.append_nil], .nil pre post⟩
  induction n generalizing s pre post with
  | zero =>
    obtain rfl := List.mem_singleton.mp ht
    exact hhere
  | succ n ih =>
    rcases List.mem_append.mp ht with ht | ht
    · obtain ⟨u, hu, ht⟩ := List.mem_flatMap.mp ht
      obtain ⟨hu, hmoves⟩ := List.mem_filter.mp hu
      obtain ⟨v, rest, rfl, hat, hv⟩ := (hr s pre post hs).1 u hu
      have hne : v ≠ [] := by
        rintro rfl
        simp [hs.index, hat.index] at hmoves
      obtain ⟨w, post', rfl, ht, hw⟩ := ih hat ht ⟨[], rest, rfl, by rwa [List.append_nil], .nil _ rest⟩
      exact ⟨v ++ w, post', by simp, by simpa using ht, .cons hne hv hw⟩
    · obtain rfl := List.mem_singleton.mp ht
      exact hhere

lemma mem_go_self (n : ℕ) : s ∈ ends.go r.ends n s := by
  cases n with
  | zero => exact List.mem_singleton_self s
  | succ n => exact List.mem_append_right _ (List.mem_singleton_self s)

/-- As many rounds as there are characters left suffice, since every piece takes one. -/
lemma exists_mem_go (hr : Faithful r) {w : List Char} (h : Pieces r.Spells pre w post) {n : ℕ}
    (hn : (w ++ post).length ≤ n) (hs : s.At pre (w ++ post)) :
    ∃ t ∈ ends.go r.ends n s, t.At (pre ++ w) post := by
  induction h generalizing n s with
  | nil pre post => exact ⟨s, mem_go_self n, by rwa [List.append_nil]⟩
  | @cons pre u v post hne hu _ ih =>
    have hlength := List.length_pos_iff.mpr hne
    simp only [List.length_append] at hn
    obtain ⟨n, rfl⟩ : ∃ k, n = k + 1 := ⟨n - 1, by omega⟩
    obtain ⟨m, hm, hat⟩ := (hr s pre _ hs).2 u (v ++ post) (by simp) hu
    have hmoves : s.index < m.index := by
      rw [hs.index, hat.index, List.length_append]
      omega
    have hrest : (v ++ post).length ≤ n := by
      rw [List.length_append]
      omega
    obtain ⟨t, ht, hend⟩ := ih hrest hat
    refine ⟨t, List.mem_append_left _ (List.mem_flatMap.mpr ⟨m, ?_, ht⟩), by simpa using hend⟩
    exact List.mem_filter.mpr ⟨hm, by simpa using hmoves⟩

end Rounds

lemma rounds (hr : Faithful r) : Faithful (.rounds r) := by
  intro s pre post hs
  constructor
  · intro t ht
    exact hr.at_of_mem_go hs ht
  · rintro w post' rfl hw
    exact hr.exists_mem_go hw (Nat.le_of_eq (congrArg List.length hs.rest).symm) hs

end Faithful

/-- The matcher is faithful to the spelling, by induction on the expression. -/
theorem faithful {r : Regex} (h : r.refersBack = false) : r.Faithful := by
  induction r with
  | empty =>
    exact .condition (fun _ => true) (fun _ _ => True) (fun _ => rfl) (fun _ _ _ => (and_true _).symm ▸ Iff.rfl)
      (by simp)
  | one p => exact .one p
  | run p lazy => exact .run p lazy
  | seq r t ihr iht =>
    obtain ⟨hr, ht⟩ := Bool.or_eq_false_iff.mp h
    exact (ihr hr).seq (iht ht)
  | alt r t ihr iht =>
    obtain ⟨hr, ht⟩ := Bool.or_eq_false_iff.mp h
    exact (ihr hr).alt (iht ht)
  | rounds r ih => exact (ih h).rounds
  | group name r ih => exact (ih h).group name
  | again name => cases h
  | start =>
    apply Faithful.condition (fun s => decide (s.index = 0)) (fun pre _ => pre = [])
      (fun s => by simp [ends]) (fun _ _ _ => Iff.rfl)
    intro s pre post hs
    simp [hs.index]
  | stop =>
    apply Faithful.condition Cursor.atStop (fun _ post => post = [] ∨ post = ['\n'])
      (fun _ => rfl) (fun _ _ _ => Iff.rfl)
    intro s pre post hs
    simp [Cursor.atStop, hs.rest]
  | border =>
    apply Faithful.condition Cursor.atBorder
      (fun pre post => pre.getLast?.any Text.isWord ≠ post.head?.any Text.isWord)
      (fun _ => rfl) (fun _ _ _ => Iff.rfl)
    intro s pre post hs
    simp [Cursor.atBorder, Cursor.beforeIs, Cursor.afterIs, hs.before, hs.rest]
  | notAfter p =>
    apply Faithful.condition (fun s => !s.beforeIs p) (fun pre _ => pre.getLast?.any p = false)
      (fun s => by cases h : s.beforeIs p <;> simp [ends, h]) (fun _ _ _ => Iff.rfl)
    intro s pre post hs
    simp [Cursor.beforeIs, hs.before]
  | notAhead r ih => exact (ih h).notAhead

section Search

variable {r : Regex} {s : Cursor} {pre post text : List Char}

lemma foundAt_isSome_iff (h : r.refersBack = false) (hs : s.At pre post) :
    (r.foundAt s).isSome = true ↔ ∃ w post', post = w ++ post' ∧ r.Spells pre w post' := by
  rw [foundAt, matchThen_eq_findSome?, List.isSome_findSome?, List.any_eq_true]
  constructor
  · rintro ⟨t, ht, _⟩
    obtain ⟨w, post', hw, _, hspells⟩ := (faithful h s pre post hs).1 t ht
    exact ⟨w, post', hw, hspells⟩
  · rintro ⟨w, post', hw, hspells⟩
    obtain ⟨t, ht, _⟩ := (faithful h s pre post hs).2 w post' hw hspells
    exact ⟨t, ht, rfl⟩

lemma foundFrom_isSome_iff (h : r.refersBack = false) (hs : s.At pre post) :
    (r.foundFrom s post).isSome = true ↔
      ∃ skipped w post', post = skipped ++ (w ++ post') ∧ r.Spells (pre ++ skipped) w post' := by
  induction post generalizing s pre with
  | nil =>
    rw [foundFrom, foundAt_isSome_iff h hs]
    constructor
    · rintro ⟨w, post', hw, hspells⟩
      exact ⟨[], w, post', hw, by rwa [List.append_nil]⟩
    · rintro ⟨skipped, w, post', hw, hspells⟩
      obtain ⟨rfl, hrest⟩ := List.append_eq_nil_iff.mp hw.symm
      exact ⟨w, post', hrest.symm, by rwa [List.append_nil] at hspells⟩
  | cons c rest ih =>
    have hor : (r.foundFrom s (c :: rest)).isSome = true ↔
        (r.foundAt s).isSome = true ∨ (r.foundFrom (s.moveTo c rest) rest).isSome = true := by
      rw [foundFrom]
      cases r.foundAt s <;> simp
    rw [hor, foundAt_isSome_iff h hs, ih hs.moveTo]
    constructor
    · rintro (⟨w, post', hw, hspells⟩ | ⟨skipped, w, post', rfl, hspells⟩)
      · exact ⟨[], w, post', hw, by rwa [List.append_nil]⟩
      · exact ⟨c :: skipped, w, post', rfl, by simpa using hspells⟩
    · rintro ⟨skipped, w, post', hw, hspells⟩
      cases skipped with
      | nil => exact .inl ⟨w, post', hw, by rwa [List.append_nil] at hspells⟩
      | cons d skipped =>
        obtain ⟨rfl, rfl⟩ := List.cons.inj hw
        exact .inr ⟨skipped, w, post', rfl, by simpa using hspells⟩

theorem startsText_iff (h : r.refersBack = false) :
    r.startsText text = true ↔ ∃ w post, text = w ++ post ∧ r.Spells [] w post := by
  rw [startsText, atStart?, Option.isSome_map]
  exact foundAt_isSome_iff h (.ofText text)

theorem find?_isSome_iff (h : r.refersBack = false) :
    (r.find? text).isSome = true ↔ ∃ pre w post, text = pre ++ (w ++ post) ∧ r.Spells pre w post := by
  rw [find?, Option.isSome_map]
  exact foundFrom_isSome_iff h (.ofText text)

end Search

section Combinators

variable {r q t : Regex} {p : Char → Bool} {pre w post : List Char} {name : String}

@[simp] lemma refersBack_append : (r ++ q).refersBack = (r.refersBack || q.refersBack) := rfl

@[simp] lemma refersBack_group : (group name r).refersBack = r.refersBack := rfl

@[simp] lemma refersBack_text (word : String) : (text word).refersBack = false := by
  rw [text]
  induction word.toList with
  | nil => rfl
  | cons c rest ih => exact ih

@[simp] lemma refersBack_oneOf (words : List String) : (oneOf words).refersBack = false := by
  rw [oneOf]
  induction words with
  | nil => rfl
  | cons word rest ih =>
    cases rest with
    | nil => exact refersBack_text word
    | cons other rest => exact Bool.or_eq_false_iff.mpr ⟨refersBack_text word, ih⟩

lemma spells_append :
    (r ++ q).Spells pre w post ↔ ∃ u v, w = u ++ v ∧ r.Spells pre u (v ++ post) ∧ q.Spells (pre ++ u) v post :=
  Iff.rfl

lemma spells_append_assoc : (r ++ q ++ t).Spells pre w post ↔ (r ++ (q ++ t)).Spells pre w post := by
  simp only [spells_append]
  constructor
  · rintro ⟨_, z, rfl, ⟨x, y, rfl, hx, hy⟩, hz⟩
    exact ⟨x, y ++ z, by simp, by simpa using hx, y, z, rfl, hy, by simpa using hz⟩
  · rintro ⟨x, _, rfl, hx, y, z, rfl, hy, hz⟩
    exact ⟨x ++ y, z, by simp, ⟨x, y, rfl, by simpa using hx, hy⟩, by simpa using hz⟩

lemma spells_orElse : (r <|> q).Spells pre w post ↔ r.Spells pre w post ∨ q.Spells pre w post := Iff.rfl

lemma spells_start_append : (start ++ r).Spells pre w post ↔ pre = [] ∧ r.Spells [] w post := by
  rw [spells_append]
  constructor
  · rintro ⟨u, v, rfl, ⟨rfl, rfl⟩, h⟩
    exact ⟨rfl, h⟩
  · rintro ⟨rfl, h⟩
    exact ⟨[], w, rfl, ⟨rfl, rfl⟩, h⟩

lemma spells_text {word : String} : (text word).Spells pre w post ↔ w = word.toList := by
  rw [text]
  induction word.toList generalizing pre w with
  | nil => exact Iff.rfl
  | cons c rest ih =>
    rw [List.foldr_cons]
    constructor
    · rintro ⟨_, v, rfl, ⟨d, hd, rfl⟩, hv⟩
      rw [beq_iff_eq.mp hd, ih.mp hv]
      rfl
    · rintro rfl
      exact ⟨[c], rest, rfl, ⟨c, beq_self_eq_true c, rfl⟩, ih.mpr rfl⟩

lemma spells_oneOf {words : List String} :
    (oneOf words).Spells pre w post ↔ ∃ word ∈ words, w = word.toList := by
  rw [oneOf]
  induction words with
  | nil =>
    constructor
    · rintro ⟨c, hc, _⟩
      cases hc
    · rintro ⟨word, hword, _⟩
      cases hword
  | cons word rest ih =>
    have hcons : (anyOf (List.map text (word :: rest))).Spells pre w post ↔
        (text word).Spells pre w post ∨ (anyOf (List.map text rest)).Spells pre w post := by
      cases rest with
      | nil =>
        rw [ih]
        simp [anyOf]
      | cons other rest => exact Iff.rfl
    rw [hcons, ih, spells_text, List.exists_mem_cons_iff]

lemma spells_many1 : (many1 p).Spells pre w post ↔ w ≠ [] ∧ ∀ c ∈ w, p c = true := by
  constructor
  · rintro ⟨_, v, rfl, ⟨c, hc, rfl⟩, hv⟩
    exact ⟨by simp, List.forall_mem_cons.mpr ⟨hc, hv⟩⟩
  · rintro ⟨hne, hw⟩
    obtain ⟨c, v, rfl⟩ := List.exists_cons_of_ne_nil hne
    obtain ⟨hc, hv⟩ := List.forall_mem_cons.mp hw
    exact ⟨[c], v, rfl, ⟨c, hc, rfl⟩, hv⟩

lemma spells_group : (group name r).Spells pre w post ↔ r.Spells pre w post := Iff.rfl

lemma spells_border :
    border.Spells pre w post ↔ w = [] ∧ pre.getLast?.any Text.isWord ≠ post.head?.any Text.isWord := Iff.rfl

/-- One of two expressions is found where either of them is. -/
lemma find?_orElse_isSome_iff (hr : r.refersBack = false) (hq : q.refersBack = false) {text : List Char} :
    ((r <|> q).find? text).isSome = true ↔ (r.find? text).isSome = true ∨ (q.find? text).isSome = true := by
  have hplain : (r <|> q).refersBack = false := Bool.or_eq_false_iff.mpr ⟨hr, hq⟩
  simp only [find?_isSome_iff hr, find?_isSome_iff hq, find?_isSome_iff hplain, spells_orElse, and_or_left, exists_or]

/-- What an expression spells that ends in a fixed text ends in that text. -/
lemma isSuffix_of_spells {word : String} (h : (r ++ text word).Spells pre w post) : word.toList <:+ w := by
  obtain ⟨u, v, rfl, _, hv⟩ := h
  rw [spells_text] at hv
  exact ⟨u, by rw [hv]⟩

end Combinators

end CodeAudit.Regex
