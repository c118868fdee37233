import CodeAudit.Regex.Match

/-!
Matches of an expression in a text: at its start, the first one anywhere, and all that do not overlap.
-/

namespace CodeAudit.Regex

/-- A match with the character positions it covers and the groups that took part. -/
structure Found where
  span : Span
  groups : List (String × Span)
  /-- The text after the match. -/
  rest : List Char
deriving Inhabited

namespace Found

def start (m : Found) : Nat := m.span.start

def stop (m : Found) : Nat := m.span.stop

def text (m : Found) : List Char := m.span.text

def span? (m : Found) (name : String) : Option Span :=
  (m.groups.find? (·.1 == name)).map (·.2)

/-- The text of a group, empty when it took no part. -/
def group (m : Found) (name : String) : List Char :=
  ((m.span? name).map Span.text).getD []

end Found

/-- The match that starts at a position, with the position after it. -/
def foundAt (r : Regex) (s : Cursor) : Option (Found × Cursor) :=
  r.matchThen s fun t => some (⟨s.between t, t.groups, t.rest⟩, t)

/-- The first match from a position on, with the position after it. -/
def foundFrom (r : Regex) (s : Cursor) : List Char → Option (Found × Cursor)
  | [] => r.foundAt s
  | c :: rest =>
    match r.foundAt s with
    | some m => some m
    | none => foundFrom r (s.moveTo c rest) rest

/-- The match at the start of a text. -/
def atStart? (r : Regex) (text : List Char) : Option Found :=
  (r.foundAt (.ofText text)).map (·.1)

/-- The first match in a text. -/
def find? (r : Regex) (text : List Char) : Option Found :=
  (r.foundFrom (.ofText text) text).map (·.1)

/-- Whether the expression matches anywhere in a text. -/
def occursIn (r : Regex) (text : List Char) : Bool :=
  (r.find? text).isSome

/-- Whether the expression matches at the start of a text. -/
def startsText (r : Regex) (text : List Char) : Bool :=
  (r.atStart? text).isSome

/-- Whether the expression matches the whole text. -/
def matchesAll? (r : Regex) (text : List Char) : Option Found :=
  r.matchThen (.ofText text) fun t =>
    if t.rest.isEmpty then some ⟨(Cursor.ofText text).between t, t.groups, t.rest⟩ else none

/-- The matches from a position on, in at most so many steps, after those in `done`, the last one first. -/
def allFrom (r : Regex) : Nat → Cursor → List Found → List Found
  | 0, _, done => done.reverse
  | n + 1, s, done =>
    match r.foundFrom s s.rest with
    | none => done.reverse
    | some (m, t) =>
      let t := { t with groups := [] }
      if m.span.size = 0 then
        match t.rest with
        | [] => (m :: done).reverse
        | c :: rest => allFrom r n (t.moveTo c rest) (m :: done)
      else allFrom r n t (m :: done)

/-- The matches from left to right, each one from where the last one ended; an empty one moves one character on. -/
def all (r : Regex) (text : List Char) : List Found :=
  allFrom r (text.length + 1) (.ofText text) []

/-- Where there are matches there is a first one. -/
theorem find?_isSome_of_mem_all {r : Regex} {text : List Char} {m : Found} (h : m ∈ r.all text) :
    (r.find? text).isSome = true := by
  unfold all allFrom at h
  rw [find?, Option.isSome_map]
  split at h
  · cases h
  · rename_i hm
    exact Option.isSome_iff_exists.mpr ⟨_, hm⟩

private theorem mem_allFrom {r : Regex} {n : Nat} {s : Cursor} {done : List Found} {m : Found} (h : m ∈ done) :
    m ∈ allFrom r n s done := by
  induction n generalizing s done with
  | zero => exact List.mem_reverse.mpr h
  | succ n ih =>
    rw [allFrom]
    split
    · exact List.mem_reverse.mpr h
    · dsimp only
      split
      · split
        · exact List.mem_reverse.mpr (List.mem_cons_of_mem _ h)
        · exact ih (List.mem_cons_of_mem _ h)
      · exact ih (List.mem_cons_of_mem _ h)

/-- The first match is one of all. -/
theorem mem_all_of_find?_eq_some {r : Regex} {text : List Char} {m : Found} (h : r.find? text = some m) :
    m ∈ r.all text := by
  obtain ⟨⟨found, t⟩, hfound, rfl⟩ := Option.map_eq_some_iff.mp h
  unfold all
  rw [allFrom]
  split
  · rename_i hnone
    cases hfound.symm.trans hnone
  · rename_i hsome
    cases hfound.symm.trans hsome
    dsimp only
    split
    · split
      · exact List.mem_reverse.mpr List.mem_cons_self
      · exact mem_allFrom List.mem_cons_self
    · exact mem_allFrom List.mem_cons_self

private theorem exists_foundFrom_of_mem_allFrom {r : Regex} {P : Cursor → Prop} {n : Nat} {s : Cursor}
    {done : List Found} {m : Found} (hs : P s)
    (hnext : ∀ s m t, P s → r.foundFrom s s.rest = some (m, t) → P { t with groups := [] } ∧
      ∀ c rest, t.rest = c :: rest → P (Cursor.moveTo { t with groups := [] } c rest))
    (h : m ∈ allFrom r n s done) : m ∈ done ∨ ∃ s t, P s ∧ r.foundFrom s s.rest = some (m, t) := by
  induction n generalizing s done with
  | zero => exact .inl (List.mem_reverse.mp h)
  | succ n ih =>
    rw [allFrom] at h
    split at h
    · exact .inl (List.mem_reverse.mp h)
    · rename_i found t hfound
      have hhere : ∀ later ∈ found :: done, later ∈ done ∨ ∃ s t, P s ∧ r.foundFrom s s.rest = some (later, t) := by
        intro later hlater
        rcases List.mem_cons.mp hlater with rfl | hdone
        · exact .inr ⟨s, t, hs, hfound⟩
        · exact .inl hdone
      obtain ⟨hafter, hmoved⟩ := hnext s found t hs hfound
      dsimp only at h
      split at h
      · split at h
        · exact hhere m (List.mem_reverse.mp h)
        · rename_i c rest hrest
          exact (ih (hmoved c rest hrest) h).elim (hhere m) .inr
      · exact (ih hafter h).elim (hhere m) .inr

/-- What holds of the start of a text and is kept where the search goes on after a match, holds of each place that a
match is searched from. -/
theorem exists_foundFrom_of_mem_all {r : Regex} {P : Cursor → Prop} {text : List Char} {m : Found}
    (hstart : P (.ofText text))
    (hnext : ∀ s m t, P s → r.foundFrom s s.rest = some (m, t) → P { t with groups := [] } ∧
      ∀ c rest, t.rest = c :: rest → P (Cursor.moveTo { t with groups := [] } c rest))
    (h : m ∈ r.all text) : ∃ s t, P s ∧ r.foundFrom s s.rest = some (m, t) := by
  rcases exists_foundFrom_of_mem_allFrom hstart hnext h with hnone | hfound
  · exact absurd hnone List.not_mem_nil
  · exact hfound

/-- The rest of a text from a position on with the matches in it replaced. -/
def replaceFrom (f : Found → List Char) (position : Nat) (rest : List Char) : List Found → List Char
  | [] => rest
  | m :: ms =>
    rest.take (m.start - position) ++ f m ++ replaceFrom f m.stop (rest.drop (m.stop - position)) ms

/-- The text with every match replaced. -/
def replaceAll (r : Regex) (f : Found → List Char) (text : List Char) : List Char :=
  replaceFrom f 0 text (r.all text)

end CodeAudit.Regex
