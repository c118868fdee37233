import CodeAudit.Regex.Basic

/-!
The matcher: it tries the ways an expression can match in their order and hands each end to what follows.
-/

namespace CodeAudit.Regex

/-- A piece of a text: the position of its first character, how many there are, and the text from that one on. -/
structure Span where
  start : Nat
  size : Nat
  rest : List Char
deriving DecidableEq, Inhabited

namespace Span

def text (s : Span) : List Char :=
  s.rest.take s.size

/-- The position after the last character. -/
def stop (s : Span) : Nat :=
  s.start + s.size

end Span

/-- A position in a text: how many characters precede it, the last of them, and those that follow. -/
structure Cursor where
  index : Nat
  before : Option Char
  rest : List Char
  groups : List (String × Span)
deriving Inhabited

namespace Cursor

/-- The position before the first character. -/
def ofText (s : List Char) : Cursor :=
  ⟨0, none, s, []⟩

/-- The position after one more character. -/
def moveTo (s : Cursor) (c : Char) (rest : List Char) : Cursor :=
  { s with index := s.index + 1, before := some c, rest := rest }

/-- The characters between two positions. -/
def between (s t : Cursor) : Span :=
  ⟨s.index, t.index - s.index, s.rest⟩

def named? (s : Cursor) (name : String) : Option Span :=
  (s.groups.find? (·.1 == name)).map (·.2)

def beforeIs (s : Cursor) (p : Char → Bool) : Bool :=
  s.before.any p

def afterIs (s : Cursor) (p : Char → Bool) : Bool :=
  s.rest.head?.any p

def atBorder (s : Cursor) : Bool :=
  s.beforeIs Text.isWord != s.afterIs Text.isWord

def atStop (s : Cursor) : Bool :=
  s.rest.isEmpty || s.rest == ['\n']

/-- The positions along a run of characters of a class, the farthest first, before those in `done`. -/
def along (p : Char → Bool) (s : Cursor) : List Char → List Cursor → List Cursor
  | [], done => s :: done
  | c :: rest, done =>
    if p c then along p (s.moveTo c rest) rest (s :: done) else s :: done

/-- The position after a fixed text, if it stands here. -/
def past? (s : Cursor) : List Char → Option Cursor
  | [] => some s
  | c :: more =>
    match s.rest with
    | d :: rest => if c == d then (s.moveTo d rest).past? more else none
    | [] => none

end Cursor

/-- Rounds of `body`, as many as possible and each one moving on, before `k`. -/
def matchRounds {α : Type} (body : Cursor → (Cursor → Option α) → Option α)
    (k : Cursor → Option α) : Nat → Cursor → Option α
  | 0, s => k s
  | n + 1, s =>
    match body s fun t => if s.index < t.index then matchRounds body k n t else none with
    | some a => some a
    | none => k s

/-- The first way to match `r` from `s` whose end `k` accepts. -/
def matchThen {α : Type} : Regex → Cursor → (Cursor → Option α) → Option α
  | empty, s, k => k s
  | one p, s, k =>
    match s.rest with
    | c :: rest => if p c then k (s.moveTo c rest) else none
    | [] => none
  | run p lazy, s, k =>
    let ends := s.along p s.rest []
    (if lazy then ends.reverse else ends).findSome? k
  | seq r t, s, k => r.matchThen s fun u => t.matchThen u k
  | alt r t, s, k =>
    match r.matchThen s k with
    | some a => some a
    | none => t.matchThen s k
  | rounds r, s, k => matchRounds (fun u k => r.matchThen u k) k s.rest.length s
  | group name r, s, k =>
    r.matchThen s fun t => k { t with groups := (name, s.between t) :: t.groups }
  | again name, s, k =>
    match s.named? name with
    | some span => (s.past? span.text).bind k
    | none => none
  | start, s, k => if s.index = 0 then k s else none
  | stop, s, k => if s.atStop then k s else none
  | border, s, k => if s.atBorder then k s else none
  | notAfter p, s, k => if s.beforeIs p then none else k s
  | notAhead r, s, k =>
    match r.matchThen s fun _ => some () with
    | some () => none
    | none => k s

/-- Every way to match `r` from `s`, in order: the positions after it. -/
def ends : Regex → Cursor → List Cursor
  | empty, s => [s]
  | one p, s =>
    match s.rest with
    | c :: rest => if p c then [s.moveTo c rest] else []
    | [] => []
  | run p lazy, s =>
    let ends := s.along p s.rest []
    if lazy then ends.reverse else ends
  | seq r t, s => (r.ends s).flatMap t.ends
  | alt r t, s => r.ends s ++ t.ends s
  | rounds r, s => go r.ends s.rest.length s
  | group name r, s =>
    (r.ends s).map fun t => { t with groups := (name, s.between t) :: t.groups }
  | again name, s => ((s.named? name).bind fun span => s.past? span.text).toList
  | start, s => if s.index = 0 then [s] else []
  | stop, s => if s.atStop then [s] else []
  | border, s => if s.atBorder then [s] else []
  | notAfter p, s => if s.beforeIs p then [] else [s]
  | notAhead r, s => if (r.ends s).isEmpty then [s] else []
where
  /-- Rounds of a step that moves on, as many as possible. -/
  go (step : Cursor → List Cursor) : Nat → Cursor → List Cursor
    | 0, s => [s]
    | n + 1, s => ((step s).filter (s.index < ·.index)).flatMap (go step n) ++ [s]

private theorem matchRounds_eq {α : Type} (step : Cursor → List Cursor)
    (k : Cursor → Option α) (n : Nat) (s : Cursor) :
    matchRounds (fun u k => (step u).findSome? k) k n s = (ends.go step n s).findSome? k := by
  induction n generalizing s with
  | zero => simp [matchRounds, ends.go]
  | succ n ih =>
    have inner : (fun t => if s.index < t.index then
          matchRounds (fun u k => (step u).findSome? k) k n t else none) =
        fun t => if s.index < t.index then (ends.go step n t).findSome? k else none := by
      funext t; rw [ih]
    have key : ∀ l : List Cursor,
        l.findSome? (fun t => if s.index < t.index then (ends.go step n t).findSome? k else none) =
          ((l.filter (s.index < ·.index)).flatMap (ends.go step n)).findSome? k := by
      intro l
      induction l with
      | nil => rfl
      | cons a l ihl =>
        by_cases h : s.index < a.index
        · simp only [List.findSome?_cons, h, if_true, List.filter_cons, decide_true,
            List.flatMap_cons, List.findSome?_append, ihl]
          cases List.findSome? k (ends.go step n a) <;> rfl
        · simp [h, ihl]
    simp only [matchRounds, ends.go, inner, key, List.findSome?_append]
    cases (List.flatMap (ends.go step n) (List.filter (s.index < ·.index) (step s))).findSome? k
      <;> simp

/-- The matcher finds the first acceptable one of all ways to match. -/
theorem matchThen_eq_findSome? {α : Type} (r : Regex) (s : Cursor) (k : Cursor → Option α) :
    r.matchThen s k = (r.ends s).findSome? k := by
  induction r generalizing α s k with
  | empty => simp [matchThen, ends]
  | one p =>
    simp only [matchThen, ends]
    split
    · split <;> simp
    · rfl
  | run p lazy => simp [matchThen, ends]
  | seq r t ihr iht =>
    simp only [matchThen, ends, ihr, iht]
    induction r.ends s with
    | nil => rfl
    | cons a l ihl =>
      simp only [List.findSome?_cons, List.flatMap_cons, List.findSome?_append, ihl]
      cases (t.ends a).findSome? k <;> rfl
  | alt r t ihr iht =>
    simp only [matchThen, ends, ihr, iht, List.findSome?_append]
    cases (r.ends s).findSome? k <;> rfl
  | rounds r ih =>
    have hbody : (fun (u : Cursor) (k : Cursor → Option α) => r.matchThen u k) =
        fun u k => (r.ends u).findSome? k := by
      funext u k; exact ih u k
    simp only [matchThen, ends, hbody, matchRounds_eq]
  | group name r ih => simp [matchThen, ends, ih, List.findSome?_map, Function.comp_def]
  | again name =>
    simp only [matchThen, ends]
    cases s.named? name with
    | none => rfl
    | some span =>
      cases h : s.past? span.text <;> simp [h]
  | start => simp only [matchThen, ends]; split <;> simp
  | stop => simp only [matchThen, ends]; split <;> simp
  | border => simp only [matchThen, ends]; split <;> simp
  | notAfter p => simp only [matchThen, ends]; split <;> simp
  | notAhead r ih =>
    simp only [matchThen, ends, ih]
    cases r.ends s <;> simp

end CodeAudit.Regex
