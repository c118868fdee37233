/-!
Sets of line numbers as ascending lists, so that equal sets are equal values.
-/

namespace CodeAudit

/-- A set of line numbers in ascending order. -/
structure LineSet where
  toList : List Int
  ascending : toList.Pairwise (· < ·)
deriving DecidableEq

namespace LineSet

instance : Inhabited LineSet := ⟨⟨[], .nil⟩⟩

def empty : LineSet := ⟨[], .nil⟩

/-- A number put at its place in an ascending list. -/
def place (n : Int) : List Int → List Int
  | [] => [n]
  | m :: rest => if n < m then n :: m :: rest else if n = m then m :: rest else m :: place n rest

@[simp] theorem mem_place {n k : Int} {l : List Int} : k ∈ place n l ↔ k = n ∨ k ∈ l := by
  induction l with
  | nil => simp [place]
  | cons m rest ih =>
    simp only [place]
    split
    · simp
    · split <;> simp_all [or_left_comm]

theorem place_ascending {n : Int} {l : List Int} (h : l.Pairwise (· < ·)) :
    (place n l).Pairwise (· < ·) := by
  induction l with
  | nil => simp [place]
  | cons m rest ih =>
    have ⟨first, others⟩ := List.pairwise_cons.1 h
    simp only [place]
    split
    · next hlt =>
      refine List.pairwise_cons.2 ⟨fun k hk => ?_, h⟩
      rcases List.mem_cons.1 hk with rfl | hk
      · exact hlt
      · have := first k hk; omega
    · split
      · exact h
      · refine List.pairwise_cons.2 ⟨fun k hk => ?_, ih others⟩
        rcases mem_place.1 hk with rfl | hk
        · omega
        · exact first k hk

def insert (s : LineSet) (n : Int) : LineSet :=
  ⟨place n s.toList, place_ascending s.ascending⟩

def ofList (ns : List Int) : LineSet :=
  ns.foldl insert empty

def union (s t : LineSet) : LineSet :=
  t.toList.foldl insert s

def isEmpty (s : LineSet) : Bool :=
  s.toList.isEmpty

/-- The least line of a set, zero when it is empty. -/
def first (s : LineSet) : Int :=
  s.toList.head?.getD 0

end LineSet

end CodeAudit
