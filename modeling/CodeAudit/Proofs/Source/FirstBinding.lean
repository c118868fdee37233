import CodeAudit.Proofs.Text.Lines
import CodeAudit.Source.Basic
import Mathlib.Data.List.Basic
import Mathlib.Tactic.Lemma

/-! Which lines bind a name, and the first line that does. -/
namespace CodeAudit.Source

variable {src : Source} {code : List Char} {name : Name} {i j : ℕ}

lemma bindingsOn_of_drop {line : Line} {rest : List Line} (h : src.masked.drop i = line :: rest) :
    src.bindingsOn i = Bindings.ofLine line rest := by
  rw [bindingsOn, h]

lemma mem_bindingsOn :
    name ∈ src.bindingsOn i ↔
      ∃ line, src.masked[i]? = some line ∧ name ∈ Bindings.ofLine line (src.masked.drop (i + 1)) := by
  rw [bindingsOn]
  cases hdrop : src.masked.drop i with
  | nil =>
    have hnone : src.masked[i]? = none := List.getElem?_eq_none (List.drop_eq_nil_iff.mp hdrop)
    simp [hnone]
  | cons line rest =>
    obtain ⟨hline, hrest⟩ := Text.of_drop_eq_cons hdrop
    simp [hline, hrest]

lemma mem_bindingsFrom {lines : List Line} {start : ℕ} :
    (name, j) ∈ bindingsFrom start lines ↔
      ∃ k line, j = start + k ∧ lines[k]? = some line ∧ name ∈ Bindings.ofLine line (lines.drop (k + 1)) := by
  induction lines generalizing start with
  | nil => simp [bindingsFrom]
  | cons line rest ih =>
    rw [bindingsFrom, List.mem_append, ih]
    constructor
    · rintro (hhere | ⟨k, other, rfl, hother, hname⟩)
      · obtain ⟨_, hname, hpair⟩ := List.mem_map.mp hhere
        obtain ⟨rfl, rfl⟩ := Prod.mk.inj hpair
        exact ⟨0, line, rfl, rfl, hname⟩
      · exact ⟨k + 1, other, by omega, hother, hname⟩
    · rintro ⟨k, other, rfl, hother, hname⟩
      cases k with
      | zero =>
        obtain rfl := Option.some.inj hother
        exact .inl (List.mem_map_of_mem hname)
      | succ k => exact .inr ⟨k, other, by omega, hother, hname⟩

lemma mem_bindings : (name, i) ∈ (Source.ofText code).bindings ↔ name ∈ (Source.ofText code).bindingsOn i := by
  rw [mem_bindingsOn]
  change (name, i) ∈ bindingsFrom 0 (maskLines code) ↔ _
  simp only [mem_bindingsFrom, Nat.zero_add]
  constructor
  · rintro ⟨_, line, rfl, hline⟩
    exact ⟨line, hline⟩
  · rintro ⟨line, hline⟩
    exact ⟨i, line, rfl, hline⟩

/-- The bindings are in the order of their lines. -/
lemma bindingsFrom_pairwise (start : ℕ) (lines : List Line) :
    (bindingsFrom start lines).Pairwise fun a b => a.2 ≤ b.2 := by
  induction lines generalizing start with
  | nil => exact .nil
  | cons line rest ih =>
    rw [bindingsFrom, List.pairwise_append]
    refine ⟨?_, ih (start + 1), ?_⟩
    · exact List.pairwise_map.mpr (List.pairwise_iff_forall_sublist.mpr fun _ => Nat.le_refl start)
    · rintro a ha ⟨name, j⟩ hb
      obtain ⟨_, -, rfl⟩ := List.mem_map.mp ha
      obtain ⟨k, _, rfl, -⟩ := mem_bindingsFrom.mp hb
      dsimp only
      omega

/-- The first line that binds a name is not behind a line if that line or one before it binds the name. -/
lemma exists_firstBinding?_le_iff :
    (∃ first, (Source.ofText code).firstBinding? name = some first ∧ first ≤ j) ↔
      ∃ i ≤ j, name ∈ (Source.ofText code).bindingsOn i := by
  rw [firstBinding?]
  constructor
  · rintro ⟨first, hfirst, hle⟩
    obtain ⟨⟨other, _⟩, hfind, rfl⟩ := Option.map_eq_some_iff.mp hfirst
    obtain rfl : other = name := by simpa using List.find?_some hfind
    exact ⟨_, hle, mem_bindings.mp (List.mem_of_find?_eq_some hfind)⟩
  · rintro ⟨i, hle, hname⟩
    have hmem := mem_bindings.mpr hname
    cases hfind : (Source.ofText code).bindings.find? (·.1 == name) with
    | none => simpa using List.find?_eq_none.mp hfind _ hmem
    | some found =>
      refine ⟨found.2, rfl, Nat.le_trans ?_ hle⟩
      obtain ⟨-, before, after, hsplit, hbefore⟩ := List.find?_eq_some_iff_append.mp hfind
      have hsorted : (before ++ found :: after).Pairwise fun a b => a.2 ≤ b.2 :=
        hsplit ▸ bindingsFrom_pairwise 0 (maskLines code)
      rw [hsplit, List.mem_append, List.mem_cons] at hmem
      rcases hmem with hmem | rfl | hmem
      · simpa using hbefore _ hmem
      · exact Nat.le_refl _
      · exact (List.pairwise_cons.mp (List.pairwise_append.mp hsorted).2.1).1 _ hmem

/-- A name that some line binds has a first line that does. -/
lemma exists_firstBinding? (h : name ∈ (Source.ofText code).bindingsOn i) :
    ∃ first, (Source.ofText code).firstBinding? name = some first := by
  obtain ⟨first, hfirst, -⟩ := exists_firstBinding?_le_iff.mpr ⟨i, Nat.le_refl i, h⟩
  exact ⟨first, hfirst⟩

end CodeAudit.Source
