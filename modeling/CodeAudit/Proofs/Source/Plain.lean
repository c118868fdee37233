import CodeAudit.Proofs.Source.Join
import CodeAudit.Proofs.Text.Lines

/-! Code without quotes and hash signs is its own mask. -/
namespace CodeAudit.Source

open Mask

/-- Neither a quote nor a hash sign. -/
def isPlainChar (c : Char) : Bool := c != '#' && !isQuote c

/-- All characters of a class are plain if those that are not are outside the class. -/
lemma isPlainChar_of_class {p : Char → Bool} (hp : ['#', '"', '\''].any p = false) {c : Char} (hc : p c = true) :
    isPlainChar c = true := by
  by_contra hplain
  have hmem : c ∈ ['#', '"', '\''] := by
    rw [isPlainChar, isQuote] at hplain
    simp only [Bool.and_eq_true, bne_iff_ne, Bool.not_eq_true', Bool.or_eq_false_iff, beq_eq_false_iff_ne] at hplain
    simp only [List.mem_cons, List.not_mem_nil, or_false]
    tauto
  exact List.any_eq_false.mp hp c hmem hc

variable {s : List Char}

lemma step_plain {c : Char} {rest : List Char} (w : Bool) (hc : isPlainChar c = true)
    (hrest : ∀ d ∈ rest, isPlainChar d = true) : ∃ w', step (.code w) c rest = (c, .code w') := by
  have hquote : ∀ {d : Char}, isPlainChar d = true → isQuote d = false := fun hd => by
    simpa using (Bool.and_eq_true_iff.mp hd).2
  have hhash : c ≠ '#' := by simpa using (Bool.and_eq_true_iff.mp hc).1
  simp only [step, beq_iff_eq, hhash, if_false, hquote hc, Bool.false_eq_true]
  split
  · cases rest with
    | nil => exact ⟨true, rfl⟩
    | cons d more =>
      obtain ⟨hd, hmore⟩ := List.forall_mem_cons.mp hrest
      have hnext : more.head?.any isQuote = false := by
        cases more with
        | nil => rfl
        | cons e more => exact hquote (hmore e List.mem_cons_self)
      simp [hquote hd, hnext]
  · exact ⟨_, rfl⟩

/-- The scan stays in code and changes nothing. -/
lemma blanked_plain (w : Bool) (h : ∀ c ∈ s, isPlainChar c = true) :
    blanked (.code w) s = s ∧ ∃ w', modeAfter (.code w) s = .code w' := by
  induction s generalizing w with
  | nil => exact ⟨rfl, w, rfl⟩
  | cons c rest ih =>
    obtain ⟨hc, hrest⟩ := List.forall_mem_cons.mp h
    obtain ⟨w', hstep⟩ := step_plain w hc hrest
    obtain ⟨hblanked, hmode⟩ := ih w' hrest
    rw [blanked_cons, modeAfter, hstep, hblanked]
    exact ⟨rfl, hmode⟩

lemma maskText_plain (h : ∀ c ∈ s, isPlainChar c = true) : maskText s = s := by
  rw [maskText_eq]
  exact (blanked_plain false h).1

end CodeAudit.Source
