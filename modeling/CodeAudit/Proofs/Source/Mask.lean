import CodeAudit.Source.Mask
import Mathlib.Data.List.Forall2
import Mathlib.Tactic.Lemma

/-! The mask of a program text has the shape of the text. Every character keeps its line and its column; what
changes becomes a blank, and line feeds never change. -/
namespace CodeAudit.Source

open Mask

/-- A masked character is the character itself, or a blank in the place of anything but a line feed. -/
def Masks (m c : Char) : Prop := m = c ∨ m = ' ' ∧ c ≠ '\n'

namespace Masks

lemma refl (c : Char) : Masks c c := .inl rfl

lemma blank {c : Char} (h : c ≠ '\n') : Masks ' ' c := .inr ⟨rfl, h⟩

lemma eq_of_ne {m c : Char} (h : Masks m c) (hm : m ≠ ' ') : c = m := by
  rcases h with rfl | ⟨rfl, -⟩
  · rfl
  · exact absurd rfl hm

lemma lineFeed_iff {m c : Char} (h : Masks m c) : m = '\n' ↔ c = '\n' := by
  rcases h with rfl | ⟨rfl, hc⟩
  · exact Iff.rfl
  · exact iff_of_false (by decide) hc

end Masks

/-- What a mode knows of the text before and after it: it waits for the second of two leading letters, and the
string that it is in has a quote. -/
def Mode.Fits : Mode → List Char → Prop
  | .leadingLetter, text => text.head?.any isLeading = true
  | .opening quote _, _ | .inside quote _, _ | .escaped quote _, _ => isQuote quote = true
  | .code _, _ | .comment, _ | .closing _, _ => True

lemma ne_lineFeed_of_isLeading {c : Char} (h : isLeading c = true) : c ≠ '\n' := by
  rintro rfl
  exact absurd h (by decide)

/-- One step of the scan, from a mode that fits: the character is masked in its place, and the next mode fits. -/
lemma step_fits {mode : Mode} {c : Char} {rest : List Char} (h : mode.Fits (c :: rest)) :
    Masks (step mode c rest).1 c ∧ (step mode c rest).2.Fits rest := by
  cases mode with
  | code afterWord =>
    simp only [step]
    split
    · rename_i hc
      exact ⟨.blank (by rintro rfl; exact absurd hc (by decide)), trivial⟩
    · split
      · rename_i hq
        refine ⟨.refl c, ?_⟩
        split <;> exact hq
      · split
        · rename_i hlead
          have hc : c ≠ '\n' := ne_lineFeed_of_isLeading (Bool.and_eq_true_iff.mp hlead).2
          cases rest with
          | nil => exact ⟨.refl c, trivial⟩
          | cons d more =>
            dsimp only
            split
            · exact ⟨.blank hc, trivial⟩
            · split
              · rename_i hd
                exact ⟨.blank hc, (Bool.and_eq_true_iff.mp hd).1⟩
              · exact ⟨.refl c, trivial⟩
        · exact ⟨.refl c, trivial⟩
  | leadingLetter => exact ⟨.blank (ne_lineFeed_of_isLeading h), trivial⟩
  | comment =>
    simp only [step]
    split
    · exact ⟨.refl c, trivial⟩
    · rename_i hc
      exact ⟨.blank (by simpa using hc), trivial⟩
  | opening quote left =>
    refine ⟨.refl c, ?_⟩
    simp only [step]
    split <;> exact h
  | inside quote long =>
    simp only [step]
    split
    · rename_i hc
      exact ⟨.blank (by rintro rfl; simp at hc), h⟩
    · split
      · refine ⟨.refl c, ?_⟩
        cases long <;> trivial
      · split
        · refine ⟨.refl c, ?_⟩
          cases long
          · trivial
          · exact h
        · rename_i hc
          exact ⟨.blank (by simpa using hc), h⟩
  | escaped quote long =>
    refine ⟨?_, h⟩
    simp only [step]
    split
    · exact .refl c
    · rename_i hc
      exact .blank (by simpa using hc)
  | closing left =>
    refine ⟨.refl c, ?_⟩
    simp only [step]
    split <;> trivial

lemma blanked_masks {mode : Mode} {text : List Char} (h : mode.Fits text) :
    List.Forall₂ Masks (blanked mode text) text := by
  induction text generalizing mode with
  | nil => exact .nil
  | cons c rest ih =>
    obtain ⟨hc, hrest⟩ := step_fits h
    exact .cons hc (ih hrest)

/-- Two texts that have a separator at the same places split into pieces that correspond. -/
lemma forall₂_splitOn {R : Char → Char → Prop} {sep : Char} {s t : List Char} (h : List.Forall₂ R s t)
    (hsep : ∀ a b, R a b → (a = sep ↔ b = sep)) :
    List.Forall₂ (List.Forall₂ R) (s.splitOn sep) (t.splitOn sep) := by
  induction h with
  | nil => simp
  | @cons a b s t hab _ ih =>
    rw [List.splitOn_cons_eq_if_modifyHead, List.splitOn_cons_eq_if_modifyHead]
    by_cases hb : b = sep
    · simp only [(hsep a b hab).mpr hb, hb, beq_self_eq_true, if_true]
      exact .cons .nil ih
    · have ha : ¬ a = sep := fun ha => hb ((hsep a b hab).mp ha)
      simp only [beq_iff_eq, ha, hb, if_false]
      generalize s.splitOn sep = pieces at ih ⊢
      generalize t.splitOn sep = others at ih ⊢
      cases ih with
      | nil => exact .nil
      | cons hpiece hpieces => exact .cons (.cons hab hpiece) hpieces

lemma maskText_masks (code : List Char) : List.Forall₂ Masks (maskText code) code := by
  rw [maskText_eq]
  exact blanked_masks trivial

lemma maskLines_masks (code : List Char) :
    List.Forall₂ (List.Forall₂ Masks) (maskLines code) (Text.lines code) := by
  rw [maskLines, Text.lines, Text.lines, Text.splitOn_eq, Text.splitOn_eq]
  exact forall₂_splitOn (maskText_masks code) fun _ _ h => h.lineFeed_iff

/-- The mask has as many lines as the text, each as long as the line of the text, and each of its characters is
the one that the text has in the same place, or a blank. -/
theorem maskLines_keep_shape (code : List Char) :
    List.Forall₂ (List.Forall₂ fun m c => m = c ∨ m = ' ') (maskLines code) (Text.lines code) :=
  (maskLines_masks code).imp fun _ _ hline => hline.imp fun _ _ h => h.imp_right And.left

end CodeAudit.Source
