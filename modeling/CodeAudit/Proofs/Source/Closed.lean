import CodeAudit.Proofs.Source.Mask

/-! What a comment says and what a string holds leaves no trace in the mask. The scan looks two characters ahead,
so the text after a closed one decides how the last characters of that text are read: two quotes and a third one
open a long string, two letters and a quote are a string's leading letters. The mask is the same in all cases. -/
namespace CodeAudit.Source

open Mask

/-- The scan of the text ends in code, outside every string and every comment. -/
def Closed (text : List Char) : Prop := ∃ afterWord, modeAfter (.code false) text = .code afterWord

/-- The contents of a string that is neither left nor escaped from inside. -/
def PlainFor (quote : Char) (s : List Char) : Prop := ∀ c ∈ s, c ≠ '\\' ∧ c ≠ '\n' ∧ c ≠ quote

instance (quote : Char) (s : List Char) : Decidable (PlainFor quote s) := List.decidableBAll _ s

lemma blanked_cons (mode : Mode) (c : Char) (rest : List Char) :
    blanked mode (c :: rest) = (step mode c rest).1 :: blanked (step mode c rest).2 rest := rfl

lemma step_two_ahead (mode : Mode) (c d e : Char) (x y : List Char) :
    step mode c (d :: e :: x) = step mode c (d :: e :: y) := by
  cases mode <;> rfl

/-- A character before which the scan need not look further ahead: it leads no string, and it is no quote that
comes again. -/
structure Sealed (d : Char) (rest : List Char) : Prop where
  notLeading : isLeading d = false
  notRepeated : isQuote d = true → rest.head? ≠ some d

namespace Sealed

variable {d : Char} {x y : List Char}

lemma twoMore_eq_false (h : Sealed d x) {quote : Char} (hq : isQuote quote = true) :
    twoMore quote (d :: x) = false := by
  cases x with
  | nil => rfl
  | cons e x =>
    apply Bool.eq_false_iff.mpr
    intro htwo
    simp only [twoMore, Bool.and_eq_true, beq_iff_eq] at htwo
    obtain ⟨rfl, rfl⟩ := htwo
    exact h.notRepeated hq rfl

lemma step_eq (h : Sealed d x) {mode : Mode} {c : Char} {rest : List Char} (hfits : mode.Fits (c :: rest)) :
    step mode c (d :: x) = step mode c [d] := by
  cases mode with
  | code afterWord =>
    by_cases hq : isQuote c = true
    · simp only [step, hq, if_true, h.twoMore_eq_false hq]
      rfl
    · simp only [step, if_neg hq, h.notLeading, Bool.false_and]
  | inside quote long =>
    simp only [step, h.twoMore_eq_false hfits]
    rfl
  | leadingLetter => rfl
  | comment => rfl
  | opening quote left => rfl
  | escaped quote long => rfl
  | closing left => rfl

lemma step_append_eq (hx : Sealed d x) (hy : Sealed d y) {mode : Mode} {c : Char} {rest text : List Char}
    (hfits : mode.Fits (c :: text)) : step mode c (rest ++ d :: x) = step mode c (rest ++ d :: y) := by
  match rest with
  | [] => exact (hx.step_eq hfits).trans (hy.step_eq hfits).symm
  | [e] => exact step_two_ahead mode c e d x y
  | e :: f :: more => exact step_two_ahead mode c e f (more ++ d :: x) (more ++ d :: y)

end Sealed

section Boundary

variable {quote : Char} {long : Bool} {w : Bool}

lemma isQuote_iff {c : Char} : isQuote c = true ↔ c = '"' ∨ c = '\'' := by
  simp [isQuote]

/-- A backslash at the end escapes nothing, and the string stays open. -/
lemma not_closed_backslash (hq : isQuote quote = true) : modeAfter (.inside quote long) ['\\'] ≠ .code w := by
  rcases isQuote_iff.mp hq with rfl | rfl <;> cases long <;> decide +revert

/-- Two quotes at the end do not close a long string. -/
lemma not_closed_two_quotes (hq : isQuote quote = true) :
    modeAfter (.inside quote true) [quote, quote] ≠ .code w := by
  rcases isQuote_iff.mp hq with rfl | rfl <;> decide +revert

end Boundary

namespace Sealed

variable {d : Char} {x : List Char} {mode : Mode} {c : Char} {text : List Char}

/-- Nothing that the last character of a text is read as hangs on a sealed character after it, if the text ends in
code. -/
lemma step_last (h : Sealed d x) (hfits : mode.Fits (c :: text)) (hclosed : ∃ w, modeAfter mode [c] = .code w) :
    (step mode c (d :: x)).2 = (step mode c []).2 := by
  obtain ⟨w, hw⟩ := hclosed
  rw [h.step_eq hfits]
  cases mode with
  | code afterWord =>
    simp only [step, h.notLeading, twoMore]
    grind
  | inside quote long =>
    have hc : c ≠ '\\' := by
      rintro rfl
      exact not_closed_backslash hfits hw
    simp [step, hc, twoMore]
  | leadingLetter => rfl
  | comment => rfl
  | opening quote left => rfl
  | escaped quote long => rfl
  | closing left => rfl

/-- The character before the last one of a text that ends in code is read differently before a sealed character in
two cases only: the three are the quotes that open a long string, or two leading letters and a quote. -/
lemma step_second_last {e : Char} (hfits : mode.Fits (c :: text))
    (hclosed : ∃ w, modeAfter mode [c, e] = .code w) :
    (step mode c (e :: d :: x)).2 = (step mode c [e]).2 ∨
      (e = d ∧ isQuote d = true ∧ (step mode c (e :: d :: x)).2 = .opening d 2) ∨
      (step mode c (e :: d :: x)).2 = .leadingLetter := by
  obtain ⟨w, hw⟩ := hclosed
  cases mode with
  | code afterWord =>
    simp only [step, twoMore]
    grind
  | inside quote long =>
    left
    cases long with
    | false => simp [step]
    | true =>
      have htwo : ¬ (c = quote ∧ e = quote) := by
        rintro ⟨rfl, rfl⟩
        exact not_closed_two_quotes hfits hw
      simp only [step, twoMore]
      grind
  | leadingLetter => exact .inl rfl
  | comment => exact .inl rfl
  | opening quote left => exact .inl rfl
  | escaped quote long => exact .inl rfl
  | closing left => exact .inl rfl

end Sealed

/-- Two texts that start with the same sealed character have the same mask after a closed text, if they have it in
code and, where that character is a quote, as the third quote that opens a long string. The induction is on the
closed text, whose last two characters may be read differently than at an end. -/
lemma blanked_append_congr {d : Char} {x y : List Char} (hx : Sealed d x) (hy : Sealed d y)
    (hcode : ∀ w, blanked (.code w) (d :: x) = blanked (.code w) (d :: y))
    (hopen : isQuote d = true → blanked (.opening d 1) (d :: x) = blanked (.opening d 1) (d :: y))
    {mode : Mode} {a : List Char} (hfits : mode.Fits (a ++ d :: x)) (hclosed : ∃ w, modeAfter mode a = .code w) :
    blanked mode (a ++ d :: x) = blanked mode (a ++ d :: y) := by
  induction a generalizing mode with
  | nil =>
    obtain ⟨w, rfl⟩ := hclosed
    exact hcode w
  | cons c rest ih =>
    have hstep : step mode c (rest ++ d :: x) = step mode c (rest ++ d :: y) := hx.step_append_eq hy hfits
    have hnext := (step_fits hfits).2
    simp only [List.cons_append, blanked_cons, ← hstep, List.cons.injEq, true_and]
    rcases rest with _ | ⟨e, _ | ⟨f, more⟩⟩
    · exact ih hnext (hx.step_last hfits hclosed ▸ hclosed)
    · rcases Sealed.step_second_last (d := d) (x := x) hfits hclosed with h | ⟨rfl, hq, h⟩ | h
      · exact ih hnext (h ▸ hclosed)
      · exact h ▸ congrArg (e :: ·) (hopen hq)
      · exact h ▸ congrArg (' ' :: ·) (hcode true)
    · have h := step_two_ahead mode c e f (more ++ d :: x) more
      exact ih hnext (congrArg Prod.snd h ▸ hclosed)

lemma blanked_comment {s : List Char} (hs : '\n' ∉ s) (b : List Char) :
    blanked .comment (s ++ b) = List.replicate s.length ' ' ++ blanked .comment b := by
  induction s with
  | nil => rfl
  | cons c s ih =>
    simp only [List.mem_cons, not_or] at hs
    have hstep : step .comment c (s ++ b) = (' ', .comment) := if_neg (by simpa using Ne.symm hs.1)
    rw [List.cons_append, blanked_cons, hstep, ih hs.2]
    rfl

lemma blanked_inside {quote : Char} {long : Bool} {s : List Char} (hs : PlainFor quote s) (b : List Char) :
    blanked (.inside quote long) (s ++ b) = List.replicate s.length ' ' ++ blanked (.inside quote long) b := by
  induction s with
  | nil => rfl
  | cons c s ih =>
    obtain ⟨⟨hescape, hfeed, hquote⟩, hs⟩ := List.forall_mem_cons.mp hs
    have hstep : step (.inside quote long) c (s ++ b) = (' ', .inside quote long) := by
      simp [step, hescape, hfeed, hquote]
    rw [List.cons_append, blanked_cons, hstep, ih hs]
    rfl

lemma modeAfter_inside {quote : Char} {long : Bool} {s : List Char} (hs : PlainFor quote s) (b : List Char) :
    modeAfter (.inside quote long) (s ++ b) = modeAfter (.inside quote long) b := by
  induction s with
  | nil => rfl
  | cons c s ih =>
    obtain ⟨⟨hescape, hfeed, hquote⟩, hs⟩ := List.forall_mem_cons.mp hs
    have hstep : step (.inside quote long) c (s ++ b) = (' ', .inside quote long) := by
      simp [step, hescape, hfeed, hquote]
    rw [List.cons_append, modeAfter, hstep, ih hs]

/-- A quote opens a string on one line, unless two more of its kind follow. -/
lemma step_code_quote {q : Char} (hq : isQuote q = true) {s b : List Char} (hs : PlainFor q s)
    (hempty : s = [] → b.head? ≠ some q) (w : Bool) : step (.code w) q (s ++ q :: b) = (q, .inside q false) := by
  have hshort : twoMore q (s ++ q :: b) = false := by
    cases s with
    | nil =>
      cases b with
      | nil => rfl
      | cons c b =>
        have hc : c ≠ q := fun heq => hempty rfl (congrArg some heq)
        simp [twoMore, hc]
    | cons c s =>
      have hc := (hs c List.mem_cons_self).2.2
      cases s <;> simp [twoMore, hc]
  have hhash : q ≠ '#' := by
    rintro rfl
    cases hq
  simp [step, hhash, hq, hshort]

section Masks

variable {a : List Char} (ha : Closed a) (b : List Char)
include ha

/-- After a closed text the mask tells of a comment no more than its length. -/
lemma maskText_comment {c₁ c₂ : List Char} (h₁ : '\n' ∉ c₁) (h₂ : '\n' ∉ c₂) (hlen : c₁.length = c₂.length) :
    maskText (a ++ '#' :: (c₁ ++ b)) = maskText (a ++ '#' :: (c₂ ++ b)) := by
  have hsealed : ∀ x, Sealed '#' x := fun x => ⟨by decide, fun h => absurd h (by decide)⟩
  have hcode : ∀ w, blanked (.code w) ('#' :: (c₁ ++ b)) = blanked (.code w) ('#' :: (c₂ ++ b)) := by
    intro w
    have hstep : ∀ x, step (.code w) '#' x = (' ', .comment) := fun _ => rfl
    simp only [blanked_cons, hstep, blanked_comment h₁, blanked_comment h₂, hlen]
  rw [maskText_eq, maskText_eq]
  exact blanked_append_congr (hsealed _) (hsealed _) hcode (fun h => absurd h (by decide)) trivial ha

/-- After a closed text the mask tells of a string no more than its length. -/
lemma maskText_string {q : Char} {s₁ s₂ : List Char} (hq : isQuote q = true) (hne₁ : s₁ ≠ []) (hne₂ : s₂ ≠ [])
    (h₁ : PlainFor q s₁) (h₂ : PlainFor q s₂) (hlen : s₁.length = s₂.length) :
    maskText (a ++ q :: (s₁ ++ q :: b)) = maskText (a ++ q :: (s₂ ++ q :: b)) := by
  have hsealed : ∀ s, s ≠ [] → PlainFor q s → Sealed q (s ++ q :: b) := by
    intro s hne hs
    obtain ⟨c, rest, rfl⟩ := List.exists_cons_of_ne_nil hne
    refine ⟨?_, fun _ h => (hs c List.mem_cons_self).2.2 (Option.some.inj h)⟩
    rcases isQuote_iff.mp hq with rfl | rfl <;> decide
  have hinside : ∀ long, blanked (.inside q long) (s₁ ++ q :: b) = blanked (.inside q long) (s₂ ++ q :: b) := by
    intro long
    rw [blanked_inside h₁, blanked_inside h₂, hlen]
  have hcode : ∀ w, blanked (.code w) (q :: (s₁ ++ q :: b)) = blanked (.code w) (q :: (s₂ ++ q :: b)) := by
    intro w
    rw [blanked_cons, blanked_cons, step_code_quote hq h₁ (fun h => absurd h hne₁),
      step_code_quote hq h₂ (fun h => absurd h hne₂), hinside]
  have hopen : blanked (.opening q 1) (q :: (s₁ ++ q :: b)) = blanked (.opening q 1) (q :: (s₂ ++ q :: b)) := by
    have hstep : ∀ x, step (.opening q 1) q x = (q, .inside q true) := fun _ => rfl
    rw [blanked_cons, blanked_cons, hstep, hstep, hinside]
  rw [maskText_eq, maskText_eq]
  exact blanked_append_congr (hsealed s₁ hne₁ h₁) (hsealed s₂ hne₂ h₂) hcode (fun _ => hopen) trivial ha

end Masks

end CodeAudit.Source
