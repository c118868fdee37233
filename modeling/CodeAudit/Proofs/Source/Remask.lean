import CodeAudit.Proofs.Source.Closed
import CodeAudit.Proofs.Text.Lines

/-! The mask of a mask. A second scan finds every comment and every escape of the first one blank, and each quote that
opened or closed a string in its place; so it stands in the same string as the first one at every character. Only where
a backslash carried a string over the end of its line would the second scan leave the string there. -/
namespace CodeAudit.Source

open Mask

lemma ne_of_isQuote {q d : Char} (hq : isQuote q = true) (hd : isQuote d = false) : q ≠ d := by
  rintro rfl
  cases hq.symm.trans hd

lemma twoMore_iff {quote : Char} {s : List Char} :
    twoMore quote s = true ↔ ∃ rest, s = quote :: quote :: rest := by
  constructor
  · intro h
    match s, h with
    | a :: b :: rest, h =>
      simp only [twoMore, Bool.and_eq_true, beq_iff_eq] at h
      exact ⟨rest, by rw [h.1, h.2]⟩
  · rintro ⟨rest, rfl⟩
    simp [twoMore]

section Ahead

variable {m s : List Char} (h : List.Forall₂ Masks m s)
include h

/-- What stands first in a mask stands first in the text, if it is no blank. -/
lemma head?_any_of_masks {p : Char → Bool} (hblank : p ' ' = false) (hm : m.head?.any p = true) :
    s.head?.any p = true := by
  cases h with
  | nil => exact hm
  | @cons d _ _ _ hmasks _ =>
    have hne : d ≠ ' ' := by
      rintro rfl
      cases hblank.symm.trans hm
    rw [hmasks.eq_of_ne hne]
    exact hm

lemma twoMore_of_masks {quote : Char} (hq : isQuote quote = true) (hm : twoMore quote m = true) :
    twoMore quote s = true := by
  have hne : quote ≠ ' ' := ne_of_isQuote hq rfl
  obtain ⟨rest, rfl⟩ := twoMore_iff.mp hm
  obtain ⟨a, s, ha, hs, rfl⟩ := List.forall₂_cons_left_iff.mp h
  obtain ⟨b, s, hb, -, rfl⟩ := List.forall₂_cons_left_iff.mp hs
  rw [ha.eq_of_ne hne, hb.eq_of_ne hne]
  exact twoMore_iff.mpr ⟨s, rfl⟩

end Ahead

/-- Where the scan of a mask stands, by where the scan of the text stands and by what the text goes on with. -/
inductive Mirrors : List Char → Mode → Mode → Prop
  | code {text : List Char} (afterWord : Bool) : Mirrors text (.code afterWord) (.code afterWord)
  /-- The letters before a quote were blanked. -/
  | led {text : List Char} (h : text.head?.any isQuote = true) : Mirrors text (.code true) (.code false)
  | leadingLetter {c : Char} {text : List Char} (h : text.head?.any isQuote = true) :
    Mirrors (c :: text) .leadingLetter (.code false)
  | comment {text : List Char} : Mirrors text .comment (.code false)
  | opening {text : List Char} (quote : Char) (left : ℕ) : Mirrors text (.opening quote left) (.opening quote left)
  | inside {text : List Char} (quote : Char) (long : Bool) : Mirrors text (.inside quote long) (.inside quote long)
  | escaped {text : List Char} (h : text.head? ≠ some '\n') (quote : Char) (long : Bool) :
    Mirrors text (.escaped quote long) (.inside quote long)
  | closing {text : List Char} (left : ℕ) : Mirrors text (.closing left) (.closing left)

/-- One character further: the second scan leaves what the first one wrote, and mirrors it again. -/
def StepMirrors (c : Char) (rest : List Char) (mode again : Mode) : Prop :=
  ∃ d next next', step mode c rest = (d, next) ∧ step again d (blanked next rest) = (d, next') ∧ Mirrors rest next next'

section Step

variable {c : Char} {rest : List Char}

lemma step_code_blank (afterWord : Bool) (m : List Char) : step (.code afterWord) ' ' m = (' ', .code false) := by
  cases afterWord <;> rfl

lemma step_inside_blank {quote : Char} (hq : isQuote quote = true) (long : Bool) (m : List Char) :
    step (.inside quote long) ' ' m = (' ', .inside quote long) := by
  rcases isQuote_iff.mp hq with rfl | rfl <;> rfl

/-- The quotes that open a string are kept, and no other ones come to stand behind them. -/
lemma stepMirrors_quote (hq : isQuote c = true) (afterWord afterWord' : Bool) :
    StepMirrors c rest (.code afterWord) (.code afterWord') := by
  have hstep : ∀ w s, step (.code w) c s = (c, if twoMore c s then .opening c 2 else .inside c false) := by
    intro w s
    have hhash : c ≠ '#' := ne_of_isQuote hq rfl
    simp [step, hhash, hq]
  cases htwo : twoMore c rest with
  | true =>
    obtain ⟨more, rfl⟩ := twoMore_iff.mp htwo
    have hopen : twoMore c (blanked (.opening c 2) (c :: c :: more)) = true := twoMore_iff.mpr ⟨_, rfl⟩
    refine ⟨c, .opening c 2, .opening c 2, ?_, ?_, .opening c 2⟩
    · rw [hstep, if_pos htwo]
    · rw [hstep, if_pos hopen]
  | false =>
    have hfits : (Mode.inside c false).Fits rest := hq
    have hshort : twoMore c (blanked (.inside c false) rest) = false := by
      apply Bool.eq_false_iff.mpr
      intro hmask
      cases htwo.symm.trans (twoMore_of_masks (blanked_masks hfits) hq hmask)
    refine ⟨c, .inside c false, .inside c false, ?_, ?_, .inside c false⟩
    · rw [hstep, htwo]
      rfl
    · rw [hstep, hshort]
      rfl

lemma step_leading (hlead : isLeading c = true) (s : List Char) :
    step (.code false) c s =
      if s.head?.any isQuote then (' ', .code true)
      else if s.head?.any isLeading && (s.drop 1).head?.any isQuote then (' ', .leadingLetter)
      else (c, .code true) := by
  have hhash : (c == '#') = false := by
    apply beq_eq_false_iff_ne.mpr
    rintro rfl
    cases hlead
  have hquote : isQuote c = false := by
    apply Bool.eq_false_iff.mpr
    intro hq
    rcases isQuote_iff.mp hq with rfl | rfl <;> cases hlead
  cases s <;> simp [step, hhash, hquote, hlead]

/-- A letter that stands before a string is a blank, and one that does not is kept again. -/
lemma stepMirrors_leading (hlead : isLeading c = true) : StepMirrors c rest (.code false) (.code false) := by
  have hstep := step_leading hlead rest
  split at hstep
  · rename_i hq
    exact ⟨' ', .code true, .code false, hstep, step_code_blank _ _, .led hq⟩
  · rename_i hq
    split at hstep
    · rename_i htwo
      cases rest with
      | nil => cases htwo
      | cons d more =>
        have hnext : more.head?.any isQuote = true := (Bool.and_eq_true_iff.mp htwo).2
        exact ⟨' ', .leadingLetter, .code false, hstep, step_code_blank _ _, .leadingLetter hnext⟩
    · rename_i htwo
      have hfits : (Mode.code true).Fits rest := trivial
      have hmasks := blanked_masks hfits
      have hq' : ¬ (blanked (.code true) rest).head?.any isQuote = true :=
        fun h => hq (head?_any_of_masks hmasks rfl h)
      have htwo' : ¬ ((blanked (.code true) rest).head?.any isLeading &&
          ((blanked (.code true) rest).drop 1).head?.any isQuote) = true := by
        intro h
        rw [Bool.and_eq_true] at h htwo
        exact htwo ⟨head?_any_of_masks hmasks rfl h.1, head?_any_of_masks (List.forall₂_drop 1 hmasks) rfl h.2⟩
      refine ⟨c, .code true, .code true, hstep, ?_, .code true⟩
      rw [step_leading hlead, if_neg hq', if_neg htwo']

lemma stepMirrors_code (afterWord : Bool) : StepMirrors c rest (.code afterWord) (.code afterWord) := by
  by_cases hhash : c = '#'
  · subst hhash
    exact ⟨' ', .comment, .code false, rfl, step_code_blank _ _, .comment⟩
  · by_cases hq : isQuote c = true
    · exact stepMirrors_quote hq _ _
    · cases hlead : !afterWord && isLeading c with
      | true =>
        rw [Bool.and_eq_true, Bool.not_eq_true'] at hlead
        obtain ⟨rfl, hlead⟩ := hlead
        exact stepMirrors_leading hlead
      | false =>
        have hstep : ∀ s, step (.code afterWord) c s = (c, .code (Text.isWord c)) := by
          intro s
          simp [step, hhash, hq, hlead]
        exact ⟨c, .code (Text.isWord c), .code (Text.isWord c), hstep _, hstep _, .code _⟩

lemma step_inside_lineFeed {quote : Char} (hq : isQuote quote = true) (long : Bool) (s : List Char) :
    step (.inside quote long) '\n' s = ('\n', if long then .inside quote long else .code false) := by
  rcases isQuote_iff.mp hq with rfl | rfl <;> rfl

/-- The quotes that close a string are kept. -/
lemma stepMirrors_close (hq : isQuote c = true) {long : Bool} (hclose : (!long || twoMore c rest) = true) :
    StepMirrors c rest (.inside c long) (.inside c long) := by
  have hstep : ∀ s, (!long || twoMore c s) = true →
      step (.inside c long) c s = (c, if long then .closing 2 else .code false) := by
    intro s hs
    have hslash : c ≠ '\\' := ne_of_isQuote hq rfl
    simp [step, hslash, hs]
  cases long with
  | false => exact ⟨c, .code false, .code false, hstep _ rfl, hstep _ rfl, .code false⟩
  | true =>
    obtain ⟨more, rfl⟩ := twoMore_iff.mp hclose
    have hkept : twoMore c (blanked (.closing 2) (c :: c :: more)) = true := twoMore_iff.mpr ⟨_, rfl⟩
    exact ⟨c, .closing 2, .closing 2, hstep _ hclose, hstep _ hkept, .closing 2⟩

/-- All else in a string is blank but for the ends of its lines. -/
lemma stepMirrors_inside {quote : Char} (hq : isQuote quote = true) (long : Bool)
    (hescape : c = '\\' → rest.head? ≠ some '\n') : StepMirrors c rest (.inside quote long) (.inside quote long) := by
  by_cases hback : (c == '\\' && !rest.isEmpty) = true
  · have hc : c = '\\' := by simpa using (Bool.and_eq_true_iff.mp hback).1
    have hstep : step (.inside quote long) c rest = (' ', .escaped quote long) := by simp only [step, hback, if_true]
    exact ⟨' ', .escaped quote long, .inside quote long, hstep, step_inside_blank hq long _, .escaped (hescape hc) _ _⟩
  · by_cases hclose : c = quote ∧ (!long || twoMore quote rest) = true
    · obtain ⟨rfl, hclose⟩ := hclose
      exact stepMirrors_close hq hclose
    · by_cases hfeed : c = '\n'
      · subst hfeed
        refine ⟨'\n', _, _, step_inside_lineFeed hq long _, step_inside_lineFeed hq long _, ?_⟩
        cases long
        · exact .code false
        · exact .inside quote true
      · have hopen : (c == quote && (!long || twoMore quote rest)) = false := by
          rw [Bool.and_eq_false_iff, beq_eq_false_iff_ne, ← Bool.not_eq_true]
          exact not_and_or.mp hclose
        have hstep : step (.inside quote long) c rest = (' ', .inside quote long) := by
          simp [step, hback, hopen, hfeed]
        exact ⟨' ', .inside quote long, .inside quote long, hstep, step_inside_blank hq long _, .inside quote long⟩

/-- One step of the two scans, wherever they stand. -/
lemma Mirrors.step {mode again : Mode} (h : Mirrors (c :: rest) mode again) (hfits : mode.Fits (c :: rest))
    (hescape : c = '\\' → rest.head? ≠ some '\n') : StepMirrors c rest mode again := by
  cases h with
  | code afterWord => exact stepMirrors_code afterWord
  | led hq => exact stepMirrors_quote hq true false
  | leadingLetter hq => exact ⟨' ', .code true, .code false, rfl, step_code_blank _ _, .led hq⟩
  | comment =>
    by_cases hfeed : c = '\n'
    · subst hfeed
      exact ⟨'\n', .code false, .code false, rfl, rfl, .code false⟩
    · exact ⟨' ', .comment, .code false, by simp [Mask.step, hfeed], step_code_blank _ _, .comment⟩
  | opening quote left =>
    refine ⟨c, _, _, rfl, rfl, ?_⟩
    split
    · exact .inside quote true
    · exact .opening quote _
  | inside quote long => exact stepMirrors_inside hfits long hescape
  | escaped hfeed quote long =>
    have hc : c ≠ '\n' := by simpa using hfeed
    exact ⟨' ', .inside quote long, .inside quote long, by simp [Mask.step, hc], step_inside_blank hfits long _,
      .inside quote long⟩
  | closing left =>
    refine ⟨c, _, _, rfl, rfl, ?_⟩
    split
    · exact .code false
    · exact .closing _

end Step

/-- By induction on the text: the two scans go side by side. -/
lemma blanked_blanked {mode again : Mode} {text : List Char} (h : Mirrors text mode again) (hfits : mode.Fits text)
    (hescape : ¬ ['\\', '\n'] <:+: text) : blanked again (blanked mode text) = blanked mode text := by
  induction text generalizing mode again with
  | nil => rfl
  | cons c rest ih =>
    have hhead : c = '\\' → rest.head? ≠ some '\n' := by
      rintro rfl hfeed
      obtain ⟨more, rfl⟩ := List.head?_eq_some_iff.mp hfeed
      exact hescape ⟨[], more, rfl⟩
    have hrest : ¬ ['\\', '\n'] <:+: rest := fun hpart => hescape (List.infix_cons hpart)
    obtain ⟨d, next, next', hstep, hagain, hmirrors⟩ := h.step hfits hhead
    have hnext : next.Fits rest := by
      have hfits' := (step_fits hfits).2
      rwa [hstep] at hfits'
    rw [blanked_cons, hstep, blanked_cons, hagain, ih hmirrors hnext hrest]

/-- The mask of a text is its own mask, if no backslash in the text stands before the end of a line. -/
theorem maskLines_idempotent {code : List Char} (h : ¬ ['\\', '\n'] <:+: code) :
    maskLines (Text.joinLines (maskLines code)) = maskLines code := by
  have htext : Text.joinLines (maskLines code) = maskText code := Text.joinLines_lines _
  have hmask : maskText (maskText code) = maskText code := by
    rw [maskText_eq, maskText_eq]
    exact blanked_blanked (.code false) trivial h
  rw [htext, maskLines, hmask, maskLines]

/-- Leading letters, escaped quotes, quotes of the other kind and of the same, a string over two lines with another one
behind it, a comment, and a string that is left open. -/
theorem maskLines_idempotent_mixed :
    ¬ ['\\', '\n'] <:+: "x = rb'it\\'s' + f\"\"\"\"\\\"\n'b\"\"\"\" # y\nz = 'w # 1\n".toList ∧
      maskLines (Text.joinLines (maskLines "x = rb'it\\'s' + f\"\"\"\"\\\"\n'b\"\"\"\" # y\nz = 'w # 1\n".toList)) =
        ["x =   '     ' +  \"\"\"   ".toList, "  \"\"\"\"    ".toList, "z = '     ".toList, []] :=
  ⟨by decide +kernel, (maskLines_idempotent (by decide +kernel)).trans (by decide +kernel)⟩

-- a string that a backslash carries over the end of its line ends there in the mask
example : maskText (maskText "'\\\n'x".toList) ≠ maskText "'\\\n'x".toList := by decide +kernel

end CodeAudit.Source
