import CodeAudit.Text.Lines
import Mathlib.Data.List.TakeWhile
import Mathlib.Tactic.Lemma

/-! Character classes that lie apart, and how a text falls into runs of a class in one way only. -/
namespace CodeAudit.Text

/-- The word characters of all scripts lie apart from the blanks. -/
lemma word_apart_from_blank :
    ∀ r ∈ CharTable.word.toList, ∀ b ∈ CharTable.blank.toList, r.2 < b.1 ∨ b.2 < r.1 := by decide +kernel

lemma inRanges_apart {s t : Array (Nat × Nat)} (h : ∀ r ∈ s.toList, ∀ b ∈ t.toList, r.2 < b.1 ∨ b.2 < r.1)
    {c : Char} (hc : inRanges s c = true) : inRanges t c = false := by
  obtain ⟨r, hr, hin⟩ := Array.any_eq_true'.mp hc
  rw [← Bool.not_eq_true, inRanges, Array.any_eq_true']
  rintro ⟨b, hb, hother⟩
  have hapart := h r hr.val b hb.val
  simp only [Bool.and_eq_true, decide_eq_true_eq] at hin hother
  omega

/-- What holds of the ASCII characters is seen from each of them. -/
lemma of_ascii {P : Char → Prop} (h : ∀ n < 128, P (Char.ofNat n)) {c : Char} (hc : c.toNat < 128) : P c := by
  simpa using h c.toNat hc

lemma not_isBlank_of_isWord {c : Char} (h : isWord c = true) : isBlank c = false := by
  by_cases hc : c.toNat < 128
  · exact of_ascii (P := fun c => isWord c = true → isBlank c = false) (by decide +kernel) hc h
  · have hunder : c ≠ '_' := by
      rintro rfl
      exact hc (by decide)
    have hword : inRanges CharTable.word c = true := by simpa [isWord, isAlnum, hc, hunder] using h
    rw [isBlank, if_neg hc]
    exact inRanges_apart word_apart_from_blank hword

lemma not_isWord_of_isBlank {c : Char} (h : isBlank c = true) : isWord c = false := by
  by_contra hw
  rw [Bool.not_eq_false] at hw
  rw [not_isBlank_of_isWord hw] at h
  cases h

lemma toNat_lt_of_isNameStart {c : Char} (h : isNameStart c = true) : c.toNat < 128 := by
  rcases Bool.or_eq_true_iff.mp h with halpha | hunder
  · rcases Bool.or_eq_true_iff.mp halpha with hupper | hlower
    · have hle : c.val ≤ 'Z'.val := (of_decide_eq_true hupper).2
      exact Nat.lt_of_le_of_lt hle (by decide)
    · have hle : c.val ≤ 'z'.val := of_decide_eq_true (Bool.and_eq_true_iff.mp hlower).2
      exact Nat.lt_of_le_of_lt hle (by decide)
  · rw [beq_iff_eq.mp hunder]
    decide

lemma isWord_of_isNameStart {c : Char} (h : isNameStart c = true) : isWord c = true :=
  of_ascii (P := fun c => isNameStart c = true → isWord c = true) (by decide +kernel) (toNat_lt_of_isNameStart h) h

lemma not_isDigit_of_isNameStart {c : Char} (h : isNameStart c = true) : isDigit c = false :=
  of_ascii (P := fun c => isNameStart c = true → isDigit c = false) (by decide +kernel) (toNat_lt_of_isNameStart h) h

/-- The ten digits are word characters that start no name. -/
lemma isWord_of_digit {c : Char} (h : c.isDigit = true) : isWord c = true ∧ isNameStart c = false := by
  have hle : c.val ≤ '9'.val := of_decide_eq_true (Bool.and_eq_true_iff.mp h).2
  have hc : c.toNat < 128 := Nat.lt_of_le_of_lt hle (by decide)
  exact of_ascii (P := fun c => c.isDigit = true → isWord c = true ∧ isNameStart c = false) (by decide +kernel) hc h

lemma isBlank_of_mem {s : List Char} (h : isBlankText s = true) : ∀ c ∈ s, isBlank c = true := List.all_eq_true.mp h

lemma isBlankText_eq_false_of_mem {s : List Char} {c : Char} (hc : c ∈ s) (h : isBlank c = false) :
    isBlankText s = false := by
  rw [isBlankText, List.all_eq_false]
  exact ⟨c, hc, by rw [h]; decide⟩

lemma strip_of_isBlankText {s : List Char} (h : isBlankText s = true) : strip s = [] := by
  have hleft : stripLeft s = [] := List.dropWhile_eq_nil_iff.mpr (isBlank_of_mem h)
  rw [strip, hleft]
  rfl

lemma dropWhile_isBlank_eq_self {s : List Char} (h : s.head?.any isBlank = false) : s.dropWhile isBlank = s := by
  cases s with
  | nil => rfl
  | cons c s => exact List.dropWhile_cons_of_neg (Bool.eq_false_iff.mp h)

/-- A text that has no blank at its ends is as it is without them. -/
lemma strip_eq_self {s : List Char} (hfirst : s.head?.any isBlank = false) (hlast : s.getLast?.any isBlank = false) :
    strip s = s := by
  rw [strip, stripLeft, dropWhile_isBlank_eq_self hfirst, stripRight,
    dropWhile_isBlank_eq_self (by rwa [List.head?_reverse]), List.reverse_reverse]

/-- Blanks, if any. -/
abbrev Blanks := {s : List Char // isBlankText s = true}

lemma Blanks.isBlank (b : Blanks) : ∀ c ∈ b.1, Text.isBlank c = true := isBlank_of_mem b.2

lemma Blanks.isWord (b : Blanks) : ∀ c ∈ b.1, Text.isWord c = false := fun c hc => not_isWord_of_isBlank (b.isBlank c hc)

/-- Blanks around a text make no difference to what is left of it without blanks around it. -/
lemma Blanks.strip_around (before after : Blanks) (s : List Char) : strip (before.1 ++ (s ++ after.1)) = strip s := by
  rw [strip, strip, stripLeft, stripLeft, List.dropWhile_append_of_pos before.isBlank, List.dropWhile_append]
  split
  · rename_i hblank
    rw [List.isEmpty_iff.mp hblank, List.dropWhile_eq_nil_iff.mpr after.isBlank]
  · have hafter : ∀ d ∈ after.1.reverse, Text.isBlank d = true := fun d hd => after.isBlank d (List.mem_reverse.mp hd)
    rw [stripRight, List.reverse_append, List.dropWhile_append_of_pos hafter]
    rfl

/-- Blanks around a text are stripped off it. -/
lemma Blanks.strip_between (before after : Blanks) {s : List Char} (hfirst : s.head?.any Text.isBlank = false)
    (hlast : s.getLast?.any Text.isBlank = false) : strip (before.1 ++ (s ++ after.1)) = s :=
  (before.strip_around after s).trans (strip_eq_self hfirst hlast)

def Blanks.spaces (n : ℕ) : Blanks :=
  ⟨List.replicate n ' ', by simp [isBlankText, show Text.isBlank ' ' = true from rfl]⟩

lemma eq_false_of_any {p : Char → Bool} {s : List Char} (h : s.any p = false) : ∀ c ∈ s, p c = false := fun c hc =>
  Bool.eq_false_iff.mpr (List.any_eq_false.mp h c hc)

lemma head?_any_eq_false {p : Char → Bool} {s : List Char} (h : ∀ c ∈ s, p c = false) : s.head?.any p = false := by
  cases s with
  | nil => rfl
  | cons c s => exact h c List.mem_cons_self

lemma head?_any_append {p : Char → Bool} {s t : List Char} (hs : s.head?.any p = false) (ht : t.head?.any p = false) :
    (s ++ t).head?.any p = false := by
  cases s with
  | nil => exact ht
  | cons c s => exact hs

lemma head?_any_of_prefix {p : Char → Bool} {s t : List Char} (h : s <+: t) (ht : t.head?.any p = false) :
    s.head?.any p = false := by
  obtain ⟨more, rfl⟩ := h
  cases s with
  | nil => rfl
  | cons c s => exact ht

/-- A text that starts with characters of a class, and at least one, has such a character first. -/
lemma head?_any_append_of_ne_nil {p : Char → Bool} {w : List Char} {b : Bool} (hne : w ≠ []) (hw : ∀ c ∈ w, p c = b)
    (s : List Char) : (w ++ s).head?.any p = b := by
  obtain ⟨c, w, rfl⟩ := List.exists_cons_of_ne_nil hne
  exact hw c List.mem_cons_self

/-- A text that goes on with characters of a class, and at least one, ends in such a character. -/
lemma getLast?_any_append {p : Char → Bool} {w : List Char} (hne : w ≠ []) (hw : ∀ c ∈ w, p c = true) (s : List Char) :
    (s ++ w).getLast?.any p = true := by
  obtain ⟨c, hc⟩ := Option.isSome_iff_exists.mp (List.getLast?_isSome.mpr hne)
  rw [List.getLast?_append, hc]
  exact hw c (List.mem_of_getLast? hc)

lemma getLast?_any_eq_false {p : Char → Bool} {s : List Char} (h : ∀ c ∈ s, p c = false) : s.getLast?.any p = false := by
  rw [← List.head?_reverse]
  exact head?_any_eq_false fun c hc => h c (List.mem_reverse.mp hc)

lemma getLast?_any_append_eq_false {p : Char → Bool} {s t : List Char} (hs : s.getLast?.any p = false)
    (ht : t.getLast?.any p = false) : (s ++ t).getLast?.any p = false := by
  rw [← List.head?_reverse] at *
  rw [List.reverse_append]
  exact head?_any_append ht hs

/-- A text is what is left of it without the blanks around it, between blanks. -/
lemma exists_eq_strip (s : List Char) :
    ∃ before after, isBlankText before = true ∧ isBlankText after = true ∧ s = before ++ (strip s ++ after) := by
  have hsplit (t : List Char) : isBlankText (t.takeWhile isBlank) = true ∧
      t = t.takeWhile isBlank ++ t.dropWhile isBlank :=
    ⟨List.all_takeWhile, List.takeWhile_append_dropWhile.symm⟩
  obtain ⟨hbefore, hs⟩ := hsplit s
  obtain ⟨hafter, hleft⟩ := hsplit (stripLeft s).reverse
  refine ⟨s.takeWhile isBlank, ((stripLeft s).reverse.takeWhile isBlank).reverse, hbefore, ?_, ?_⟩
  · rwa [isBlankText, List.all_reverse]
  · have hright : stripLeft s = strip s ++ ((stripLeft s).reverse.takeWhile isBlank).reverse := by
      rw [strip, stripRight, ← List.reverse_append, ← hleft, List.reverse_reverse]
    rw [← hright]
    exact hs

/-- A run of a class ends where a character comes that is not of the class. -/
lemma takeWhile_run {p : Char → Bool} {a x : List Char} (ha : ∀ c ∈ a, p c = true) (hx : x.head?.any p = false) :
    (a ++ x).takeWhile p = a := by
  rw [List.takeWhile_append_of_pos ha]
  cases x with
  | nil => simp
  | cons c x => simp_all

/-- A text starts with a run of a class in one way only, if what follows the run is not of the class. -/
lemma run_unique {p : Char → Bool} {a b x y : List Char} (ha : ∀ c ∈ a, p c = true) (hb : ∀ c ∈ b, p c = true)
    (hx : x.head?.any p = false) (hy : y.head?.any p = false) (h : a ++ x = b ++ y) : a = b ∧ x = y := by
  have hab : a = b := by
    rw [← takeWhile_run ha hx, h, takeWhile_run hb hy]
  subst hab
  exact ⟨rfl, List.append_cancel_left h⟩

/-- A text ends with a run of a class in one way only, if what stands before the run does not end in the class. -/
lemma run_unique_right {p : Char → Bool} {a b x y : List Char} (ha : ∀ c ∈ a, p c = true) (hb : ∀ c ∈ b, p c = true)
    (hx : x.getLast?.any p = false) (hy : y.getLast?.any p = false) (h : x ++ a = y ++ b) : x = y ∧ a = b := by
  rw [← List.head?_reverse] at hx hy
  have hreverse : a.reverse ++ x.reverse = b.reverse ++ y.reverse := by
    rw [← List.reverse_append, h, List.reverse_append]
  obtain ⟨hab, hxy⟩ := run_unique (fun c hc => ha c (List.mem_reverse.mp hc)) (fun c hc => hb c (List.mem_reverse.mp hc))
    hx hy hreverse
  exact ⟨List.reverse_inj.mp hxy, List.reverse_inj.mp hab⟩

end CodeAudit.Text
