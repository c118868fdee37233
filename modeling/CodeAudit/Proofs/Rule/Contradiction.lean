import CodeAudit.Proofs.Rule.Numbers
import CodeAudit.Proofs.Source.Condition

/-! Conditions that are reported as contradictory. Two comparisons side by side repeat their inner operands; what stands
around the outer ones goes unseen, and it may make the condition true. -/
namespace CodeAudit

open Regex
open Source (Arith Valuation Comparison Conjunct IfLine IsAdjacent Shape Token isRelation_blanks isRelation_of_isDotted)

/-- Two comparisons of the same two tokens, of which the outer sums may have more. -/
structure Source.Comparison.Repeats (p q : Comparison) (a b : Token) : Prop where
  left : p.left.last? = some a
  right : p.right = .single (.token b)
  again_left : q.left = .single (.token a)
  again_right : q.right.first? = some b

namespace Rule.Logic

/-- Word characters and points, and at least one. -/
abbrev Run := {w : List Char // w ≠ [] ∧ ∀ c ∈ w, isDotted c = true}

/-- What the expression matches: two operands compared and compared again. -/
structure Site where
  left : Run
  beforeFirst : Text.Blanks
  first : Char
  afterFirst : Text.Blanks
  right : Run
  beforeAnd : Text.Blanks
  beforeAnd_ne : beforeAnd.1 ≠ []
  afterAnd : Text.Blanks
  afterAnd_ne : afterAnd.1 ≠ []
  beforeSecond : Text.Blanks
  second : Char
  afterSecond : Text.Blanks
  isRelation : Source.isRelation first = true ∧ Source.isRelation second = true

namespace Site

/-- What stands between the two signs. -/
def between (e : Site) : List Char :=
  e.afterFirst.1 ++ (e.right.1 ++ (e.beforeAnd.1 ++ ("and".toList ++ (e.afterAnd.1 ++ (e.left.1 ++ e.beforeSecond.1)))))

def text (e : Site) : List Char :=
  e.left.1 ++ (e.beforeFirst.1 ++ e.first :: '=' :: (e.between ++ e.second :: '=' :: (e.afterSecond.1 ++ e.right.1)))

lemma isRelation_between (e : Site) : ∀ c ∈ e.between, Source.isRelation c = false := by
  have hrun (w : Run) : ∀ c ∈ w.1, Source.isRelation c = false := fun c hc => isRelation_of_isDotted (w.2.2 c hc)
  simp only [between, List.forall_mem_append]
  exact ⟨isRelation_blanks _, hrun e.right, isRelation_blanks _, Text.eq_false_of_any (by decide), isRelation_blanks _,
    hrun e.left, isRelation_blanks _⟩

lemma isDotted_or_isBlank_between (e : Site) : ∀ c ∈ e.between, (isDotted c || Text.isBlank c) = true := by
  have hrun (w : Run) : ∀ c ∈ w.1, (isDotted c || Text.isBlank c) = true := fun c hc => by rw [w.2.2 c hc]; rfl
  have hblank (b : Text.Blanks) : ∀ c ∈ b.1, (isDotted c || Text.isBlank c) = true := fun c hc => by
    rw [b.isBlank c hc, Bool.or_true]
  simp only [between, List.forall_mem_append]
  exact ⟨hblank _, hrun e.right, hblank _, List.all_eq_true.mp (by decide), hblank _, hrun e.left, hblank _⟩

end Site

section Matches

variable {s t : Cursor} {pre post : List Char} {name : String}

/-- A comparison sign with the blanks around it. -/
def spacedComparison (name : String) : Regex := blanks ++ group name comparison ++ blanks

lemma exists_spacedComparison (hs : s.At pre post) (ht : t ∈ (spacedComparison name).ends s) :
    ∃ (b : Text.Blanks) (r : Char) (b' : Text.Blanks) (post' : List Char), post = b.1 ++ r :: '=' :: (b'.1 ++ post') ∧
      Source.isRelation r = true ∧ t.At (pre ++ (b.1 ++ r :: '=' :: b'.1)) post' ∧
      t.captured = (name, [r, '=']) :: s.captured := by
  obtain ⟨v, hv, ht⟩ := mem_ends_seq.mp ht
  obtain ⟨u, hu, hv⟩ := mem_ends_seq.mp hv
  obtain ⟨b, post, rfl, hblanks⟩ := exists_captures rfl hs hu
  obtain ⟨sign, post, rfl, hsign⟩ := exists_captures_group rfl hblanks.at_end hv
  obtain ⟨b', post, rfl, hblanks'⟩ := exists_captures rfl hsign.at_end ht
  obtain ⟨r, hr, rfl⟩ : ∃ r, Source.isRelation r = true ∧ sign = [r, '='] := by
    obtain ⟨word, hword, rfl⟩ := spells_oneOf.mp (spells_group.mp hsign.spells)
    simp only [List.mem_cons, List.not_mem_nil, or_false] at hword
    rcases hword with rfl | rfl
    · exact ⟨'=', rfl, rfl⟩
    · exact ⟨'!', rfl, rfl⟩
  refine ⟨⟨b, List.all_eq_true.mpr hblanks.spells⟩, r, ⟨b', List.all_eq_true.mpr hblanks'.spells⟩, post, by simp, hr,
    by simpa using hblanks'.at_end, ?_⟩
  rw [hblanks'.captured, hsign.captured, hblanks.captured]
  rfl

lemma exists_run (hs : s.At pre post) (ht : t ∈ (group name (many1 isDotted)).ends s) :
    ∃ (w : Run) (post' : List Char), post = w.1 ++ post' ∧ t.At (pre ++ w.1) post' ∧
      t.captured = (name, w.1) :: s.captured := by
  obtain ⟨w, post, rfl, hw⟩ := exists_captures_group rfl hs ht
  exact ⟨⟨w, spells_many1.mp (spells_group.mp hw.spells)⟩, post, rfl, hw.at_end, hw.captured⟩

lemma exists_conjunction (hs : s.At pre post) (ht : t ∈ (gap ++ "and" ++ gap).ends s) :
    ∃ (b b' : Text.Blanks) (post' : List Char), b.1 ≠ [] ∧ b'.1 ≠ [] ∧ post = b.1 ++ ("and".toList ++ (b'.1 ++ post')) ∧
      t.At (pre ++ (b.1 ++ ("and".toList ++ b'.1))) post' ∧ t.captured = s.captured := by
  obtain ⟨w, post, rfl, hw⟩ := exists_captures rfl hs ht
  obtain ⟨_, b', rfl, ⟨b, word, rfl, hb, hword⟩, hb'⟩ := hw.spells
  obtain rfl := spells_text.mp hword
  obtain ⟨hne, hblank⟩ := spells_many1.mp hb
  obtain ⟨hne', hblank'⟩ := spells_many1.mp hb'
  exact ⟨⟨b, List.all_eq_true.mpr hblank⟩, ⟨b', List.all_eq_true.mpr hblank'⟩, post, hne, hne', by simp, by simpa using hw.at_end,
    hw.captured⟩

lemma exists_compared
    (hs : s.At pre post) (ht : t ∈ (notAfter isDotted ++ (group "left" (many1 isDotted) ++ (spacedComparison "first" ++
      group "right" (many1 isDotted)))).ends s) :
    ∃ (l : Run) (b : Text.Blanks) (c : Char) (b' : Text.Blanks) (r : Run) (post' : List Char),
      post = l.1 ++ (b.1 ++ c :: '=' :: (b'.1 ++ (r.1 ++ post'))) ∧ pre.getLast?.any isDotted = false ∧
        Source.isRelation c = true ∧ t.At (pre ++ (l.1 ++ (b.1 ++ c :: '=' :: (b'.1 ++ r.1)))) post' ∧
        t.captured = ("right", r.1) :: ("first", [c, '=']) :: ("left", l.1) :: s.captured := by
  obtain ⟨u, hu, ht⟩ := mem_ends_seq.mp ht
  obtain ⟨v, hv, ht⟩ := mem_ends_seq.mp ht
  obtain ⟨w, hw, ht⟩ := mem_ends_seq.mp ht
  obtain ⟨_, _, rfl, hbefore⟩ := exists_captures rfl hs hu
  obtain ⟨rfl, hpre⟩ := hbefore.spells
  obtain ⟨l, _, rfl, hat, hleft⟩ := exists_run hbefore.at_end hv
  obtain ⟨b, c, b', _, rfl, hc, hat, hfirst⟩ := exists_spacedComparison hat hw
  obtain ⟨r, post, rfl, hat, hright⟩ := exists_run hat ht
  refine ⟨l, b, c, b', r, post, by simp, hpre, hc, by simpa using hat, ?_⟩
  rw [hright, hfirst, hleft, hbefore.captured]
  rfl

/-- What is asked for again are the two operands. -/
lemma exists_compared_again {l r : List Char} (hl : (s.captured.find? (·.1 == "left")).map (·.2) = some l)
    (hr : (s.captured.find? (·.1 == "right")).map (·.2) = some r) (hs : s.At pre post)
    (ht : t ∈ (again "left" ++ (spacedComparison "second" ++ (again "right" ++ notAhead (one isDotted)))).ends s) :
    ∃ (b : Text.Blanks) (c : Char) (b' : Text.Blanks) (post' : List Char),
      post = l ++ (b.1 ++ c :: '=' :: (b'.1 ++ (r ++ post'))) ∧ post'.head?.any isDotted = false ∧
        Source.isRelation c = true ∧ t.At (pre ++ (l ++ (b.1 ++ c :: '=' :: (b'.1 ++ r)))) post' ∧
        t.captured = ("second", [c, '=']) :: s.captured := by
  obtain ⟨u, hu, ht⟩ := mem_ends_seq.mp ht
  obtain ⟨v, hv, ht⟩ := mem_ends_seq.mp ht
  obtain ⟨w, hw, ht⟩ := mem_ends_seq.mp ht
  obtain ⟨l', _, rfl, hat, hleft, hl'⟩ := exists_again hs hu
  obtain rfl := Option.some.inj (hl.symm.trans hl')
  obtain ⟨b, c, b', _, rfl, hc, hat, hsecond⟩ := exists_spacedComparison hat hv
  obtain ⟨r', _, rfl, hat, hright, hr'⟩ := exists_again hat hw
  obtain rfl : r = r' := by
    rw [hsecond, hleft] at hr'
    exact Option.some.inj (hr.symm.trans hr')
  obtain ⟨_, post', rfl, hbehind⟩ := exists_captures rfl hat ht
  obtain ⟨rfl, hpost⟩ := hbehind.spells
  refine ⟨b, c, b', post', by simp, ?_, hc, by simpa using hbehind.at_end, ?_⟩
  · cases post' with
    | nil => rfl
    | cons d post' => exact Bool.eq_false_iff.mpr fun hd => hpost ⟨[d], post', rfl, d, hd, rfl⟩
  · rw [hbehind.captured, hright, hsecond, hleft]
    rfl

/-- A way to match goes over two operands that are compared and compared again. -/
lemma exists_site (hs : s.At pre post) (ht : t ∈ contradiction.expression.ends s) :
    ∃ (e : Site) (post' : List Char), post = e.text ++ post' ∧ pre.getLast?.any isDotted = false ∧
      post'.head?.any isDotted = false ∧ t.At (pre ++ e.text) post' ∧
      t.captured = ("second", [e.second, '=']) :: ("right", e.right.1) :: ("first", [e.first, '=']) ::
        ("left", e.left.1) :: s.captured := by
  have hparts : t ∈ ((notAfter isDotted ++ (group "left" (many1 isDotted) ++ (spacedComparison "first" ++
      group "right" (many1 isDotted)))) ++ ((gap ++ "and" ++ gap) ++ (again "left" ++ (spacedComparison "second" ++
        (again "right" ++ notAhead (one isDotted)))))).ends s := by
    simpa only [contradiction, spacedComparison, ends_append, List.flatMap_assoc] using ht
  obtain ⟨u, hu, ht⟩ := mem_ends_seq.mp hparts
  obtain ⟨v, hv, ht⟩ := mem_ends_seq.mp ht
  obtain ⟨l, b, c, b', r, _, rfl, hpre, hc, hat, hcaught⟩ := exists_compared hs hu
  obtain ⟨g, g', _, hg, hg', rfl, hat, hand⟩ := exists_conjunction hat hv
  have hbehind := exists_compared_again (l := l.1) (r := r.1) (by rw [hand, hcaught]; rfl) (by rw [hand, hcaught]; rfl) hat ht
  obtain ⟨d, c', d', post', rfl, hpost, hc', hat, hagain⟩ := hbehind
  refine ⟨⟨l, b, c, b', r, g, hg, g', hg', d, c', d', hc, hc'⟩, post', ?_, hpre, hpost, ?_, ?_⟩
  · simp [Site.text, Site.between]
  · simpa [Site.text, Site.between] using hat
  · rw [hagain, hand, hcaught]

end Matches

lemma advances_contradiction : contradiction.expression.Advances := by
  intro s t pre post hs ht
  obtain ⟨e, post', hpost, -, -, hat, -⟩ := exists_site hs ht
  exact ⟨e.text, post', hpost, hat⟩

lemma exists_site_of_mem_all {text : List Char} {m : Found} (hm : m ∈ contradiction.expression.all text) :
    ∃ (e : Site) (pre post : List Char), text = pre ++ (e.text ++ post) ∧ pre.getLast?.any isDotted = false ∧
      post.head?.any isDotted = false ∧ m.group "first" = [e.first, '='] ∧ m.group "second" = [e.second, '='] := by
  obtain ⟨pre, _, s, t, rfl, hs, -, hfound⟩ := exists_place_of_mem_all advances_contradiction hm
  obtain ⟨ht, hmatch⟩ := mem_ends_of_foundAt hfound
  have hcaptured : m.captured = t.captured := by rw [hmatch]; rfl
  obtain ⟨e, post, rfl, hpre, hpost, -, hcaught⟩ := exists_site hs ht
  refine ⟨e, pre, post, rfl, hpre, hpost, ?_, ?_⟩
  · rw [m.group_eq, hcaptured, hcaught]
    rfl
  · rw [m.group_eq, hcaptured, hcaught]
    rfl

section Operands

variable {shape : Shape} {e : Arith shape} {front back pre post : List Char} {w : Run} {b b' : Text.Blanks}

/-- Where a sum and an operand end in one place, the operand is the last token of the sum. -/
lemma exists_last? (hfront : front.getLast?.any isDotted = false) (hpre : pre.getLast?.any isDotted = false)
    (h : front ++ (e.text ++ b.1) = pre ++ (w.1 ++ b'.1)) : ∃ t, e.last? = some t ∧ t.text = w.1 := by
  obtain ⟨hne, hdotted⟩ := w.2
  have hw : (pre ++ w.1).getLast?.any Text.isBlank = false := by
    rw [List.getLast?_append_of_ne_nil _ hne]
    exact Text.getLast?_any_eq_false fun c hc => not_isBlank_of_isDotted (hdotted c hc)
  rw [← List.append_assoc, ← List.append_assoc] at h
  obtain ⟨htext, -⟩ := Text.run_unique_right b.isBlank b'.isBlank (e.getLast?_text front) hw h
  cases hlast : e.last? with
  | none =>
    obtain ⟨f, he⟩ := Arith.text_of_last?_eq_none hlast
    have hend := Text.getLast?_any_append hne hdotted pre
    rw [← htext, he, ← List.append_assoc, List.getLast?_concat] at hend
    cases hend
  | some t =>
    obtain ⟨f, he, hf⟩ := Arith.text_of_last?_eq_some hlast
    rw [he, ← List.append_assoc] at htext
    have hbefore := Text.getLast?_any_append_eq_false hfront hf
    exact ⟨t, rfl, (Text.run_unique_right t.isDotted hdotted hbefore hpre htext).2⟩

/-- Where a sum and an operand start in one place, the operand is the first token of the sum. -/
lemma exists_first? (hback : back.head?.any isDotted = false) (hpost : post.head?.any isDotted = false)
    (h : b.1 ++ (e.text ++ back) = b'.1 ++ (w.1 ++ post)) : ∃ t, e.first? = some t ∧ t.text = w.1 := by
  obtain ⟨hne, hdotted⟩ := w.2
  have hw : (w.1 ++ post).head?.any Text.isBlank = false :=
    Text.head?_any_append_of_ne_nil hne (fun c hc => not_isBlank_of_isDotted (hdotted c hc)) post
  obtain ⟨-, htext⟩ := Text.run_unique b.isBlank b'.isBlank (e.head?_text back) hw h
  cases hfirst : e.first? with
  | none =>
    obtain ⟨c, rest, he, hc, -⟩ := Arith.text_of_first?_eq_none hfirst
    have hstart := Text.head?_any_append_of_ne_nil hne hdotted post
    rw [← htext, he] at hstart
    exact absurd (hc.symm.trans hstart) Bool.false_ne_true
  | some t =>
    obtain ⟨f, he, hf⟩ := Arith.text_of_first?_eq_some hfirst
    rw [he, List.append_assoc] at htext
    exact ⟨t, rfl, (Text.run_unique t.isDotted hdotted (Text.head?_any_append hf hback) hpost htext).1⟩

end Operands

/-- The operands that a match repeats are tokens of two comparisons side by side. -/
lemma exists_repeats {e : Site} {p : Comparison} {q : Conjunct} {pre post : List Char}
    (hpre : pre.getLast?.any isDotted = false) (hpost : post.head?.any isDotted = false)
    (h : IsAdjacent p q (pre ++ (e.left.1 ++ e.beforeFirst.1)) e.first e.between e.second
      (e.afterSecond.1 ++ (e.right.1 ++ post))) : ∃ a b, p.Repeats q.comparison a b := by
  obtain ⟨⟨u, hbefore, hu⟩, -, hbetween, -, ⟨z, hbehind, hz⟩⟩ := h
  have hchars : ∀ c ∈ e.between, (isDotted c || Text.isBlank c) = true := e.isDotted_or_isBlank_between
  obtain ⟨b, hb⟩ : ∃ t, p.right = .single (.token t) :=
    Arith.eq_token fun c hc => hchars c (by simp [hbetween, hc])
  obtain ⟨a, ha⟩ : ∃ t, q.comparison.left = .single (.token t) :=
    Arith.eq_token fun c hc => hchars c (by simp [hbetween, hc])
  obtain ⟨a', hleft, ha'⟩ := exists_last? hu hpre hbefore.symm
  obtain ⟨b', hright, hb'⟩ := exists_first? hz hpost hbehind.symm
  -- between the operators the same two operands stand, the right one first
  have hfirst : ∃ t, p.right.first? = some t ∧ t.text = e.right.1 := by
    have hbehindRight : (e.beforeAnd.1 ++ ("and".toList ++ (e.afterAnd.1 ++ (e.left.1 ++ e.beforeSecond.1)))).head?.any
        isDotted = false :=
      Text.head?_any_append_of_ne_nil e.beforeAnd_ne (fun c hc => not_isDotted_of_isBlank (e.beforeAnd.isBlank c hc)) _
    exact exists_first? (q.head?_lead _) hbehindRight (hbetween.symm.trans rfl)
  have hlast : ∃ t, q.comparison.left.last? = some t ∧ t.text = e.left.1 := by
    have hbeforeLeft : (e.afterFirst.1 ++ (e.right.1 ++ (e.beforeAnd.1 ++ ("and".toList ++ e.afterAnd.1)))).getLast?.any
        isDotted = false := by
      simp only [← List.append_assoc]
      rw [List.getLast?_append_of_ne_nil _ e.afterAnd_ne]
      exact Text.getLast?_any_eq_false fun c hc => not_isDotted_of_isBlank (e.afterAnd.isBlank c hc)
    have hends : p.after.1 ++ p.right.text ++ q.lead ++ (q.comparison.left.text ++ q.comparison.before.1) =
        e.afterFirst.1 ++ (e.right.1 ++ (e.beforeAnd.1 ++ ("and".toList ++ e.afterAnd.1))) ++
          (e.left.1 ++ e.beforeSecond.1) := by
      simpa [Site.between] using hbetween.symm
    exact exists_last? (q.getLast?_lead (p.after.1 ++ p.right.text)) hbeforeLeft hends
  rw [hb] at hfirst
  rw [ha] at hlast
  obtain ⟨_, ⟨⟩, hbtext⟩ := hfirst
  obtain ⟨_, ⟨⟩, hatext⟩ := hlast
  obtain rfl := Token.text_injective (hatext.trans ha'.symm)
  obtain rfl := Token.text_injective (hbtext.trans hb'.symm)
  exact ⟨a, b, hleft, hb, ha, hright⟩

end Rule.Logic

/-- What two comparisons that contradict each other leave of a true condition: the rests of the two outer sums differ. -/
lemma Source.Comparison.Repeats.rest_ne {p q : Comparison} {a b : Token} (h : p.Repeats q a b) (hequal : p.equal ≠ q.equal)
    {v : Valuation} (hp : p.Holds v) (hq : q.Holds v) :
    p.left.value v - a.value v ≠ b.value v - q.right.value v := by
  have hright : p.right.value v = b.value v := by rw [h.right]; rfl
  have hleft : q.left.value v = a.value v := by rw [h.again_left]; rfl
  rw [Comparison.Holds, hright] at hp
  rw [Comparison.Holds, hleft] at hq
  by_cases hsame : p.equal = true
  · have hdiffer : ¬ q.equal = true := fun hq => hequal (hsame.trans hq.symm)
    rw [if_pos hsame] at hp
    rw [if_neg hdiffer] at hq
    omega
  · have hdiffer : q.equal = true := by
      cases hq : q.equal
      · exact absurd ((Bool.not_eq_true _).mp hsame) (hq ▸ hequal)
      · rfl
    rw [if_neg hsame] at hp
    rw [if_pos hdiffer] at hq
    omega

namespace PatternScan

open Source Rule.Logic

/-- A condition reported as contradictory compares two tokens, and behind an "and" compares them again the other way. It
is true only where the rests of the two outer sums differ, and so it is never true if the tokens stand alone. -/
theorem reported_contradiction_repeats_tokens {code : List Char} {index : ℕ} {s : IfLine}
    (hline : (Text.lines code)[index]? = some s.text)
    (habove : Unquoted (Text.joinLines ((Text.lines code).take index))) (codeStructure : Structure)
    (hreported : ∃ m ∈ (ofCode Rule.catalog codeStructure code).ruleMatches,
      m.ruleId = contradiction.id ∧ m.startLine = index + 1) :
    ∃ p q a b, [p, q] <:+: s.comparisons ∧ p.equal ≠ q.equal ∧ p.Repeats q a b ∧
      (∀ v, s.Holds v → p.left.value v - a.value v ≠ b.value v - q.right.value v) ∧
      (p.left = .single (.token a) → q.right = .single (.token b) → ∀ v, ¬ s.Holds v) := by
  have hmasked := IfLine.getElem?_maskLines hline habove
  have hblank : Text.isBlankText s.text = false :=
    Text.isBlankText_eq_false_of_mem (c := ':') (by simp [IfLine.text]) rfl
  have hrule : contradiction ∈ Rule.catalog := by simp [Rule.catalog]
  have htotal : contradiction.Total := fun _ _ _ => Rule.exists_ite_ok _ _
  obtain ⟨c, hc, es, hne, hevidence⟩ := (exists_reported_iff hrule htotal hmasked hblank codeStructure).mp hreported
  obtain ⟨e, pre, post, htext, hpre, hpost, hfirst, hsecond⟩ := exists_site_of_mem_all hc
  have hdiffer : e.first ≠ e.second := by
    intro hsame
    simp only [contradiction, hfirst, hsecond, hsame, beq_self_eq_true, if_true] at hevidence
    exact hne (Except.ok.inj hevidence).symm
  have hlast : (pre ++ (e.left.1 ++ e.beforeFirst.1)).getLast?.any isRelation = false := by
    rw [List.getLast?_append_of_ne_nil _ (List.append_ne_nil_of_left_ne_nil e.left.2.1 _)]
    refine Text.getLast?_any_eq_false (List.forall_mem_append.mpr ⟨fun c hc => ?_, isRelation_blanks _⟩)
    exact isRelation_of_isDotted (e.left.2.2 c hc)
  obtain ⟨p, q, hbeside, hadjacent⟩ := s.exists_isAdjacent e.isRelation.1 e.isRelation.2 e.isRelation_between hlast
    (x := pre ++ (e.left.1 ++ e.beforeFirst.1)) (y := e.afterSecond.1 ++ (e.right.1 ++ post)) (by
      rw [htext]
      simp [Rule.Logic.Site.text])
  obtain ⟨a, b, hrepeats⟩ := exists_repeats hpre hpost hadjacent
  have hequal : p.equal ≠ q.comparison.equal := by
    intro hsame
    refine hdiffer ?_
    rw [← hadjacent.first, ← hadjacent.second, Comparison.relation, Comparison.relation, hsame]
  have hrest : ∀ v, s.Holds v → p.left.value v - a.value v ≠ b.value v - q.comparison.right.value v := fun v hv =>
    hrepeats.rest_ne hequal (hv p (hbeside.subset (by simp))) (hv q.comparison (hbeside.subset (by simp)))
  refine ⟨p, q.comparison, a, b, hbeside, hequal, hrepeats, hrest, fun hleft hright v hv => hrest v hv ?_⟩
  rw [hleft, hright]
  simp [Arith.value]

/-- A variable of one letter. -/
def letter (c : Char) (h : isIdentifier [c] = true) : Token := .name ⟨[c], h⟩

/-- The line that compares a sum with `b`, and behind an "and" `a` with `b` the other way. -/
def comparedTwice (left : Arith .sum) : IfLine :=
  let a := letter 'a' (by decide +kernel)
  let b := letter 'b' (by decide +kernel)
  { indent := .spaces 0
    opening := ⟨[' '], rfl⟩
    opening_ne := List.cons_ne_nil _ _
    first := ⟨left, .spaces 1, true, .spaces 1, .single (.token b)⟩
    others := [
      { closing := ⟨[' '], rfl⟩
        closing_ne := List.cons_ne_nil _ _
        opening := ⟨[' '], rfl⟩
        opening_ne := List.cons_ne_nil _ _
        comparison := ⟨.single (.token a), .spaces 1, false, .spaces 1, .single (.token b)⟩ }]
    closing := ⟨[], rfl⟩
    trail := .spaces 0 }

/-- A condition that is never true. -/
def neverTrue : List Char := "if a == b and a != b:\n    pass\n".toList

/-- A condition that is true where `x` is the difference of `b` and `a`, and not zero. -/
def sometimesTrue : List Char := "if x + a == b and a != b:\n    pass\n".toList

theorem reported_contradiction_of_tokens :
    (∃ m ∈ (ofCode Rule.catalog {} neverTrue).ruleMatches, m.ruleId = contradiction.id ∧ m.startLine = 1) ∧
      ∃ s : IfLine, (Text.lines neverTrue)[0]? = some s.text ∧ ∀ v, ¬ s.Holds v := by
  let s := comparedTwice (.single (.token (letter 'a' (by decide +kernel))))
  have hline : (Text.lines neverTrue)[0]? = some s.text := by decide +kernel
  have hreported : ∃ m ∈ (ofCode Rule.catalog {} neverTrue).ruleMatches,
      m.ruleId = contradiction.id ∧ m.startLine = 0 + 1 := by decide +kernel
  obtain ⟨p, q, a, b, hbeside, -, hrepeats, -, hfalse⟩ :=
    reported_contradiction_repeats_tokens hline (by decide) {} hreported
  have htwo : [p, q] = s.comparisons := hbeside.eq_of_length rfl
  obtain ⟨rfl, hq⟩ := List.cons.inj htwo
  obtain ⟨rfl, -⟩ := List.cons.inj hq
  refine ⟨hreported, s, hline, hfalse ?_ ?_⟩
  · rw [← Option.some.inj hrepeats.left]
    rfl
  · rw [← Option.some.inj hrepeats.again_right]

/-- A reported condition may be true: the operand that is seen need not be the whole sum. -/
theorem reported_contradiction_not_always_false :
    ¬ ∀ (code : List Char) (index : ℕ) (s : IfLine), (Text.lines code)[index]? = some s.text →
      Unquoted (Text.joinLines ((Text.lines code).take index)) →
      (∃ m ∈ (ofCode Rule.catalog {} code).ruleMatches, m.ruleId = contradiction.id ∧ m.startLine = index + 1) →
      ∀ v, ¬ s.Holds v := by
  intro h
  let x := letter 'x' (by decide +kernel)
  let a := letter 'a' (by decide +kernel)
  let s := comparedTwice (.extended (.single (.token x)) (.spaces 1) false (.spaces 1) (.token a))
  -- `x` and `b` are one, and `a` is zero
  let v : Valuation := ⟨fun n => if n.1 = ['a'] then 0 else 1, fun _ => 0⟩
  exact h sometimesTrue 0 s (by decide +kernel) (by decide) (by decide +kernel) v (by decide +kernel)

end PatternScan
end CodeAudit
