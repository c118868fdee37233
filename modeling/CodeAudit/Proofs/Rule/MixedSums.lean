import CodeAudit.Proofs.Rule.Addends
import CodeAudit.Proofs.Rule.Numbers
import CodeAudit.Proofs.Source.Block

/-! Sums of numbers and strings. The addends are read in pairs, from left to right and each of them once, so that two of
a different kind side by side may be in no pair. -/
namespace CodeAudit

open Regex
open Source (Addend SpacedAddend SumLine)

/-- The pairs in which addends are read from left to right. -/
def Source.Addend.pairs : List Addend → List (Addend × Addend)
  | a :: b :: rest => if a.isRead && b.isRead then (a, b) :: pairs rest else pairs (b :: rest)
  | _ => []

namespace Rule.Mapping

variable {pre w post : List Char}

section Search

variable {skipped token b : List Char}

lemma head_of_expression_spells {c : Char} {rest : List Char} (h : mixedOperands.expression.Spells pre w post)
    (htext : c :: rest = w ++ post) :
    (isDotted c = true ∧ pre.getLast?.any isDotted = false) ∨ Source.Mask.isQuote c = true := by
  obtain ⟨l, x, y, r, rfl, -, -, hl, -⟩ := expression_spells h
  exact head_of_operand_spells hl (by simpa using htext)

/-- No match begins with a character of another kind. -/
lemma allAfter_of_apart (h : ∀ c ∈ skipped, isDotted c = false ∧ Source.Mask.isQuote c = false) :
    mixedOperands.expression.allAfter pre (skipped ++ post) = mixedOperands.expression.allAfter (pre ++ skipped) post := by
  refine allAfter_append rfl fun front c back hskipped w post' htext hspells => ?_
  obtain ⟨hdotted, hquote⟩ := h c (by simp [hskipped])
  rcases head_of_expression_spells hspells htext with ⟨hc, -⟩ | hc
  · rw [hdotted] at hc
    cases hc
  · rw [hquote] at hc
    cases hc

lemma allAfter_of_sign (b : Text.Blanks) {d : Char} (hd : isDotted d = false ∧ Source.Mask.isQuote d = false) :
    mixedOperands.expression.allAfter pre (b.1 ++ [d] ++ post) = mixedOperands.expression.allAfter (pre ++ (b.1 ++ [d])) post := by
  refine allAfter_of_apart fun c hc => ?_
  rcases List.mem_append.mp hc with hc | hc
  · exact apart_of_isBlank (b.isBlank c hc)
  · rwa [List.mem_singleton.mp hc]

/-- Within a run of word characters and points a match can only begin with the first one. -/
lemma allAfter_token (htoken : ∀ c ∈ token, isDotted c = true)
    (hfirst : ∀ w post', token ++ post = w ++ post' → ¬ mixedOperands.expression.Spells pre w post') :
    mixedOperands.expression.allAfter pre (token ++ post) = mixedOperands.expression.allAfter (pre ++ token) post := by
  refine allAfter_append rfl fun front c back hsplit w post' htext hspells => ?_
  have hc : isDotted c = true := htoken c (by simp [hsplit])
  rcases List.eq_nil_or_concat front with rfl | ⟨before, d, rfl⟩
  · refine hfirst w post' ?_ (by simpa using hspells)
    rw [hsplit, ← htext]
    rfl
  · rw [List.concat_eq_append] at hsplit hspells
    rcases head_of_expression_spells hspells htext with ⟨-, hlast⟩ | hquote
    · have hd : isDotted d = true := htoken d (by simp [hsplit])
      rw [← List.append_assoc, List.getLast?_concat, Option.any_some, hd] at hlast
      cases hlast
    · rw [not_isDotted_of_isQuote hquote] at hc
      cases hc

lemma exists_eq_append_of_bne {q : Char} {front more s rest : List Char} (hfront : ∀ c ∈ front, (c != q) = true)
    (htext : front ++ more = s ++ q :: rest) : ∃ t, s = front ++ t ∧ more = t ++ q :: rest := by
  rcases List.append_eq_append_iff.mp htext with ⟨t, hs, hmore⟩ | ⟨t, rfl, hmore⟩
  · exact ⟨t, hs, hmore⟩
  · cases t with
    | nil => exact ⟨[], by simp, by simpa using hmore.symm⟩
    | cons c t =>
      obtain ⟨rfl, -⟩ := List.cons.inj hmore
      simpa using hfront q (by simp)

/-- An addend has no quote of a kind, or it is a string in such quotes. -/
lemma masked_of_quote {q : Char} (hq : Source.Mask.isQuote q = true) (a : Addend) :
    (∀ c ∈ a.masked, (c != q) = true) ∨ ∃ n, ∀ more, a.masked ++ more = q :: (List.replicate n ' ' ++ q :: more) := by
  cases a with
  | number n => exact .inl fun c hc => bne_quote hq (not_isQuote_of_isDotted (n.isDotted c hc))
  | quoted u =>
    by_cases hquote : u.quote = q
    · exact .inr ⟨u.contents.length, fun more => by rw [u.masked_append, hquote]⟩
    · left
      intro c hc
      simp only [Addend.masked, List.mem_cons, List.mem_append, List.not_mem_nil, or_false] at hc
      rcases hc with rfl | hc | rfl
      · exact bne_iff_ne.mpr hquote
      · rw [List.eq_of_mem_replicate hc]
        exact bne_quote hq rfl
      · exact bne_iff_ne.mpr hquote

/-- The next quote behind a string opens another one, whose mask is blanks up to the closing quote. -/
lemma head?_behind_quote {q : Char} (hq : Source.Mask.isQuote q = true) (ts : List SpacedAddend)
    (hb : ∀ c ∈ b, Text.isBlank c = true) {s rest : List Char}
    (htext : b ++ SpacedAddend.othersShown Addend.masked ts = s ++ q :: rest) (hs : ∀ c ∈ s, (c != q) = true) :
    (rest.dropWhile Text.isBlank).head? = some q := by
  have hblank : ∀ {c : Char}, Text.isBlank c = true → (c != q) = true := fun hc => bne_quote hq (apart_of_isBlank hc).2
  induction ts generalizing b s with
  | nil =>
    obtain ⟨t, rfl, hnil⟩ := exists_eq_append_of_bne (fun c hc => hblank (hb c hc)) htext
    simp [SpacedAddend.othersShown] at hnil
  | cons t ts ih =>
    have hfront : ∀ c ∈ b ++ '+' :: t.lead.1, (c != q) = true := by
      intro c hc
      simp only [List.mem_append, List.mem_cons] at hc
      rcases hc with hc | rfl | hc
      · exact hblank (hb c hc)
      · exact bne_quote hq rfl
      · exact hblank (t.lead.isBlank c hc)
    have hsplit : (b ++ '+' :: t.lead.1) ++ (t.addend.masked ++ (t.trail.1 ++ SpacedAddend.othersShown Addend.masked ts)) =
        s ++ q :: rest := by
      rw [← htext]
      simp [SpacedAddend.othersShown, SpacedAddend.shown]
    obtain ⟨s, rfl, hrest⟩ := exists_eq_append_of_bne hfront hsplit
    replace hs : ∀ c ∈ s, (c != q) = true := fun c hc => hs c (by simp [hc])
    rcases masked_of_quote hq t.addend with hother | ⟨n, hstring⟩
    · obtain ⟨s, rfl, hmore⟩ := exists_eq_append_of_bne hother hrest
      exact ih t.trail.isBlank hmore fun c hc => hs c (by simp [hc])
    · rw [hstring] at hrest
      cases s with
      | nil =>
        have hspaces : ∀ c ∈ List.replicate n ' ', Text.isBlank c = true := List.forall_mem_replicate.mpr (.inr rfl)
        rw [← (List.cons.inj hrest).2, List.dropWhile_append_of_pos hspaces,
          List.dropWhile_cons_of_neg (by simp [not_isBlank_of_isQuote hq])]
        rfl
      | cons c s =>
        obtain ⟨rfl, -⟩ := List.cons.inj hrest
        simpa using hs q List.mem_cons_self

/-- Nothing is found within an addend if no match begins with its first character. -/
lemma allAfter_masked {a : Addend} (ts : List SpacedAddend) (hb : ∀ c ∈ b, Text.isBlank c = true)
    (hfirst : ∀ w post', a.masked ++ (b ++ SpacedAddend.othersShown Addend.masked ts) = w ++ post' →
      ¬ mixedOperands.expression.Spells pre w post') :
    mixedOperands.expression.allAfter pre (a.masked ++ (b ++ SpacedAddend.othersShown Addend.masked ts)) =
      mixedOperands.expression.allAfter (pre ++ a.masked) (b ++ SpacedAddend.othersShown Addend.masked ts) := by
  cases a with
  | number n => exact allAfter_token n.isDotted hfirst
  | quoted s =>
    have hspaces : ∀ c ∈ List.replicate s.contents.length ' ', isDotted c = false ∧ Source.Mask.isQuote c = false :=
      List.forall_mem_replicate.mpr (.inr ⟨rfl, rfl⟩)
    have hclosing : ∀ w post', s.quote :: (b ++ SpacedAddend.othersShown Addend.masked ts) = w ++ post' →
        ¬ mixedOperands.expression.Spells (pre ++ [s.quote] ++ List.replicate s.contents.length ' ') w post' := by
      intro w post' htext hspells
      obtain ⟨l, x, y, r, rfl, hx, -, hl, -⟩ := expression_spells hspells
      -- the next quote opens another string, behind which no plus sign comes
      obtain ⟨u, rfl, hnext, hu⟩ := quoted_of_operand_spells s.isQuote hl (htext.trans (by simp))
      have hhead := head?_behind_quote s.isQuote ts hb hnext hu
      rw [List.dropWhile_append_of_pos hx] at hhead
      have hquote := s.isQuote
      rw [← Option.some.inj hhead] at hquote
      cases hquote
    rw [s.masked_append] at hfirst ⊢
    rw [allAfter_cons rfl hfirst, allAfter_of_apart hspaces, allAfter_cons rfl hclosing]
    simp [Addend.masked]

/-- A candidate that reads a pair of addends. -/
structure IsPair (m : Found) (pair : Addend × Addend) : Prop where
  isRead : pair.1.isRead = true ∧ pair.2.isRead = true
  left : m.group "left" = pair.1.masked
  right : m.group "right" = pair.2.masked

lemma getLast?_append_blanks (hpre : pre.getLast?.any isDotted = false) (hb : ∀ c ∈ b, Text.isBlank c = true) :
    (pre ++ b).getLast?.any isDotted = false :=
  Text.getLast?_any_append_eq_false hpre (Text.getLast?_any_eq_false fun c hc => (apart_of_isBlank (hb c hc)).1)

lemma getLast?_sign {d : Char} (hd : isDotted d = false) (front : List Char) :
    (front ++ [d]).getLast?.any isDotted = false := by
  rw [List.getLast?_concat]
  exact hd

lemma head?_othersShown (b : Text.Blanks) (ts : List SpacedAddend) :
    (b.1 ++ SpacedAddend.othersShown Addend.masked ts).head?.any isDotted = false := by
  cases ts with
  | nil => exact Text.head?_any_append (Text.head?_any_eq_false fun c hc => (apart_of_isBlank (b.isBlank c hc)).1) rfl
  | cons t ts => exact head?_sign b.isBlank rfl

/-- Two addends that are read are the next match. -/
lemma exists_allAfter_pair {a p : Addend} {b' : List Char} (ha : a.isRead = true) (hp : p.isRead = true)
    (hb : ∀ c ∈ b, Text.isBlank c = true) (hb' : ∀ c ∈ b', Text.isBlank c = true)
    (hpre : pre.getLast?.any isDotted = false) (hpost : post.head?.any isDotted = false) :
    ∃ m pre', IsPair m (a, p) ∧
      mixedOperands.expression.allAfter pre (a.masked ++ (b ++ '+' :: (b' ++ (p.masked ++ post)))) =
        m :: mixedOperands.expression.allAfter pre' post := by
  have hbefore : (pre ++ (a.masked ++ b ++ "+".toList ++ b')).getLast?.any isDotted = false := by
    have hlast := getLast?_append_blanks (getLast?_sign (d := '+') rfl (pre ++ (a.masked ++ b))) hb'
    simpa using hlast
  have hread : mixedOperands.expression.Reads pre (a.masked ++ b ++ "+".toList ++ b' ++ p.masked) post
      [("right", p.masked), ("left", a.masked)] :=
    (((((reads_operand ha hpre (head?_sign hb rfl)).group "left").append (reads_many hb rfl)).append (reads_text "+")).append
      (reads_many hb' (head?_masked p post))).append ((reads_operand hp hbefore hpost).group "right")
  obtain ⟨m, hm, hall⟩ := hread.exists_allAfter rfl (by simp)
  refine ⟨m, _, ⟨⟨ha, hp⟩, ?_, ?_⟩, by simpa using hall⟩
  · rw [hm.group_eq]
    rfl
  · rw [hm.group_eq]
    rfl

lemma plus_notMem_blanks (b : Text.Blanks) : '+' ∉ b.1 := fun hmem => by cases b.isBlank _ hmem

lemma plus_notMem_shown (t : SpacedAddend) : '+' ∉ t.shown Addend.masked := by
  have hmasked : '+' ∉ t.addend.masked := by
    cases t.addend with
    | number n => exact fun hmem => by cases n.isDotted _ hmem
    | quoted s =>
      have hquote : '+' ≠ s.quote := by
        intro hplus
        have hs := s.isQuote
        rw [← hplus] at hs
        cases hs
      simp [Addend.masked, hquote]
  simp [SpacedAddend.shown, plus_notMem_blanks, hmasked]

/-- Where no plus sign comes nothing is found. -/
lemma allAfter_of_noSign (h : '+' ∉ post) : mixedOperands.expression.allAfter pre post = [] := by
  refine allAfter_eq_nil rfl fun skipped w post' htext hspells => h ?_
  obtain ⟨l, x, y, r, rfl, -⟩ := expression_spells hspells
  rw [htext]
  simp

/-- Behind an addend the search goes on with the next one. -/
lemma allAfter_othersShown_cons (b : Text.Blanks) (pre : List Char) (u : SpacedAddend) (ts : List SpacedAddend) :
    mixedOperands.expression.allAfter pre (b.1 ++ SpacedAddend.othersShown Addend.masked (u :: ts)) =
      mixedOperands.expression.allAfter (pre ++ b.1 ++ ['+'])
        (u.shown Addend.masked ++ SpacedAddend.othersShown Addend.masked ts) := by
  have htext : b.1 ++ SpacedAddend.othersShown Addend.masked (u :: ts) =
      (b.1 ++ ['+']) ++ (u.shown Addend.masked ++ SpacedAddend.othersShown Addend.masked ts) := by
    simp [SpacedAddend.othersShown]
  rw [htext, allAfter_of_sign b ⟨rfl, rfl⟩, List.append_assoc]

/-- Behind some text the candidates are the pairs of some addends. -/
def ReadsPairs (pre text : List Char) (addends : List Addend) : Prop :=
  List.Forall₂ IsPair (mixedOperands.expression.allAfter pre text) (Addend.pairs addends)

/-- From an addend on, the search reads it with the next one, or it goes on behind it. -/
lemma readsPairs_cons {t u : SpacedAddend} {ts : List SpacedAddend} (hpre : pre.getLast?.any isDotted = false)
    (hpaired : ∀ pre, ReadsPairs pre (u.trail.1 ++ SpacedAddend.othersShown Addend.masked ts) (ts.map SpacedAddend.addend))
    (hbehind : ∀ pre, ReadsPairs pre (t.trail.1 ++ SpacedAddend.othersShown Addend.masked (u :: ts))
      ((u :: ts).map SpacedAddend.addend)) :
    ReadsPairs pre (t.shown Addend.masked ++ SpacedAddend.othersShown Addend.masked (u :: ts))
      ((t :: u :: ts).map SpacedAddend.addend) := by
  have hlead := getLast?_append_blanks hpre t.lead.isBlank
  have htext : t.shown Addend.masked ++ SpacedAddend.othersShown Addend.masked (u :: ts) =
      t.lead.1 ++ (t.addend.masked ++ (t.trail.1 ++ SpacedAddend.othersShown Addend.masked (u :: ts))) := by
    simp [SpacedAddend.shown]
  have hnext : SpacedAddend.othersShown Addend.masked (u :: ts) =
      '+' :: (u.lead.1 ++ (u.addend.masked ++ (u.trail.1 ++ SpacedAddend.othersShown Addend.masked ts))) := by
    simp [SpacedAddend.othersShown, SpacedAddend.shown]
  have hafter := head?_othersShown u.trail ts
  rw [ReadsPairs, htext, allAfter_of_apart (fun c hc => apart_of_isBlank (t.lead.isBlank c hc)), List.map_cons,
    List.map_cons, Addend.pairs]
  by_cases hread : (t.addend.isRead && u.addend.isRead) = true
  · obtain ⟨ht, hu⟩ := Bool.and_eq_true_iff.mp hread
    obtain ⟨m, pre', hm, hall⟩ := exists_allAfter_pair ht hu t.trail.isBlank u.lead.isBlank hlead hafter
    rw [if_pos hread, hnext, hall]
    exact .cons hm (hpaired pre')
  · rw [if_neg hread, allAfter_masked (u :: ts) t.trail.isBlank]
    · exact hbehind _
    · intro w post' htext' hspells
      rw [hnext] at htext'
      exact hread (Bool.and_eq_true_iff.mpr
        (isRead_of_expression_spells t.trail.isBlank u.lead.isBlank hafter hspells htext'))

/-- The candidates are the pairs, both from an addend on and from the blanks behind one. -/
lemma readsPairs_addends (ts : List SpacedAddend) :
    (∀ (t : SpacedAddend) (pre : List Char), pre.getLast?.any isDotted = false →
      ReadsPairs pre (t.shown Addend.masked ++ SpacedAddend.othersShown Addend.masked ts)
        ((t :: ts).map SpacedAddend.addend)) ∧
    ∀ (b : Text.Blanks) (pre : List Char),
      ReadsPairs pre (b.1 ++ SpacedAddend.othersShown Addend.masked ts) (ts.map SpacedAddend.addend) := by
  -- a pair takes two addends at a time, so both statements are carried along
  induction ts with
  | nil =>
    refine ⟨fun t pre _ => ?_, fun b pre => ?_⟩
    · rw [ReadsPairs, allAfter_of_noSign (by simpa [SpacedAddend.othersShown] using plus_notMem_shown t)]
      exact .nil
    · rw [ReadsPairs, allAfter_of_noSign (by simpa [SpacedAddend.othersShown] using plus_notMem_blanks b)]
      exact .nil
  | cons u ts ih =>
    have hbehind : ∀ (b : Text.Blanks) (pre : List Char),
        ReadsPairs pre (b.1 ++ SpacedAddend.othersShown Addend.masked (u :: ts)) ((u :: ts).map SpacedAddend.addend) := by
      intro b pre
      rw [ReadsPairs, allAfter_othersShown_cons]
      exact ih.1 u _ (getLast?_sign rfl (pre ++ b.1))
    exact ⟨fun t pre hpre => readsPairs_cons hpre (ih.2 u.trail) (hbehind t.trail), hbehind⟩

/-- What is in front of an equals sign is no operand of a sum. -/
lemma not_spells_before_equals {x : List Char} (hne : token ≠ []) (htoken : ∀ c ∈ token, isDotted c = true)
    (hb : ∀ c ∈ b, Text.isBlank c = true) (htext : token ++ (b ++ '=' :: x) = w ++ post) :
    ¬ mixedOperands.expression.Spells pre w post := by
  intro hspells
  obtain ⟨l, c, c', r, rfl, hc, -, hl, -⟩ := expression_spells hspells
  have hleft : token ++ (b ++ '=' :: x) = l ++ (c ++ '+' :: (c' ++ (r ++ post))) := by simpa using htext
  obtain ⟨-, hrest, -⟩ := eq_token_of_operand_spells hne htoken (head?_sign hb rfl) hl hleft
  obtain ⟨-, hsign, -⟩ := eq_of_sign hc hb rfl rfl hrest
  cases hsign

/-- The candidates on a line are the pairs of its addends. -/
lemma candidates_of_line (s : SumLine) :
    List.Forall₂ IsPair (mixedOperands.expression.all s.masked) (Addend.pairs s.addends) := by
  have hname : ∀ c ∈ s.name.1, isDotted c = true := fun c hc => by simp [isDotted, s.name.isWord c hc]
  have htext : s.masked = s.indent.1 ++ (s.name.1 ++ ((s.gap.1 ++ ['=']) ++
      (s.first.shown Addend.masked ++ SpacedAddend.othersShown Addend.masked s.others))) := by
    simp [SumLine.masked, SumLine.shown, SumLine.head]
  rw [all_eq_allAfter, htext, allAfter_of_apart (fun c hc => apart_of_isBlank (s.indent.isBlank c hc)),
    allAfter_token hname, allAfter_of_sign s.gap ⟨rfl, rfl⟩]
  · refine (readsPairs_addends s.others).1 s.first _ ?_
    rw [← List.append_assoc]
    exact getLast?_sign rfl _
  · intro w post' hsplit
    rw [List.append_assoc, List.singleton_append] at hsplit
    exact not_spells_before_equals s.name.ne_nil hname s.gap.isBlank hsplit

end Search

/-- There is evidence for a pair that is a number and a string. -/
lemma exists_evidence_iff {m : Found} {pair : Addend × Addend} (hm : IsPair m pair) (src : Source) (index : ℕ) :
    (∃ es, es ≠ [] ∧ mixedOperands.evidence m src index = .ok es) ↔ pair.1.kind ≠ pair.2.kind := by
  obtain ⟨a, b⟩ := pair
  have hevidence : mixedOperands.evidence m src index = .ok (if a.kind = b.kind then []
      else [s!"Type mismatch detected: '{rawLabel m src index}' adds a number and a string"]) := by
    simp only [mixedOperands, hm.left, hm.right, operandKind?_masked hm.isRead.1, operandKind?_masked hm.isRead.2]
    cases a <;> cases b <;> rfl
  rw [hevidence]
  split
  · rename_i hsame
    simpa using hsame
  · rename_i hmixed
    exact iff_of_true ⟨_, List.cons_ne_nil _ _, rfl⟩ hmixed

end Rule.Mapping

namespace PatternScan

open Rule.Mapping Source

lemma exists_mem_iff_of_forall₂ {α β : Type} {R : α → β → Prop} {p : α → Prop} {q : β → Prop} {as : List α} {bs : List β}
    (h : List.Forall₂ R as bs) (hpq : ∀ a b, R a b → (p a ↔ q b)) : (∃ a ∈ as, p a) ↔ ∃ b ∈ bs, q b := by
  induction h with
  | nil => simp
  | cons hab _ ih => simp [hpq _ _ hab, ih]

/-- A sum of numbers and strings is reported if a number and a string are a pair, as the addends are read in pairs from
left to right. -/
theorem mixed_sum_reported_iff {code : List Char} {index : ℕ} {s : SumLine}
    (hline : (Text.lines code)[index]? = some s.text)
    (habove : Unquoted (Text.joinLines ((Text.lines code).take index))) (codeStructure : Structure) :
    (∃ m ∈ (ofCode Rule.catalog codeStructure code).ruleMatches,
        m.ruleId = mixedOperands.id ∧ m.startLine = index + 1) ↔
      ∃ pair ∈ Addend.pairs s.addends, pair.1.kind ≠ pair.2.kind := by
  have hmasked := SumLine.getElem?_maskLines hline habove
  have hblank : Text.isBlankText s.masked = false :=
    Text.isBlankText_eq_false_of_mem (c := '=') (by simp [SumLine.masked, SumLine.shown]) rfl
  have hrule : mixedOperands ∈ Rule.catalog := by simp [Rule.catalog]
  rw [exists_reported_iff hrule Rule.total_mixedOperands hmasked hblank codeStructure]
  exact exists_mem_iff_of_forall₂ (candidates_of_line s) fun m pair hm => exists_evidence_iff hm (Source.ofText code) index

/-- A sum whose second pair is a string and a number. -/
def pairedSum : List Char := "total = 1 + 2 + 'due' + 3\n".toList

/-- A sum whose number and string side by side are in no pair. -/
def unpairedSum : List Char := "x = 1 + 2 + 'a'\n".toList

theorem mixed_pair_reported :
    ∃ m ∈ (ofCode Rule.catalog {} pairedSum).ruleMatches, m.ruleId = mixedOperands.id ∧ m.startLine = 1 := by
  let numeral (c : Char) (h : isNumber [c] = true) : SpacedAddend := ⟨.spaces 1, .number ⟨[c], h⟩, .spaces 1⟩
  let due : Quoted := ⟨'\'', "due".toList, rfl, by decide⟩
  let s : SumLine :=
    { indent := .spaces 0
      name := ⟨"total".toList, by decide +kernel⟩
      gap := .spaces 1
      first := numeral '1' rfl
      others := [numeral '2' rfl, ⟨.spaces 1, .quoted due, .spaces 1⟩, ⟨.spaces 1, .number ⟨['3'], rfl⟩, .spaces 0⟩] }
  have hline : (Text.lines pairedSum)[0]? = some s.text := by decide +kernel
  refine (mixed_sum_reported_iff hline (by decide) {}).mpr ⟨(.quoted due, .number ⟨['3'], rfl⟩), ?_, by decide⟩
  exact List.mem_cons_of_mem _ List.mem_cons_self

theorem unpaired_mixture_unreported :
    ∃ (s : SumLine) (a b : Addend), (Text.lines unpairedSum)[0]? = some s.text ∧ [a, b] <:+: s.addends ∧
      a.isRead = true ∧ b.isRead = true ∧ a.kind ≠ b.kind ∧
      ∀ m ∈ (ofCode Rule.catalog {} unpairedSum).ruleMatches, m.ruleId ≠ mixedOperands.id := by
  let one : SpacedAddend := ⟨.spaces 1, .number ⟨['1'], rfl⟩, .spaces 1⟩
  let two : SpacedAddend := ⟨.spaces 1, .number ⟨['2'], rfl⟩, .spaces 1⟩
  let letter : SpacedAddend := ⟨.spaces 1, .quoted ⟨'\'', ['a'], rfl, by decide⟩, .spaces 0⟩
  refine ⟨⟨.spaces 0, ⟨['x'], by decide +kernel⟩, .spaces 1, one, [two, letter]⟩, two.addend, letter.addend, ?_, ?_, rfl,
    rfl, by decide, ?_⟩
  · decide +kernel
  · exact ⟨[one.addend], [], rfl⟩
  · decide +kernel

end PatternScan

end CodeAudit
