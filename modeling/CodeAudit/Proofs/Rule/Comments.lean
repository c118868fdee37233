import CodeAudit.Proofs.Regex.Occurrence
import CodeAudit.Proofs.Rule.Total
import CodeAudit.Proofs.Source.Comment

/-! Which matches hang on what a comment says. All rules of the catalog but two decide on the mask, and word their
evidence by the text. The other two read whole lines of the text, which the mask cannot give them: repeated lines are
to have the same strings, and a key is the contents of one. -/
namespace CodeAudit

open Source (Closed AlikeBut)

namespace Rule

/-- Whether there is evidence hangs on the mask alone. -/
def ReadsMask (r : Rule) : Prop :=
  ∀ m src lines index,
    (r.evidence m { src with lines := lines } index).map List.isEmpty = (r.evidence m src index).map List.isEmpty

lemma readsMask_mixedOperands : Mapping.mixedOperands.ReadsMask := by
  intro m src lines index
  simp only [Mapping.mixedOperands]
  have hkind : ∀ text, Mapping.operandKind? text { src with lines := lines } index =
      Mapping.operandKind? text src index := fun _ => rfl
  rw [hkind, hkind]
  split <;> rfl

lemma readsMask_contradiction : Logic.contradiction.ReadsMask := by
  intro m src lines index
  simp only [Logic.contradiction]
  split <;> rfl

lemma map_isEmpty_bind {α : Type} {x : Except Reading.Fault α} {f g : α → Except Reading.Fault (List String)}
    (h : ∀ a, (f a).map List.isEmpty = (g a).map List.isEmpty) :
    (x >>= f).map List.isEmpty = (x >>= g).map List.isEmpty := by
  cases x with
  | error fault => rfl
  | ok a => exact h a

lemma readsMask_oversizedRange : Resource.oversizedRange.ReadsMask := by
  intro m src lines index
  simp only [Resource.oversizedRange]
  refine map_isEmpty_bind fun value => ?_
  cases value with
  | none => rfl
  | some size =>
    dsimp only
    split
    · rfl
    · exact map_isEmpty_bind fun written => rfl

lemma readsMask_of_mem_catalog : ∀ r ∈ catalog,
    r.ReadsMask ∨ r = Mapping.uncheckedKey ∨ r = Logic.repeatedLine := by
  simp only [catalog, List.forall_mem_cons, List.not_mem_nil, false_implies, implies_true, and_true]
  refine ⟨.inl readsMask_mixedOperands, .inl fun _ _ _ _ => rfl, .inl fun _ _ _ _ => rfl, .inr (.inl trivial),
    .inl fun _ _ _ _ => rfl, .inl fun _ _ _ _ => rfl, .inl fun _ _ _ _ => rfl, .inl fun _ _ _ _ => rfl,
    .inl fun _ _ _ _ => rfl, .inl readsMask_oversizedRange, .inl fun _ _ _ _ => rfl, .inl fun _ _ _ _ => rfl,
    .inl fun _ _ _ _ => rfl, .inl readsMask_contradiction, .inl fun _ _ _ _ => rfl, .inr (.inr trivial),
    .inl fun _ _ _ _ => rfl, .inl fun _ _ _ _ => rfl, .inl fun _ _ _ _ => rfl⟩

/-- A piece of a text that ends with a character reaches no farther than that character is found. -/
lemma length_le_of_isSuffix {shown blanks pre w post : List Char} {c : Char}
    (h : shown ++ blanks = pre ++ (w ++ post)) (hw : [c] <:+ w) (hc : c ∉ blanks) :
    pre.length + w.length ≤ shown.length := by
  obtain ⟨u, rfl⟩ := hw
  have h : shown ++ blanks = (pre ++ u) ++ (c :: post) := by simpa using h
  rcases List.append_eq_append_iff.mp h with ⟨between, hpre, rfl⟩ | ⟨between, rfl, hrest⟩
  · exact absurd (List.mem_append_right between List.mem_cons_self) hc
  · cases between with
    | nil =>
      rw [List.nil_append] at hrest
      exact absurd (hrest ▸ List.mem_cons_self) hc
    | cons d between =>
      simp only [List.length_append, List.length_cons, List.length_nil]
      omega

section RawText

variable {k : ℕ} {src other : Source} (h : AlikeBut k src other)

include h

/-- A line is compared with the two above it. -/
lemma repeatedLine_evidence_eq {index : ℕ} (hindex : index < k ∨ k + 2 < index) (m : Regex.Found) :
    Logic.repeatedLine.evidence m other index = Logic.repeatedLine.evidence m src index := by
  have hline := h.line_eq index (by omega)
  have habove := h.line_eq (index - 1) (by omega)
  have hsecond := h.line_eq (index - 2) (by omega)
  have hblank : ∀ i, other.isBlankLine i = src.isBlankLine i := by
    intro i
    rw [Source.isBlankLine, Source.isBlankLine, Source.maskedLine, Source.maskedLine, h.masked_eq]
  simp only [Logic.repeatedLine, hline, habove, hsecond, hblank]

/-- An access ends with a bracket, which a mask does not have where the lines differ. -/
lemma rawText_eq {index : ℕ} (hindex : index ≤ k) {line : Source.Line} (hline : src.masked[index]? = some line)
    {m : Regex.Found} (hm : m ∈ Mapping.uncheckedKey.expression.all line) :
    rawText m other index = rawText m src index := by
  rcases Nat.lt_or_eq_of_le hindex with hlt | rfl
  · rw [rawText, rawText, h.line_eq index (by omega)]
  · obtain ⟨shown, blanks, hmasked, hblanks, hshown⟩ := h.shown_eq
    obtain rfl := Option.some.inj (hline.symm.trans hmasked)
    have hplain : Mapping.uncheckedKey.expression.refersBack = false := rfl
    obtain ⟨pre, w, post, htext, hcovers⟩ := Regex.exists_covers_of_mem_all hplain hm
    have hbracket : [']'] <:+ w := by
      obtain ⟨u, v, rfl, hu, rfl, _⟩ := Regex.spells_append.mp hcovers.spells
      rw [List.append_nil]
      exact Regex.isSuffix_of_spells hu
    have hstop : m.stop ≤ shown.length := by
      rw [hcovers.stop]
      exact length_le_of_isSuffix htext hbracket fun hmem => absurd (hblanks ']' hmem) (by decide)
    have htake : ∀ l : List Char, l.take m.stop = (l.take shown.length).take m.stop := by
      intro l
      rw [List.take_take, Nat.min_eq_left hstop]
    rw [rawText, rawText, htake, hshown, ← htake]

lemma isKeyKnown_eq {index : ℕ} (hindex : index ≤ k) (name key : List Char) :
    Mapping.isKeyKnown other name key index = Mapping.isKeyKnown src name key index := by
  simp only [Mapping.isKeyKnown, h.assignmentBefore?_eq, h.masked_eq]
  rw [Bool.eq_iff_iff]
  simp only [List.any_eq_true, List.mem_range]
  refine exists_congr fun j => and_congr_right fun hj => ?_
  rw [h.line_eq _ (by omega)]

/-- A key is looked for in the access itself and in the lines above it. -/
lemma uncheckedKey_evidence_eq {index : ℕ} (hindex : index ≤ k) {line : Source.Line}
    (hline : src.masked[index]? = some line) {m : Regex.Found}
    (hm : m ∈ Mapping.uncheckedKey.expression.all line) :
    Mapping.uncheckedKey.evidence m other index = Mapping.uncheckedKey.evidence m src index := by
  have hkind : other.kindBefore? (m.group "name") index = src.kindBefore? (m.group "name") index := by
    rw [Source.kindBefore?, Source.kindBefore?, h.assignmentBefore?_eq]
  simp only [Mapping.uncheckedKey, hkind, rawText_eq h hindex hline hm, isKeyKnown_eq h hindex, h.masked_eq]

end RawText

end Rule

/-- Where what a comment on a line says may decide on a match: a repeated line is compared with two others as the text
has them, and a key is looked for in all lines above. -/
def Site.InReach (line : ℕ) (s : Site) : Prop :=
  (s.ruleId = Rule.Logic.repeatedLine.id ∧ line ≤ s.startLine ∧ s.startLine ≤ line + 2) ∨
    (s.ruleId = Rule.Mapping.uncheckedKey.id ∧ line < s.startLine)

instance (line : ℕ) (s : Site) : Decidable (s.InReach line) := inferInstanceAs (Decidable (_ ∨ _))

namespace Rule

lemma filter_sites_eq {k : ℕ} {src other : Source} (h : AlikeBut k src other) {r : Rule} (hr : r ∈ catalog) :
    (r.sites other).filter (fun s => ¬ s.InReach (k + 1)) = (r.sites src).filter (fun s => ¬ s.InReach (k + 1)) := by
  have hmask := h.masked_eq
  rcases readsMask_of_mem_catalog r hr with hreads | rfl | rfl
  · have hsame : ∀ index m,
        (r.evidence m other index).map List.isEmpty = (r.evidence m src index).map List.isEmpty := by
      intro index m
      rw [h.withLines]
      exact hreads m src other.lines index
    rw [sites_congr hmask hsame]
  · refine filter_sites_congr hmask total_uncheckedKey fun index line hline m hm hout => ?_
    have hindex : index ≤ k := by
      by_contra hlt
      have hbelow : k + 1 < index + 1 := by omega
      exact of_decide_eq_true hout (.inr ⟨rfl, hbelow⟩)
    exact uncheckedKey_evidence_eq h hindex hline hm
  · refine filter_sites_congr hmask total_repeatedLine fun index line _ m _ hout => ?_
    have hindex : index < k ∨ k + 2 < index := by
      by_contra hnear
      have hbelow : k + 1 ≤ index + 1 := by omega
      have habove : index + 1 ≤ k + 1 + 2 := by omega
      exact of_decide_eq_true hout (.inl ⟨rfl, hbelow, habove⟩)
    exact repeatedLine_evidence_eq h hindex m

end Rule

namespace PatternScan

/-- After a closed text, another comment of the same length leaves all matches of the catalog as and where they are, in
their order, but for the repeated lines from the comment's line to the second one below it and for the unchecked keys
below it. -/
theorem comment_leaves_sites_out_of_reach {a c₁ c₂ : List Char} (ha : Closed a) (b : List Char) (h₁ : '\n' ∉ c₁)
    (h₂ : '\n' ∉ c₂) (hlen : c₁.length = c₂.length) (codeStructure codeStructure' : Structure) :
    ((ofCode Rule.catalog codeStructure (a ++ '#' :: (c₁ ++ b))).sites.filter
        fun s => ¬ s.InReach (Text.lines a).length) =
      (ofCode Rule.catalog codeStructure' (a ++ '#' :: (c₂ ++ b))).sites.filter
        fun s => ¬ s.InReach (Text.lines a).length := by
  have hcode : ∀ c, Text.isBlankText (a ++ '#' :: (c ++ b)) = false := by
    intro c
    have hhash : Text.isBlank '#' = false := by decide
    simp [Text.isBlankText, hhash]
  have halike := Source.alikeBut_of_comment ha b h₁ h₂ hlen
  have hline : (Text.lines a).length = (Text.lines a).length - 1 + 1 :=
    (Nat.sub_add_cancel (List.length_pos_iff.mpr (Text.lines_ne_nil a))).symm
  rw [sites_ofCode _ _ (hcode c₁), sites_ofCode _ _ (hcode c₂), List.filter_flatMap, List.filter_flatMap, hline]
  exact List.flatMap_congr fun r hr => (Rule.filter_sites_eq halike hr).symm

theorem comment_leaves_undefined_name :
    Closed "x = y ".toList ∧
      ((ofCode Rule.catalog default ("x = y ".toList ++ '#' :: (" is 'k' in d?".toList ++ []))).sites.filter
          fun s => ¬ s.InReach (Text.lines "x = y ".toList).length) =
        (ofCode Rule.catalog default ("x = y ".toList ++ '#' :: (" or 'k' of d?".toList ++ []))).sites.filter
          fun s => ¬ s.InReach (Text.lines "x = y ".toList).length := by
  have ha : Closed "x = y ".toList := ⟨false, by decide⟩
  have h₁ : '\n' ∉ " is 'k' in d?".toList := by decide
  have h₂ : '\n' ∉ " or 'k' of d?".toList := by decide
  exact ⟨ha, comment_leaves_sites_out_of_reach ha [] h₁ h₂ (by decide) default default⟩

/-- An access to a key that the dictionary does not have, with a comment above it. -/
def accessBelow (comment : List Char) : List Char :=
  "d = \x7b'a': 1\x7d\n".toList ++ '#' :: (comment ++ "\nprint(d['b'])".toList)

/-- The access is not found if the comment reads like a test for the key. -/
theorem comment_hides_unchecked_key :
    ¬ ∀ (a c₁ c₂ b : List Char) (codeStructure codeStructure' : Structure), Closed a → '\n' ∉ c₁ → '\n' ∉ c₂ →
      c₁.length = c₂.length → (b = [] ∨ b.head? = some '\n') →
        (ofCode Rule.catalog codeStructure (a ++ '#' :: (c₁ ++ b))).sites =
          (ofCode Rule.catalog codeStructure' (a ++ '#' :: (c₂ ++ b))).sites := by
  intro h
  have hsame : (ofCode Rule.catalog default (accessBelow " is 'b' in d ever?".toList)).sites =
      (ofCode Rule.catalog default (accessBelow " is 'b' of d ever?".toList)).sites :=
    h _ _ _ _ default default ⟨false, by decide⟩ (by decide) (by decide) (by decide) (.inr (by decide))
  have hhidden : (ofCode Rule.catalog default (accessBelow " is 'b' in d ever?".toList)).sites = [] := by
    decide +kernel
  have hfound : (ofCode Rule.catalog default (accessBelow " is 'b' of d ever?".toList)).sites =
      [⟨"unchecked_dict_access", 3, 3, 7, 12⟩] := by
    decide +kernel
  cases hhidden.symm.trans (hsame.trans hfound)

end PatternScan
end CodeAudit
