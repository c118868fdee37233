import CodeAudit.Proofs.Rule.LaterNames
import CodeAudit.Proofs.Source.Calculation

/-! Straight-line programs. The names that a line uses are found one by one, and a use is reported if neither the line
nor one before it binds the name. -/
namespace CodeAudit

open Regex
open Source (Name Line Operand Operator Calculation)

namespace Source

def Operand.uses (column : ℕ) : Operand → List (ℕ × Name)
  | .name n => [(column, n.1)]
  | .number _ => []

namespace Calculation

/-- The names among operands that stand three characters apart, each with its column. -/
def usesFrom (column : ℕ) : List Operand → List (ℕ × Name)
  | [] => []
  | t :: rest => t.uses column ++ usesFrom (column + t.text.length + 3) rest

/-- The names on the right-hand side, each with its column. -/
def uses (c : Calculation) : List (ℕ × Name) := usesFrom (c.target.1.length + 3) (c.first :: c.others.map (·.2))

end Calculation

section Definedness

variable {code : List Char} {j : ℕ} {line : Line}

lemma mem_of_endsWithChar {c : Char} (h : endsWithChar c line = true) : c ∈ line := by
  have hmem := List.mem_of_head? (beq_iff_eq.mp h)
  exact List.mem_reverse.mp ((List.dropWhile_suffix _).subset hmem)

/-- Outside functions a name is defined from the first line on that binds it. -/
lemma isDefined?_iff_of_no_colon (hcolon : ∀ line ∈ maskLines code, ':' ∉ line) (hline : (maskLines code)[j]? = some line)
    (hcode : Text.isBlankText line = false) (name : Name) :
    ((Source.ofText code).isDefined? name j).getD false = true ↔
      Vocabulary.alwaysDefined.contains (String.ofList name) = true ∨ ∃ i ≤ j, name ∈ (Source.ofText code).bindingsOn i := by
  obtain ⟨inside, hat, hflag⟩ := exists_inFunctionAt? hline
  have hinside : inside = false := by
    have hmarked := insideMarked_iff Bindings.defHeader.startsText hline hcode
    rw [hflag, Option.some_inj] at hmarked
    refine Bool.eq_false_iff.mpr fun hin => ?_
    obtain ⟨i, header, hheader, hmarks, -⟩ := hmarked.mp hin
    exact hcolon header (List.mem_of_getElem? hheader) (mem_of_endsWithChar hmarks.colon)
  rw [← exists_firstBinding?_le_iff, isDefined?, hat, hinside]
  cases Vocabulary.alwaysDefined.contains (String.ofList name) with
  | true => simp
  | false => cases (Source.ofText code).firstBinding? name <;> simp

end Definedness

end Source

namespace Rule.Naming

section Search

variable {pre n post skipped : List Char}

lemma reads_undefinedName (hpre : pre.getLast?.any isDotted = false) (hn : Text.isName n = true)
    (hpost : post.head?.any Text.isWord = false) :
    undefinedName.expression.Reads pre n post [("name", n)] := by
  have hborder : (pre ++ n).getLast?.any Text.isWord ≠ post.head?.any Text.isWord := by
    rw [hpost, Text.getLast?_any_append (Text.ne_nil_of_isName hn) (Text.isWord_of_mem_name hn)]
    decide
  have hname : (group "name" Regex.name).Reads (pre ++ []) n post [("name", n)] := (reads_name hn hpost).group "name"
  have hread := ((reads_notAfter hpre).append hname).append (reads_border (by simpa using hborder))
  change (notAfter isDotted ++ group "name" Regex.name ++ border).Reads pre n post [("name", n)]
  simpa using hread

/-- Nothing is found where no name starts, or within a word. -/
lemma allAfter_undefinedName_append
    (h : ∀ front c back, skipped = front ++ c :: back →
      Text.isNameStart c = false ∨ (pre ++ front).getLast?.any isDotted = true) :
    undefinedName.expression.allAfter pre (skipped ++ post) = undefinedName.expression.allAfter (pre ++ skipped) post := by
  refine allAfter_append rfl fun front c back hskipped w post' htext hspells => ?_
  obtain ⟨_, _, rfl, ⟨_, n, rfl, ⟨rfl, hbefore⟩, hn⟩, -⟩ := hspells
  obtain ⟨d, rest, rfl, hd, -⟩ := Text.isName_iff.mp (spells_name.mp (spells_group.mp hn))
  obtain ⟨rfl, -⟩ := List.cons.inj htext
  rcases h front c back hskipped with hstart | hdotted
  · rw [hd] at hstart
    cases hstart
  · rw [hdotted] at hbefore
    cases hbefore

lemma allAfter_undefinedName_of_not_isNameStart (h : skipped.any Text.isNameStart = false) :
    undefinedName.expression.allAfter pre (skipped ++ post) = undefinedName.expression.allAfter (pre ++ skipped) post :=
  allAfter_undefinedName_append fun _ c _ hskipped =>
    .inl (Bool.eq_false_iff.mpr (List.any_eq_false.mp h c (by simp [hskipped])))

lemma allAfter_undefinedName_nil : undefinedName.expression.allAfter pre [] = [] := by
  refine allAfter_eq_nil rfl fun front w post' htext hspells => ?_
  obtain ⟨_, _, rfl, ⟨_, n, rfl, -, hn⟩, -⟩ := hspells
  have hne := Text.ne_nil_of_isName (spells_name.mp (spells_group.mp hn))
  simp_all

/-- Nothing is found within digits, or behind them. -/
lemma allAfter_undefinedName_numeral (d : Source.Numeral) :
    undefinedName.expression.allAfter pre (d.1 ++ post) = undefinedName.expression.allAfter (pre ++ d.1) post := by
  refine allAfter_undefinedName_append fun front c back hd => ?_
  rcases List.eq_nil_or_concat front with rfl | ⟨before, e, rfl⟩
  · obtain ⟨digit, rest, hdigits, hdigit⟩ := d.exists_digit
    rw [List.nil_append, hdigits] at hd
    obtain ⟨rfl, -⟩ := List.cons.inj hd
    exact .inl (Text.isWord_of_digit hdigit).2
  · have he := d.isWord e (by simp [hd])
    right
    rw [List.concat_eq_append, ← List.append_assoc, List.getLast?_concat]
    simp [isDotted, he]

/-- A candidate for a use of a name at a column, with no equals sign behind it. -/
structure IsUse (m : Found) (use : ℕ × Name) : Prop where
  nonempty : 0 < use.2.length
  start : m.start = use.1
  stop : m.stop = use.1 + use.2.length
  group : m.group "name" = use.2
  rest : '=' ∉ m.rest

lemma candidates_of_operand (t : Operand) (hpre : pre.getLast?.any isDotted = false)
    (hpost : post.head?.any Text.isWord = false) (hsign : '=' ∉ post) :
    ∃ found, undefinedName.expression.allAfter pre (t.text ++ post) =
        found ++ undefinedName.expression.allAfter (pre ++ t.text) post ∧
      List.Forall₂ IsUse found (t.uses pre.length) := by
  cases t with
  | name n =>
    obtain ⟨m, hm, hall⟩ := (reads_undefinedName hpre n.isName hpost).exists_allAfter rfl (Text.ne_nil_of_isName n.isName)
    have hne := List.length_pos_iff.mpr (Text.ne_nil_of_isName n.isName)
    refine ⟨[m], hall, .cons ⟨hne, hm.start, hm.stop, ?_, ?_⟩ .nil⟩
    · rw [hm.group_eq]
      rfl
    · rwa [hm.rest]
  | number d => exact ⟨[], allAfter_undefinedName_numeral d, .nil⟩

/-- The candidates behind an operand's place are the uses of names from there on. -/
lemma candidates_of_operands (t : Operand) (others : List (Operator × Operand)) (hpre : pre.getLast?.any isDotted = false) :
    List.Forall₂ IsUse (undefinedName.expression.allAfter pre (t.text ++ Calculation.othersText others))
      (Calculation.usesFrom pre.length (t :: others.map (·.2))) := by
  induction others generalizing pre t with
  | nil =>
    obtain ⟨found, hall, huses⟩ := candidates_of_operand t hpre (Calculation.head?_othersText []) List.not_mem_nil
    rw [hall, show Calculation.othersText [] = [] from rfl, allAfter_undefinedName_nil]
    exact List.rel_append huses .nil
  | cons o others ih =>
    obtain ⟨found, hall, huses⟩ :=
      candidates_of_operand t hpre (Calculation.head?_othersText (o :: others)) (Calculation.not_mem_othersText _)
    have hskip : [' ', o.1.char, ' '].any Text.isNameStart = false := by
      cases o.1 <;> decide
    have hlast : (pre ++ t.text ++ [' ', o.1.char, ' ']).getLast?.any isDotted = false := by
      rw [List.getLast?_append]
      rfl
    have hlength : (pre ++ t.text ++ [' ', o.1.char, ' ']).length = pre.length + t.text.length + 3 := by
      simp only [List.length_append]
      rfl
    have hrest := ih o.2 hlast
    rw [hlength, ← allAfter_undefinedName_of_not_isNameStart hskip] at hrest
    rw [hall]
    exact List.rel_append huses hrest

/-- The candidates on a line are its variable and the names that it uses. -/
lemma candidates_of_line (c : Calculation) :
    ∃ m found, undefinedName.expression.all c.text = m :: found ∧ m.group "name" = c.target.1 ∧
      List.Forall₂ IsUse found c.uses := by
  have hread : undefinedName.expression.Reads [] c.target.1
      (" = ".toList ++ (c.first.text ++ Calculation.othersText c.others)) [("name", c.target.1)] :=
    reads_undefinedName rfl c.target.isName rfl
  obtain ⟨m, hm, hall⟩ := hread.exists_allAfter rfl (Text.ne_nil_of_isName c.target.isName)
  have hskip : " = ".toList.any Text.isNameStart = false := by decide
  have hlast : (c.target.1 ++ " = ".toList).getLast?.any isDotted = false := by
    rw [List.getLast?_append]
    rfl
  have huses := candidates_of_operands c.first c.others hlast
  rw [List.length_append, ← allAfter_undefinedName_of_not_isNameStart hskip] at huses
  refine ⟨m, _, hall, ?_, huses⟩
  rw [hm.group_eq]
  rfl

end Search

/-- What is made of a candidate that nothing but a definition would excuse. -/
lemma matchOf_of_unexcused {src : Source} {index : ℕ} {m : Found} (h : Unexcused src index m) :
    undefinedName.matchOf src index m = .ok
      (if (src.isDefined? (m.group "name") index).getD false then none
        else some ⟨undefinedName.id, undefinedName.confidence, index + 1, index + 1, m.start + 1, max m.stop (m.start + 1),
          [undefinedEvidence (m.group "name")]⟩) := by
  have hevidence : undefinedName.evidence m src index =
      .ok (if (src.isDefined? (m.group "name") index).getD false then [] else [undefinedEvidence (m.group "name")]) := by
    have hmember := beq_eq_false_iff_ne.mpr h.member
    simp only [undefinedName, h.loop, h.scope, hmember, h.keyword, Bool.or_self, Bool.false_eq_true, if_false]
    cases (src.isDefined? (m.group "name") index).getD false <;> rfl
  rw [Rule.matchOf, hevidence]
  cases (src.isDefined? (m.group "name") index).getD false <;> rfl

lemma matchOf_of_defined {src : Source} {index : ℕ} {m : Found}
    (h : (src.isDefined? (m.group "name") index).getD false = true) : undefinedName.matchOf src index m = .ok none := by
  have hevidence : undefinedName.evidence m src index = .ok [] := if_pos h
  rw [Rule.matchOf, hevidence]
  rfl

end Rule.Naming

namespace PatternScan

open Source Rule.Naming

/-- Whether neither a line nor one before it binds a name that is not always defined. -/
def isEarly (program : List Calculation) (index : ℕ) (x : Name) : Bool :=
  !Vocabulary.alwaysDefined.contains (String.ofList x) && (program.take (index + 1)).all (·.target.1 != x)

/-- The match for the use of a name. -/
def useMatch (index : ℕ) (use : ℕ × Name) : RuleMatch where
  ruleId := undefinedName.id
  confidence := undefinedName.confidence
  startLine := index + 1
  endLine := index + 1
  startColumn := use.1 + 1
  endColumn := use.1 + use.2.length
  evidence := [undefinedEvidence use.2]

/-- A match for each use of a name that is early, in the order of the uses. -/
def earlyUses (program : List Calculation) : List RuleMatch :=
  program.zipIdx.flatMap fun (c, index) => (c.uses.filter fun use => isEarly program index use.2).map (useMatch index)

section Program

variable {program : List Calculation} {closed : Bool} {index : ℕ} {c : Calculation}

lemma startsText_scopeLine (c : Calculation) : scopeLine.startsText c.text = false := by
  have hplain : scopeLine.refersBack = false := by
    rw [scopeLine, refersBack_append, refersBack_append, refersBack_oneOf]
    rfl
  refine Bool.eq_false_iff.mpr fun hstarts => ?_
  obtain ⟨_, post, htext, _, _, rfl, ⟨b, _, rfl, hb, hspelled⟩, rfl, hborder⟩ := (startsText_iff hplain).mp hstarts
  obtain ⟨word, hword, rfl⟩ := spells_oneOf.mp hspelled
  have hheads : ["import", "from", "global", "nonlocal"] ⊆ headWords := by decide
  have hchars := isWord_of_mem_headWords word (hheads hword)
  have hafter : post.head?.any Text.isWord = false := by
    rw [List.nil_append, Text.getLast?_any_append hchars.1 hchars.2] at hborder
    simpa using hborder
  have hfirst : firstWord c.text = word.toList := by
    rw [htext, List.append_nil, List.append_assoc, firstWord_eq hb hchars hafter]
  have hhead := c.statement.firstWord_text
  rw [c.text_statement, hfirst, String.ofList_toList] at hhead
  exact hhead (hheads hword)

/-- Nothing excuses a use: no line has a loop, a point or a sign behind the use, and none only brings names into
scope. -/
lemma unexcused_of_isUse (hc : program[index]? = some c) {m : Found} {use : ℕ × Name} (hm : IsUse m use) :
    Unexcused (Source.ofText (Calculation.programText program closed)) index m := by
  have hline : (Source.ofText (Calculation.programText program closed)).maskedLine index = c.text := by
    have hmasked := Calculation.getElem?_maskLines hc closed
    change ((maskLines _)[index]?).getD [] = _
    rw [hmasked]
    rfl
  have hloops : ∀ line ∈ maskLines (Calculation.programText program closed), Bindings.loopNames line = [] := by
    refine Calculation.forall_mem_maskLines (by decide) (fun c => ?_) program closed
    have hinner := c.quiet_text.innerNames_eq_nil
    simp only [innerNames, List.append_eq_nil_iff] at hinner
    exact hinner.1.1.1
  refine ⟨?_, ?_, ?_, ?_⟩
  · have hnone : ∀ first last, (Source.ofText (Calculation.programText program closed)).loopNamesBetween first last = [] :=
      fun first last => List.flatMap_eq_nil_iff.mpr fun line hline =>
        hloops line (List.mem_of_mem_take (List.mem_of_mem_drop hline))
    rw [hnone]
    rfl
  · rw [hline, startsText_scopeLine]
  · rw [hline]
    intro hpoint
    have hreverse := List.mem_reverse.mp (List.mem_of_getLast? hpoint)
    have hmem := List.mem_reverse.mp ((List.dropWhile_suffix _).subset hreverse)
    exact c.not_mem_text (by decide) (List.mem_of_mem_take hmem)
  · refine Bool.eq_false_iff.mpr fun hsign => hm.rest ?_
    have hplain : assigned.refersBack = false := rfl
    obtain ⟨_, post, htext, b, _, rfl, -, ⟨sign, _, rfl, hequals, -⟩⟩ := (startsText_iff hplain).mp hsign
    rw [htext, spells_text.mp hequals]
    simp

lemma isDefined?_eq_not_isEarly (hc : program[index]? = some c) (x : Name) :
    ((Source.ofText (Calculation.programText program closed)).isDefined? x index).getD false =
      !isEarly program index x := by
  have hcolon : ∀ line ∈ maskLines (Calculation.programText program closed), ':' ∉ line :=
    Calculation.forall_mem_maskLines List.not_mem_nil (fun c => c.not_mem_text (by decide)) program closed
  have hdefined := isDefined?_iff_of_no_colon hcolon (Calculation.getElem?_maskLines hc closed) c.not_isBlankText x
  have hbound : (∃ i ≤ index, x ∈ (Source.ofText (Calculation.programText program closed)).bindingsOn i) ↔
      ∃ c ∈ program.take (index + 1), c.target.1 = x := by
    have hne : program ≠ [] := List.ne_nil_of_mem (List.mem_of_getElem? hc)
    simp only [Calculation.mem_bindingsOn_iff hne, List.mem_iff_getElem?, List.getElem?_take]
    constructor
    · rintro ⟨i, hi, d, hd, rfl⟩
      exact ⟨d, ⟨i, by rw [if_pos (Nat.lt_succ_of_le hi), hd]⟩, rfl⟩
    · rintro ⟨d, ⟨i, hd⟩, rfl⟩
      obtain ⟨hi, hd⟩ := Option.ite_none_right_eq_some.mp hd
      exact ⟨i, Nat.le_of_lt_succ hi, d, hd, rfl⟩
  rw [Bool.eq_iff_iff, hdefined, hbound, isEarly]
  simp

section Candidates

variable {f : Found → Option RuleMatch}

lemma filterMap_uses (hc : program[index]? = some c)
    (hf : ∀ m, undefinedName.matchOf (Source.ofText (Calculation.programText program closed)) index m = .ok (f m))
    {found : List Found} {uses : List (ℕ × Name)} (huses : List.Forall₂ IsUse found uses) :
    found.filterMap f = (uses.filter fun use => isEarly program index use.2).map (useMatch index) := by
  induction huses with
  | nil => rfl
  | @cons m use found uses hm _ ih =>
    have hmatch : f m = if isEarly program index use.2 then some (useMatch index use) else none := by
      have hplace : max m.stop (m.start + 1) = use.1 + use.2.length := by
        have := hm.nonempty
        rw [hm.start, hm.stop]
        omega
      rw [Except.ok.inj ((hf m).symm.trans (matchOf_of_unexcused (unexcused_of_isUse hc hm))), hplace, hm.start, hm.group,
        isDefined?_eq_not_isEarly hc]
      cases isEarly program index use.2 <;> rfl
    rw [List.filterMap_cons, hmatch, List.filter_cons]
    cases isEarly program index use.2 with
    | true => exact congrArg (useMatch index use :: ·) ih
    | false => exact ih

/-- On a line the uses that are early make a match each. The variable of the line makes none, since the line binds it. -/
lemma filterMap_candidates (hc : program[index]? = some c)
    (hf : ∀ m, undefinedName.matchOf (Source.ofText (Calculation.programText program closed)) index m = .ok (f m)) :
    (undefinedName.expression.all c.text).filterMap f =
      (c.uses.filter fun use => isEarly program index use.2).map (useMatch index) := by
  obtain ⟨m, found, hall, htarget, huses⟩ := candidates_of_line c
  have hbound : isEarly program index c.target.1 = false := by
    have hmem : c ∈ program.take (index + 1) :=
      List.mem_iff_getElem?.mpr ⟨index, by rw [List.getElem?_take, if_pos (Nat.lt_succ_self _), hc]⟩
    rw [isEarly, List.all_eq_false.mpr ⟨c, hmem, by simp⟩, Bool.and_false]
  have hown : f m = none := by
    refine (Except.ok.inj ((hf m).symm.trans (matchOf_of_defined ?_)))
    rw [htarget, isDefined?_eq_not_isEarly hc, hbound]
    rfl
  rw [hall, List.filterMap_cons, hown]
  exact filterMap_uses hc hf huses

end Candidates

/-- The names that a straight-line program uses early are reported where they are used, and nothing else is. -/
theorem undefined_names_eq_earlyUses (program : List Calculation) (closed : Bool) (codeStructure : Structure) :
    (ofCode Rule.catalog codeStructure (Calculation.programText program closed)).ruleMatches.filter
      (·.ruleId == undefinedName.id) = earlyUses program := by
  cases program with
  | nil => cases closed <;> rfl
  | cons first rest =>
    generalize hprogram : first :: rest = program
    have hfirst : program[0]? = some first := hprogram ▸ rfl
    have hcode : Text.isBlankText (Calculation.programText program closed) = false :=
      isBlankText_eq_false_of_mem_maskLines (List.mem_of_getElem? (Calculation.getElem?_maskLines hfirst closed))
        first.not_isBlankText
    obtain ⟨f, hf, hms⟩ := Rule.exists_matchesIn_eq_of_total Rule.total_undefinedName
      (Source.ofText (Calculation.programText program closed))
    have hrule : undefinedName ∈ Rule.catalog := by simp [Rule.catalog]
    have hmasked : (Source.ofText (Calculation.programText program closed)).masked =
        program.map Calculation.text ++ Calculation.closingLines closed :=
      Calculation.maskLines_programText (hprogram ▸ List.cons_ne_nil first rest)
    have hclosing : ((Calculation.closingLines closed).zipIdx (0 + (program.map Calculation.text).length)).flatMap
        (fun numbered => (undefinedName.expression.all numbered.1).filterMap (f numbered.2)) = [] := by
      cases closed <;> rfl
    rw [filter_ruleMatches_eq hrule hcode hms, hmasked, List.zipIdx_append, List.flatMap_append, hclosing,
      List.append_nil, List.zipIdx_map, List.flatMap_map]
    refine List.flatMap_congr fun numbered hnumbered => ?_
    exact filterMap_candidates (List.mem_zipIdx_iff_getElem?.mp hnumbered) (hf numbered.2)

end Program

end PatternScan

end CodeAudit
