import CodeAudit.Proofs.Regex.Sequence
import CodeAudit.Proofs.Text.Words
import CodeAudit.Source.Bindings

/-! The names on a line. Where all words of a text are names these are what is found in it. A line that starts with
none of the words for definitions, imports and outer names binds what it assigns, and what its expressions bind. -/
namespace CodeAudit

namespace Regex

variable {pre w n post text : List Char}

lemma spells_name : name.Spells pre w post ↔ Text.isName w = true := by
  rw [Text.isName_iff]
  constructor
  · rintro ⟨_, rest, rfl, ⟨c, hc, rfl⟩, hrest⟩
    exact ⟨c, rest, rfl, hc, hrest⟩
  · rintro ⟨c, rest, rfl, hc, hrest⟩
    exact ⟨[c], rest, rfl, ⟨c, hc, rfl⟩, hrest⟩

lemma reads_name (h : Text.isName n = true) (hpost : post.head?.any Text.isWord = false) :
    name.Reads pre n post [] := by
  obtain ⟨c, rest, rfl, hc, hrest⟩ := Text.isName_iff.mp h
  exact (reads_one hc).append (reads_many hrest hpost)

/-- No name starts on the way over these characters. -/
lemma allAfter_name_append {front : List Char} (h : ∀ c ∈ front, Text.isNameStart c = false) (pre post : List Char) :
    name.allAfter pre (front ++ post) = name.allAfter (pre ++ front) post := by
  refine allAfter_append rfl fun a c b hfront w post' htext hspells => ?_
  obtain ⟨d, rest, rfl, hd, -⟩ := Text.isName_iff.mp (spells_name.mp hspells)
  obtain ⟨rfl, -⟩ := List.cons.inj htext
  rw [h c (by simp [hfront])] at hd
  cases hd

/-- The names found in a text are what its words end in. The induction is on the length of the text, which is a
character outside words and the rest, or a word and the rest. -/
lemma texts_name_allAfter (pre post : List Char) :
    (name.allAfter pre post).map Found.text = ((Text.wordRuns post).map Text.nameEnd).filter (!·.isEmpty) := by
  induction hlength : post.length using Nat.strong_induction_on generalizing pre post with
  | _ k ih =>
    subst hlength
    cases post with
    | nil =>
      rw [Text.wordRuns_nil]
      rfl
    | cons c rest =>
      by_cases hc : Text.isWord c = true
      · obtain ⟨w, rest', htext, hne, hword, hrest, hruns⟩ := Text.exists_wordRun hc rest
        have hshorter : rest'.length < (c :: rest).length := by
          rw [htext, List.length_append]
          have := List.length_pos_iff.mpr hne
          omega
        obtain ⟨front, hw, hfront, hend⟩ := Text.exists_eq_nameEnd hword
        rw [hruns, htext, hw, List.append_assoc, allAfter_name_append hfront, List.map_cons, List.filter_cons, ← hw]
        rcases hend with hend | hname
        · rw [hend, List.nil_append, ih _ hshorter _ _ rfl]
          rfl
        · have hne := Text.ne_nil_of_isName hname
          have hread : name.Reads (pre ++ front) (Text.nameEnd w) rest' [] := reads_name hname hrest
          obtain ⟨m, hm, hall⟩ := hread.exists_allAfter rfl hne
          rw [hall, List.map_cons, hm.text, ih _ hshorter _ _ rfl, if_pos (by simpa using hne)]
      · have hstart : ∀ d ∈ [c], Text.isNameStart d = false := by
          simp only [List.mem_singleton, forall_eq]
          exact Bool.eq_false_iff.mpr fun hd => hc (Text.isWord_of_isNameStart hd)
        rw [Text.wordRuns_cons (Bool.eq_false_iff.mpr hc), ← List.singleton_append, allAfter_name_append hstart,
          ih _ (Nat.lt_succ_self _) _ _ rfl]

lemma startsText_of_append {r q : Regex} (hr : r.refersBack = false) (hq : q.refersBack = false)
    (h : (r ++ q).startsText text = true) : r.startsText text = true := by
  have hplain : (r ++ q).refersBack = false := by rw [refersBack_append, hr, hq]; rfl
  obtain ⟨_, post, rfl, u, v, rfl, hu, -⟩ := (startsText_iff hplain).mp h
  exact (startsText_iff hr).mpr ⟨u, v ++ post, by simp, hu⟩

lemma atStart?_eq_none {r : Regex} (h : ¬ r.startsText text = true) : r.atStart? text = none :=
  Option.not_isSome_iff_eq_none.mp h

lemma head?_of_spells_gap (h : gap.Spells pre w post) : (w ++ post).head?.any Text.isWord = false := by
  obtain ⟨hne, hblank⟩ := spells_many1.mp h
  exact Text.head?_any_append_of_ne_nil hne (fun c hc => Text.not_isWord_of_isBlank (hblank c hc)) post

/-- A word between a border and a blank is one of the words of the text. -/
lemma mem_wordRuns_of_spells {word : String} (hword : word.toList ≠ [] ∧ word.toList.all Text.isWord = true)
    (h : (border ++ word ++ gap).Spells pre w post) : word.toList ∈ Text.wordRuns (pre ++ (w ++ post)) := by
  obtain ⟨hne, hall⟩ := hword.imp_right List.all_eq_true.mp
  obtain ⟨_, g, rfl, ⟨_, _, rfl, ⟨rfl, hborder⟩, hspelled⟩, hgap⟩ := h
  obtain rfl := spells_text.mp hspelled
  have hafter := head?_of_spells_gap hgap
  have hstart := Text.head?_any_append_of_ne_nil hne hall (g ++ post)
  have hbefore : pre.getLast?.any Text.isWord = false := by
    rw [hstart] at hborder
    simpa using hborder
  simpa using Text.mem_wordRuns hne hall hbefore hafter

end Regex

namespace Source

open Regex

/-- The words that start a definition, an import or a declaration of outer names. -/
def headWords : List String := ["async", "def", "class", "import", "from", "global", "nonlocal"]

/-- The word that a line starts with, blanks aside. -/
def firstWord (line : Line) : List Char := (line.dropWhile Text.isBlank).takeWhile Text.isWord

variable {line b rest : Line}

/-- The first word of a line that starts with blanks and a word. -/
lemma firstWord_eq {w : List Char} (hb : ∀ c ∈ b, Text.isBlank c = true) (hw : w ≠ [] ∧ ∀ c ∈ w, Text.isWord c = true)
    (hrest : rest.head?.any Text.isWord = false) : firstWord (b ++ (w ++ rest)) = w := by
  obtain ⟨c, more, rfl⟩ := List.exists_cons_of_ne_nil hw.1
  have hc : Text.isBlank c = false := Text.not_isBlank_of_isWord (hw.2 c List.mem_cons_self)
  rw [firstWord, List.dropWhile_append_of_pos hb, List.cons_append, List.dropWhile_cons_of_neg (by simp [hc]),
    ← List.cons_append, Text.takeWhile_run hw.2 hrest]

lemma isWord_of_mem_headWords :
    ∀ word ∈ headWords, word.toList ≠ [] ∧ ∀ c ∈ word.toList, Text.isWord c = true := by
  intro word hword
  have hall : ∀ word ∈ headWords, word.toList ≠ [] ∧ word.toList.all Text.isWord = true := by decide
  exact (hall word hword).imp_right List.all_eq_true.mp

lemma firstWord_of_startsText {words : List String} (hwords : words ⊆ headWords)
    (h : (blanks ++ oneOf words ++ gap).startsText line = true) : String.ofList (firstWord line) ∈ words := by
  have hplain : (blanks ++ oneOf words ++ gap).refersBack = false := by
    rw [refersBack_append, refersBack_append, refersBack_oneOf]
    rfl
  obtain ⟨_, post, rfl, _, g, rfl, ⟨b, _, rfl, hb, hspelled⟩, hg⟩ := (startsText_iff hplain).mp h
  obtain ⟨word, hword, rfl⟩ := spells_oneOf.mp hspelled
  rw [List.append_assoc, List.append_assoc,
    firstWord_eq hb (isWord_of_mem_headWords word (hwords hword)) (head?_of_spells_gap hg), String.ofList_toList]
  exact hword

lemma firstWord_of_defHeader (h : Bindings.defHeader.startsText line = true) :
    String.ofList (firstWord line) ∈ headWords := by
  have hdef : (blanks ++ optional ("async" ++ gap) ++ "def" ++ gap).startsText line = true :=
    startsText_of_append rfl rfl (startsText_of_append rfl rfl (startsText_of_append rfl rfl h))
  have hplain : (blanks ++ optional ("async" ++ gap) ++ "def" ++ gap).refersBack = false := rfl
  obtain ⟨_, post, rfl, _, g, rfl, ⟨_, _, rfl, ⟨b, _, rfl, hb, hasync⟩, hspelled⟩, hg⟩ := (startsText_iff hplain).mp hdef
  obtain rfl := spells_text.mp hspelled
  rcases hasync with ⟨_, a, rfl, hasync, ha⟩ | rfl
  · obtain rfl := spells_text.mp hasync
    have hfirst : firstWord (b ++ ("async".toList ++ (a ++ ("def".toList ++ (g ++ post))))) = "async".toList :=
      firstWord_eq hb (isWord_of_mem_headWords "async" (by decide)) (head?_of_spells_gap ha)
    rw [List.append_assoc, List.append_assoc, List.append_assoc, List.append_assoc, hfirst]
    decide
  · have hfirst : firstWord (b ++ ("def".toList ++ (g ++ post))) = "def".toList :=
      firstWord_eq hb (isWord_of_mem_headWords "def" (by decide)) (head?_of_spells_gap hg)
    rw [List.append_nil, List.append_assoc, List.append_assoc, hfirst]
    decide

/-- What the expressions of a line bind: the variables of its clauses, its aliases, the targets of assignment expressions
and the parameters of anonymous functions. -/
def innerNames (line : Line) : List Name :=
  Bindings.loopNames line ++ (Bindings.aliasName.all line).map (·.group "name") ++ Bindings.expressionTargets line ++
    (Bindings.lambdaParameters.all line).flatMap (fun m => Bindings.parameterNames (m.group "parameters"))

section Headers

/-- An expression that asks for one of some words at the start of a line. -/
lemma atStart?_eq_none_of_firstWord {words : List String} {r : Regex} (hwords : words ⊆ headWords)
    (hstarts : r.startsText line = true → (blanks ++ oneOf words ++ gap).startsText line = true)
    (h : String.ofList (firstWord line) ∉ words) : r.atStart? line = none :=
  atStart?_eq_none fun hr => h (firstWord_of_startsText hwords (hstarts hr))

lemma classHeader_eq_none (h : String.ofList (firstWord line) ∉ ["class"]) :
    Bindings.classHeader.atStart? line = none := by
  refine atStart?_eq_none_of_firstWord (by decide) (fun hstarts => ?_) h
  exact startsText_of_append rfl rfl hstarts

lemma plainImport_eq_none (h : String.ofList (firstWord line) ∉ ["import"]) :
    Bindings.plainImport.atStart? line = none := by
  refine atStart?_eq_none_of_firstWord (by decide) (fun hstarts => ?_) h
  exact startsText_of_append rfl rfl (startsText_of_append rfl rfl hstarts)

lemma fromImport_eq_none (h : String.ofList (firstWord line) ∉ ["from"]) :
    Bindings.fromImport.atStart? line = none := by
  refine atStart?_eq_none_of_firstWord (by decide) (fun hstarts => ?_) h
  iterate 7 replace hstarts := startsText_of_append rfl rfl hstarts
  exact hstarts

lemma outerNames_eq_none (h : String.ofList (firstWord line) ∉ ["global", "nonlocal"]) :
    Bindings.outerNames.atStart? line = none := by
  refine atStart?_eq_none_of_firstWord (by decide) (fun hstarts => ?_) h
  exact startsText_of_append rfl rfl (startsText_of_append rfl rfl hstarts)

end Headers

lemma ofLine_eq (h : String.ofList (firstWord line) ∉ headWords) (following : List Line) :
    Bindings.ofLine line following =
      Bindings.assignedNames line ++ Bindings.headName Bindings.annotatedName line ++ innerNames line := by
  have hwords : ∀ words ⊆ headWords, String.ofList (firstWord line) ∉ words := fun _ hsub hmem => h (hsub hmem)
  have hdef : Bindings.defHeader.atStart? line = none :=
    atStart?_eq_none fun hstarts => h (firstWord_of_defHeader hstarts)
  simp [Bindings.ofLine, Bindings.definitionNames, Bindings.importNames, Bindings.fromImportNames, Bindings.headName,
    innerNames, hdef, classHeader_eq_none (hwords _ (by decide)), plainImport_eq_none (hwords _ (by decide)),
    fromImport_eq_none (hwords _ (by decide)), outerNames_eq_none (hwords _ (by decide))]

/-- A text whose expressions bind nothing: it has no colon and none of the words `for` and `as`. -/
structure Quiet (text : List Char) : Prop where
  noColon : ':' ∉ text
  noClause : "for".toList ∉ Text.wordRuns text
  noAlias : "as".toList ∉ Text.wordRuns text

lemma Quiet.innerNames_eq_nil (h : Quiet line) : innerNames line = [] := by
  have hloops : Bindings.loopTargets.all line = [] := by
    refine all_eq_nil rfl fun pre w post hline hspells => h.noClause ?_
    obtain ⟨_, _, rfl, ⟨_, _, rfl, ⟨_, _, rfl, ⟨u, _, rfl, hfor, -⟩, -⟩, -⟩, -⟩ := hspells
    rw [hline]
    simpa using mem_wordRuns_of_spells (by decide) hfor
  have haliases : Bindings.aliasName.all line = [] := by
    refine all_eq_nil rfl fun pre w post hline hspells => h.noAlias ?_
    obtain ⟨_, _, rfl, has, -⟩ := hspells
    rw [hline]
    simpa using mem_wordRuns_of_spells (by decide) has
  have htargets : Bindings.namedExpression.all line = [] := by
    refine all_eq_nil rfl fun pre w post hline hspells => h.noColon ?_
    obtain ⟨_, _, rfl, -, hsign⟩ := hspells
    rw [hline, spells_text.mp hsign]
    simp
  have hlambdas : Bindings.lambdaParameters.all line = [] := by
    refine all_eq_nil rfl fun pre w post hline hspells => h.noColon ?_
    obtain ⟨_, _, rfl, -, hsign⟩ := hspells
    rw [hline, spells_text.mp hsign]
    simp
  simp [innerNames, Bindings.loopNames, Bindings.expressionTargets, hloops, haliases, htargets, hlambdas]

/-- Word characters, the first of which is no digit, and no keyword. -/
def isIdentifier (n : Name) : Bool :=
  n.all Text.isWord && !n.head?.all Text.isDigit && !Bindings.isKeyword n

abbrev Identifier := {n : Name // isIdentifier n = true}

namespace Identifier

lemma isWord (n : Identifier) : ∀ c ∈ n.1, Text.isWord c = true := by
  have h := n.2
  simp only [isIdentifier, Bool.and_eq_true] at h
  exact List.all_eq_true.mp h.1.1

lemma ne_nil (n : Identifier) : n.1 ≠ [] := by
  obtain ⟨n, h⟩ := n
  rintro rfl
  cases h

lemma not_isKeyword (n : Identifier) : Bindings.isKeyword n.1 = false := by
  have h := n.2
  simp only [isIdentifier, Bool.and_eq_true, Bool.not_eq_true'] at h
  exact h.2

end Identifier

end Source

end CodeAudit
