import CodeAudit.Proofs.Rule.Numbers
import CodeAudit.Proofs.Source.Block
import CodeAudit.Proofs.Source.FirstBinding
import CodeAudit.Proofs.Source.Nesting

/-! Names that are bound later than they are used. The body of a function may use them, but a line counts as part of
one only under a header that is recognised by itself: the name and the opening bracket stand on it, and it ends in the
colon. -/
namespace CodeAudit

open Regex
open Source (Line Name)

namespace Source

/-- The word that starts the definition of a function. -/
def defWord : Regex :=
  blanks ++ optional ("async" ++ gap) ++ "def" ++ gap

/-- A definition of a function: it starts on a line, and the statement's last line ends in the colon. -/
structure Definition (masked : List Line) (index : ℕ) (header : Line) : Prop where
  line : masked[index]? = some header
  word : defWord.startsText header = true
  colon : ∃ last, masked[statementEnd masked index]? = some last ∧ endsWithChar ':' last = true

/-- The lines of the body: those below the signature that are indented deeper than its first line. -/
def definitionBody (masked : List Line) (index : ℕ) (header : Line) : List ℕ :=
  deeperLines (indentOf header) (statementEnd masked index + 1) (masked.drop (statementEnd masked index + 1))

/-- A line that is recognised as the header of a function. -/
abbrev FunctionHeader : Line → Prop := MarkedHeader Bindings.defHeader.startsText

variable {code : List Char} {src : Source} {name : Name} {j : ℕ} {line : Line}

/-- A definition whose signature stands on one line is recognised by its header, and its body is the header's block. -/
lemma Definition.functionHeader {masked : List Line} {index : ℕ} {header : Line} (h : Definition masked index header)
    (hend : statementEnd masked index = index) (hstart : Bindings.defHeader.startsText header = true) :
    FunctionHeader header ∧ definitionBody masked index header = blockBody masked index := by
  obtain ⟨last, hlast, hcolon⟩ := h.colon
  rw [hend] at hlast
  obtain rfl := Option.some.inj (hlast.symm.trans h.line)
  obtain ⟨hindex, hget⟩ := List.getElem?_eq_some_iff.mp h.line
  refine ⟨⟨hstart, hcolon⟩, ?_⟩
  rw [definitionBody, hend, blockBody, List.drop_eq_getElem_cons hindex, hget]

/-- Every line of the text is in a function or not. -/
lemma exists_inFunctionAt? (hline : (maskLines code)[j]? = some line) :
    ∃ inside, (Source.ofText code).inFunctionAt? (j : ℤ) = some inside ∧
      (insideMarked Bindings.defHeader.startsText [] (maskLines code))[j]? = some inside := by
  obtain ⟨hj, -⟩ := List.getElem?_eq_some_iff.mp hline
  have hflag := List.getElem?_eq_getElem (l := insideMarked Bindings.defHeader.startsText [] (maskLines code))
    (by rwa [length_insideMarked])
  refine ⟨_, ?_, hflag⟩
  rw [inFunctionAt?, if_pos (Int.natCast_nonneg j), Int.toNat_natCast]
  exact hflag

/-- A name is defined on the line that binds it and on those below. -/
lemma isDefined?_of_bound {i : ℕ} (h : name ∈ (Source.ofText code).bindingsOn i) (hij : i ≤ j)
    (hline : (maskLines code)[j]? = some line) : ((Source.ofText code).isDefined? name j).getD false = true := by
  obtain ⟨first, hfirst, hle⟩ := exists_firstBinding?_le_iff.mpr ⟨i, hij, h⟩
  obtain ⟨inside, hat, -⟩ := exists_inFunctionAt? hline
  rw [isDefined?, hfirst, hat]
  split
  · rfl
  · simp [hle]

/-- A bound name is not yet defined on a line of code before its first binding, outside all functions that are
recognised. -/
lemma isDefined?_eq_false_iff {first : ℕ} (hfirst : (Source.ofText code).firstBinding? name = some first)
    (hline : (maskLines code)[j]? = some line) (hcode : Text.isBlankText line = false) :
    ((Source.ofText code).isDefined? name j).getD false = false ↔
      Vocabulary.alwaysDefined.contains (String.ofList name) = false ∧ j < first ∧
        ∀ i header, (maskLines code)[i]? = some header → FunctionHeader header → j ∉ blockBody (maskLines code) i := by
  have hinside := insideMarked_iff Bindings.defHeader.startsText hline hcode
  obtain ⟨inside, hat, hflag⟩ := exists_inFunctionAt? hline
  rw [hflag, Option.some_inj] at hinside
  have hnone : (inside = false ↔ ∀ i header, (maskLines code)[i]? = some header → FunctionHeader header →
      j ∉ blockBody (maskLines code) i) := by
    rw [← Bool.not_eq_true, hinside]
    simp only [not_exists, not_and]
  rw [isDefined?, hfirst, hat, ← hnone]
  cases Vocabulary.alwaysDefined.contains (String.ofList name) with
  | true => simp
  | false => simp [and_comm]

end Source

namespace Rule.Naming

/-- How the use of a name that is not defined yet is worded. -/
def undefinedEvidence (name : Name) : String :=
  s!"Variable '{String.ofList name}' used before definition"

lemma undefinedEvidence_inj {a b : Name} : undefinedEvidence a = undefinedEvidence b ↔ a = b := by
  refine ⟨fun h => ?_, congrArg _⟩
  have hletters := congrArg String.toList h
  simpa [undefinedEvidence, toString, String.toList_append] using hletters

/-- What would excuse a use of a name, other than a definition, does not hold of it. -/
structure Unexcused (src : Source) (index : ℕ) (m : Found) : Prop where
  loop : (src.loopNamesBetween index (Source.bracketedEnd src.masked index)).contains (m.group "name") = false
  scope : scopeLine.startsText (src.maskedLine index) = false
  member : (Text.stripRight ((src.maskedLine index).take m.start)).getLast? ≠ some '.'
  keyword : assigned.startsText m.rest = false

/-- Evidence that is there was not ruled out. -/
lemma ite_nil_eq_singleton_iff {p : Prop} [Decidable p] {x : Except Reading.Fault (List String)} {e : String} :
    (if p then .ok [] else x) = .ok [e] ↔ ¬ p ∧ x = .ok [e] := by
  split
  · rename_i hp
    simp [hp]
  · rename_i hp
    simp [hp]

lemma undefinedName_evidence_eq_iff {m : Found} {src : Source} {index : ℕ} {name : Name} :
    undefinedName.evidence m src index = .ok [undefinedEvidence name] ↔
      m.group "name" = name ∧ (src.isDefined? name index).getD false = false ∧ Unexcused src index m := by
  have hword (used : Name) : (.ok [s!"Variable '{String.ofList used}' used before definition"] :
      Except Reading.Fault (List String)) = .ok [undefinedEvidence name] ↔ used = name := by
    rw [← undefinedEvidence_inj, Except.ok.injEq, List.cons_eq_cons, and_iff_left rfl]
    rfl
  simp only [undefinedName, ite_nil_eq_singleton_iff, hword, Bool.not_eq_true, Bool.or_eq_false_iff,
    beq_eq_false_iff_ne]
  constructor
  · rintro ⟨hdefined, hloop, hscope, ⟨hmember, hkeyword⟩, rfl⟩
    exact ⟨rfl, hdefined, hloop, hscope, hmember, hkeyword⟩
  · rintro ⟨rfl, hdefined, hexcused⟩
    exact ⟨hdefined, hexcused.loop, hexcused.scope, ⟨hexcused.member, hexcused.keyword⟩, rfl⟩

end Rule.Naming

namespace PatternScan

open Source Rule.Naming

variable {code : List Char} {name : Name} {j : ℕ}

/-- A scan by the catalog reports a use of the name on the line. -/
def ReportsName (codeStructure : Structure) (code : List Char) (index : ℕ) (name : Name) : Prop :=
  ∃ m ∈ (ofCode Rule.catalog codeStructure code).ruleMatches,
    m.ruleId = undefinedName.id ∧ m.startLine = index + 1 ∧ m.evidence = [undefinedEvidence name]

/-- What is reported is not bound on its line, nor on one before it. -/
lemma ReportsName.not_mem_bindingsOn {codeStructure : Structure} {i : ℕ} (h : ReportsName codeStructure code j name)
    (hij : i ≤ j) : name ∉ (Source.ofText code).bindingsOn i := by
  intro hbound
  have hrule : undefinedName ∈ Rule.catalog := by simp [Rule.catalog]
  have htext : Text.isBlankText code = false := by
    by_contra hblank
    obtain ⟨m, hm, -⟩ := h
    rw [ofCode, if_pos (by simpa using hblank)] at hm
    exact absurd hm List.not_mem_nil
  obtain ⟨-, line, hline, m, -, hevidence⟩ :=
    (exists_match_iff hrule htext (Rule.exists_matchesIn_of_total Rule.total_undefinedName _)).mp h
  obtain ⟨-, hundefined, -⟩ := undefinedName_evidence_eq_iff.mp hevidence
  rw [isDefined?_of_bound hbound hij hline] at hundefined
  cases hundefined

/-- What is reported of a bound name: a use before the first binding that nothing excuses, outside the functions that
are recognised. -/
lemma reportsName_iff {codeStructure : Structure} {line : Line} (hline : (maskLines code)[j]? = some line)
    (hcode : Text.isBlankText line = false) {first : ℕ}
    (hfirst : (Source.ofText code).firstBinding? name = some first) :
    ReportsName codeStructure code j name ↔
      (∃ m ∈ undefinedName.expression.all line, m.group "name" = name ∧ Unexcused (Source.ofText code) j m) ∧
        Vocabulary.alwaysDefined.contains (String.ofList name) = false ∧ j < first ∧
          ∀ i header, (maskLines code)[i]? = some header → FunctionHeader header →
            j ∉ blockBody (maskLines code) i := by
  have hrule : undefinedName ∈ Rule.catalog := by simp [Rule.catalog]
  have htext := isBlankText_eq_false_of_mem_maskLines (List.mem_of_getElem? hline) hcode
  rw [ReportsName, exists_match_iff hrule htext (Rule.exists_matchesIn_of_total Rule.total_undefinedName _),
    ← isDefined?_eq_false_iff hfirst hline hcode, hline]
  simp only [Option.some.injEq, exists_eq_left', undefinedName_evidence_eq_iff, ne_eq, List.cons_ne_nil,
    not_false_eq_true, true_and]
  constructor
  · rintro ⟨m, hm, hname, hdefined, hexcused⟩
    exact ⟨⟨m, hm, hname, hexcused⟩, hdefined⟩
  · rintro ⟨⟨m, hm, hname, hexcused⟩, hdefined⟩
    exact ⟨m, hm, hname, hdefined, hexcused⟩

/-- The name is used on the line before the first line that binds it, and nothing excuses the use. -/
def UsedEarly (code : List Char) (index : ℕ) (name : Name) : Prop :=
  Vocabulary.alwaysDefined.contains (String.ofList name) = false ∧
    (∃ first, (Source.ofText code).firstBinding? name = some first ∧ index < first) ∧
      ∃ line, (maskLines code)[index]? = some line ∧
        ∃ m ∈ undefinedName.expression.all line, m.group "name" = name ∧ Unexcused (Source.ofText code) index m

/-- In the body of a function a name that some line binds is reported where it is used early and no recognised header
has the line in its block. So no such name is reported if the signature stands on one line; one that is broken over
several is not recognised unless its first line happens to look like a header. -/
theorem late_name_reported_iff {index : ℕ} {header : Line} (h : Definition (maskLines code) index header)
    (hj : j ∈ definitionBody (maskLines code) index header) {k : ℕ}
    (hbound : name ∈ (Source.ofText code).bindingsOn k) (codeStructure : Structure) :
    (ReportsName codeStructure code j name ↔ UsedEarly code j name ∧
        ∀ i other, (maskLines code)[i]? = some other → FunctionHeader other → j ∉ blockBody (maskLines code) i) ∧
      (statementEnd (maskLines code) index = index → Bindings.defHeader.startsText header = true →
        ¬ ReportsName codeStructure code j name) := by
  obtain ⟨line, hline, -, hcode, -⟩ := exists_deeper_of_mem rfl hj
  obtain ⟨first, hfirst⟩ := exists_firstBinding? hbound
  have hreports : ReportsName codeStructure code j name ↔ UsedEarly code j name ∧
      ∀ i other, (maskLines code)[i]? = some other → FunctionHeader other → j ∉ blockBody (maskLines code) i := by
    rw [reportsName_iff hline hcode hfirst, UsedEarly, hfirst, hline]
    simp only [Option.some.injEq, exists_eq_left']
    tauto
  refine ⟨hreports, fun hend hstart hreported => ?_⟩
  obtain ⟨hheader, hbody⟩ := h.functionHeader hend hstart
  exact (hreports.mp hreported).2 index header h.line hheader (hbody ▸ hj)

/-- A function that uses a constant of the module. -/
def shortSignature : List Char := "def show():\n    print(LIMIT)\n\nLIMIT = 10\nshow()".toList

/-- A function that does so below a signature of three lines. -/
def longSignature : List Char := "def f(\n    a,\n):\n    return later\n\nlater = 1\n".toList

theorem late_name_not_reported_short : ¬ ReportsName {} shortSignature 1 "LIMIT".toList := by
  have hshow : Definition (maskLines shortSignature) 0 "def show():".toList :=
    ⟨by decide +kernel, by decide +kernel, "def show():".toList, by decide +kernel, by decide +kernel⟩
  have hbody : 1 ∈ definitionBody (maskLines shortSignature) 0 "def show():".toList := by decide +kernel
  have hbound : "LIMIT".toList ∈ (Source.ofText shortSignature).bindingsOn 3 := by decide +kernel
  exact (late_name_reported_iff hshow hbody hbound {}).2 (by decide +kernel) (by decide +kernel)

theorem late_name_reported_long :
    ∃ header, Definition (maskLines longSignature) 0 header ∧ 3 ∈ definitionBody (maskLines longSignature) 0 header ∧
      "later".toList ∈ (Source.ofText longSignature).bindingsOn 5 ∧ ReportsName {} longSignature 3 "later".toList := by
  have hf : Definition (maskLines longSignature) 0 "def f(".toList :=
    ⟨by decide +kernel, by decide +kernel, "):".toList, by decide +kernel, by decide +kernel⟩
  refine ⟨"def f(".toList, hf, by decide +kernel, by decide +kernel, ?_⟩
  unfold ReportsName
  decide +kernel

end PatternScan
end CodeAudit
