import CodeAudit.Proofs.Source.FirstBinding
import CodeAudit.Proofs.Source.Signature

/-! Definitions as they are written, and which of their parameters are bound. -/
namespace CodeAudit.Source

open Regex

/-- At least one blank. -/
abbrev Gap := {b : Text.Blanks // b.1 ≠ []}

/-- One or two stars in front of a parameter. -/
structure Stars where
  double : Bool
  gap : Text.Blanks

def Stars.signs (s : Stars) : List Char := if s.double then ['*', '*'] else ['*']

structure Parameter where
  lead : Text.Blanks
  stars : Option Stars
  name : Identifier
  /-- The annotation and the default. -/
  rest : List Char
  rest_start : rest.head?.any Text.isWord = false
  rest_closes : closes 0 rest = true

/-- A definition up to the bracket that opens its parameters. -/
structure DefHeader where
  indent : Text.Blanks
  /-- The blanks behind `async`. -/
  async : Option Gap
  gap : Gap
  name : Identifier
  trail : Text.Blanks

structure DefStatement where
  header : DefHeader
  parameters : List Parameter
  /-- The blanks behind a comma at the end. -/
  comma : Option Text.Blanks
  /-- What stands behind the closing bracket, the lines below included. -/
  tail : List Char

namespace Parameter

def starsText (p : Parameter) : List Char :=
  (p.stars.map fun s => s.signs ++ s.gap.1).getD []

/-- The parameter up to the end of its name. -/
def start (p : Parameter) : List Char := p.lead.1 ++ (p.starsText ++ p.name.1)

def text (p : Parameter) : List Char := p.start ++ p.rest

end Parameter

namespace DefHeader

def asyncText (d : DefHeader) : List Char := (d.async.map ("async".toList ++ ·.1.1)).getD []

def text (d : DefHeader) : List Char :=
  d.indent.1 ++ d.asyncText ++ "def".toList ++ d.gap.1.1 ++ d.name.1 ++ d.trail.1

end DefHeader

namespace DefStatement

/-- Parameters with a comma behind each. -/
def closedList (ps : List Parameter) : List Char := ps.flatMap (·.text ++ [','])

/-- The parameters with the commas between them. -/
def listText (d : DefStatement) : List Char :=
  Text.joinWith [','] (d.parameters.map Parameter.text) ++ (d.comma.map (',' :: ·.1)).getD []

def text (d : DefStatement) : List Char := d.header.text ++ '(' :: (d.listText ++ ')' :: d.tail)

end DefStatement

section Reading

variable {b stars g n tail : List Char}

lemma reads_parameterName (hb : ∀ c ∈ b, Text.isBlank c = true) (hstars : ∀ c ∈ stars, (c == '*') = true)
    (hg : ∀ c ∈ g, Text.isBlank c = true) (hempty : stars = [] → g = []) (hn : Text.isName n = true)
    (htail : tail.head?.any Text.isWord = false) :
    Bindings.parameterName.Reads [] (b ++ stars ++ g ++ n) tail [("name", n)] := by
  obtain ⟨c, rest, rfl, hc, -⟩ := Text.isName_iff.mp hn
  have hword := Text.isWord_of_isNameStart hc
  have hblank : (c :: rest ++ tail).head?.any Text.isBlank = false := Text.not_isBlank_of_isWord hword
  have hstar : (g ++ (c :: rest ++ tail)).head?.any (· == '*') = false := by
    refine Text.head?_any_append (Text.head?_any_eq_false fun d hd => ?_) ?_
    · rw [beq_eq_false_iff_ne]
      rintro rfl
      exact absurd (hg _ hd) (by decide)
    · change (c == '*') = false
      rw [beq_eq_false_iff_ne]
      rintro rfl
      exact absurd hword (by decide)
  have hlead : (stars ++ (g ++ (c :: rest ++ tail))).head?.any Text.isBlank = false := by
    cases stars with
    | nil =>
      rw [hempty rfl]
      exact hblank
    | cons d stars =>
      obtain rfl := beq_iff_eq.mp (hstars d List.mem_cons_self)
      rfl
  exact (((reads_many hb hlead).append (reads_many hstars hstar)).append (reads_many hg hblank)).append
    ((reads_name hn htail).group "name")

end Reading

lemma Stars.eq_star_of_mem (s : Stars) : ∀ c ∈ s.signs, c = '*' := by
  intro c hc
  rw [Stars.signs] at hc
  split at hc <;> simpa using hc

namespace Parameter

variable (p : Parameter) {tail : List Char}

lemma not_isListSign_start : ∀ c ∈ p.start, isListSign c = false := by
  intro c hc
  rw [start, starsText] at hc
  simp only [List.mem_append] at hc
  rcases hc with hc | hc | hc
  · exact not_isListSign_of_isBlank (p.lead.isBlank c hc)
  · cases hstars : p.stars with
    | none => simp [hstars] at hc
    | some s =>
      rw [hstars] at hc
      rcases List.mem_append.mp hc with hc | hc
      · rw [s.eq_star_of_mem c hc]
        rfl
      · exact not_isListSign_of_isBlank (s.gap.isBlank c hc)
  · exact not_isListSign_of_isWord (p.name.isWord c hc)

lemma closes_text : closes 0 p.text = true := by
  rw [text, closes_append p.not_isListSign_start]
  exact p.rest_closes

/-- The name of a parameter is read, also where line feeds have become spaces. -/
lemma reads_start (hn : Text.isName p.name.1 = true) (htail : tail.head?.any Text.isWord = false) :
    Bindings.parameterName.Reads [] (oneLine p.start) tail [("name", p.name.1)] := by
  have hlead : ∀ c ∈ oneLine p.lead.1, Text.isBlank c = true := forall_mem_oneLine rfl p.lead.isBlank
  have hname : oneLine p.name.1 = p.name.1 := oneLine_of_notMem fun hfeed => by cases p.name.isWord _ hfeed
  rw [start, starsText, oneLine_append, oneLine_append, hname]
  cases p.stars with
  | none =>
    have hread := reads_parameterName hlead (List.forall_mem_nil _) (List.forall_mem_nil _) (fun _ => rfl) hn htail
    rwa [List.append_nil, List.append_nil] at hread
  | some s =>
    have hsigns : oneLine s.signs = s.signs := oneLine_of_notMem fun hfeed => by cases s.eq_star_of_mem _ hfeed
    have hstars : ∀ c ∈ s.signs, (c == '*') = true := fun c hc => beq_iff_eq.mpr (s.eq_star_of_mem c hc)
    have hgap : ∀ c ∈ oneLine s.gap.1, Text.isBlank c = true := forall_mem_oneLine rfl s.gap.isBlank
    have hne : s.signs ≠ [] := by
      rw [Stars.signs]
      split <;> exact List.cons_ne_nil _ _
    have hread := reads_parameterName hlead hstars hgap (fun hnil => absurd hnil hne) hn htail
    rw [Option.map_some, Option.getD_some, oneLine_append, hsigns]
    simpa using hread

/-- The name of a parameter is found where its part of the list starts. -/
lemma mem_parameterNames (hn : Text.isName p.name.1 = true) {more : List Char} (hmore : more.head?.any Text.isWord = false) :
    p.name.1 ∈ Bindings.parameterNames (oneLine p.start ++ more) := by
  have hplain : ∀ c ∈ oneLine p.start, isListSign c = false := forall_mem_oneLine rfl p.not_isListSign_start
  obtain ⟨tail, others, hpieces, hprefix⟩ := exists_parameterPieces_eq_cons 0 ((oneLine p.start).reverse ++ []) more
  have htail := Text.head?_any_of_prefix hprefix hmore
  obtain ⟨m, hm, htakes⟩ := (p.reads_start hn htail).exists_atStart?
  have hname : (Bindings.parameterName.atStart? (oneLine p.start ++ tail)).map (·.group "name") = some p.name.1 := by
    rw [hm, Option.map_some, htakes.group_eq]
    rfl
  rw [Bindings.parameterNames, parameterPieces_append hplain, hpieces, List.append_nil, List.reverse_reverse]
  exact List.mem_filterMap.mpr ⟨_, List.mem_cons_self, hname⟩

end Parameter

/-- Parameters with a comma behind each are pieces of their own. -/
lemma exists_pieces_of_parameters (ps : List Parameter) (more : List Char) :
    ∃ pieces, Bindings.parameterPieces 0 [] (oneLine (DefStatement.closedList ps) ++ more) =
      pieces ++ Bindings.parameterPieces 0 [] more := by
  induction ps with
  | nil => exact ⟨[], rfl⟩
  | cons p ps ih =>
    obtain ⟨later, hlater⟩ := ih
    have hcloses : closes 0 (oneLine p.text) = true := by rw [closes_oneLine, p.closes_text]
    obtain ⟨pieces, piece, hpieces⟩ := exists_pieces_of_closes hcloses []
      (',' :: (oneLine (DefStatement.closedList ps) ++ more))
    refine ⟨pieces ++ piece.reverse :: later, ?_⟩
    have htext : oneLine (DefStatement.closedList (p :: ps)) ++ more =
        oneLine p.text ++ ',' :: (oneLine (DefStatement.closedList ps) ++ more) := by
      rw [DefStatement.closedList, List.flatMap_cons, oneLine_append, oneLine_append, ← DefStatement.closedList]
      simp [oneLine]
    have hcomma : Bindings.parameterPieces 0 piece (',' :: (oneLine (DefStatement.closedList ps) ++ more)) =
        piece.reverse :: (later ++ Bindings.parameterPieces 0 [] more) := by
      rw [parameterPieces_cons rfl, ← hlater]
      rfl
    rw [htext, hpieces, hcomma, List.append_assoc, List.cons_append]

lemma exists_parameterNames_eq (ps : List Parameter) (more : List Char) :
    ∃ names, Bindings.parameterNames (oneLine (DefStatement.closedList ps) ++ more) =
      names ++ Bindings.parameterNames more := by
  obtain ⟨pieces, hpieces⟩ := exists_pieces_of_parameters ps more
  exact ⟨_, by rw [Bindings.parameterNames, hpieces, List.filterMap_append]; rfl⟩

namespace DefHeader

variable (d : DefHeader) {rest : List Char} {following : List Line}

lemma reads_async {pre more : List Char} :
    (optional ("async" ++ Regex.gap)).Reads pre d.asyncText ("def".toList ++ more) [] := by
  rw [asyncText]
  cases d.async with
  | none =>
    refine reads_optional_of_not_spells rfl fun u v htext hspells => ?_
    obtain ⟨_, g, rfl, hasync, -⟩ := hspells
    rw [spells_text.mp hasync] at htext
    cases (List.cons.inj htext).1
  | some a => exact ((reads_text "async").append (reads_many1 a.2 a.1.isBlank rfl)).orElse

/-- The header is read up to the opening bracket. -/
lemma reads_text (hname : Text.isName d.name.1 = true) :
    Bindings.defHeader.Reads [] (d.text ++ "(".toList) rest [("name", d.name.1)] := by
  obtain ⟨c, more, hcons, hc, -⟩ := Text.isName_iff.mp hname
  have hblank (tail : List Char) : (d.name.1 ++ tail).head?.any Text.isBlank = false := by
    rw [hcons]
    exact Text.not_isBlank_of_isWord (Text.isWord_of_isNameStart hc)
  have hindent (tail : List Char) : (d.asyncText ++ ("def".toList ++ tail)).head?.any Text.isBlank = false := by
    rw [asyncText]
    cases d.async <;> rfl
  have htrail : (d.trail.1 ++ ("(".toList ++ rest)).head?.any Text.isWord = false :=
    Text.head?_any_append (Text.head?_any_eq_false d.trail.isWord) rfl
  exact ((((((reads_many d.indent.isBlank (hindent _)).append d.reads_async).append (Regex.reads_text "def")).append
    (reads_many1 d.gap.2 d.gap.1.isBlank (hblank _))).append ((reads_name hname htrail).group "name")).append
    (reads_many d.trail.isBlank rfl)).append (Regex.reads_text "(")

lemma firstWord_text : String.ofList (firstWord (d.text ++ rest)) ∈ ["async", "def"] := by
  have hgap (g : Gap) := Text.head?_any_append_of_ne_nil g.2 g.1.isWord
  rw [text, asyncText]
  cases d.async with
  | none =>
    have hfirst := firstWord_eq d.indent.isBlank (isWord_of_mem_headWords "def" (by decide)) (hgap d.gap (d.name.1 ++ (d.trail.1 ++ rest)))
    simp only [Option.map_none, Option.getD_none, List.append_assoc, List.nil_append, hfirst]
    decide
  | some a =>
    have hfirst := firstWord_eq d.indent.isBlank (isWord_of_mem_headWords "async" (by decide))
      (hgap a ("def".toList ++ (d.gap.1.1 ++ (d.name.1 ++ (d.trail.1 ++ rest)))))
    simp only [Option.map_some, Option.getD_some, List.append_assoc, hfirst]
    decide

lemma closing_notMem_text : ')' ∉ d.text := by
  have hblanks (b : Text.Blanks) : ')' ∉ b.1 := fun hmem => by cases b.isBlank _ hmem
  have hasync : ')' ∉ d.asyncText := by
    rw [asyncText]
    cases d.async with
    | none => exact List.not_mem_nil
    | some a => simpa using hblanks a.1
  have hname : ')' ∉ d.name.1 := fun hmem => by cases d.name.isWord _ hmem
  simp [text, hblanks, hasync, hname]

/-- What is read of the signature depends on no line behind the first one that has a closing bracket. -/
lemma wholeSignature_eq_read :
    Bindings.wholeSignature rest (if (d.text ++ '(' :: rest).contains ')' then [] else throughClosing following) =
      Bindings.wholeSignature rest following := by
  have hcontains : (d.text ++ '(' :: rest).contains ')' = rest.contains ')' := by
    simp [List.contains_eq_mem, d.closing_notMem_text]
  rw [hcontains, Bindings.wholeSignature, Bindings.wholeSignature]
  split
  · rfl
  · rw [untilClosed_throughClosing]

lemma definitionNames_text (hname : Text.isName d.name.1 = true) :
    Bindings.definitionNames (d.text ++ '(' :: rest) following =
      d.name.1 :: Bindings.parameterNames (Bindings.wholeSignature rest following) := by
  obtain ⟨m, hm, htakes⟩ := (d.reads_text hname).exists_atStart?
  have hstart : Bindings.defHeader.atStart? (d.text ++ '(' :: rest) = some m := by simpa using hm
  rw [Bindings.definitionNames, hstart]
  dsimp only
  rw [htakes.group_eq, htakes.rest]
  rfl

end DefHeader

namespace DefStatement

variable {d : DefStatement} {before after : List Parameter} {p : Parameter} {first : Line} {following : List Line}

/-- The list goes on behind the name of each parameter, and not with a word. -/
lemma exists_listText_eq (hsplit : d.parameters = before ++ p :: after) :
    ∃ back, d.listText = closedList before ++ p.start ++ back ∧ back.head?.any Text.isWord = false := by
  have hjoin : Text.joinWith [','] (d.parameters.map Parameter.text) =
      closedList before ++ p.start ++ (p.rest ++ after.flatMap (',' :: ·.text)) := by
    rw [hsplit, List.map_append, List.map_cons, Text.joinWith_append_cons, List.flatMap_map, List.flatMap_map]
    simp [closedList, Parameter.text]
  refine ⟨p.rest ++ after.flatMap (',' :: ·.text) ++ (d.comma.map (',' :: ·.1)).getD [], ?_, ?_⟩
  · rw [listText, hjoin, List.append_assoc]
  · refine Text.head?_any_append (Text.head?_any_append p.rest_start ?_) ?_
    · cases after <;> rfl
    · cases d.comma <;> rfl

lemma lines_text (hheader : '\n' ∉ d.header.text)
    (hlist : Text.lines (d.listText ++ ')' :: d.tail) = first :: following) :
    Text.lines d.text = (d.header.text ++ '(' :: first) :: following := by
  have hopening : '\n' ∉ d.header.text ++ ['('] := by simpa using hheader
  have htext : d.text = (d.header.text ++ ['(']) ++ (d.listText ++ ')' :: d.tail) := by simp [text]
  rw [htext, Text.lines_append_of_notMem hopening, hlist]
  simp

/-- The name of a parameter is in what is read of the signature, if no line before it has a closing round bracket. -/
lemma mem_parameterNames (hlist : Text.lines (d.listText ++ ')' :: d.tail) = first :: following)
    (hsplit : d.parameters = before ++ p :: after) (hn : Text.isName p.name.1 = true)
    (hopen : ∀ line ∈ (Text.lines (closedList before ++ p.start)).dropLast, ')' ∉ line) :
    p.name.1 ∈ Bindings.parameterNames (Bindings.wholeSignature first following) := by
  obtain ⟨back, htext, hback⟩ := exists_listText_eq hsplit
  obtain ⟨more, hread, hmore⟩ := exists_joinLines_throughClosing hopen (back ++ ')' :: d.tail)
  have hfeed : ∀ l ∈ first :: following, '\n' ∉ l := fun l hl => Text.lineFeed_notMem_of_mem_lines (hlist ▸ hl)
  have hword : (oneLine more).head?.any Text.isWord = false := by
    rw [head?_oneLine]
    exact Text.head?_any_of_prefix hmore (Text.head?_any_append hback rfl)
  rw [wholeSignature_eq hfeed, ← hlist, htext, List.append_assoc, hread, oneLine_append, oneLine_append, List.append_assoc]
  obtain ⟨names, hnames⟩ := exists_parameterNames_eq before (oneLine p.start ++ oneLine more)
  rw [hnames]
  exact List.mem_append_right names (p.mem_parameterNames hn hword)

end DefStatement

/-- A parameter is bound if the lines of the list that end before its name have no closing round bracket. The lines
behind the first one that has such a bracket play no part. -/
theorem parameter_bound {code : List Char} {index : ℕ} {d : DefStatement}
    (hcode : (maskLines code).drop index = Text.lines d.text) (hheader : '\n' ∉ d.header.text)
    (hname : Text.isName d.header.name.1 = true) :
    (∀ before p after, d.parameters = before ++ p :: after → Text.isName p.name.1 = true →
      (∀ line ∈ (Text.lines (DefStatement.closedList before ++ p.start)).dropLast, ')' ∉ line) →
      p.name.1 ∈ (Source.ofText code).bindingsOn index) ∧
    ∃ line read, throughClosing (Text.lines d.text) = line :: read ∧
      (Source.ofText code).bindingsOn index = Bindings.ofLine line read := by
  obtain ⟨first, following, hlist⟩ := List.exists_cons_of_ne_nil (Text.lines_ne_nil (d.listText ++ ')' :: d.tail))
  have hlines := DefStatement.lines_text hheader hlist
  have hbindings : (Source.ofText code).bindingsOn index = Bindings.ofLine (d.header.text ++ '(' :: first) following :=
    bindingsOn_of_drop (hcode.trans hlines)
  refine ⟨fun before p after hsplit hn hopen => ?_, ?_⟩
  · have hmem := DefStatement.mem_parameterNames hlist hsplit hn hopen
    rw [hbindings, Bindings.ofLine, d.header.definitionNames_text hname]
    simp only [List.mem_append, List.mem_cons]
    tauto
  · refine ⟨_, _, by rw [hlines, throughClosing], ?_⟩
    have hfrom : Bindings.fromImport.atStart? (d.header.text ++ '(' :: first) = none := by
      refine fromImport_eq_none fun hmem => ?_
      have hapart : ∀ word ∈ ["async", "def"], word ∉ ["from"] := by decide
      exact hapart _ d.header.firstWord_text hmem
    simp only [hbindings, Bindings.ofLine, d.header.definitionNames_text hname, Bindings.fromImportNames, hfrom,
      d.header.wholeSignature_eq_read]

/-- A list over three lines, with round brackets in a default behind the last name. -/
def brokenList : List Char := "def scale(\n    row: list[int],\n    *rest, factor=max(1, 2)):\n    return row\n".toList

/-- A list over several lines, with a call in an annotation. -/
def annotatedList : List Char := "def f(\n    a: type(None),\n    b,\n):\n    return b\n".toList

theorem parameter_bound_broken_list : "factor".toList ∈ (Source.ofText brokenList).bindingsOn 0 := by
  let margin : Text.Blanks := ⟨"\n    ".toList, by decide⟩
  let header : DefHeader :=
    ⟨.spaces 0, none, ⟨.spaces 1, by decide⟩, ⟨"scale".toList, by decide +kernel⟩, .spaces 0⟩
  let row : Parameter := ⟨margin, none, ⟨"row".toList, by decide +kernel⟩, ": list[int]".toList, by decide, by decide⟩
  let others : Parameter := ⟨margin, some ⟨false, .spaces 0⟩, ⟨"rest".toList, by decide +kernel⟩, [], rfl, rfl⟩
  let factor : Parameter :=
    ⟨.spaces 1, none, ⟨"factor".toList, by decide +kernel⟩, "=max(1, 2)".toList, by decide, by decide⟩
  let d : DefStatement := ⟨header, [row, others, factor], none, ":\n    return row\n".toList⟩
  have hcode : (maskLines brokenList).drop 0 = Text.lines d.text := by decide +kernel
  have hbound := (parameter_bound hcode (by decide +kernel) (by decide)).1
  exact hbound [row, others] factor [] rfl (by decide) (by decide +kernel)

theorem parameter_behind_call_unbound :
    ∃ d : DefStatement, ∃ p ∈ d.parameters, (maskLines annotatedList).drop 0 = Text.lines d.text ∧
      Text.isName p.name.1 = true ∧ p.name.1 ∉ (Source.ofText annotatedList).bindingsOn 0 := by
  let margin : Text.Blanks := ⟨"\n    ".toList, by decide⟩
  let header : DefHeader := ⟨.spaces 0, none, ⟨.spaces 1, by decide⟩, ⟨"f".toList, by decide +kernel⟩, .spaces 0⟩
  let a : Parameter := ⟨margin, none, ⟨"a".toList, by decide +kernel⟩, ": type(None)".toList, by decide, by decide⟩
  let b : Parameter := ⟨margin, none, ⟨"b".toList, by decide +kernel⟩, [], rfl, rfl⟩
  refine ⟨⟨header, [a, b], some ⟨['\n'], rfl⟩, ":\n    return b\n".toList⟩, b, ?_, ?_, ?_, ?_⟩
  · exact List.mem_cons_of_mem a List.mem_cons_self
  · decide +kernel
  · decide
  · decide +kernel

end CodeAudit.Source
