import CodeAudit.Proofs.Source.Assignment
import CodeAudit.Proofs.Source.FirstBinding
import CodeAudit.Proofs.Source.Plain

/-! Lines that calculate a variable from names and numbers, and programs of such lines. Each line binds its variable
and nothing else. -/
namespace CodeAudit.Source

/-- A name that is no keyword. -/
abbrev Variable := {n : Name // (Text.isName n && !Bindings.isKeyword n) = true}

/-- Decimal digits, the first of which may be followed by underscores too. -/
abbrev Numeral := {ds : List Char // (ds.head?.any Char.isDigit && ds.all fun c => c.isDigit || c == '_') = true}

inductive Operand where
  | name (n : Variable)
  | number (n : Numeral)

inductive Operator where
  | plus
  | minus
  | times

/-- A variable, and the operands that it is calculated from. -/
structure Calculation where
  target : Variable
  first : Operand
  others : List (Operator × Operand)

def Operator.char : Operator → Char
  | plus => '+'
  | minus => '-'
  | times => '*'

def Operand.text : Operand → List Char
  | name n => n.1
  | number n => n.1

namespace Calculation

/-- Further operands, each with its operator and a blank on both sides of this. -/
def othersText (others : List (Operator × Operand)) : List Char :=
  others.flatMap fun o => ' ' :: o.1.char :: ' ' :: o.2.text

def text (c : Calculation) : List Char :=
  c.target.1 ++ (" = ".toList ++ (c.first.text ++ othersText c.others))

/-- The empty line behind a line feed that closes the last line. -/
def closingLines (closed : Bool) : List Line := if closed then [[]] else []

/-- The text of a program, whose last line is closed by a line feed or not. -/
def programText (program : List Calculation) (closed : Bool) : List Char :=
  Text.joinLines (program.map text ++ closingLines closed)

end Calculation

namespace Variable

lemma isName (n : Variable) : Text.isName n.1 = true := (Bool.and_eq_true_iff.mp n.2).1

lemma not_isKeyword (n : Variable) : Bindings.isKeyword n.1 = false := by
  simpa using (Bool.and_eq_true_iff.mp n.2).2

lemma isIdentifier (n : Variable) : isIdentifier n.1 = true := by
  obtain ⟨c, rest, hn, hc, -⟩ := Text.isName_iff.mp n.isName
  have hword : n.1.all Text.isWord = true := List.all_eq_true.mpr (Text.isWord_of_mem_name n.isName)
  rw [Source.isIdentifier, hword, n.not_isKeyword, hn]
  simp [Text.not_isDigit_of_isNameStart hc]

end Variable

namespace Numeral

lemma isWord (n : Numeral) : ∀ c ∈ n.1, Text.isWord c = true := by
  intro c hc
  have hdigits := (Bool.and_eq_true_iff.mp n.2).2
  rcases Bool.or_eq_true_iff.mp (List.all_eq_true.mp hdigits c hc) with h | h
  · exact (Text.isWord_of_digit h).1
  · rw [beq_iff_eq.mp h]
    decide

lemma exists_digit (n : Numeral) : ∃ c rest, n.1 = c :: rest ∧ c.isDigit = true := by
  obtain ⟨ds, h⟩ := n
  cases ds with
  | nil => cases h
  | cons c rest => exact ⟨c, rest, rfl, (Bool.and_eq_true_iff.mp h).1⟩

end Numeral

namespace Operand

lemma isWord (t : Operand) : ∀ c ∈ t.text, Text.isWord c = true := by
  cases t with
  | name n => exact Text.isWord_of_mem_name n.isName
  | number n => exact n.isWord

lemma ne_nil (t : Operand) : t.text ≠ [] := by
  cases t with
  | name n => exact Text.ne_nil_of_isName n.isName
  | number n =>
    obtain ⟨c, rest, hn, -⟩ := n.exists_digit
    rw [text, hn]
    exact List.cons_ne_nil c rest

/-- An operand is no keyword. -/
lemma ne_keyword (t : Operand) {word : String} (hword : Vocabulary.keywords.contains word = true)
    (hstart : word.toList.head?.any Text.isNameStart = true) : t.text ≠ word.toList := by
  intro htext
  cases t with
  | name n =>
    have hkeyword := n.not_isKeyword
    rw [Bindings.isKeyword, show n.1 = word.toList from htext, String.ofList_toList, hword] at hkeyword
    cases hkeyword
  | number n =>
    obtain ⟨c, rest, hn, hc⟩ := n.exists_digit
    rw [← htext, show (number n).text = c :: rest from hn] at hstart
    exact absurd hstart (by simp [(Text.isWord_of_digit hc).2])

end Operand

namespace Calculation

section Characters

/-- The characters of a line. -/
def isCalculationChar (c : Char) : Bool :=
  Text.isWord c || c == ' ' || c == '=' || c == '+' || c == '-' || c == '*'

lemma Operator.not_isWord_char (o : Operator) : Text.isWord o.char = false := by
  cases o <;> decide

lemma othersText_cons (o : Operator × Operand) (others : List (Operator × Operand)) :
    othersText (o :: others) = ' ' :: o.1.char :: ' ' :: (o.2.text ++ othersText others) := rfl

lemma head?_othersText (others : List (Operator × Operand)) :
    (othersText others).head?.any Text.isWord = false := by
  cases others <;> rfl

lemma wordRuns_othersText (others : List (Operator × Operand)) :
    Text.wordRuns (othersText others) = others.map (·.2.text) := by
  induction others with
  | nil => exact Text.wordRuns_nil
  | cons o others ih =>
    rw [othersText_cons, Text.wordRuns_cons (by decide), Text.wordRuns_cons (Operator.not_isWord_char o.1),
      Text.wordRuns_cons (by decide), Text.wordRuns_append (head?_othersText others),
      Text.wordRuns_of_word o.2.ne_nil o.2.isWord, ih]
    rfl

lemma isCalculationChar_of_isWord {d : Char} (h : Text.isWord d = true) : isCalculationChar d = true := by
  simp [isCalculationChar, h]

lemma isPlainChar_of_isCalculationChar {d : Char} (h : isCalculationChar d = true) : isPlainChar d = true := by
  have hne : ∀ e, isCalculationChar e = false → d ≠ e := by
    rintro _ he rfl
    rw [h] at he
    cases he
  simp [isPlainChar, Mask.isQuote, hne '#' (by decide), hne '"' (by decide), hne '\'' (by decide)]

/-- No equals sign stands among the further operands. -/
lemma not_mem_othersText (others : List (Operator × Operand)) : '=' ∉ othersText others := by
  intro h
  simp only [othersText, List.mem_flatMap, List.mem_cons] at h
  obtain ⟨o, -, h | h | h | h⟩ := h
  · exact absurd h (by decide)
  · cases ho : o.1 <;> exact absurd (ho ▸ h) (by decide)
  · exact absurd h (by decide)
  · exact absurd (o.2.isWord '=' h) (by decide)

variable (c : Calculation)

lemma isCalculationChar_of_mem : ∀ d ∈ c.text, isCalculationChar d = true := by
  intro d hd
  simp only [text, othersText, List.mem_append, List.mem_flatMap, List.mem_cons] at hd
  rcases hd with hd | hd | hd | ⟨o, _, rfl | rfl | rfl | hd⟩
  · exact isCalculationChar_of_isWord (Text.isWord_of_mem_name c.target.isName d hd)
  · exact List.all_eq_true.mp (by decide : " = ".toList.all isCalculationChar = true) d hd
  · exact isCalculationChar_of_isWord (c.first.isWord d hd)
  · decide
  · cases o.1 <;> decide
  · decide
  · exact isCalculationChar_of_isWord (o.2.isWord d hd)

lemma not_mem_text {d : Char} (h : isCalculationChar d = false) : d ∉ c.text := fun hd => by
  rw [c.isCalculationChar_of_mem d hd] at h
  cases h

lemma not_isBlankText : Text.isBlankText c.text = false := by
  obtain ⟨d, rest, hn, hd, -⟩ := Text.isName_iff.mp c.target.isName
  refine Text.isBlankText_eq_false_of_mem (c := d) ?_ (Text.not_isBlank_of_isWord (Text.isWord_of_isNameStart hd))
  simp [text, hn]

lemma wordRuns_text : Text.wordRuns c.text = c.target.1 :: (c.first :: c.others.map (·.2)).map Operand.text := by
  have hvalue : Text.wordRuns (" = ".toList ++ (c.first.text ++ othersText c.others)) =
      c.first.text :: c.others.map (·.2.text) := by
    rw [show " = ".toList = [' ', '=', ' '] from rfl, List.cons_append, List.cons_append, List.singleton_append,
      Text.wordRuns_cons (by decide), Text.wordRuns_cons (by decide), Text.wordRuns_cons (by decide),
      Text.wordRuns_append (head?_othersText c.others), Text.wordRuns_of_word c.first.ne_nil c.first.isWord,
      wordRuns_othersText]
    rfl
  rw [text, Text.wordRuns_append rfl, hvalue,
    Text.wordRuns_of_word (Text.ne_nil_of_isName c.target.isName) (Text.isWord_of_mem_name c.target.isName)]
  simp

end Characters

section Bindings

variable (c : Calculation)

/-- The line as an assignment. -/
def statement : AssignmentStatement where
  first := ⟨none, ⟨.spaces 0, none, ⟨c.target.1, c.target.isIdentifier⟩, .spaces 1⟩, [], none⟩
  others := []
  value := ' ' :: (c.first.text ++ othersText c.others)
  value_start := by simp

lemma text_statement : c.statement.text = c.text := by
  simp [statement, AssignmentStatement.text, AssignmentStatement.rest, Target.text, Target.listText, Target.listRest,
    TargetName.text, TargetName.starText, Text.Blanks.spaces, text]

lemma quiet_text : Quiet c.text := by
  have hword : ∀ word : String, Vocabulary.keywords.contains word = true →
      word.toList.head?.any Text.isNameStart = true → word.toList ∉ Text.wordRuns c.text := by
    intro word hword hstart hmem
    rw [c.wordRuns_text, List.mem_cons, List.mem_map] at hmem
    rcases hmem with htarget | ⟨t, -, ht⟩
    · exact (Operand.name c.target).ne_keyword hword hstart htarget.symm
    · exact t.ne_keyword hword hstart ht
  exact ⟨c.not_mem_text (by decide), hword "for" (by decide) (by decide), hword "as" (by decide) (by decide)⟩

/-- A line binds its variable. -/
lemma mem_ofLine_iff {x : Name} {following : List Line} : x ∈ Bindings.ofLine c.text following ↔ x = c.target.1 := by
  obtain ⟨d, rest, hn, hd, -⟩ := Text.isName_iff.mp c.target.isName
  have hopens : c.statement.first.OpensWithName := ⟨rfl, rfl, by
    rw [show c.statement.first.first.name.1 = d :: rest from hn]
    exact hd⟩
  have hnames : c.statement.first.names.map Text.nameEnd = [c.target.1] :=
    congrArg (fun n => [n]) (Text.nameEnd_of_isName c.target.isName)
  rw [← c.text_statement, c.statement.mem_ofLine_iff, and_iff_right hopens, hnames, List.mem_singleton, c.text_statement,
    c.quiet_text.innerNames_eq_nil]
  constructor
  · rintro (⟨rfl, -⟩ | h)
    · rfl
    · exact absurd h List.not_mem_nil
  · rintro rfl
    exact .inl ⟨rfl, Text.ne_nil_of_isName c.target.isName, c.target.not_isKeyword⟩

end Bindings

section Program

variable {program : List Calculation} {closed : Bool}

lemma eq_nil_of_mem_closingLines {line : Line} (h : line ∈ closingLines closed) : line = [] := by
  cases closed with
  | false => exact absurd h List.not_mem_nil
  | true => exact List.mem_singleton.mp h

lemma maskLines_programText (h : program ≠ []) :
    maskLines (programText program closed) = program.map text ++ closingLines closed := by
  have hlines : ∀ line ∈ program.map text ++ closingLines closed, ∀ d ∈ line, isCalculationChar d = true := by
    intro line hline
    rcases List.mem_append.mp hline with hline | hline
    · obtain ⟨c, -, rfl⟩ := List.mem_map.mp hline
      exact c.isCalculationChar_of_mem
    · rw [eq_nil_of_mem_closingLines hline]
      exact List.forall_mem_nil _
  have hplain : ∀ d ∈ programText program closed, isPlainChar d = true :=
    Text.forall_mem_joinLines (by decide) fun line hline d hd =>
      isPlainChar_of_isCalculationChar (hlines line hline d hd)
  have hfeed : ∀ line ∈ program.map text ++ closingLines closed, '\n' ∉ line := by
    intro line hline hmem
    exact absurd (hlines line hline '\n' hmem) (by decide)
  rw [maskLines, maskText_plain hplain]
  exact Text.lines_joinLines (by simp [h]) hfeed

lemma getElem?_maskLines {index : ℕ} {c : Calculation} (hc : program[index]? = some c) (closed : Bool) :
    (maskLines (programText program closed))[index]? = some c.text := by
  obtain ⟨hindex, -⟩ := List.getElem?_eq_some_iff.mp hc
  rw [maskLines_programText (List.ne_nil_of_length_pos (Nat.zero_lt_of_lt hindex)),
    List.getElem?_append_left (by simpa using hindex), List.getElem?_map, hc]
  rfl

/-- What holds of an empty line and of every calculation holds of all lines of a program. -/
lemma forall_mem_maskLines {P : Line → Prop} (hempty : P []) (htext : ∀ c : Calculation, P c.text)
    (program : List Calculation) (closed : Bool) : ∀ line ∈ maskLines (programText program closed), P line := by
  intro line hline
  cases program with
  | nil =>
    cases closed <;> rw [List.mem_singleton.mp hline] <;> exact hempty
  | cons c program =>
    rw [maskLines_programText (List.cons_ne_nil c program)] at hline
    rcases List.mem_append.mp hline with hline | hline
    · obtain ⟨c, -, rfl⟩ := List.mem_map.mp hline
      exact htext c
    · rw [eq_nil_of_mem_closingLines hline]
      exact hempty

lemma ofLine_nil (following : List Line) : Bindings.ofLine [] following = [] := by
  rw [ofLine_eq (by decide)]
  decide +kernel

/-- Each line of a program binds its variable, and nothing else is bound. -/
lemma mem_bindingsOn_iff (h : program ≠ []) {x : Name} {index : ℕ} :
    x ∈ (Source.ofText (programText program closed)).bindingsOn index ↔ ∃ c, program[index]? = some c ∧ x = c.target.1 := by
  have hmasked : (Source.ofText (programText program closed)).masked = program.map text ++ closingLines closed :=
    maskLines_programText h
  rw [mem_bindingsOn, hmasked]
  rcases lt_or_ge index program.length with hlt | hge
  · have hline := getElem?_maskLines (List.getElem?_eq_getElem hlt) closed
    rw [maskLines_programText h] at hline
    simp only [hline, List.getElem?_eq_getElem hlt, Option.some.injEq, exists_eq_left', mem_ofLine_iff]
  · rw [List.getElem?_eq_none hge, List.getElem?_append_right (by simpa using hge)]
    constructor
    · rintro ⟨line, hline, hx⟩
      rw [eq_nil_of_mem_closingLines (List.mem_of_getElem? hline), ofLine_nil] at hx
      exact absurd hx List.not_mem_nil
    · rintro ⟨c, hc, -⟩
      cases hc

end Program

end Calculation

end CodeAudit.Source
