import CodeAudit.Proofs.Regex.Placed
import CodeAudit.Proofs.Rule.Numbers
import CodeAudit.Proofs.Rule.Pieces
import CodeAudit.Proofs.Rule.RangeBound
import CodeAudit.Proofs.Source.Block

/-! Which calls of a range are reported for their bound. A call on a line is a candidate of its own wherever it stands,
and it is reported if what is worked out of its bound is large. -/
namespace CodeAudit

open Outcome Regex

namespace Rule

/-- A call of a range up to a bound, from a first number or without one, as it is written. -/
structure RangeCall where
  gap : Text.Blanks
  start : Option (Text.Blanks × Numeral × Text.Blanks)
  before : Text.Blanks
  bound : Bound
  after : Text.Blanks

namespace RangeCall

/-- The first number and the comma after it. -/
def startText (call : RangeCall) : List Char :=
  match call.start with
  | some (before, n, after) => before.1 ++ (n.text ++ (after.1 ++ [',']))
  | none => []

/-- The bound with the blanks around it. -/
def boundText (call : RangeCall) : List Char :=
  call.before.1 ++ (call.bound.text ++ call.after.1)

def arguments (call : RangeCall) : List Char :=
  call.startText ++ call.boundText

def text (call : RangeCall) : List Char :=
  "range".toList ++ (call.gap.1 ++ ("(".toList ++ (call.arguments ++ ")".toList)))

end RangeCall

/-- The characters of numbers, of the signs between them and of the blanks around. -/
def isBoundChar (c : Char) : Bool :=
  Text.isBlank c || c.isDigit || c == '_' || c == '*'

section Characters

variable {c : Char}

lemma isBoundChar_of_mem_blanks {b : Text.Blanks} (h : c ∈ b.1) : isBoundChar c = true := by
  simp [isBoundChar, b.isBlank c h]

lemma Numeral.isBoundChar_of_mem_text {n : Numeral} (h : c ∈ n.text) : isBoundChar c = true := by
  rcases List.mem_cons.mp h with rfl | h
  · simp [isBoundChar, n.first_digit]
  · rcases Numeral.eq_underscore_or_isDigit_of_mem_rest h with rfl | hdigit
    · decide
    · simp [isBoundChar, hdigit]

lemma Factor.isBoundChar_of_mem_text {f : Factor} (h : c ∈ f.text) : isBoundChar c = true := by
  rcases List.mem_append.mp h with h | h
  · exact isBoundChar_of_mem_blanks h
  · rcases List.mem_cons.mp h with rfl | h
    · decide
    · exact (List.mem_append.mp h).elim isBoundChar_of_mem_blanks Numeral.isBoundChar_of_mem_text

lemma Bound.isBoundChar_of_mem_text {e : Bound} (h : c ∈ e.text) : isBoundChar c = true := by
  cases e with
  | number n => exact Numeral.isBoundChar_of_mem_text h
  | power base before after exponent =>
    have hsign : ∀ c ∈ "**".toList, isBoundChar c = true := List.all_eq_true.mp (by decide)
    simp only [text, List.mem_append] at h
    rcases h with h | h | h | h | h
    · exact Numeral.isBoundChar_of_mem_text h
    · exact isBoundChar_of_mem_blanks h
    · exact hsign c h
    · exact isBoundChar_of_mem_blanks h
    · exact Numeral.isBoundChar_of_mem_text h
  | product first second more =>
    rcases List.mem_append.mp h with h | h
    · exact Numeral.isBoundChar_of_mem_text h
    · obtain ⟨f, -, h⟩ := List.mem_flatMap.mp h
      exact Factor.isBoundChar_of_mem_text h

lemma RangeCall.isBoundChar_of_mem_boundText {call : RangeCall} (h : c ∈ call.boundText) : isBoundChar c = true := by
  rcases List.mem_append.mp h with h | h
  · exact isBoundChar_of_mem_blanks h
  · exact (List.mem_append.mp h).elim Bound.isBoundChar_of_mem_text isBoundChar_of_mem_blanks

/-- None of them is a bracket or a comma. -/
lemma not_isListSign_of_isBoundChar (h : isBoundChar c = true) : Source.isListSign c = false :=
  Source.not_isListSign_of_class (by decide) h

end Characters

/-- The bound of a call is its last argument. -/
lemma rangeBound_arguments (call : RangeCall) : rangeBound call.arguments = call.boundText := by
  have hplain : ∀ c ∈ call.boundText, Source.isListSign c = false := fun c hc =>
    not_isListSign_of_isBoundChar (RangeCall.isBoundChar_of_mem_boundText hc)
  have honly : topLevelPieces 0 [] call.boundText = [call.boundText] :=
    (InPiece.of_not_isListSign hplain).topLevelPieces_eq
  cases hstart : call.start with
  | none =>
    have harguments : call.arguments = call.boundText := by simp [RangeCall.arguments, RangeCall.startText, hstart]
    rw [harguments, rangeBound, honly]
  | some start =>
    obtain ⟨before, n, after⟩ := start
    have hfirst : ∀ c ∈ before.1 ++ (n.text ++ after.1), Source.isListSign c = false := by
      intro c hc
      refine not_isListSign_of_isBoundChar ?_
      rcases List.mem_append.mp hc with hc | hc
      · exact isBoundChar_of_mem_blanks hc
      · exact (List.mem_append.mp hc).elim Numeral.isBoundChar_of_mem_text isBoundChar_of_mem_blanks
    have harguments : call.arguments = (before.1 ++ (n.text ++ after.1)) ++ ',' :: call.boundText := by
      simp [RangeCall.arguments, RangeCall.startText, hstart]
    have hpieces : topLevelPieces 0 [] call.arguments = [before.1 ++ (n.text ++ after.1), call.boundText] := by
      rw [harguments, (InPiece.of_not_isListSign hfirst).topLevelPieces_comma, honly]
    rw [rangeBound, hpieces]

section Candidates

variable {call : RangeCall} {front back : List Char}

/-- A call has no brackets among its arguments. -/
lemma no_paren_of_mem_arguments {c : Char} (h : c ∈ call.arguments) : (c != '(' && c != ')') = true := by
  have hbound : ∀ {d : Char}, isBoundChar d = true → (d != '(' && d != ')') = true := by
    intro d hd
    have hplain := not_isListSign_of_isBoundChar hd
    simp only [Source.isListSign, Source.isOpening, Source.isClosing, Bool.or_eq_false_iff] at hplain
    simp_all
  rcases List.mem_append.mp h with h | h
  · rw [RangeCall.startText] at h
    split at h
    · rename_i before n after
      simp only [List.mem_append, List.mem_singleton] at h
      rcases h with h | h | h | rfl
      · exact hbound (isBoundChar_of_mem_blanks h)
      · exact hbound (Numeral.isBoundChar_of_mem_text h)
      · exact hbound (isBoundChar_of_mem_blanks h)
      · decide
    · exact absurd h List.not_mem_nil
  · exact hbound (RangeCall.isBoundChar_of_mem_boundText h)

lemma reads_call (hfront : front.getLast?.any Text.isWord = false) :
    Resource.oversizedRange.expression.Reads front call.text back [("arguments", call.arguments)] := by
  have hborder : front.getLast?.any Text.isWord ≠
      ("range".toList ++ (call.gap.1 ++ ("(".toList ++ (call.arguments ++ (")".toList ++ back))))).head?.any
        Text.isWord := by
    rw [hfront]
    exact Bool.false_ne_true
  have hreads := (((((reads_border hborder).append (reads_text "range")).append
    (reads_many call.gap.isBlank rfl)).append (reads_text "(")).append
      ((reads_many (fun _ => no_paren_of_mem_arguments) rfl).group "arguments")).append (reads_text ")")
  have htext : call.text =
      [] ++ "range".toList ++ call.gap.1 ++ "(".toList ++ call.arguments ++ ")".toList := by
    simp [RangeCall.text]
  rw [htext]
  exact hreads

lemma no_paren_of_mem_name {gap : List Char} (hgap : ∀ c ∈ gap, Text.isBlank c = true) :
    ∀ c ∈ "range".toList ++ gap, (c != '(' && c != ')') = true := by
  have hname : ∀ c ∈ "range".toList, (c != '(' && c != ')') = true := List.all_eq_true.mp (by decide)
  intro c hc
  rcases List.mem_append.mp hc with hc | hc
  · exact hname c hc
  · have hblank := hgap c hc
    rw [Bool.and_eq_true, bne_iff_ne, bne_iff_ne]
    constructor
    · rintro rfl
      exact absurd hblank (by decide)
    · rintro rfl
      exact absurd hblank (by decide)

/-- What begins like a call and ends with a bracket goes on beyond the opening one. -/
lemma exists_inner_of_closed {y rest : List Char} (h : y ++ ')' :: rest = call.text ++ back) :
    ∃ inner, y = "range".toList ++ call.gap.1 ++ '(' :: inner := by
  let p : Char → Bool := fun c => c != '(' && c != ')'
  have hname := no_paren_of_mem_name call.gap.isBlank
  have hcall : call.text ++ back =
      "range".toList ++ call.gap.1 ++ '(' :: (call.arguments ++ ')' :: back) := by
    simp [RangeCall.text]
  have hy : ∀ c ∈ y.takeWhile p, p c = true := fun _ => List.mem_takeWhile_imp
  rw [hcall, ← List.takeWhile_append_dropWhile (p := p) (l := y), List.append_assoc] at h
  cases hdrop : y.dropWhile p with
  | nil =>
    rw [hdrop] at h
    have hsame := (Text.run_unique (p := p) hy hname rfl rfl h).2
    exact absurd (List.cons.inj hsame).1 (by decide)
  | cons c inner =>
    have hc : p c = false := by
      have hhead := List.head?_dropWhile_not p y
      rwa [hdrop] at hhead
    rw [hdrop] at h
    obtain ⟨hrun, hrest⟩ := Text.run_unique (p := p) hy hname (by simpa using hc) rfl h
    obtain ⟨rfl, -⟩ := List.cons.inj hrest
    exact ⟨inner, by rw [← hrun, ← hdrop, List.takeWhile_append_dropWhile]⟩

lemma exists_parts_of_spells {u : List Char} (h : Resource.oversizedRange.expression.Spells front u back) :
    ∃ gap args, u = "range".toList ++ gap ++ '(' :: args ++ [')'] ∧ (∀ c ∈ gap, Text.isBlank c = true) ∧
      '(' ∉ args := by
  obtain ⟨_, closing, rfl, ⟨_, args, rfl, ⟨_, opening, rfl, ⟨_, gap, rfl, ⟨_, word, rfl, ⟨rfl, -⟩, hword⟩, hgap⟩, hopening⟩,
    hargs⟩, hclosing⟩ := h
  obtain rfl := spells_text.mp hword
  obtain rfl := spells_text.mp hopening
  obtain rfl := spells_text.mp hclosing
  exact ⟨gap, args, by simp, hgap, fun hmem => absurd (hargs '(' hmem) (by decide)⟩

/-- The name and blanks end with the name and blanks only as a whole: the same letters stand on both sides. -/
lemma eq_nil_of_name {front gap gap' : List Char} (hgap : ∀ c ∈ gap, Text.isBlank c = true)
    (hgap' : ∀ c ∈ gap', Text.isBlank c = true) (h : "range".toList ++ gap = front ++ ("range".toList ++ gap')) :
    front = [] := by
  have hnone : ∀ {g : List Char}, (∀ c ∈ g, Text.isBlank c = true) → g.filter (fun c => !Text.isBlank c) = [] :=
    fun hg => List.filter_eq_nil_iff.mpr fun c hc => by simp [hg c hc]
  have hname : "range".toList.filter (fun c => !Text.isBlank c) = "range".toList := by decide
  have hletters := congrArg (List.filter fun c => !Text.isBlank c) h
  rw [List.filter_append, List.filter_append, List.filter_append, hnone hgap, hnone hgap', hname, List.append_nil,
    List.self_eq_append_left] at hletters
  cases front with
  | nil => rfl
  | cons c front =>
    obtain rfl : 'r' = c := (List.cons.inj h).1
    exact absurd (List.filter_eq_nil_iff.mp hletters 'r' List.mem_cons_self) (by decide)

/-- No call that begins before reaches into a call: it would have to go on beyond the opening bracket, and a call has
no brackets among its arguments. -/
lemma endsBefore_call (call : RangeCall) (front back : List Char) :
    Resource.oversizedRange.expression.EndsBefore front (call.text ++ back) := by
  intro a b hfront hne u rest htext hspells
  by_contra hlong
  obtain ⟨y, rfl⟩ : b <+: u :=
    List.prefix_of_prefix_length_le (List.prefix_append b _) (htext ▸ List.prefix_append u rest) (by omega)
  have hy : y ++ rest = call.text ++ back := by
    rw [List.append_assoc] at htext
    exact (List.append_cancel_left htext).symm
  have hyne : y ≠ [] := by
    rintro rfl
    exact hlong (by rw [List.append_nil])
  obtain ⟨gap, args, hu, hgap, hargs⟩ := exists_parts_of_spells hspells
  obtain ⟨y, last, rfl⟩ := (List.eq_nil_or_concat' y).resolve_left hyne
  rw [← List.append_assoc b y [last]] at hu
  obtain ⟨hbody, hlast⟩ := List.append_inj' hu rfl
  obtain rfl : last = ')' := (List.cons.inj hlast).1
  obtain ⟨inner, rfl⟩ := exists_inner_of_closed (by simpa using hy)
  -- both opening brackets are the only one there is, and the name stands before it
  have hopen : '(' ∉ "range".toList ++ gap := fun hmem => absurd (no_paren_of_mem_name hgap '(' hmem) (by decide)
  have hcut : ("range".toList ++ gap) ++ '(' :: args = (b ++ ("range".toList ++ call.gap.1)) ++ '(' :: inner := by
    simpa using hbody.symm
  have hnames := ((List.append_cons_inj_of_notMem hopen hargs).mp hcut).1
  exact hne (eq_nil_of_name hgap call.gap.isBlank hnames)

end Candidates

/-- There is evidence where what is worked out is large. -/
lemma largeEvidence_ne_nil_iff {least : Int} {text : List Char} {word : String → String} {es : List String}
    (h : largeEvidence least text word = .ok es) :
    es ≠ [] ↔ ∃ v, literalValue text = .ok (some v) ∧ least ≤ v := by
  obtain ⟨o, ho, h⟩ := bind_eq_ok.mp h
  rw [ho]
  cases o with
  | none =>
    obtain rfl := pure_eq_ok.mp h
    simp
  | some v =>
    dsimp only at h
    split at h
    · obtain rfl := pure_eq_ok.mp h
      simp; omega
    · obtain ⟨written, -, h⟩ := bind_eq_ok.mp h
      obtain rfl := pure_eq_ok.mp h
      simp; omega

/-- A call has evidence if its bound is large and worked out. -/
lemma call_evidence_ne_nil_iff {call : RangeCall} {front back : List Char} {c : Found} {src : Source} {index : ℕ}
    {es : List String} (hc : c.Takes front call.text back [("arguments", call.arguments)])
    (hes : Resource.oversizedRange.evidence c src index = .ok es) :
    es ≠ [] ↔ 1000000 ≤ call.bound.value ∧ call.bound.WorkedOut := by
  have hgroup : c.group "arguments" = call.arguments := hc.group_eq "arguments"
  rw [oversizedRange_evidence, hgroup, rangeBound_arguments] at hes
  obtain ⟨o, ho, -⟩ := bind_eq_ok.mp hes
  rw [largeEvidence_ne_nil_iff hes, ho]
  obtain rfl := call.bound.eq_of_literalValue call.before call.after ho
  have hlarge : Resource.largeRange ≤ (call.bound.value : Int) ↔ 1000000 ≤ call.bound.value := by
    rw [Resource.largeRange]
    omega
  by_cases hworked : call.bound.WorkedOut
  · simp [hworked, hlarge]
  · simp [hworked]

end Rule

namespace PatternScan

variable {code front back : List Char} {codeStructure : Structure} {index : ℕ}

/-- **A call is reported exactly when its bound is large and worked out**, wherever it stands on a line and unless the
rule fails on the text. -/
theorem large_range_iff (call : Rule.RangeCall)
    (hline : (Source.maskLines code)[index]? = some (front ++ (call.text ++ back)))
    (hfront : front.getLast?.any Text.isWord = false)
    (hworks : ∀ f ∈ (ofCode Rule.catalog codeStructure code).failed, f.1 ≠ "large_range") :
    (∃ m ∈ (ofCode Rule.catalog codeStructure code).ruleMatches,
        m.ruleId = "large_range" ∧ m.startLine = index + 1 ∧ m.startColumn = front.length + 1) ↔
      1000000 ≤ call.bound.value ∧ call.bound.WorkedOut := by
  have hcode : Text.isBlankText code = false := by
    refine Source.isBlankText_eq_false_of_mem_maskLines (List.mem_of_getElem? hline) ?_
    exact Text.isBlankText_eq_false_of_mem (c := 'r') (by simp [Rule.RangeCall.text]) (by decide)
  have hrule : Rule.Resource.oversizedRange ∈ Rule.catalog := by simp [Rule.catalog]
  obtain ⟨ms, hms⟩ : ∃ ms, Rule.Resource.oversizedRange.matchesIn (Source.ofText code) = .ok ms := by
    cases hm : Rule.Resource.oversizedRange.matchesIn (Source.ofText code) with
    | ok ms => exact ⟨ms, rfl⟩
    | error fault => exact absurd rfl (hworks _ ((mem_failed_ofCode hcode).mpr ⟨_, hrule, rfl, hm⟩))
  have hmem : ∀ m, m ∈ (ofCode Rule.catalog codeStructure code).ruleMatches ∧ m.ruleId = "large_range" ↔ m ∈ ms := by
    intro m
    rw [← filter_ruleMatches_eq hrule hcode hms codeStructure, List.mem_filter, beq_iff_eq]
    rfl
  have hreads : Rule.Resource.oversizedRange.expression.Reads front call.text back [("arguments", call.arguments)] :=
    Rule.reads_call hfront
  constructor
  · rintro ⟨m, hm, hid, hstart, hcolumn⟩
    obtain ⟨i, line, hi, c, hc, hmatch⟩ := (Rule.mem_matchesIn_iff hms).mp ((hmem m).mp ⟨hm, hid⟩)
    obtain ⟨es, hes, hne, rfl⟩ := Rule.matchOf_eq_ok_some_iff.mp hmatch
    obtain rfl : i = index := Nat.succ.inj hstart
    obtain rfl := Option.some.inj (hi.symm.trans hline)
    have htakes := hreads.takes_of_mem_all rfl hc (Nat.succ.inj hcolumn)
    exact (Rule.call_evidence_ne_nil_iff htakes hes).mp hne
  · intro hlarge
    obtain ⟨c, hc, htakes⟩ := hreads.exists_mem_all rfl (Rule.endsBefore_call call front back)
    obtain ⟨es, hes⟩ := Rule.exists_matchesIn_iff.mp ⟨ms, hms⟩ _ index hline c hc
    have hne := (Rule.call_evidence_ne_nil_iff htakes hes).mpr hlarge
    have hmatch := (Rule.mem_matchesIn_iff hms).mpr
      ⟨index, _, hline, c, hc, Rule.matchOf_eq_ok_some_iff.mpr ⟨es, hes, hne, rfl⟩⟩
    exact ⟨_, ((hmem _).mpr hmatch).1, rfl, rfl, congrArg (· + 1) htakes.start⟩

/-- The call of a range from zero to five thousand times a thousand. -/
def fiveMillionCall : Rule.RangeCall where
  gap := .spaces 0
  start := some (.spaces 0, ⟨'0', [], by decide, by decide⟩, .spaces 0)
  before := .spaces 1
  bound := .product ⟨'5', "_000".toList, by decide, by decide⟩
    ⟨.spaces 1, .spaces 1, ⟨'1', "_000".toList, by decide, by decide⟩⟩ []
  after := .spaces 0

theorem large_range_five_million :
    (Source.maskLines "for i in range(0, 5_000 * 1_000):\n    pass".toList)[0]? =
        some ("for i in ".toList ++ (fiveMillionCall.text ++ ":".toList)) ∧
      ∃ m ∈ (ofCode Rule.catalog default "for i in range(0, 5_000 * 1_000):\n    pass".toList).ruleMatches,
        m.ruleId = "large_range" ∧ m.startLine = 0 + 1 ∧ m.startColumn = "for i in ".toList.length + 1 := by
  have hline : (Source.maskLines "for i in range(0, 5_000 * 1_000):\n    pass".toList)[0]? =
      some ("for i in ".toList ++ (fiveMillionCall.text ++ ":".toList)) := by decide +kernel
  have hworks : ∀ f ∈ (ofCode Rule.catalog default "for i in range(0, 5_000 * 1_000):\n    pass".toList).failed,
      f.1 ≠ "large_range" := by decide +kernel
  have hvalue : 1000000 ≤ fiveMillionCall.bound.value := by decide +kernel
  exact ⟨hline, (large_range_iff fiveMillionCall hline (by decide) hworks).mpr ⟨hvalue, trivial⟩⟩

/-- The call of a range to ten to the power of a hundred. -/
def googolCall : Rule.RangeCall where
  gap := .spaces 0
  start := none
  before := .spaces 0
  bound := .power ⟨'1', ['0'], by decide, by decide⟩ (.spaces 0) (.spaces 0) ⟨'1', "00".toList, by decide, by decide⟩
  after := .spaces 0

/-- A power with a great exponent is large but not reported, and no rule fails. -/
theorem large_range_misses_googol :
    (Source.maskLines "range(10**100)".toList)[0]? = some ([] ++ (googolCall.text ++ [])) ∧
      1000000 ≤ googolCall.bound.value ∧
      (ofCode Rule.catalog default "range(10**100)".toList).failed = [] ∧
      ∀ m ∈ (ofCode Rule.catalog default "range(10**100)".toList).ruleMatches, m.ruleId ≠ "large_range" := by
  refine ⟨by decide +kernel, by decide +kernel, by decide +kernel, by decide +kernel⟩

end PatternScan

end CodeAudit
