import CodeAudit.Proofs.Analysis.EndlessLoop
import CodeAudit.Proofs.Rule.Numbers
import CodeAudit.Proofs.Source.Block

/-! Endless loops whose statements go on over several lines. The block of a loop ends at the first line that is not
indented deeper, also where such a line only continues a statement: what stands below it does not count as a way out. -/
namespace CodeAudit

open Source (Line)

namespace Source

/-- The modes in which the lines after the first one start. -/
def Mask.laterModes (mode : Mode) : List Char → List Mode
  | [] => []
  | c :: rest =>
    let next := (step mode c rest).2
    if c == '\n' then next :: laterModes next rest else laterModes next rest

/-- The modes in which the lines of a program text start. -/
def lineModes (code : List Char) : List Mode :=
  .code false :: Mask.laterModes (.code false) code

/-- A line of a mask with the mode in which it starts. -/
structure Row where
  mode : Mode
  line : Line

/-- A line that starts in a string of three quotes. -/
def Row.inString (r : Row) : Bool :=
  match r.mode with
  | .inside _ long => long
  | _ => false

/-- A statement of a block: the lines without code in front of it, its first line, and those it goes on over. -/
structure Statement where
  lead : List Row
  first : Row
  more : List Row

namespace Statement

def rows (s : Statement) : List Row :=
  s.lead ++ s.first :: s.more

/-- Whether the lines go on with a statement, given its lines before them: each is blank, or starts inside a bracket or
a string of three quotes. -/
def goesOn (before : List Line) : List Row → Bool
  | [] => true
  | r :: rest =>
    (Text.isBlankText r.line || decide (0 < openAfter before) || r.inString) && goesOn (before ++ [r.line]) rest

/-- The statement belongs to a block under a header of that indentation. -/
structure Below (margin : ℕ) (s : Statement) : Prop where
  lead : ∀ r ∈ s.lead, Text.isBlankText r.line = true
  first : Text.isBlankText s.first.line = false ∧ margin < indentOf s.first.line
  more : goesOn [s.first.line] s.more = true

/-- One of the words that leave a loop stands on the first line. -/
def Leaves (s : Statement) : Prop :=
  ∃ before word after, s.first.line = before ++ (word.toList ++ after) ∧ word ∈ ["break", "return", "raise"] ∧
    before.getLast?.any Text.isWord = false ∧ after.head?.any Text.isWord = false

end Statement

/-- What opens a loop that only its body can end, as it stands between blanks. -/
def loopHeaders : List Line := ["while True:".toList, "while 1:".toList]

/-- A loop that only its statements can end, on the lines of a program text. -/
structure WrappedLoop (code : List Char) (front : List Row) (header : Row) (body : List Statement) (after : List Row) :
    Prop where
  masked : maskLines code = (front ++ header :: (body.flatMap Statement.rows ++ after)).map Row.line
  modes : lineModes code = (front ++ header :: (body.flatMap Statement.rows ++ after)).map Row.mode
  opens : Text.strip header.line ∈ loopHeaders
  below : ∀ s ∈ body, s.Below (indentOf header.line)

/-- A line that a statement of the block goes on over ends the block before any way out. -/
def CutShort (exit : Regex) (header : Row) (body : List Statement) : Prop :=
  ∃ before row rest, body.flatMap Statement.rows = before ++ row :: rest ∧ (∃ s ∈ body, row ∈ s.more) ∧
    staysInside (indentOf header.line) row.line = false ∧ ∀ r ∈ before, exit.occursIn r.line = false

end Source

open Regex

section Expressions

variable {text : List Char}

/-- What leaves a loop is no blank. -/
lemma not_isBlankText_of_loopExit (h : Rule.Resource.loopExit.occursIn text = true) :
    Text.isBlankText text = false := by
  have hrule : Rule.Resource.loopExit.refersBack = false := by decide
  obtain ⟨pre, w, post, rfl, hspells⟩ := (find?_isSome_iff hrule).mp h
  rcases hspells with hword | hcall
  · obtain ⟨_, _, rfl, ⟨_, _, rfl, -, hspelled⟩, -⟩ := hword
    obtain ⟨word, hword, rfl⟩ := spells_oneOf.mp hspelled
    have hletter : ∀ word ∈ ["break", "return", "raise"], word.toList.any (fun c => !Text.isBlank c) = true := by decide
    obtain ⟨c, hc, hblank⟩ := List.any_eq_true.mp (hletter word hword)
    rw [Bool.not_eq_true'] at hblank
    exact Text.isBlankText_eq_false_of_mem (by simp [hc]) hblank
  · obtain ⟨_, _, rfl, -, hbracket⟩ := hcall
    rw [spells_text] at hbracket
    exact Text.isBlankText_eq_false_of_mem (c := '(') (by simp [hbracket]) (by decide)

/-- A word that leaves a loop is a way out for the gate, and so for the rule, where it stands alone. -/
lemma loopExit_occursIn {before after : List Char} {word : String} (hword : word ∈ ["break", "return", "raise"])
    (hbefore : before.getLast?.any Text.isWord = false) (hafter : after.head?.any Text.isWord = false) :
    Safety.loopExit.occursIn (before ++ (word.toList ++ after)) = true := by
  have hgate : Safety.loopExit.refersBack = false := by decide
  have hends : ∀ word ∈ ["break", "return", "raise"], word.toList ≠ [] ∧
      word.toList.head?.any Text.isWord = true ∧ word.toList.getLast?.any Text.isWord = true := by decide
  obtain ⟨hne, hhead, hlast⟩ := hends word hword
  refine (find?_isSome_iff hgate).mpr ⟨before, word.toList, after, rfl, .inl ?_⟩
  refine ⟨word.toList, [], by simp, ⟨[], word.toList, rfl, ?_, spells_oneOf.mpr ⟨word, hword, rfl⟩⟩, ?_⟩
  · refine spells_border.mpr ⟨rfl, ?_⟩
    rw [hbefore, List.nil_append, List.head?_append_of_ne_nil _ hne, hhead]
    decide
  · refine spells_border.mpr ⟨rfl, ?_⟩
    rw [hafter, List.getLast?_append_of_ne_nil _ hne, hlast]
    decide

/-- The parts of a line with nothing on it but a header. -/
lemma exists_header_parts (h : Text.strip text ∈ Source.loopHeaders) :
    ∃ before after, ∃ word ∈ ["True", "1"], Text.isBlankText before = true ∧ Text.isBlankText after = true ∧
      text = before ++ ("while".toList ++ (" ".toList ++ (word.toList ++ [':']))) ++ after := by
  obtain ⟨before, after, hbefore, hafter, htext⟩ := Text.exists_eq_strip text
  rcases List.mem_pair.mp h with h | h
  · exact ⟨before, after, "True", by simp, hbefore, hafter, by rw [htext, h, List.append_assoc]; rfl⟩
  · exact ⟨before, after, "1", by simp, hbefore, hafter, by rw [htext, h, List.append_assoc]; rfl⟩

/-- The header alone on a line is one for the rule and for the gate. -/
lemma header_opens (h : Text.strip text ∈ Source.loopHeaders) :
    (Rule.Resource.infiniteLoop.expression.find? text).isSome = true ∧
      Safety.endlessLoop.startsText text = true := by
  have hrule : Rule.Resource.infiniteLoop.expression.refersBack = false := by decide
  have hgate : Safety.endlessLoop.refersBack = false := by decide
  obtain ⟨before, after, word, hword, hbefore, -, rfl⟩ := exists_header_parts h
  have hspells : (blanks ++ "while" ++ gap ++ oneOf ["True", "1"] ++ blanks ++ ":").Spells []
      (before ++ ("while".toList ++ (" ".toList ++ (word.toList ++ [':'])))) after := by
    simp only [spells_append_assoc]
    refine ⟨before, _, rfl, Text.isBlank_of_mem hbefore, "while".toList, _, rfl, spells_text.mpr rfl, ?_⟩
    refine ⟨" ".toList, _, rfl, spells_many1.mpr ⟨by decide, List.all_eq_true.mp (by decide)⟩, word.toList, [':'], rfl,
      ?_, ?_⟩
    · exact spells_oneOf.mpr ⟨word, hword, rfl⟩
    · exact ⟨[], [':'], rfl, fun _ hc => absurd hc List.not_mem_nil, spells_text.mpr rfl⟩
  constructor
  · refine (find?_isSome_iff hrule).mpr ⟨[], _, after, rfl, ?_⟩
    simp only [Rule.Resource.infiniteLoop, spells_append_assoc]
    simp only [spells_append_assoc] at hspells
    exact spells_start_append.mpr ⟨rfl, hspells⟩
  · exact (startsText_iff hgate).mpr ⟨_, after, rfl, hspells⟩

/-- There is no statement on a line with nothing on it but a header. -/
lemma inlineBody_header (h : Text.strip text ∈ Source.loopHeaders) : Source.inlineBody text = [] := by
  obtain ⟨before, after, word, hword, hbefore, hafter, rfl⟩ := exists_header_parts h
  have hletters : ∀ word ∈ ["True", "1"], ("while ".toList ++ word.toList).all
      (fun c => !(Source.isOpening c || Source.isClosing c || c == ':')) = true := by decide
  have hplain : ∀ c ∈ before ++ ("while ".toList ++ word.toList),
      (Source.isOpening c || Source.isClosing c || c == ':') = false := by
    intro c hc
    rcases List.mem_append.mp hc with hc | hc
    · exact Source.plain_of_isBlank (Text.isBlank_of_mem hbefore c hc)
    · simpa using List.all_eq_true.mp (hletters word hword) c hc
  have hcolon : before ++ ("while".toList ++ (" ".toList ++ (word.toList ++ [':']))) ++ after =
      before ++ ("while ".toList ++ word.toList) ++ ':' :: after := by simp
  rw [hcolon, Source.inlineBody_append hplain]
  exact Text.strip_of_isBlankText hafter

end Expressions

namespace Safety

/-- The danger that an endless loop on line `index` is. -/
def loopDangerAt (index : ℕ) : Danger := ⟨.high, endlessLoopRisk, index + 1⟩

/-- The risk of an endless loop is worded as no other one. -/
lemma loopDangerAt_notMem_patternDangers {index n : ℕ} {line : Line} :
    loopDangerAt n ∉ (patternDangers index line).map (·.1) := by
  intro h
  obtain ⟨found, hfound, hd⟩ := List.mem_map.mp h
  obtain ⟨p, hp, hfound⟩ := List.mem_filterMap.mp hfound
  obtain ⟨m, -, rfl⟩ := Option.map_eq_some_iff.mp hfound
  have hrisks : ∀ risk ∈ patterns.map Pattern.risk, 3 ≤ risk.toList.length ∧
      risk.toList.take 3 ≠ endlessLoopRisk.toList.take 3 := by decide
  obtain ⟨hlength, hne⟩ := hrisks p.risk (List.mem_map_of_mem hp)
  refine hne ?_
  have hrisk := congrArg (fun d : Danger => d.risk.toList.take 3) hd
  simpa [List.take_append_of_le_length, hlength, loopDangerAt, toString, String.toList_append] using hrisk

/-- The run over all lines, by induction on them. -/
lemma loopDangerAt_mem_scanFrom {src : Source} {flagged : List (List Char)} {index n : ℕ} {lines : List Line} :
    loopDangerAt n ∈ scanFrom src flagged index lines ↔
      ∃ l ∈ lines.zipIdx index, Text.isBlankText l.1 = false ∧ loopDangerAt n ∈ loopDanger src l.2 l.1 := by
  induction lines generalizing flagged index with
  | nil => simp [scanFrom]
  | cons line rest ih =>
    have hnotes : ∀ flagged, loopDangerAt n ∉ importNotes flagged index line := by
      intro flagged hnote
      cases level_of_mem_importNotes hnote
    rw [scanFrom, List.zipIdx_cons, List.exists_mem_cons_iff]
    split
    · rename_i hblank
      simp only [ih, hblank, Bool.true_eq_false, false_and, false_or]
    · rename_i hblank
      rw [Bool.not_eq_true] at hblank
      simp only [List.mem_append, loopDangerAt_notMem_patternDangers, hnotes, ih, hblank, false_or, true_and]

/-- The gate reports just the loops whose bodies show it no way out. -/
lemma loopDangerAt_mem_scan {code : List Char} {n : ℕ} :
    loopDangerAt n ∈ scan code ↔ ∃ line, (Source.maskLines code)[n]? = some line ∧ Text.isBlankText line = false ∧
      endlessLoop.startsText line = true ∧ ((Source.ofText code).bodyTexts n).any loopExit.occursIn = false := by
  rw [mem_scan_iff_of_high rfl, loopDangerAt_mem_scanFrom]
  constructor
  · rintro ⟨⟨line, k⟩, hline, hblank, hd⟩
    obtain ⟨hd, hloop⟩ := mem_loopDanger.mp hd
    obtain rfl : n = k := Nat.succ.inj (congrArg Danger.line hd)
    exact ⟨line, List.mem_zipIdx_iff_getElem?.mp hline, hblank, hloop⟩
  · rintro ⟨line, hline, hblank, hloop⟩
    exact ⟨(line, n), List.mem_zipIdx_iff_getElem?.mpr hline, hblank, mem_loopDanger.mpr ⟨rfl, hloop⟩⟩

end Safety

namespace PatternScan

/-- A scan by the catalog reports the line as the header of a loop that does not end. -/
def ReportsLoop (codeStructure : Structure) (code : List Char) (index : ℕ) : Prop :=
  ∃ m ∈ (ofCode Rule.catalog codeStructure code).ruleMatches,
    m.ruleId = Rule.Resource.infiniteLoop.id ∧ m.startLine = index + 1

/-- The rule reports just the loops whose bodies show it no way out. -/
lemma reportsLoop_iff {codeStructure : Structure} {code : List Char} (hcode : Text.isBlankText code = false) {n : ℕ} :
    ReportsLoop codeStructure code n ↔ ∃ line, (Source.maskLines code)[n]? = some line ∧
      (Rule.Resource.infiniteLoop.expression.find? line).isSome = true ∧
        ((Source.ofText code).bodyTexts n).any Rule.Resource.loopExit.occursIn = false := by
  have hrule : Rule.Resource.infiniteLoop ∈ Rule.catalog := by simp [Rule.catalog]
  have hms : ∃ ms, Rule.Resource.infiniteLoop.matchesIn (Source.ofText code) = .ok ms :=
    Rule.exists_matchesIn_of_total (fun _ _ _ => Rule.exists_ite_ok _ _) _
  constructor
  · rintro ⟨m, hm, hid, hline⟩
    obtain ⟨hne, line, hline, c, hc, hevidence⟩ := (exists_match_iff hrule hcode hms).mp ⟨m, hm, hid, hline, rfl⟩
    refine ⟨line, hline, find?_isSome_of_mem_all hc, ?_⟩
    by_contra hexit
    rw [Bool.not_eq_false] at hexit
    exact hne (Except.ok.inj ((if_pos hexit).symm.trans hevidence)).symm
  · rintro ⟨line, hline, hfound, hexit⟩
    obtain ⟨c, hc⟩ := Option.isSome_iff_exists.mp hfound
    obtain ⟨m, hm, hid, hstart, -⟩ := (exists_match_iff hrule hcode hms).mpr
      ⟨List.cons_ne_nil _ _, line, hline, c, mem_all_of_find?_eq_some hc, if_neg (Bool.eq_false_iff.mp hexit)⟩
    exact ⟨m, hm, hid, hstart⟩

end PatternScan

namespace Source

variable {code : List Char} {front after : List Row} {header : Row} {body : List Statement} {exit : Regex}

namespace Statement

lemma Below.staysInside {margin : ℕ} {s : Statement} (h : s.Below margin) {r : Row} (hr : r ∈ s.rows)
    (hmore : r ∉ s.more) : staysInside margin r.line = true := by
  rcases List.mem_append.mp hr with hlead | hr
  · simp [Source.staysInside, h.lead r hlead]
  · rcases List.mem_cons.mp hr with rfl | hr
    · simp [Source.staysInside, h.first.2]
    · exact absurd hr hmore

lemma first_mem_rows (s : Statement) : s.first ∈ s.rows := List.mem_append_right _ List.mem_cons_self

lemma Leaves.occursIn {s : Statement} (h : s.Leaves) : Safety.loopExit.occursIn s.first.line = true := by
  obtain ⟨before, word, after, hline, hword, hbefore, hafter⟩ := h
  rw [hline]
  exact loopExit_occursIn hword hbefore hafter

end Statement

/-- The lines below a header that belong to its block. -/
def insideLines (margin : ℕ) (rows : List Row) : List Line :=
  (rows.map Row.line).takeWhile (staysInside margin)

lemma mem_insideLines_append {margin : ℕ} {inside rest : List Row}
    (hinside : ∀ r ∈ inside, staysInside margin r.line = true) {r : Row} (hr : r ∈ inside) :
    r.line ∈ insideLines margin (inside ++ rest) := by
  rw [insideLines, List.map_append, List.takeWhile_append_of_pos (by simpa using hinside)]
  exact List.mem_append_left _ (List.mem_map_of_mem hr)

lemma exists_row_of_mem_insideLines {margin : ℕ} {before rest : List Row} {last : Row}
    (hlast : staysInside margin last.line = false) {line : Line}
    (h : line ∈ insideLines margin (before ++ last :: rest)) : ∃ r ∈ before, r.line = line := by
  rw [insideLines, List.map_append, List.map_cons, List.takeWhile_append,
    List.takeWhile_cons_of_neg (by simp [hlast]), List.append_nil] at h
  split at h
  · exact List.mem_map.mp h
  · exact List.mem_map.mp ((List.takeWhile_prefix _).subset h)

namespace WrappedLoop

/-- The body of the loop as it is searched for ways out. -/
lemma any_bodyTexts (h : WrappedLoop code front header body after)
    (hblank : ∀ text, exit.occursIn text = true → Text.isBlankText text = false) :
    ((Source.ofText code).bodyTexts front.length).any exit.occursIn = false ↔
      ∀ line ∈ insideLines (indentOf header.line) (body.flatMap Statement.rows ++ after),
        exit.occursIn line = false := by
  have hmasked : (Source.ofText code).masked =
      front.map Row.line ++ header.line :: (body.flatMap Statement.rows ++ after).map Row.line := by
    rw [← List.map_cons, ← List.map_append]
    exact h.masked
  have hempty : exit.occursIn [] = false := Bool.eq_false_iff.mpr fun hnil => by cases hblank [] hnil
  have htexts := bodyTexts_eq hmasked
  rw [List.length_map, inlineBody_header h.opens] at htexts
  rw [htexts, List.any_cons, hempty, Bool.false_or, List.any_eq_false]
  simp only [Bool.not_eq_true, List.mem_filter, Bool.not_eq_true', and_imp]
  refine forall₂_congr fun line _ => ⟨fun hline => ?_, fun hline _ => hline⟩
  by_contra hoccurs
  rw [Bool.not_eq_false] at hoccurs
  exact absurd ((hline (hblank line hoccurs)).symm.trans hoccurs) Bool.false_ne_true

/-- If the statements have a way out at all, the block shows none exactly when it is cut short. -/
lemma cutShort_iff (h : WrappedLoop code front header body after)
    (hexit : ∃ r ∈ body.flatMap Statement.rows, exit.occursIn r.line = true) :
    (∀ line ∈ insideLines (indentOf header.line) (body.flatMap Statement.rows ++ after), exit.occursIn line = false) ↔
      CutShort exit header body := by
  constructor
  · intro hnone
    -- the first line that is not indented deeper, if there is one, cuts the loop short
    cases hfind : (body.flatMap Statement.rows).find? fun r => !staysInside (indentOf header.line) r.line with
    | none =>
      obtain ⟨r, hr, hoccurs⟩ := hexit
      have hstays : ∀ r ∈ body.flatMap Statement.rows, staysInside (indentOf header.line) r.line = true := by
        simpa using List.find?_eq_none.mp hfind
      exact absurd ((hnone r.line (mem_insideLines_append hstays hr)).symm.trans hoccurs) Bool.false_ne_true
    | some row =>
      obtain ⟨hends, before, rest, hrows, hstays⟩ := List.find?_eq_some_iff_append.mp hfind
      rw [Bool.not_eq_true'] at hends
      obtain ⟨s, hs, hrow⟩ := List.mem_flatMap.mp (List.mem_of_find?_eq_some hfind)
      -- only a line that a statement goes on over can end the block
      have hmore : row ∈ s.more := by
        by_contra hmore
        exact absurd (hends.symm.trans ((h.below s hs).staysInside hrow hmore)) Bool.false_ne_true
      refine ⟨before, row, rest, hrows, ⟨s, hs, hmore⟩, hends, fun r hr => ?_⟩
      rw [hrows, List.append_assoc] at hnone
      exact hnone r.line (mem_insideLines_append (by simpa using hstays) hr)
  · rintro ⟨before, row, rest, hrows, -, hends, hshown⟩ line hline
    rw [hrows, List.append_assoc] at hline
    obtain ⟨r, hr, rfl⟩ := exists_row_of_mem_insideLines hends hline
    exact hshown r hr

lemma getElem?_header (h : WrappedLoop code front header body after) :
    (maskLines code)[front.length]? = some header.line := by
  rw [h.masked, List.getElem?_map, List.getElem?_append_right le_rfl, Nat.sub_self]
  rfl

end WrappedLoop

lemma not_cutShort (h : ∀ s ∈ body, ∀ r ∈ s.more, staysInside (indentOf header.line) r.line = true) :
    ¬ CutShort exit header body := by
  rintro ⟨_, row, _, _, ⟨s, hs, hrow⟩, hends, _⟩
  exact absurd (hends.symm.trans (h s hs row hrow)) Bool.false_ne_true

/-- The statements of a loop may go on over lines that are indented in any way, and one of them leaves it. The rule
and the gate report the loop exactly when it is cut short by such a line, so neither does where all those lines are
indented deeper than the header. -/
theorem wrapped_loop_reported_iff (h : WrappedLoop code front header body after) (hleaves : ∃ s ∈ body, s.Leaves)
    (codeStructure : Structure) :
    (PatternScan.ReportsLoop codeStructure code front.length ↔ CutShort Rule.Resource.loopExit header body) ∧
      (Safety.loopDangerAt front.length ∈ Safety.scan code ↔ CutShort Safety.loopExit header body) ∧
      ((∀ s ∈ body, ∀ r ∈ s.more, staysInside (indentOf header.line) r.line = true) →
        ¬ PatternScan.ReportsLoop codeStructure code front.length ∧
          Safety.loopDangerAt front.length ∉ Safety.scan code) := by
  obtain ⟨s, hs, hleaves⟩ := hleaves
  obtain ⟨hfound, hstarts⟩ := header_opens h.opens
  have hblank : Text.isBlankText header.line = false := (endlessLoop_of_infiniteLoop hfound).2
  have hcode := isBlankText_eq_false_of_mem_maskLines (List.mem_of_getElem? h.getElem?_header) hblank
  have hrow : s.first ∈ body.flatMap Statement.rows := List.mem_flatMap_of_mem hs s.first_mem_rows
  have hrule : PatternScan.ReportsLoop codeStructure code front.length ↔
      CutShort Rule.Resource.loopExit header body := by
    rw [PatternScan.reportsLoop_iff hcode, ← h.cutShort_iff ⟨_, hrow, occursIn_loopExit hleaves.occursIn⟩,
      ← h.any_bodyTexts fun _ => not_isBlankText_of_loopExit, h.getElem?_header]
    simp [hfound]
  have hgate : Safety.loopDangerAt front.length ∈ Safety.scan code ↔ CutShort Safety.loopExit header body := by
    rw [Safety.loopDangerAt_mem_scan, ← h.cutShort_iff ⟨_, hrow, hleaves.occursIn⟩,
      ← h.any_bodyTexts fun _ htext => not_isBlankText_of_loopExit (occursIn_loopExit htext), h.getElem?_header]
    simp [hstarts, hblank]
  exact ⟨hrule, hgate, fun hdeeper => ⟨mt hrule.mp (not_cutShort hdeeper), mt hgate.mp (not_cutShort hdeeper)⟩⟩

/-- A loop with a call over two lines, both indented, and a branch that leaves the loop. -/
def indentedCallLoop : List Char :=
  "while True:\n    x = f(\n        1)\n    if x:\n        break\n".toList

/-- A loop with a call whose second line is not indented, and then a statement that leaves the loop. -/
def shallowCallLoop : List Char :=
  "while True:\n    x = f(\n1)\n    break\n".toList

/-- A line of code outside strings. -/
def Row.ofCode (line : String) : Row := ⟨.code false, line.toList⟩

instance {margin : ℕ} {s : Statement} : Decidable (s.Below margin) :=
  decidable_of_iff ((∀ r ∈ s.lead, Text.isBlankText r.line = true) ∧
      (Text.isBlankText s.first.line = false ∧ margin < indentOf s.first.line) ∧
        Statement.goesOn [s.first.line] s.more = true)
    ⟨fun ⟨hlead, hfirst, hmore⟩ => ⟨hlead, hfirst, hmore⟩, fun h => ⟨h.lead, h.first, h.more⟩⟩

theorem indented_call_loop_not_reported :
    ¬ PatternScan.ReportsLoop {} indentedCallLoop 0 ∧ Safety.loopDangerAt 0 ∉ Safety.scan indentedCallLoop := by
  have hloop : WrappedLoop indentedCallLoop [] (.ofCode "while True:")
      [⟨[], .ofCode "    x = f(", [.ofCode "        1)"]⟩, ⟨[], .ofCode "    if x:", []⟩,
        ⟨[], .ofCode "        break", []⟩] [.ofCode ""] :=
    ⟨by decide +kernel, by decide +kernel, by decide +kernel, by decide +kernel⟩
  refine (wrapped_loop_reported_iff hloop ⟨⟨[], .ofCode "        break", []⟩, by simp, ?_⟩ {}).2.2 (by decide +kernel)
  exact ⟨"        ".toList, "break", [], by decide +kernel, by simp, by decide +kernel, by decide +kernel⟩

theorem shallow_call_loop_reported :
    ∃ front header body after, WrappedLoop shallowCallLoop front header body after ∧ (∃ s ∈ body, s.Leaves) ∧
      PatternScan.ReportsLoop {} shallowCallLoop front.length ∧
        Safety.loopDangerAt front.length ∈ Safety.scan shallowCallLoop := by
  refine ⟨[], .ofCode "while True:", [⟨[], .ofCode "    x = f(", [.ofCode "1)"]⟩, ⟨[], .ofCode "    break", []⟩],
    [.ofCode ""], ⟨by decide +kernel, by decide +kernel, by decide +kernel, by decide +kernel⟩, ?_, ?_, ?_⟩
  · exact ⟨⟨[], .ofCode "    break", []⟩, by simp, "    ".toList, "break", [], by decide +kernel, by simp,
      by decide +kernel, by decide +kernel⟩
  · unfold PatternScan.ReportsLoop
    decide +kernel
  · decide +kernel

end Source
end CodeAudit
