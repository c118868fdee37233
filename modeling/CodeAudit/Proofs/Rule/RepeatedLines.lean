import CodeAudit.Proofs.Regex.Sequence
import CodeAudit.Proofs.Rule.Total
import CodeAudit.Proofs.Source.Block
import Mathlib.Data.List.Range

/-!
Runs of repeated lines and where they are reported. A run is reported once, at its second line, unless the line above
it looks like its lines in the text and is hidden in the mask.
-/
namespace CodeAudit

open Source (Line)

namespace Source

/-- A line has code, and that text but for the blanks around it. -/
structure Shows (src : Source) (text : List Char) (index : ℕ) : Prop where
  code : src.isBlankLine index = false
  strip_eq : Text.strip (src.line index) = text

instance (src : Source) (text : List Char) (index : ℕ) : Decidable (src.Shows text index) :=
  decidable_of_iff (src.isBlankLine index = false ∧ Text.strip (src.line index) = text)
    ⟨fun h => ⟨h.1, h.2⟩, fun h => ⟨h.code, h.strip_eq⟩⟩

/-- The lines from the first to the last one show the same text, which is no trivial one, and the lines around them
do not. -/
structure RepeatRun (src : Source) (text : List Char) (first last : ℕ) : Prop where
  two_lines : first < last
  shows : ∀ i, first ≤ i → i ≤ last → src.Shows text i
  above : ∀ i, i + 1 = first → ¬ src.Shows text i
  below : ¬ src.Shows text (last + 1)
  not_trivial : String.ofList text ∉ Rule.Logic.trivialLines

/-- Above line `first` stands a line with that text but for the blanks around it, whether it is code or not. -/
def EqualAbove (src : Source) (text : List Char) (first : ℕ) : Prop :=
  0 < first ∧ Text.strip (src.line (first - 1)) = text

instance (src : Source) (text : List Char) (first : ℕ) : Decidable (src.EqualAbove text first) :=
  inferInstanceAs (Decidable (_ ∧ _))

/-- The line and the one above it show the same text, which is no trivial one, and the line above those has another
text. -/
structure SecondOfRun (src : Source) (index : ℕ) : Prop where
  pos : 0 < index
  shows : src.Shows (Text.strip (src.line index)) index
  above : src.Shows (Text.strip (src.line index)) (index - 1)
  not_trivial : String.ofList (Text.strip (src.line index)) ∉ Rule.Logic.trivialLines
  first : ¬ src.EqualAbove (Text.strip (src.line index)) (index - 1)

section Runs

variable {src : Source} {text : List Char} {first last index : ℕ}

lemma Shows.lt_length (h : src.Shows text index) : index < src.masked.length := by
  by_contra hpast
  have hempty : src.maskedLine index = [] := by
    rw [maskedLine, List.getElem?_eq_none (Nat.le_of_not_lt hpast)]
    rfl
  have hcode := h.code
  rw [isBlankLine, hempty] at hcode
  cases hcode

/-- A text that shows a line is not blank. -/
lemma Shows.not_isBlankText {code : List Char} (h : (ofText code).Shows text index) : Text.isBlankText code = false := by
  have hlt := h.lt_length
  have hmem : (ofText code).maskedLine index ∈ maskLines code := by
    rw [maskedLine, List.getElem?_eq_getElem hlt, Option.getD_some]
    exact List.getElem_mem hlt
  exact isBlankText_eq_false_of_mem_maskLines hmem h.code

/-- In a run only its second line is the second of a run. -/
lemma RepeatRun.secondOfRun_iff (h : src.RepeatRun text first last) (hfirst : first ≤ index) (hlast : index ≤ last) :
    src.SecondOfRun index ↔ index = first + 1 ∧ ¬ src.EqualAbove text first := by
  have hhere := h.shows index hfirst hlast
  constructor
  · rintro ⟨hpos, -, habove, -, hequal⟩
    rw [hhere.strip_eq] at habove hequal
    rcases Nat.lt_trichotomy index (first + 1) with hlt | rfl | hgt
    · exact absurd habove (h.above (index - 1) (by omega))
    · exact ⟨rfl, hequal⟩
    · have hbefore := h.shows (index - 1 - 1) (by omega) (by omega)
      exact absurd ⟨by omega, hbefore.strip_eq⟩ hequal
  · rintro ⟨rfl, hequal⟩
    have habove := h.shows first le_rfl (by omega)
    have htrivial := h.not_trivial
    rw [← hhere.strip_eq] at habove hequal htrivial
    exact ⟨Nat.succ_pos first, ⟨hhere.code, rfl⟩, habove, htrivial, hequal⟩

open Classical in
/-- Of the lines of a run only the second one is a second line, or none is. -/
lemma RepeatRun.filter_secondOfRun (h : src.RepeatRun text first last) :
    ((List.range src.masked.length).filter fun i =>
        decide (first < i + 1 ∧ i + 1 ≤ last + 1) && decide (src.SecondOfRun i)) =
      if src.EqualAbove text first then [] else [first + 1] := by
  have htwo := h.two_lines
  have hlength : first + 1 < src.masked.length := (h.shows (first + 1) (Nat.le_succ first) htwo).lt_length
  have hwithin : ∀ i ∈ List.range src.masked.length,
      (decide (first < i + 1 ∧ i + 1 ≤ last + 1) && decide (src.SecondOfRun i)) =
        (decide (i = first + 1) && decide ¬ src.EqualAbove text first) := by
    intro i _
    rw [← Bool.decide_and, ← Bool.decide_and, decide_eq_decide]
    constructor
    · rintro ⟨⟨hfirst, hlast⟩, hi⟩
      exact (h.secondOfRun_iff (by omega) (by omega)).mp hi
    · rintro ⟨rfl, hequal⟩
      exact ⟨by omega, (h.secondOfRun_iff (by omega) (by omega)).mpr ⟨rfl, hequal⟩⟩
  rw [List.filter_congr hwithin]
  split
  · rename_i hequal
    simp [hequal]
  · rename_i hequal
    have hone : (List.range src.masked.length).filter (· = first + 1) = [first + 1] := by
      rw [List.filter_eq, List.count_eq_one_of_mem List.nodup_range (List.mem_range.mpr hlength)]
      rfl
    simp [hequal, hone]

/-- The lines that show a text from one line on, by induction on the lines that are left: past the end there is no
code. -/
lemma exists_last_shows (h : src.Shows text first) :
    ∃ last, first ≤ last ∧ (∀ i, first ≤ i → i ≤ last → src.Shows text i) ∧ ¬ src.Shows text (last + 1) := by
  induction hleft : src.masked.length - first generalizing first with
  | zero => exact absurd h.lt_length (by omega)
  | succ left ih =>
    by_cases hnext : src.Shows text (first + 1)
    · obtain ⟨last, hle, hshows, hbelow⟩ := ih hnext (by omega)
      refine ⟨last, by omega, fun i hi hlast => ?_, hbelow⟩
      rcases Nat.eq_or_lt_of_le hi with rfl | hlt
      · exact h
      · exact hshows i hlt hlast
    · refine ⟨first, le_rfl, fun i hi hlast => ?_, hnext⟩
      rwa [Nat.le_antisymm hlast hi]

lemma SecondOfRun.exists_repeatRun (h : src.SecondOfRun index) :
    ∃ text first last, src.RepeatRun text first last ∧ index = first + 1 := by
  obtain ⟨first, rfl⟩ : ∃ first, index = first + 1 := ⟨index - 1, (Nat.sub_add_cancel h.pos).symm⟩
  obtain ⟨last, hle, hshows, hbelow⟩ := exists_last_shows h.shows
  refine ⟨_, first, last, ⟨hle, fun i hi hlast => ?_, fun i hi hshow => ?_, hbelow, h.not_trivial⟩, rfl⟩
  · rcases Nat.eq_or_lt_of_le hi with rfl | hlt
    · exact h.above
    · exact hshows i hlt hlast
  · subst hi
    exact h.first ⟨Nat.succ_pos i, hshow.strip_eq⟩

end Runs

end Source

namespace Rule

section Candidates

variable {line : Line}

lemma all_repeatedLine_of_blank (h : Text.isBlankText line = true) : Logic.repeatedLine.expression.all line = [] := by
  refine Regex.all_eq_nil rfl ?_
  rintro pre w post rfl ⟨_, _, rfl, ⟨_, _, rfl, ⟨_, _, rfl, -, c, hc, rfl⟩, -⟩, -⟩
  have hblank := Text.isBlank_of_mem h c (by simp)
  simp [hblank] at hc

/-- A line of code is one candidate as a whole. -/
lemma exists_all_repeatedLine (h : Text.isBlankText line = false) (hfeed : '\n' ∉ line) :
    ∃ m, Logic.repeatedLine.expression.all line = [m] := by
  -- what is left when the blanks in front are dropped starts with the first character of the code
  have hdrop : line.dropWhile Text.isBlank ≠ [] := by
    rw [Ne, List.dropWhile_eq_nil_iff, ← List.all_eq_true]
    exact ne_true_of_eq_false h
  obtain ⟨first, rest, hcode⟩ := List.exists_cons_of_ne_nil hdrop
  have hfirst : Text.isBlank first = false := by
    have hhead := List.head?_dropWhile_not Text.isBlank line
    rw [hcode] at hhead
    exact hhead
  have hline : line.takeWhile Text.isBlank ++ [first] ++ rest = line := by
    rw [List.append_assoc, List.singleton_append, ← hcode, List.takeWhile_append_dropWhile]
  have hfeeds : ∀ c ∈ rest, Regex.notLineFeed c = true := by
    intro c hc
    refine bne_iff_ne.mpr ?_
    rintro rfl
    exact hfeed (hline ▸ List.mem_append_right _ hc)
  have hstart : Logic.repeatedLine.expression.Reads []
      ([] ++ line.takeWhile Text.isBlank ++ [first] ++ rest ++ []) [] [] := by
    refine (((Regex.reads_start.append (Regex.reads_many (fun c => List.mem_takeWhile_imp) ?_)).append
      (Regex.reads_one ?_)).append (Regex.reads_many hfeeds rfl)).append Regex.reads_stop
    · simp [hfirst]
    · simp [hfirst]
  obtain ⟨m, -, hall⟩ := hstart.exists_allAfter rfl (by simp)
  rw [List.nil_append, List.append_nil, hline, List.append_nil] at hall
  refine ⟨m, hall.trans (congrArg (m :: ·) (Regex.allAfter_eq_nil rfl ?_))⟩
  -- no other match begins at the start of the line
  rintro skipped w post' - ⟨_, _, -, ⟨_, _, -, ⟨_, _, -, ⟨_, _, -, ⟨-, hpre⟩, -⟩, -⟩, -⟩, -⟩
  obtain ⟨rfl, -⟩ : line = [] ∧ skipped = [] := by simpa using hpre
  exact hdrop rfl

end Candidates

section Evidence

variable {src : Source} {index : ℕ} {m : Regex.Found}

/-- There is evidence where the line is the second one of a run. -/
lemma exists_repeatedLine_evidence (src : Source) (index : ℕ) (m : Regex.Found) :
    ∃ es, Logic.repeatedLine.evidence m src index = .ok es ∧ (es ≠ [] ↔ src.SecondOfRun index) := by
  have hiff : src.SecondOfRun index ↔
      ¬ (index == 0 || Logic.trivialLines.contains (String.ofList (Text.strip (src.line index))) ||
          src.isBlankLine index) = true ∧
        ¬ (!(Text.strip (src.line (index - 1)) == Text.strip (src.line index)) ||
            src.isBlankLine (index - 1)) = true ∧
          ¬ (decide (2 ≤ index) && Text.strip (src.line (index - 2)) == Text.strip (src.line index)) = true := by
    simp only [Bool.or_eq_true, Bool.and_eq_true, not_or, not_and, beq_iff_eq, Bool.not_eq_true', List.contains_iff_mem,
      decide_eq_true_eq, beq_eq_false_iff_ne, not_not, Bool.not_eq_true]
    constructor
    · rintro ⟨hpos, hshows, habove, htrivial, hfirst⟩
      exact ⟨⟨⟨by omega, htrivial⟩, hshows.code⟩, ⟨habove.strip_eq, habove.code⟩,
        fun htwo hequal => hfirst ⟨by omega, hequal⟩⟩
    · rintro ⟨⟨⟨hpos, htrivial⟩, hcode⟩, ⟨habove, hcodeAbove⟩, hfirst⟩
      refine ⟨by omega, ⟨hcode, rfl⟩, ⟨hcodeAbove, habove⟩, htrivial, ?_⟩
      rintro ⟨hover, hequal⟩
      exact hfirst (by omega) hequal
  simp only [hiff, Logic.repeatedLine]
  split
  · exact ⟨[], rfl, by simp_all⟩
  · split
    · exact ⟨[], rfl, by simp_all⟩
    · split
      · exact ⟨[], rfl, by simp_all⟩
      · exact ⟨_, rfl, by simp_all⟩

open Classical in
/-- A line makes one match if it is the second one of a run, and else none. -/
lemma startLines_repeatedLine {f : Regex.Found → Option RuleMatch}
    (hf : ∀ m, Logic.repeatedLine.matchOf src index m = .ok (f m)) {line : Line} (hline : src.masked[index]? = some line)
    (hfeed : '\n' ∉ line) :
    ((Logic.repeatedLine.expression.all line).filterMap f).map (·.startLine) =
      if src.SecondOfRun index then [index + 1] else [] := by
  have hmasked : src.maskedLine index = line := by rw [Source.maskedLine, hline, Option.getD_some]
  cases hblank : Text.isBlankText line with
  | true =>
    have hnot : ¬ src.SecondOfRun index := by
      intro hsecond
      have hcode := hsecond.shows.code
      rw [Source.isBlankLine, hmasked, hblank] at hcode
      cases hcode
    rw [all_repeatedLine_of_blank hblank, if_neg hnot]
    rfl
  | false =>
    obtain ⟨m, hall⟩ := exists_all_repeatedLine hblank hfeed
    obtain ⟨es, hes, hsecond⟩ := exists_repeatedLine_evidence src index m
    have hmatch := hf m
    rw [matchOf, hes] at hmatch
    rw [hall]
    cases es with
    | nil =>
      rw [if_neg (mt hsecond.mpr (not_not.mpr rfl)), List.filterMap_cons_none (Except.ok.inj hmatch).symm]
      rfl
    | cons e es =>
      rw [if_pos (hsecond.mp (List.cons_ne_nil e es)), List.filterMap_cons_some (Except.ok.inj hmatch).symm]
      rfl

end Evidence

end Rule

namespace PatternScan

/-- The lines that a rule of that name finds something on, a line for each match. -/
def linesOf (s : PatternScan) (id : String) : List ℕ :=
  (s.ruleMatches.filter (·.ruleId == id)).map (·.startLine)

section RepeatedLines

variable {code : List Char} {codeStructure : Structure}

open Classical in
/-- The rule finds the second lines of runs, from top to bottom. -/
lemma linesOf_repeatedLine (code : List Char) (codeStructure : Structure) :
    (ofCode Rule.catalog codeStructure code).linesOf Rule.Logic.repeatedLine.id =
      ((List.range (Source.maskLines code).length).filter fun i =>
        decide ((Source.ofText code).SecondOfRun i)).map (· + 1) := by
  cases hcode : Text.isBlankText code with
  | true =>
    have hnone : ∀ i, ¬ (Source.ofText code).SecondOfRun i :=
      fun i hsecond => ne_false_of_eq_true hcode hsecond.shows.not_isBlankText
    rw [List.filter_eq_nil_iff.mpr fun i _ => by simpa using hnone i, linesOf, ofCode, hcode]
    rfl
  | false =>
    obtain ⟨f, hf, hms⟩ := Rule.exists_matchesIn_eq_of_total Rule.total_repeatedLine (Source.ofText code)
    have hrule : Rule.Logic.repeatedLine ∈ Rule.catalog := by simp [Rule.catalog]
    have hline : ∀ numbered ∈ (Source.maskLines code).zipIdx,
        ((Rule.Logic.repeatedLine.expression.all numbered.1).filterMap (f numbered.2)).map (·.startLine) =
          if (Source.ofText code).SecondOfRun numbered.2 then [numbered.2 + 1] else [] := by
      intro numbered hnumbered
      have hmem := List.mem_zipIdx_iff_getElem?.mp hnumbered
      exact Rule.startLines_repeatedLine (hf numbered.2) hmem
        (Text.lineFeed_notMem_of_mem_lines (List.mem_of_getElem? hmem))
    calc (ofCode Rule.catalog codeStructure code).linesOf Rule.Logic.repeatedLine.id
        = (Source.maskLines code).zipIdx.flatMap fun numbered =>
            if (Source.ofText code).SecondOfRun numbered.2 then [numbered.2 + 1] else [] := by
          rw [linesOf, filter_ruleMatches_eq hrule hcode hms, List.map_flatMap]
          exact List.flatMap_congr hline
      _ = (List.range (Source.maskLines code).length).flatMap fun i =>
            if (Source.ofText code).SecondOfRun i then [i + 1] else [] := by
          rw [List.range_eq_range', ← List.zipIdx_map_snd, List.flatMap_map]
      _ = _ := by
          induction List.range (Source.maskLines code).length with
          | nil => rfl
          | cons i is ih =>
            rw [List.flatMap_cons, ih, List.filter_cons]
            split <;> simp_all

/-- **A run is reported once, at its second line,** unless the text has the same line above the run, which the mask
hides; then it is not reported at all. The rule reports nothing but second lines of runs. -/
theorem repeatedLine_linesOf_run (code : List Char) (codeStructure : Structure) :
    (∀ text first last, (Source.ofText code).RepeatRun text first last →
      ((ofCode Rule.catalog codeStructure code).linesOf "repeated_line").filter
          (fun line => first < line ∧ line ≤ last + 1) =
        if (Source.ofText code).EqualAbove text first then [] else [first + 2]) ∧
      ∀ line ∈ (ofCode Rule.catalog codeStructure code).linesOf "repeated_line",
        ∃ text first last, (Source.ofText code).RepeatRun text first last ∧ line = first + 2 := by
  classical
  have hlines := linesOf_repeatedLine code codeStructure
  constructor
  · intro text first last hrun
    change ((ofCode Rule.catalog codeStructure code).linesOf Rule.Logic.repeatedLine.id).filter _ = _
    have hfilter := hrun.filter_secondOfRun
    rw [hlines, List.filter_map, List.filter_filter]
    simp only [Function.comp_def]
    refine (congrArg (List.map (· + 1)) hfilter).trans ?_
    split <;> rfl
  · intro line hline
    rw [show ("repeated_line" : String) = Rule.Logic.repeatedLine.id from rfl, hlines] at hline
    obtain ⟨i, hi, rfl⟩ := List.mem_map.mp hline
    obtain ⟨text, first, last, hrun, rfl⟩ := (of_decide_eq_true (List.mem_filter.mp hi).2).exists_repeatRun
    exact ⟨text, first, last, hrun, rfl⟩

end RepeatedLines

theorem repeatedLine_linesOf_three_calls :
    (Source.ofText "go()\n  go()\ngo()\nstop()".toList).RepeatRun "go()".toList 0 2 ∧
      ((ofCode Rule.catalog default "go()\n  go()\ngo()\nstop()".toList).linesOf "repeated_line").filter
        (fun line => 0 < line ∧ line ≤ 2 + 1) = [0 + 2] := by
  have hshows : ∀ i ≤ 2, (Source.ofText "go()\n  go()\ngo()\nstop()".toList).Shows "go()".toList i := by
    decide +kernel
  have hrun : (Source.ofText "go()\n  go()\ngo()\nstop()".toList).RepeatRun "go()".toList 0 2 :=
    ⟨by decide, fun i _ => hshows i, fun i hi => absurd hi (Nat.succ_ne_zero i), by decide +kernel, by decide⟩
  have hunder : ¬ (Source.ofText "go()\n  go()\ngo()\nstop()".toList).EqualAbove "go()".toList 0 := by
    decide +kernel
  exact ⟨hrun, ((repeatedLine_linesOf_run _ default).1 _ 0 2 hrun).trans (if_neg hunder)⟩

/-- Two calls below one that a string hides, which goes on from the line above. -/
def callsBelowString : List Char :=
  "x = 'abc\\\ngo()\ngo()\ngo()".toList

/-- The run below the hidden line is not reported. -/
theorem repeatedLine_below_string :
    (Source.ofText callsBelowString).RepeatRun "go()".toList 2 3 ∧
      (ofCode Rule.catalog default callsBelowString).linesOf "repeated_line" = [] := by
  have hshows : ∀ i ≤ 3, 2 ≤ i → (Source.ofText callsBelowString).Shows "go()".toList i := by decide +kernel
  have habove : ∀ i ≤ 3, i + 1 = 2 → ¬ (Source.ofText callsBelowString).Shows "go()".toList i := by decide +kernel
  have hbelow : ¬ (Source.ofText callsBelowString).Shows "go()".toList (3 + 1) := by decide +kernel
  have hrun : (Source.ofText callsBelowString).RepeatRun "go()".toList 2 3 :=
    ⟨by decide, fun i hi hle => hshows i hle hi, fun i hi => habove i (by omega) hi, hbelow, by decide⟩
  exact ⟨hrun, by decide +kernel⟩

end PatternScan

end CodeAudit
