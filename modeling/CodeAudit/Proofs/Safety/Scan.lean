import CodeAudit.Safety
import Mathlib.Data.List.Basic
import Mathlib.Tactic.Lemma

/-! What the safety scan finds on which line. A danger of high level never hangs on the lines before it: only the
notes on modules look at what was imported so far. -/
namespace CodeAudit

namespace Safety

open Source (Line)

/-- A line with a danger of high level: a pattern of that level matches on it, or it opens an endless loop. -/
def Forbids (src : Source) (index : ℕ) (line : Line) : Prop :=
  (∃ p ∈ patterns, p.level = .high ∧ (p.expression.find? line).isSome = true) ∨
    (endlessLoop.startsText line = true ∧ (src.bodyTexts index).any loopExit.occursIn = false)

lemma line_of_mem_patternDangers {index : ℕ} {line : Line} {d : Danger}
    (h : d ∈ (patternDangers index line).map (·.1)) : d.line = index + 1 := by
  obtain ⟨found, hfound, rfl⟩ := List.mem_map.mp h
  obtain ⟨p, _, hp⟩ := List.mem_filterMap.mp hfound
  obtain ⟨m, _, rfl⟩ := Option.map_eq_some_iff.mp hp
  rfl

lemma exists_high_patternDangers {index : ℕ} {line : Line} :
    (∃ d ∈ (patternDangers index line).map (·.1), d.level = .high) ↔
      ∃ p ∈ patterns, p.level = .high ∧ (p.expression.find? line).isSome = true := by
  constructor
  · rintro ⟨d, hd, hhigh⟩
    obtain ⟨found, hfound, rfl⟩ := List.mem_map.mp hd
    obtain ⟨p, hp, hpd⟩ := List.mem_filterMap.mp hfound
    obtain ⟨m, hm, rfl⟩ := Option.map_eq_some_iff.mp hpd
    exact ⟨p, hp, hhigh, by rw [hm]; rfl⟩
  · rintro ⟨p, hp, hhigh, hm⟩
    obtain ⟨m, hm⟩ := Option.isSome_iff_exists.mp hm
    have hfound : _ ∈ patternDangers index line := List.mem_filterMap.mpr ⟨p, hp, congrArg (Option.map _) hm⟩
    exact ⟨_, List.mem_map_of_mem hfound, hhigh⟩

lemma level_of_mem_importNotes {flagged : List (List Char)} {index : ℕ} {line : Line} {d : Danger}
    (h : d ∈ importNotes flagged index line) : d.level = .low := by
  obtain ⟨top, _, htop⟩ := List.mem_filterMap.mp h
  split at htop
  · cases htop
  · cases htop
    rfl

lemma mem_loopDanger {src : Source} {index : ℕ} {line : Line} {d : Danger} :
    d ∈ loopDanger src index line ↔ d = ⟨.high, endlessLoopRisk, index + 1⟩ ∧
      endlessLoop.startsText line = true ∧ (src.bodyTexts index).any loopExit.occursIn = false := by
  unfold loopDanger
  split
  · rename_i h
    simp_all
  · rename_i h
    simp_all

variable {src : Source}

/-- One line of the scan: its dangers of high level do not depend on the modules flagged before. -/
lemma exists_high_on_line {flagged : List (List Char)} {index n : ℕ} {line : Line} :
    (∃ d ∈ (patternDangers index line).map (·.1) ++ importNotes flagged index line ++ loopDanger src index line,
      d.level = .high ∧ d.line = n) ↔ n = index + 1 ∧ Forbids src index line := by
  constructor
  · rintro ⟨d, hd, hhigh, rfl⟩
    rcases List.mem_append.mp hd with hd | hd
    · rcases List.mem_append.mp hd with hd | hd
      · exact ⟨line_of_mem_patternDangers hd, .inl (exists_high_patternDangers.mp ⟨d, hd, hhigh⟩)⟩
      · rw [level_of_mem_importNotes hd] at hhigh
        cases hhigh
    · obtain ⟨rfl, hloop⟩ := mem_loopDanger.mp hd
      exact ⟨rfl, .inr hloop⟩
  · rintro ⟨rfl, hpattern | hloop⟩
    · obtain ⟨d, hd, hhigh⟩ := exists_high_patternDangers.mpr hpattern
      exact ⟨d, List.mem_append_left _ (List.mem_append_left _ hd), hhigh, line_of_mem_patternDangers hd⟩
    · exact ⟨_, List.mem_append_right _ (mem_loopDanger.mpr ⟨rfl, hloop⟩), rfl, rfl⟩

/-- The run over all lines, by induction on them; the flagged modules change from line to line. -/
lemma exists_high_scanFrom {flagged : List (List Char)} {index n : ℕ} {lines : List Line} :
    (∃ d ∈ scanFrom src flagged index lines, d.level = .high ∧ d.line = n) ↔
      ∃ l ∈ lines.zipIdx index, Text.isBlankText l.1 = false ∧ n = l.2 + 1 ∧ Forbids src l.2 l.1 := by
  induction lines generalizing flagged index with
  | nil => simp [scanFrom]
  | cons line rest ih =>
    rw [scanFrom, List.zipIdx_cons, List.exists_mem_cons_iff]
    split
    · rename_i hblank
      simp only [ih, hblank, Bool.true_eq_false, false_and, false_or]
    · rename_i hblank
      rw [Bool.not_eq_true] at hblank
      simp only [List.mem_append (t := scanFrom _ _ _ _), or_and_right, exists_or, exists_high_on_line, ih, hblank,
        true_and]

/-- The note on the length of a program has no high level. -/
lemma mem_scan_iff_of_high {code : List Char} {d : Danger} (h : d.level = .high) :
    d ∈ scan code ↔ d ∈ scanFrom (Source.ofText code) [] 0 (Source.maskLines code) := by
  unfold scan
  dsimp only
  split
  · rw [List.mem_append, List.mem_singleton]
    refine or_iff_left ?_
    rintro rfl
    cases h
  · rfl

/-- A danger of high level stands on a line of the program. -/
lemma exists_line_of_high {code : List Char} {d : Danger} (hd : d ∈ scan code) (h : d.level = .high) :
    ∃ n, d.line = n + 1 := by
  obtain ⟨l, _, _, hline, _⟩ := exists_high_scanFrom.mp ⟨d, (mem_scan_iff_of_high h).mp hd, h, rfl⟩
  exact ⟨l.2, hline⟩

/-- The scan has a danger of high level on a line exactly when the line itself forbids execution. -/
lemma exists_high_scan {code : List Char} {n : ℕ} :
    (∃ d ∈ scan code, d.level = .high ∧ d.line = n + 1) ↔
      ∃ line, (Source.maskLines code)[n]? = some line ∧ Text.isBlankText line = false ∧
        Forbids (Source.ofText code) n line := by
  have hrun : (∃ d ∈ scan code, d.level = .high ∧ d.line = n + 1) ↔
      ∃ d ∈ scanFrom (Source.ofText code) [] 0 (Source.maskLines code), d.level = .high ∧ d.line = n + 1 :=
    exists_congr fun d => and_congr_left fun h => mem_scan_iff_of_high h.1
  rw [hrun, exists_high_scanFrom]
  constructor
  · rintro ⟨⟨line, k⟩, hline, hblank, hn, h⟩
    obtain rfl : n = k := Nat.succ.inj hn
    exact ⟨line, List.mem_zipIdx_iff_getElem?.mp hline, hblank, h⟩
  · rintro ⟨line, hline, hblank, h⟩
    exact ⟨(line, n), List.mem_zipIdx_iff_getElem?.mpr hline, hblank, rfl, h⟩

lemma bodyTexts_congr {src' : Source} (h : src.masked = src'.masked) (index : ℕ) :
    src.bodyTexts index = src'.bodyTexts index := by
  have hline : src.maskedLine = src'.maskedLine := by
    funext i
    rw [Source.maskedLine, Source.maskedLine, h]
  rw [Source.bodyTexts, Source.bodyTexts, hline, h]

lemma scanFrom_congr {src' : Source} (h : src.masked = src'.masked) (flagged : List (List Char)) (index : ℕ)
    (lines : List Line) : scanFrom src flagged index lines = scanFrom src' flagged index lines := by
  induction lines generalizing flagged index with
  | nil => rfl
  | cons line rest ih => simp only [scanFrom, ih, loopDanger, bodyTexts_congr h]

/-- The scan reads the mask and nothing else. -/
lemma scan_congr {code code' : List Char} (h : Source.maskText code = Source.maskText code') :
    scan code = scan code' := by
  have hmasked : (Source.ofText code).masked = (Source.ofText code').masked := congrArg Text.lines h
  have hlength : code.length = code'.length := by
    have hlen := congrArg List.length h
    rwa [Source.maskText_eq, Source.maskText_eq, Source.Mask.length_blanked, Source.Mask.length_blanked] at hlen
  simp only [scan, hmasked, scanFrom_congr hmasked, hlength]

end Safety

/-- Execution is allowed unless there is a danger of high level. -/
lemma SafetyAssessment.allowExecution_eq_false_iff {code : List Char} :
    (ofCode code).allowExecution = false ↔ ∃ d ∈ Safety.scan code, d.level = .high := by
  simp [ofCode, ofDangers]

lemma SafetyAssessment.denied_of_high {code : List Char} {n : ℕ}
    (h : ∃ d ∈ Safety.scan code, d.level = .high ∧ d.line = n) : (ofCode code).allowExecution = false := by
  obtain ⟨d, hd, hhigh, _⟩ := h
  exact allowExecution_eq_false_iff.mpr ⟨d, hd, hhigh⟩

end CodeAudit
