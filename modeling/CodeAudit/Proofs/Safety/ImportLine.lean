import CodeAudit.Proofs.Regex.Spelling
import CodeAudit.Proofs.Safety.Scan
import CodeAudit.Proofs.Text.Classes

/-! Lines that import modules, as they are written, and what the safety gate makes of them. It forbids execution for
the first module of such a line only: a module of the same kind behind a comma gets a note of low level. -/
namespace CodeAudit.Safety

open Regex

/-- Word characters, at least one. -/
structure IsWordText (s : List Char) : Prop where
  ne_nil : s ≠ []
  word : ∀ c ∈ s, Text.isWord c = true

/-- Blanks, at least one. -/
structure IsGap (s : List Char) : Prop where
  ne_nil : s ≠ []
  blank : ∀ c ∈ s, Text.isBlank c = true

instance (s : List Char) : Decidable (IsWordText s) :=
  decidable_of_iff (s ≠ [] ∧ s.all Text.isWord = true)
    ⟨fun h => ⟨h.1, List.all_eq_true.mp h.2⟩, fun h => ⟨h.1, List.all_eq_true.mpr h.2⟩⟩

instance (s : List Char) : Decidable (IsGap s) :=
  decidable_of_iff (s ≠ [] ∧ Text.isBlankText s = true)
    ⟨fun h => ⟨h.1, List.all_eq_true.mp h.2⟩, fun h => ⟨h.1, List.all_eq_true.mpr h.2⟩⟩

/-- Another name for an imported module. -/
structure OtherName where
  before : List Char
  after : List Char
  name : List Char
  before_gap : IsGap before
  after_gap : IsGap after
  name_word : IsWordText name

/-- A dotted module name between blanks, with another name for the module or without. -/
structure ImportItem where
  lead : List Char
  top : List Char
  path : List (List Char)
  other : Option OtherName
  trail : List Char
  lead_blank : Text.isBlankText lead = true
  top_word : IsWordText top
  path_words : ∀ part ∈ path, IsWordText part
  trail_blank : Text.isBlankText trail = true

/-- A line that imports modules. -/
structure ImportLine where
  indent : List Char
  first : ImportItem
  others : List ImportItem
  indent_blank : Text.isBlankText indent = true
  first_gap : first.lead ≠ []

def OtherName.text (o : OtherName) : List Char := o.before ++ ("as".toList ++ (o.after ++ o.name))

namespace ImportItem

/-- What stands behind the top-level name. -/
def rest (i : ImportItem) : List Char :=
  i.path.flatMap ('.' :: ·) ++ ((i.other.map OtherName.text).getD [] ++ i.trail)

def text (i : ImportItem) : List Char := i.lead ++ (i.top ++ i.rest)

end ImportItem

namespace ImportLine

/-- What stands behind the top-level name of the first module. -/
def rest (l : ImportLine) : List Char := l.first.rest ++ l.others.flatMap (',' :: ·.text)

def text (l : ImportLine) : List Char :=
  l.indent ++ ("import".toList ++ (l.first.lead ++ (l.first.top ++ l.rest)))

end ImportLine

lemma IsWordText.getLast?_append {m : List Char} (h : IsWordText m) (s : List Char) :
    (s ++ m).getLast?.any Text.isWord = true := Text.getLast?_any_append h.ne_nil h.word s

lemma IsWordText.head?_append {m : List Char} (h : IsWordText m) (s : List Char) :
    (m ++ s).head?.any Text.isBlank = false :=
  Text.head?_any_append_of_ne_nil h.ne_nil (fun c hc => Text.not_isBlank_of_isWord (h.word c hc)) s

lemma IsGap.head?_append {g : List Char} (h : IsGap g) (s : List Char) :
    (g ++ s).head?.any Text.isWord = false :=
  Text.head?_any_append_of_ne_nil h.ne_nil (fun c hc => Text.not_isWord_of_isBlank (h.blank c hc)) s

section Characters

lemma isImportChar_of_isWord {c : Char} (h : Text.isWord c = true) : isImportChar c = true := by
  simp [isImportChar, h]

lemma isImportChar_of_isBlank {c : Char} (h : Text.isBlank c = true) : isImportChar c = true := by
  simp [isImportChar, h]

/-- Another name and an item have word characters, blanks and points only. -/
lemma OtherName.forall_mem_text {p : Char → Prop} (hword : ∀ c, Text.isWord c = true → p c)
    (hblank : ∀ c, Text.isBlank c = true → p c) (o : OtherName) : ∀ c ∈ o.text, p c := by
  have has : "as".toList.all Text.isWord = true := by decide
  intro c hc
  simp only [OtherName.text, List.mem_append] at hc
  rcases hc with hc | hc | hc | hc
  · exact hblank c (o.before_gap.blank c hc)
  · exact hword c (List.all_eq_true.mp has c hc)
  · exact hblank c (o.after_gap.blank c hc)
  · exact hword c (o.name_word.word c hc)

lemma ImportItem.forall_mem_text {p : Char → Prop} (hword : ∀ c, Text.isWord c = true → p c)
    (hblank : ∀ c, Text.isBlank c = true → p c) (hpoint : p '.') (i : ImportItem) : ∀ c ∈ i.text, p c := by
  intro c hc
  simp only [ImportItem.text, ImportItem.rest, List.mem_append, List.mem_flatMap, List.mem_cons] at hc
  rcases hc with hc | hc | ⟨part, hpart, rfl | hc⟩ | hc | hc
  · exact hblank c (Text.isBlank_of_mem i.lead_blank c hc)
  · exact hword c (i.top_word.word c hc)
  · exact hpoint
  · exact hword c ((i.path_words part hpart).word c hc)
  · cases ho : i.other with
    | none => simp [ho] at hc
    | some o => exact o.forall_mem_text hword hblank c (by simpa [ho] using hc)
  · exact hblank c (Text.isBlank_of_mem i.trail_blank c hc)

lemma ImportItem.isImportChar_of_mem (i : ImportItem) : ∀ c ∈ i.text, isImportChar c = true :=
  i.forall_mem_text (fun _ => isImportChar_of_isWord) (fun _ => isImportChar_of_isBlank) (by decide)

lemma ImportLine.isImportChar_of_mem {l : ImportLine} : ∀ c ∈ l.text, isImportChar c = true := by
  have hword : "import".toList.all isImportChar = true := by decide
  intro c hc
  have hsplit : c ∈ l.indent ∨ c ∈ "import".toList ∨ c ∈ l.first.text ∨ ∃ i ∈ l.others, c = ',' ∨ c ∈ i.text := by
    simpa [ImportLine.text, ImportLine.rest, ImportItem.text, or_assoc] using hc
  rcases hsplit with hc | hc | hc | ⟨i, _, rfl | hc⟩
  · exact isImportChar_of_isBlank (Text.isBlank_of_mem l.indent_blank c hc)
  · exact List.all_eq_true.mp hword c hc
  · exact l.first.isImportChar_of_mem c hc
  · decide
  · exact i.isImportChar_of_mem c hc

/-- No word character follows the top-level name of the first module. -/
lemma ImportLine.head_rest (l : ImportLine) : l.rest.head?.any Text.isWord = false := by
  have hothers : (l.others.flatMap (',' :: ·.text)).head?.any Text.isWord = false := by
    cases l.others with
    | nil => rfl
    | cons i others => rfl
  rw [ImportLine.rest, ImportItem.rest]
  cases l.first.path with
  | cons part path => rfl
  | nil =>
    cases l.first.other with
    | some o =>
      simpa only [OtherName.text, Option.map_some, Option.getD_some, List.flatMap_nil, List.nil_append,
        List.append_assoc] using o.before_gap.head?_append _
    | none =>
      cases ht : l.first.trail with
      | nil => exact hothers
      | cons c s =>
        have hc := Text.isBlank_of_mem l.first.trail_blank c (ht ▸ List.mem_cons_self)
        simpa using Text.not_isWord_of_isBlank hc

end Characters

lemma ImportLine.isGap_lead (l : ImportLine) : IsGap l.first.lead :=
  ⟨l.first_gap, Text.isBlank_of_mem l.first.lead_blank⟩

/-- How a line that imports starts: with an import word and the top-level name of a module, each after blanks. -/
structure ImportHead where
  indent : List Char
  word : String
  lead : List Char
  top : List Char
  rest : List Char
  indent_blank : Text.isBlankText indent = true
  word_mem : word ∈ ["import", "from"]
  lead_gap : IsGap lead
  top_word : IsWordText top
  rest_apart : rest.head?.any Text.isWord = false

namespace ImportHead

def text (h : ImportHead) : List Char := h.indent ++ (h.word.toList ++ (h.lead ++ (h.top ++ h.rest)))

lemma isWordText_word (h : ImportHead) : IsWordText h.word.toList := by
  have hwords : ∀ word ∈ ["import", "from"], IsWordText word.toList := by decide
  exact hwords h.word h.word_mem

end ImportHead

def ImportLine.head (l : ImportLine) : ImportHead where
  indent := l.indent
  word := "import"
  lead := l.first.lead
  top := l.first.top
  rest := l.rest
  indent_blank := l.indent_blank
  word_mem := by simp
  lead_gap := l.isGap_lead
  top_word := l.first.top_word
  rest_apart := l.head_rest

section Head

variable {h : ImportHead} {b word g : List Char}

/-- An import line has one word before its first gap, and goes on behind it in one way. -/
lemma ImportHead.word_eq_of_text_eq {rest : List Char} (htext : h.text = b ++ (word ++ (g ++ rest)))
    (hb : Text.isBlankText b = true) (hword : IsWordText word) (hg : IsGap g) :
    h.word.toList = word ∧ h.lead ++ (h.top ++ h.rest) = g ++ rest := by
  obtain ⟨-, htext⟩ := Text.run_unique (Text.isBlank_of_mem h.indent_blank) (Text.isBlank_of_mem hb)
    (h.isWordText_word.head?_append _) (hword.head?_append _) htext
  exact Text.run_unique h.isWordText_word.word hword.word (h.lead_gap.head?_append _) (hg.head?_append _) htext

/-- Such a line falls into blanks, a word, blanks and a module in one way only. -/
lemma ImportHead.top_eq_of_text_eq {m post : List Char} (htext : h.text = b ++ (word ++ (g ++ (m ++ post))))
    (hb : Text.isBlankText b = true) (hword : IsWordText word) (hg : IsGap g) (hm : IsWordText m)
    (hpost : post.head?.any Text.isWord = false) : h.top = m := by
  obtain ⟨-, htext⟩ := ImportHead.word_eq_of_text_eq htext hb hword hg
  obtain ⟨-, htext⟩ := Text.run_unique h.lead_gap.blank hg.blank (h.top_word.head?_append _) (hm.head?_append _) htext
  exact (Text.run_unique h.top_word.word hm.word h.rest_apart hpost htext).1

end Head

lemma refersBack_importOf (modules : List String) : (importOf modules).refersBack = false := by
  simp only [importOf, refersBack_append, refersBack_group, refersBack_oneOf]
  rfl

/-- What the expression for imports spells: an import word and a module, with blanks before each of them. -/
lemma spells_importOf {modules : List String} {pre w post : List Char} :
    (importOf modules).Spells pre w post ↔ ∃ b g : List Char, ∃ word ∈ ["import", "from"], ∃ m ∈ modules,
      w = b ++ (word.toList ++ (g ++ m.toList)) ∧ Text.isBlankText b = true ∧ IsGap g ∧
        (pre ++ w).getLast?.any Text.isWord ≠ post.head?.any Text.isWord := by
  simp only [importOf, spells_append_assoc]
  simp only [spells_append, spells_oneOf, spells_group, spells_border]
  constructor
  · rintro ⟨b, _, rfl, hb, _, _, rfl, ⟨word, hword, rfl⟩, g, _, rfl, hg, _, _, rfl, ⟨m, hm, rfl⟩, rfl, hborder⟩
    obtain ⟨hne, hblank⟩ := spells_many1.mp hg
    exact ⟨b, g, word, hword, m, hm, by simp, List.all_eq_true.mpr hb, ⟨hne, hblank⟩, by simpa using hborder⟩
  · rintro ⟨b, g, word, hword, m, hm, rfl, hb, hg, hborder⟩
    exact ⟨b, _, rfl, Text.isBlank_of_mem hb, _, _, rfl, ⟨word, hword, rfl⟩, g, _, rfl, spells_many1.mpr ⟨hg.ne_nil, hg.blank⟩,
      m.toList, [], by simp, ⟨m, hm, rfl⟩, rfl, by simpa using hborder⟩

/-- The expression for some modules finds a line that imports exactly when the first module of the line is one of them,
by its top-level name. -/
lemma ImportHead.find?_importOf_isSome_iff {modules : List String} (hwords : ∀ m ∈ modules, IsWordText m.toList)
    (h : ImportHead) :
    ((start ++ importOf modules).find? h.text).isSome = true ↔ String.ofList h.top ∈ modules := by
  have hplain : (start ++ importOf modules).refersBack = false := refersBack_importOf modules
  rw [find?_isSome_iff hplain]
  simp only [spells_start_append, spells_importOf, List.nil_append]
  constructor
  · rintro ⟨_, w, post, htext, rfl, b, g, word, hword, m, hm, rfl, hb, hg, hborder⟩
    have hmword := hwords m hm
    have hpost : post.head?.any Text.isWord = false := by
      have hlast := hmword.getLast?_append (b ++ (word.toList ++ g))
      simp only [List.append_assoc] at hlast
      rw [hlast] at hborder
      simpa using hborder.symm
    have hwordText : ∀ word ∈ ["import", "from"], IsWordText word.toList := by decide
    simp only [List.append_assoc, List.nil_append] at htext
    have htop := ImportHead.top_eq_of_text_eq htext hb (hwordText word hword) hg hmword hpost
    rw [htop, String.ofList_toList]
    exact hm
  · intro hm
    refine ⟨[], h.indent ++ (h.word.toList ++ (h.lead ++ h.top)), h.rest, by simp [ImportHead.text],
      rfl, h.indent, h.lead, h.word, h.word_mem, _, hm, by simp, h.indent_blank, h.lead_gap, ?_⟩
    have hlast := h.top_word.getLast?_append (h.indent ++ (h.word.toList ++ h.lead))
    simp only [List.append_assoc] at hlast
    rw [hlast, h.rest_apart]
    decide

section Signs

variable {text : List Char} {r : Regex} {word : String} {c : Char}

/-- No part of a text is spelled by an expression that ends in a sign the text does not have. -/
lemma not_spells_of_notMem (hc : c ∈ word.toList) (h : c ∉ text) {pre w post : List Char}
    (hw : text = pre ++ (w ++ post)) : ¬ (r ++ Regex.text word).Spells pre w post := by
  intro hspells
  refine h ?_
  rw [hw]
  exact List.mem_append_right _ (List.mem_append_left _ ((isSuffix_of_spells hspells).subset hc))

lemma find?_isSome_of_notMem (hplain : (r ++ Regex.text word).refersBack = false) (hc : c ∈ word.toList)
    (h : c ∉ text) : ((r ++ Regex.text word).find? text).isSome = false := by
  rw [← Bool.not_eq_true, find?_isSome_iff hplain]
  rintro ⟨pre, w, post, hw, hspells⟩
  exact not_spells_of_notMem hc h hw hspells

lemma refersBack_callOf (group : String) (functions : List String) : (callOf group functions).refersBack = false := by
  simp only [callOf, refersBack_append, refersBack_group, refersBack_oneOf]
  rfl

lemma refersBack_methodCallOf (group : String) (methods : List String) :
    (methodCallOf group methods).refersBack = false := by
  simp only [methodCallOf, refersBack_append, refersBack_group, refersBack_oneOf]
  rfl

/-- No call is found where there is no bracket. -/
lemma find?_callOf (h : '(' ∉ text) (group : String) (functions : List String) :
    ((callOf group functions).find? text).isSome = false :=
  find?_isSome_of_notMem (refersBack_callOf group functions) (by decide) h

lemma find?_methodCallOf (h : '(' ∉ text) (group : String) (methods : List String) :
    ((methodCallOf group methods).find? text).isSome = false :=
  find?_isSome_of_notMem (refersBack_methodCallOf group methods) (by decide) h

/-- No loop is opened without a colon. -/
lemma endlessLoop_startsText (h : ':' ∉ text) : endlessLoop.startsText text = false := by
  have hplain : endlessLoop.refersBack = false := by decide
  rw [← Bool.not_eq_true, startsText_iff hplain]
  rintro ⟨w, post, hw, hspells⟩
  exact not_spells_of_notMem (by decide) h (List.nil_append _ ▸ hw) hspells

lemma notMem_of_importChars (h : ∀ d ∈ text, isImportChar d = true) (hc : isImportChar c = false) : c ∉ text := by
  intro hmem
  rw [h c hmem] at hc
  cases hc

end Signs

lemma ImportLine.isBlankText_text (l : ImportLine) : Text.isBlankText l.text = false := by
  have hmem : 'i' ∈ l.text := List.mem_append_right _ (List.mem_append_left _ (by decide))
  exact Text.isBlankText_eq_false_of_mem hmem (by decide)

/-- The modules that are not to be imported where a program runs. -/
def gatedModules : List String := systemModules ++ networkModules

lemma isWordText_of_mem_gatedModules : ∀ m ∈ gatedModules, IsWordText m.toList := by decide +kernel

/-- The expression for some of the gated modules finds a line of imports exactly when it starts with one of them. -/
lemma ImportHead.find?_gated_isSome_iff {modules : List String} (hgated : modules ⊆ gatedModules) (h : ImportHead) :
    ((start ++ importOf modules).find? h.text).isSome = true ↔ String.ofList h.top ∈ modules :=
  h.find?_importOf_isSome_iff fun m hm => isWordText_of_mem_gatedModules m (hgated hm)

/-- An import line is forbidden exactly for its first module. -/
lemma forbids_importLine_iff (src : Source) (index : ℕ) (l : ImportLine) :
    Forbids src index l.text ↔ String.ofList l.first.top ∈ gatedModules := by
  have hbracket : '(' ∉ l.text := notMem_of_importChars l.isImportChar_of_mem (by decide)
  have hcolon : ':' ∉ l.text := notMem_of_importChars l.isImportChar_of_mem (by decide)
  have himport : ∀ modules ⊆ gatedModules,
      ((start ++ importOf modules).find? l.text).isSome = true ↔ String.ofList l.first.top ∈ modules :=
    fun _ hgated => l.head.find?_gated_isSome_iff hgated
  have hfound : (∃ p ∈ patterns, p.level = .high ∧ (p.expression.find? l.text).isSome = true) ↔
      ((start ++ importOf systemModules).find? l.text).isSome = true ∨
        ((start ++ importOf networkModules).find? l.text).isSome = true := by
    simp only [patterns, List.exists_mem_cons_iff, List.not_mem_nil, false_and, exists_false, reduceCtorEq, true_and,
      or_false, find?_orElse_isSome_iff (refersBack_methodCallOf _ _) (refersBack_callOf _ _), find?_callOf hbracket,
      find?_methodCallOf hbracket, Bool.false_eq_true]
  rw [Forbids, hfound, endlessLoop_startsText hcolon, himport _ (List.subset_append_left _ _),
    himport _ (List.subset_append_right _ _), gatedModules, List.mem_append]
  simp

/-- On a line that imports modules the scan finds a danger of high level exactly when the first of them is a gated
one, and then nothing is executed. -/
theorem first_import_decides {code : List Char} {n : ℕ} {l : ImportLine}
    (h : (Source.maskLines code)[n]? = some l.text) :
    ((∃ d ∈ scan code, d.level = .high ∧ d.line = n + 1) ↔ String.ofList l.first.top ∈ gatedModules) ∧
      (String.ofList l.first.top ∈ gatedModules → (SafetyAssessment.ofCode code).allowExecution = false) := by
  have hline : (∃ d ∈ scan code, d.level = .high ∧ d.line = n + 1) ↔ String.ofList l.first.top ∈ gatedModules := by
    rw [exists_high_scan, ← forbids_importLine_iff (Source.ofText code) n l]
    constructor
    · rintro ⟨line, hline, _, hforbids⟩
      rw [h] at hline
      cases hline
      exact hforbids
    · intro hforbids
      exact ⟨l.text, h, l.isBlankText_text, hforbids⟩
  exact ⟨hline, fun htop => SafetyAssessment.denied_of_high (hline.mpr htop)⟩

/-- A module with nothing but its name. -/
def plainItem (lead top : String) (hlead : Text.isBlankText lead.toList = true) (htop : IsWordText top.toList) :
    ImportItem where
  lead := lead.toList
  top := top.toList
  path := []
  other := none
  trail := []
  lead_blank := hlead
  top_word := htop
  path_words := by simp
  trail_blank := rfl

/-- The line `  import os.path as p, math`. -/
def pathImport : ImportLine where
  indent := "  ".toList
  first := { plainItem " " "os" (by decide) (by decide) with
    path := ["path".toList]
    other := some ⟨[' '], [' '], ['p'], by decide, by decide, by decide⟩
    path_words := by decide }
  others := [plainItem " " "math" (by decide) (by decide)]
  indent_blank := by decide
  first_gap := by decide

theorem first_import_decides_pathImport :
    (Source.maskLines pathImport.text)[0]? = some pathImport.text ∧
      ((∃ d ∈ scan pathImport.text, d.level = .high ∧ d.line = 0 + 1) ↔ "os" ∈ gatedModules) ∧
      (SafetyAssessment.ofCode pathImport.text).allowExecution = false := by
  have hline : (Source.maskLines pathImport.text)[0]? = some pathImport.text := by decide +kernel
  obtain ⟨hiff, hdenied⟩ := first_import_decides hline
  exact ⟨hline, hiff, hdenied (by decide)⟩

/-- The line `import math, os`. -/
def laterImport : ImportLine where
  indent := []
  first := plainItem " " "math" (by decide) (by decide)
  others := [plainItem " " "os" (by decide) (by decide)]
  indent_blank := by decide
  first_gap := by decide

/-- A gated module behind a comma does not keep a program from being executed. -/
theorem later_import_not_gated :
    ¬ ∀ (code : List Char) (n : ℕ) (l : ImportLine), (Source.maskLines code)[n]? = some l.text →
      (∃ i ∈ l.first :: l.others, String.ofList i.top ∈ gatedModules) →
        (SafetyAssessment.ofCode code).allowExecution = false := by
  intro h
  have hline : (Source.maskLines laterImport.text)[0]? = some laterImport.text := by decide +kernel
  have hallowed : (SafetyAssessment.ofCode laterImport.text).allowExecution = true := by decide +kernel
  rw [h laterImport.text 0 laterImport hline (by decide)] at hallowed
  cases hallowed

end CodeAudit.Safety
