import CodeAudit.Proofs.Regex.FirstWay
import CodeAudit.Proofs.Safety.Harmless
import CodeAudit.Proofs.Safety.ImportLine
import CodeAudit.Proofs.Source.CommentLines

/-! Programs that import allowed modules and do nothing else. However they call the modules, and whatever they take from
them, the safety gate grants them and has nothing to say of them but that they are long. -/
namespace CodeAudit

/-- The pieces of a text are, blanks around them aside, pieces of the text with blanks before and after it. -/
lemma Text.exists_strip_eq_of_mem_splitOn {sep : Char} (hsep : isBlank sep = false) (before after : Blanks)
    {s part : List Char} (h : part ∈ splitOn sep s) :
    ∃ whole ∈ splitOn sep (before.1 ++ (s ++ after.1)), strip whole = strip part := by
  have hnotMem : ∀ b : Blanks, sep ∉ b.1 := fun b hmem => by
    rw [b.isBlank sep hmem] at hsep
    cases hsep
  obtain ⟨front, last, hsplit⟩ := exists_splitOn_append sep s
  have hs : splitOn sep s = front ++ [last] := by simpa [splitOn_eq_singleton] using hsplit []
  have hafter : splitOn sep (s ++ after.1) = front ++ [last ++ after.1] := by
    rw [hsplit, splitOn_eq_singleton (hnotMem after)]
    rfl
  rw [splitOn_append_of_notMem (hnotMem before), hafter]
  rw [hs] at h
  cases front with
  | nil =>
    obtain rfl := List.mem_singleton.mp h
    exact ⟨_, List.mem_singleton_self _, before.strip_around after part⟩
  | cons first front =>
    rcases List.mem_cons.mp h with rfl | h
    · refine ⟨_, List.mem_cons_self, ?_⟩
      simpa [Blanks.spaces] using before.strip_around (.spaces 0) part
    · rcases List.mem_append.mp h with h | h
      · exact ⟨part, List.mem_cons_of_mem _ (List.mem_append_left _ h), rfl⟩
      · obtain rfl := List.mem_singleton.mp h
        refine ⟨_, List.mem_cons_of_mem _ (List.mem_append_right _ (List.mem_singleton_self _)), ?_⟩
        exact (Blanks.spaces 0).strip_around after part

namespace Safety

open Regex

/-- A module's name with the names of the packages that it lies in. -/
def dottedName (top : List Char) (path : List (List Char)) : List Char := top ++ path.flatMap ('.' :: ·)

/-- The top-level name of what stands in an import. -/
def topOf (module : List Char) : List Char :=
  Text.strip (Text.before '.' ((Text.splitOnText " as ".toList (Text.strip module)).head?.getD []))

/-- A line that imports names from a module. -/
structure FromLine where
  indent : List Char
  lead : List Char
  top : List Char
  path : List (List Char)
  names : ImportLine
  indent_blank : Text.isBlankText indent = true
  lead_gap : IsGap lead
  top_word : IsWordText top
  path_words : ∀ part ∈ path, IsWordText part
  names_gap : IsGap names.indent

def FromLine.text (l : FromLine) : List Char :=
  l.indent ++ ("from".toList ++ (l.lead ++ (dottedName l.top l.path ++ l.names.text)))

/-- The module is an allowed one, and another name for it stands behind a single space on each side of its word. -/
structure ImportItem.IsAllowed (i : ImportItem) : Prop where
  top_mem : String.ofList i.top ∈ allowedModules
  single_spaces : ∀ o ∈ i.other, o.before = [' '] ∧ o.after = [' ']

/-- A line that imports allowed modules, or names from one of them. -/
inductive IsAllowedLine : List Char → Prop
  | modules (l : ImportLine) (h : ∀ i ∈ l.first :: l.others, i.IsAllowed) : IsAllowedLine l.text
  | names (l : FromLine) (h : String.ofList l.top ∈ allowedModules) : IsAllowedLine l.text

/-- Every line of the text is blank or imports from allowed modules. -/
def OnlyAllowedImports (code : List Char) : Prop :=
  ∀ line ∈ Text.lines code, Text.isBlankText line = true ∨ IsAllowedLine line

section Names

variable {top : List Char} {path : List (List Char)} (htop : IsWordText top)
include htop

lemma isDotted_of_mem_dottedName (hpath : ∀ part ∈ path, IsWordText part) :
    ∀ c ∈ dottedName top path, isDotted c = true := by
  intro c hc
  simp only [dottedName, List.mem_append, List.mem_flatMap, List.mem_cons] at hc
  rcases hc with hc | ⟨part, hpart, rfl | hc⟩
  · exact Bool.or_eq_true_iff.mpr (.inl (htop.word c hc))
  · decide
  · exact Bool.or_eq_true_iff.mpr (.inl ((hpath part hpart).word c hc))

lemma not_isBlank_of_mem_dottedName (hpath : ∀ part ∈ path, IsWordText part) :
    ∀ c ∈ dottedName top path, Text.isBlank c = false :=
  fun c hc => not_isBlank_of_isDotted (isDotted_of_mem_dottedName htop hpath c hc)

/-- The top-level name stands before the first point. -/
lemma before_dottedName : Text.before '.' (dottedName top path) = top := by
  have hword : ∀ c ∈ top, (c != '.') = true := fun c hc => by
    rw [bne_iff_ne]
    rintro rfl
    exact absurd (htop.word '.' hc) (by decide)
  refine Text.takeWhile_run hword ?_
  cases path with
  | nil => rfl
  | cons part path => rfl

lemma strip_top : Text.strip top = top :=
  Text.strip_eq_self (Text.head?_any_eq_false fun c hc => Text.not_isBlank_of_isWord (htop.word c hc))
    (Text.getLast?_any_eq_false fun c hc => Text.not_isBlank_of_isWord (htop.word c hc))

/-- Whatever other name follows the name of a module, its top-level name is the one that counts. -/
lemma topOf_eq (hpath : ∀ part ∈ path, IsWordText part) {module : List Char}
    (h : Text.strip module = dottedName top path ∨
      ∃ name, Text.strip module = dottedName top path ++ (" as ".toList ++ name)) : topOf module = top := by
  have hspace : ' ' ∉ dottedName top path := fun hmem => by
    have hblank := not_isBlank_of_mem_dottedName htop hpath ' ' hmem
    cases hblank
  have hhead : (Text.splitOnText " as ".toList (Text.strip module)).head? = some (dottedName top path) := by
    rcases h with h | ⟨name, h⟩
    · rw [h]
      exact congrArg List.head? (Text.splitOnText_of_notMem hspace _)
    · rw [h]
      exact Text.head?_splitOnText hspace _ _
  rw [topOf, hhead, Option.getD_some, before_dottedName htop, strip_top htop]

end Names

section Line

/-- The list of modules behind `import`. -/
def moduleList : Regex := "import" ++ gap ++ group "modules" (one isImportChar ++ run isImportChar true)

/-- The module that names are taken from, and the names. -/
def fromClause : Regex :=
  "from" ++ gap ++ group "module" (many1 isDotted) ++ gap ++ "import" ++ border ++ many notLineFeed

lemma importLine_eq : importLine = blanks ++ (moduleList <|> fromClause) ++ blanks ++ stop := rfl

variable {pre post line : List Char} {s t : Cursor}

lemma exists_of_mem_ends_moduleList (hs : s.At pre post) (ht : t ∈ moduleList.ends s) :
    ∃ g x rest, post = "import".toList ++ (g ++ (x ++ rest)) ∧ IsGap g ∧ x ≠ [] ∧
      t.At (pre ++ ("import".toList ++ (g ++ x))) rest ∧ t.captured = ("modules", x) :: s.captured := by
  obtain ⟨u₂, ht, hmodules⟩ := mem_ends_seq.mp ht
  obtain ⟨u₁, hword, hgap⟩ := mem_ends_seq.mp ht
  obtain ⟨word, post₁, rfl, word_captures⟩ := exists_captures (isPlain_text _) hs hword
  obtain ⟨g, post₂, rfl, gap_captures⟩ := exists_captures rfl word_captures.at_end hgap
  obtain ⟨x, rest, rfl, modules_captures⟩ := exists_captures_group rfl gap_captures.at_end hmodules
  obtain rfl := spells_text.mp word_captures.spells
  obtain ⟨hne, hblank⟩ := spells_many1.mp gap_captures.spells
  obtain ⟨_, more, rfl, ⟨c, -, rfl⟩, -⟩ := modules_captures.spells
  refine ⟨g, _, rest, rfl, ⟨hne, hblank⟩, by simp, by simpa using modules_captures.at_end, ?_⟩
  rw [modules_captures.captured, gap_captures.captured, word_captures.captured]
  rfl

lemma exists_of_mem_ends_fromClause (hs : s.At pre post) (ht : t ∈ fromClause.ends s) :
    ∃ g x rest, post = "from".toList ++ (g ++ (x ++ rest)) ∧ IsGap g ∧ x ≠ [] ∧ (∀ c ∈ x, isDotted c = true) ∧
      rest.head?.any isDotted = false ∧ t.captured = ("module", x) :: s.captured := by
  obtain ⟨u₆, ht, hnames⟩ := mem_ends_seq.mp ht
  obtain ⟨u₅, ht, hborder⟩ := mem_ends_seq.mp ht
  obtain ⟨u₄, ht, himport⟩ := mem_ends_seq.mp ht
  obtain ⟨u₃, ht, hapart⟩ := mem_ends_seq.mp ht
  obtain ⟨u₂, ht, hmodule⟩ := mem_ends_seq.mp ht
  obtain ⟨u₁, hword, hgap⟩ := mem_ends_seq.mp ht
  obtain ⟨word, post₁, rfl, word_captures⟩ := exists_captures (isPlain_text _) hs hword
  obtain ⟨g, post₂, rfl, gap_captures⟩ := exists_captures rfl word_captures.at_end hgap
  obtain ⟨x, post₃, rfl, module_captures⟩ := exists_captures_group rfl gap_captures.at_end hmodule
  obtain ⟨apart, rest, rfl, apart_captures⟩ := exists_captures rfl module_captures.at_end hapart
  have hgroups : t.groups = u₄.groups :=
    ((groups_of_mem_ends rfl hnames).trans (groups_of_mem_ends rfl hborder)).trans
      (groups_of_mem_ends (isPlain_text _) himport)
  obtain rfl := spells_text.mp word_captures.spells
  obtain ⟨hne, hblank⟩ := spells_many1.mp gap_captures.spells
  obtain ⟨hx, hdotted⟩ := spells_many1.mp module_captures.spells
  obtain ⟨hapartNe, hapartBlank⟩ := spells_many1.mp apart_captures.spells
  refine ⟨g, x, _, rfl, ⟨hne, hblank⟩, hx, hdotted, ?_, ?_⟩
  · exact Text.head?_any_append_of_ne_nil hapartNe (fun c hc => not_isDotted_of_isBlank (hapartBlank c hc)) _
  · rw [Cursor.captured, hgroups, ← Cursor.captured, apart_captures.captured, module_captures.captured,
      gap_captures.captured, word_captures.captured]
    rfl

/-- What a whole line that imports is made of, and what its match holds: a list of modules, or the module that names are
taken from. -/
lemma captured_of_importLine (hfeed : '\n' ∉ line) {m : Found} (h : importLine.atStart? line = some m) :
    ∃ b g x y, Text.isBlankText b = true ∧ IsGap g ∧ x ≠ [] ∧
      ((line = b ++ ("import".toList ++ (g ++ (x ++ y))) ∧ Text.isBlankText y = true ∧
          m.captured = [("modules", x)]) ∨
        (line = b ++ ("from".toList ++ (g ++ (x ++ y))) ∧ (∀ c ∈ x, isDotted c = true) ∧
          y.head?.any isDotted = false ∧ m.captured = [("module", x)])) := by
  obtain ⟨t, ht, hm⟩ := captured_of_atStart? (importLine_eq ▸ h)
  obtain ⟨t₃, ht, hstop⟩ := mem_ends_seq.mp ht
  obtain ⟨t₂, ht, hblanks⟩ := mem_ends_seq.mp ht
  obtain ⟨t₁, hindent, himport⟩ := mem_ends_seq.mp ht
  obtain ⟨b, post, rfl, indent_captures⟩ := exists_captures rfl (.ofText _) hindent
  have hlast : m.captured = t₂.captured := by
    rw [hm, Cursor.captured, groups_of_mem_ends rfl hstop, groups_of_mem_ends rfl hblanks]
    rfl
  rcases List.mem_append.mp himport with himport | hfrom
  · obtain ⟨g, x, rest, rfl, hgap, hne, hat, hcaptured⟩ := exists_of_mem_ends_moduleList indent_captures.at_end himport
    obtain ⟨y, post₁, rfl, blanks_captures⟩ := exists_captures rfl hat hblanks
    obtain ⟨_, post₂, rfl, stop_captures⟩ := exists_captures rfl blanks_captures.at_end hstop
    obtain ⟨rfl, hpost⟩ := stop_captures.spells
    obtain rfl : post₂ = [] := hpost.resolve_right fun hpost => hfeed (by simp [hpost])
    refine ⟨b, g, x, y, List.all_eq_true.mpr indent_captures.spells, hgap, hne, .inl ⟨by simp, ?_, ?_⟩⟩
    · exact List.all_eq_true.mpr blanks_captures.spells
    · rw [hlast, hcaptured, indent_captures.captured]
      rfl
  · obtain ⟨g, x, rest, rfl, hgap, hne, hdotted, hrest, hcaptured⟩ :=
      exists_of_mem_ends_fromClause indent_captures.at_end hfrom
    refine ⟨b, g, x, rest, List.all_eq_true.mpr indent_captures.spells, hgap, hne, .inr ⟨rfl, hdotted, hrest, ?_⟩⟩
    rw [hlast, hcaptured, indent_captures.captured]
    rfl

/-- The top-level names that a line imports are those of the modules in a list or that of the one module. -/
lemma mem_importedTops {top : List Char} (hfeed : '\n' ∉ line) (htop : top ∈ importedTops line) :
    ∃ b g x y, Text.isBlankText b = true ∧ IsGap g ∧ x ≠ [] ∧
      ((line = b ++ ("import".toList ++ (g ++ (x ++ y))) ∧ Text.isBlankText y = true ∧
          ∃ module ∈ Text.splitOn ',' x, top = topOf module) ∨
        (line = b ++ ("from".toList ++ (g ++ (x ++ y))) ∧ (∀ c ∈ x, isDotted c = true) ∧
          y.head?.any isDotted = false ∧ top = topOf x)) := by
  rw [importedTops] at htop
  cases hm : importLine.atStart? line with
  | none =>
    rw [hm] at htop
    exact absurd htop List.not_mem_nil
  | some m =>
    rw [hm] at htop
    obtain ⟨module, hmodule, rfl⟩ := List.mem_map.mp htop
    obtain ⟨b, g, x, y, hb, hg, hne, ⟨hline, hy, hcaptured⟩ | ⟨hline, hx, hy, hcaptured⟩⟩ :=
      captured_of_importLine hfeed hm
    · have hmodules : m.group "modules" = x := by
        rw [Found.group_eq, hcaptured]
        rfl
      rw [hmodules, List.isEmpty_eq_false_iff.mpr hne] at hmodule
      exact ⟨b, g, x, y, hb, hg, hne, .inl ⟨hline, hy, module, hmodule, rfl⟩⟩
    · have hmodules : m.group "modules" = [] ∧ m.group "module" = x := by
        rw [Found.group_eq, Found.group_eq, hcaptured]
        exact ⟨rfl, rfl⟩
      rw [hmodules.1, hmodules.2] at hmodule
      obtain rfl := List.mem_singleton.mp hmodule
      exact ⟨b, g, module, y, hb, hg, hne, .inr ⟨hline, hx, hy, rfl⟩⟩

end Line

lemma IsWordText.getLast?_append_not_isBlank {w : List Char} (h : IsWordText w) (s : List Char) :
    (s ++ w).getLast?.any Text.isBlank = false := by
  rw [← List.head?_reverse, List.reverse_append]
  refine Text.head?_any_append_of_ne_nil (by simpa using h.ne_nil) (fun c hc => ?_) _
  exact Text.not_isBlank_of_isWord (h.word c (List.mem_reverse.mp hc))

/-- What is left of an item without the blanks around it. -/
lemma ImportItem.strip_text (i : ImportItem) :
    Text.strip i.text = dottedName i.top i.path ++ (i.other.map OtherName.text).getD [] := by
  have htext : i.text = i.lead ++ ((dottedName i.top i.path ++ (i.other.map OtherName.text).getD []) ++ i.trail) := by
    simp [text, rest, dottedName]
  have hfirst : (dottedName i.top i.path ++ (i.other.map OtherName.text).getD []).head?.any Text.isBlank = false := by
    rw [dottedName, List.append_assoc]
    exact i.top_word.head?_append _
  have hlast : (dottedName i.top i.path ++ (i.other.map OtherName.text).getD []).getLast?.any Text.isBlank = false := by
    cases i.other with
    | none =>
      rw [Option.map_none, Option.getD_none, List.append_nil]
      exact Text.getLast?_any_eq_false (not_isBlank_of_mem_dottedName i.top_word i.path_words)
    | some o =>
      simp only [Option.map_some, Option.getD_some, OtherName.text, ← List.append_assoc]
      exact o.name_word.getLast?_append_not_isBlank _
  rw [htext]
  exact Text.Blanks.strip_between ⟨i.lead, i.lead_blank⟩ ⟨i.trail, i.trail_blank⟩ hfirst hlast

lemma ImportItem.IsAllowed.topOf_eq {i : ImportItem} (h : i.IsAllowed) {module : List Char}
    (hmodule : Text.strip i.text = Text.strip module) : topOf module = i.top := by
  refine Safety.topOf_eq i.top_word i.path_words ?_
  rw [← hmodule, i.strip_text]
  cases ho : i.other with
  | none => exact .inl (List.append_nil _)
  | some o =>
    obtain ⟨hbefore, hafter⟩ := h.single_spaces o ho
    refine .inr ⟨o.name, ?_⟩
    rw [Option.map_some, Option.getD_some, OtherName.text, hbefore, hafter]
    rfl

lemma ImportItem.comma_notMem_text (i : ImportItem) : ',' ∉ i.text := by
  intro hmem
  refine i.forall_mem_text (p := (· ≠ ',')) ?_ ?_ (by decide) ',' hmem rfl
  · rintro c hc rfl
    exact absurd hc (by decide)
  · rintro c hc rfl
    exact absurd hc (by decide)

/-- Behind `import` stand the items of the line, between commas. -/
lemma ImportLine.splitOn_items (l : ImportLine) :
    Text.splitOn ',' (l.first.lead ++ (l.first.top ++ l.rest)) = (l.first :: l.others).map ImportItem.text := by
  have hjoin : l.first.lead ++ (l.first.top ++ l.rest) =
      Text.joinWith [','] ((l.first :: l.others).map ImportItem.text) := by
    simp [rest, ImportItem.text, Text.joinWith, List.flatMap_map]
  rw [hjoin]
  refine Text.splitOn_joinWith (by simp) fun text htext => ?_
  obtain ⟨i, -, rfl⟩ := List.mem_map.mp htext
  exact i.comma_notMem_text

/-- Allowed modules are not gated. -/
lemma notMem_gatedModules_of_mem_allowedModules : ∀ m ∈ allowedModules, m ∉ gatedModules := by decide +kernel

namespace ImportHead

variable {h : ImportHead}

/-- No pattern of danger is found in a line of imports that starts with a module that is not gated. -/
lemma find?_eq_none (hchars : ∀ c ∈ h.text, isImportChar c = true) (htop : String.ofList h.top ∉ gatedModules) :
    ∀ p ∈ patterns, p.expression.find? h.text = none := by
  have hbracket : '(' ∉ h.text := notMem_of_importChars hchars (by decide)
  have himport : ∀ modules ⊆ gatedModules, ((start ++ importOf modules).find? h.text).isSome = false := by
    intro modules hgated
    rw [← Bool.not_eq_true, h.find?_gated_isSome_iff hgated]
    exact fun hmem => htop (hgated hmem)
  have hkill : ((methodCallOf "first" ["kill", "terminate"] <|> callOf "second" ["exit", "quit"]).find?
      h.text).isSome = false := by
    rw [← Bool.not_eq_true, find?_orElse_isSome_iff (refersBack_methodCallOf _ _) (refersBack_callOf _ _),
      find?_methodCallOf hbracket, find?_callOf hbracket]
    decide
  intro p hp
  rw [← Option.isSome_eq_false_iff.trans Option.isNone_iff_eq_none]
  simp only [patterns, List.mem_cons, List.not_mem_nil, or_false] at hp
  rcases hp with rfl | rfl | rfl | rfl | rfl | rfl | rfl
  · exact himport _ (List.subset_append_left _ _)
  · exact himport _ (List.subset_append_right _ _)
  · exact find?_callOf hbracket _ _
  · exact hkill
  · exact find?_callOf hbracket _ _
  · exact find?_methodCallOf hbracket _ _
  · exact find?_callOf hbracket _ _

lemma harmless (hchars : ∀ c ∈ h.text, isImportChar c = true) (htop : String.ofList h.top ∈ allowedModules)
    (htops : ∀ top ∈ importedTops h.text, String.ofList top ∈ allowedModules) : Harmless h.text where
  patterns := find?_eq_none hchars (notMem_gatedModules_of_mem_allowedModules _ htop)
  imports := fun top hmem => .inr (htops top hmem)
  loop := endlessLoop_startsText (notMem_of_importChars hchars (by decide))

end ImportHead

lemma ImportLine.top_mem_allowedModules {l : ImportLine} (h : ∀ i ∈ l.first :: l.others, i.IsAllowed)
    (hfeed : '\n' ∉ l.text) : ∀ top ∈ importedTops l.text, String.ofList top ∈ allowedModules := by
  intro top htop
  obtain ⟨b, g, x, y, hb, hg, -, ⟨hline, hy, module, hmodule, rfl⟩ | ⟨hline, -⟩⟩ := mem_importedTops hfeed htop
  · obtain ⟨-, hrest⟩ := ImportHead.word_eq_of_text_eq (h := l.head) hline hb (by decide) hg
    obtain ⟨whole, hwhole, hstrip⟩ :=
      Text.exists_strip_eq_of_mem_splitOn (by decide) ⟨g, List.all_eq_true.mpr hg.blank⟩ ⟨y, hy⟩ hmodule
    rw [← hrest] at hwhole
    obtain ⟨i, hi, rfl⟩ := List.mem_map.mp (l.splitOn_items ▸ hwhole)
    rw [(h i hi).topOf_eq hstrip]
    exact (h i hi).top_mem
  · obtain ⟨hword, -⟩ := ImportHead.word_eq_of_text_eq (h := l.head) hline hb (by decide) hg
    have hother : "import".toList ≠ "from".toList := by decide
    exact absurd hword hother

namespace FromLine

def head (l : FromLine) : ImportHead where
  indent := l.indent
  word := "from"
  lead := l.lead
  top := l.top
  rest := l.path.flatMap ('.' :: ·) ++ l.names.text
  indent_blank := l.indent_blank
  word_mem := by simp
  lead_gap := l.lead_gap
  top_word := l.top_word
  rest_apart := by
    cases l.path with
    | nil => exact l.names_gap.head?_append _
    | cons part path => rfl

lemma text_eq (l : FromLine) : l.text = l.head.text := by simp [text, head, ImportHead.text, dottedName]

lemma isImportChar_of_mem (l : FromLine) : ∀ c ∈ l.text, isImportChar c = true := by
  have hword : "from".toList.all isImportChar = true := by decide
  intro c hc
  simp only [text, List.mem_append] at hc
  rcases hc with hc | hc | hc | hc | hc
  · exact isImportChar_of_isBlank (Text.isBlank_of_mem l.indent_blank c hc)
  · exact List.all_eq_true.mp hword c hc
  · exact isImportChar_of_isBlank (l.lead_gap.blank c hc)
  · rcases Bool.or_eq_true_iff.mp (isDotted_of_mem_dottedName l.top_word l.path_words c hc) with hc | hc
    · exact isImportChar_of_isWord hc
    · rw [beq_iff_eq.mp hc]
      decide
  · exact l.names.isImportChar_of_mem c hc

lemma top_mem_allowedModules {l : FromLine} (h : String.ofList l.top ∈ allowedModules) (hfeed : '\n' ∉ l.text) :
    ∀ top ∈ importedTops l.text, String.ofList top ∈ allowedModules := by
  intro top htop
  have hname := isDotted_of_mem_dottedName l.top_word l.path_words
  obtain ⟨b, g, x, y, hb, hg, hne, ⟨hline, -⟩ | ⟨hline, hx, hy, rfl⟩⟩ := mem_importedTops hfeed htop
  · obtain ⟨hword, -⟩ := ImportHead.word_eq_of_text_eq (l.text_eq ▸ hline) hb (by decide) hg
    have hother : "from".toList ≠ "import".toList := by decide
    exact absurd hword hother
  · obtain ⟨-, hrest⟩ := ImportHead.word_eq_of_text_eq (l.text_eq ▸ hline) hb (by decide) hg
    have hfirst : (x ++ y).head?.any Text.isBlank = false :=
      Text.head?_any_append_of_ne_nil hne (fun c hc => not_isBlank_of_isDotted (hx c hc)) y
    obtain ⟨-, hrest⟩ := Text.run_unique l.lead_gap.blank hg.blank (l.top_word.head?_append _) hfirst hrest
    have hapart : l.names.text.head?.any isDotted = false :=
      Text.head?_any_append_of_ne_nil l.names_gap.ne_nil (fun c hc => not_isDotted_of_isBlank (l.names_gap.blank c hc)) _
    have hwhole : dottedName l.top l.path ++ l.names.text = x ++ y := by
      rw [← hrest]
      exact List.append_assoc _ _ _
    obtain ⟨rfl, -⟩ := Text.run_unique hname hx hapart hy hwhole
    have hplain := not_isBlank_of_mem_dottedName l.top_word l.path_words
    have hstrip : Text.strip (dottedName l.top l.path) = dottedName l.top l.path :=
      Text.strip_eq_self (Text.head?_any_eq_false hplain) (Text.getLast?_any_eq_false hplain)
    rw [topOf_eq l.top_word l.path_words (.inl hstrip)]
    exact h

end FromLine

lemma IsAllowedLine.isImportChar_of_mem {line : List Char} (h : IsAllowedLine line) :
    ∀ c ∈ line, isImportChar c = true := by
  cases h with
  | modules l _ => exact l.isImportChar_of_mem
  | names l _ => exact l.isImportChar_of_mem

lemma IsAllowedLine.harmless {line : List Char} (h : IsAllowedLine line) (hfeed : '\n' ∉ line) : Harmless line := by
  have hchars := h.isImportChar_of_mem
  cases h with
  | modules l h =>
    exact ImportHead.harmless (h := l.head) hchars (h l.first List.mem_cons_self).top_mem
      (ImportLine.top_mem_allowedModules h hfeed)
  | names l h =>
    have htops := FromLine.top_mem_allowedModules h hfeed
    rw [l.text_eq] at hchars htops ⊢
    exact ImportHead.harmless hchars h htops

section Programs

variable {code : List Char} (h : OnlyAllowedImports code)
include h

/-- Imports have no strings and no comments, so that their mask is the text itself. -/
lemma OnlyAllowedImports.maskLines_eq : Source.maskLines code = Text.lines code := by
  have hplain : ∀ line ∈ Text.lines code, ∀ c ∈ line, Source.isPlainChar c = true := by
    intro line hline c hc
    rcases h line hline with hblank | hallowed
    · exact Source.isPlainChar_of_class (by decide) (Text.isBlank_of_mem hblank c hc)
    · exact Source.isPlainChar_of_class (by decide) (hallowed.isImportChar_of_mem c hc)
  have hcode : ∀ c ∈ code, Source.isPlainChar c = true := by
    rw [← Text.joinLines_lines code]
    exact Text.forall_mem_joinLines (by decide) hplain
  rw [Source.maskLines, Source.maskText_plain hcode]

/-- A program of imports from allowed modules is granted: whatever the modules and their names are called, the scan has
nothing to say but of the length of the text. -/
theorem allowed_imports_granted :
    scan code = lengthNotes code ∧ (SafetyAssessment.ofCode code).isSafe = true ∧
      (SafetyAssessment.ofCode code).allowExecution = true := by
  have hscan : scan code = lengthNotes code := by
    refine scan_eq_lengthNotes fun line hline => ?_
    rw [h.maskLines_eq] at hline
    exact (h line hline).imp_right fun hallowed => hallowed.harmless (Text.lineFeed_notMem_of_mem_lines hline)
  exact ⟨hscan, SafetyAssessment.granted_of_scan_eq hscan⟩

end Programs

lemma isBlankText_space : Text.isBlankText " ".toList = true := by decide

lemma isGap_space : IsGap [' '] := by decide

/-- A module with another name, and single spaces before its name and around the word before the other one. -/
def renamedItem (top : String) (path : List (List Char)) (name : String) (htop : IsWordText top.toList)
    (hpath : ∀ part ∈ path, IsWordText part) (hname : IsWordText name.toList) : ImportItem :=
  { plainItem " " top isBlankText_space htop with
    path := path
    other := some ⟨[' '], [' '], name.toList, isGap_space, isGap_space, hname⟩
    path_words := hpath }

lemma renamedItem_isAllowed {top name : String} {path : List (List Char)} {htop : IsWordText top.toList}
    {hpath : ∀ part ∈ path, IsWordText part} {hname : IsWordText name.toList} (h : top ∈ allowedModules) :
    (renamedItem top path name htop hpath hname).IsAllowed where
  top_mem := by simpa [renamedItem, plainItem] using h
  single_spaces := by
    rintro _ ⟨⟩
    exact ⟨rfl, rfl⟩

/-- Allowed modules under the names of dangerous ones, and names that are dangerous ones elsewhere. -/
def boldImports : List Char :=
  "import math as os, json.decoder as eval\nfrom collections.abc import exec as open, sys\n".toList

theorem boldImports_granted :
    OnlyAllowedImports boldImports ∧ scan boldImports = [] ∧ (SafetyAssessment.ofCode boldImports).isSafe = true := by
  let modules : ImportLine :=
    ⟨[], renamedItem "math" [] "os" (by decide) (by decide) (by decide),
      [renamedItem "json" ["decoder".toList] "eval" (by decide) (by decide) (by decide)], rfl, List.cons_ne_nil _ _⟩
  let names : ImportLine :=
    ⟨[' '], renamedItem "exec" [] "open" (by decide) (by decide) (by decide),
      [plainItem " " "sys" (by decide) (by decide)], rfl, List.cons_ne_nil _ _⟩
  let taken : FromLine :=
    ⟨[], [' '], "collections".toList, ["abc".toList], names, rfl, isGap_space, by decide, by decide, isGap_space⟩
  have hlines : Text.lines boldImports = [modules.text, taken.text, []] := by decide +kernel
  have hallowed : ∀ i ∈ modules.first :: modules.others, i.IsAllowed :=
    List.forall_mem_cons.mpr ⟨renamedItem_isAllowed (by decide),
      List.forall_mem_singleton.mpr (renamedItem_isAllowed (by decide))⟩
  have honly : OnlyAllowedImports boldImports := by
    intro line hline
    rw [hlines] at hline
    simp only [List.mem_cons, List.not_mem_nil, or_false] at hline
    rcases hline with rfl | rfl | rfl
    · exact .inr (.modules modules hallowed)
    · exact .inr (.names taken (by decide))
    · exact .inl rfl
  obtain ⟨hscan, hsafe, -⟩ := allowed_imports_granted honly
  have hshort : lengthNotes boldImports = [] := if_neg (by decide +kernel)
  exact ⟨honly, hscan.trans hshort, hsafe⟩

end Safety

end CodeAudit
