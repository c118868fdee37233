import CodeAudit.Proofs.Source.Names

/-! Assignments as they are written, and what their targets are read as. These end at the first equals sign, and have to
start with a name: a bracket or a star in front of them hides the names behind it. -/
namespace CodeAudit

open Regex

namespace Source

section Sign

variable {t rest : List Char} {x : Name} {m : Found}

lemma mem_namesIn :
    x ∈ Bindings.namesIn t ↔ (∃ w ∈ Text.wordRuns t, Text.nameEnd w = x) ∧ x ≠ [] ∧ Bindings.isKeyword x = false := by
  rw [Bindings.namesIn, all_eq_allAfter, texts_name_allAfter]
  simp only [List.mem_filter, List.mem_map, Bool.not_eq_true', List.isEmpty_eq_false_iff, and_assoc]

lemma namesIn_congr {s : List Char} (h : Text.wordRuns s = Text.wordRuns t) :
    Bindings.namesIn s = Bindings.namesIn t := by
  simp only [Bindings.namesIn, all_eq_allAfter, texts_name_allAfter, h]

/-- What the targets may be: they start with a name, blanks aside, and are words, blanks, commas and stars. -/
structure ReadAsTargets (t : List Char) : Prop where
  start : (t.dropWhile Text.isBlank).head?.any Text.isNameStart = true
  chars : ∀ c ∈ t, Bindings.isTargetChar c = true

/-- No character that ends the targets. -/
def SignFree (t : List Char) : Prop := ∀ c ∈ t, (c != '=' && c != ':') = true

lemma isTargetChar_of_isBlank {c : Char} (h : Text.isBlank c = true) : Bindings.isTargetChar c = true := by
  simp [Bindings.isTargetChar, h]

lemma isTargetChar_of_isWord {c : Char} (h : Text.isWord c = true) : Bindings.isTargetChar c = true := by
  simp [Bindings.isTargetChar, h]

lemma signFree_of_isTargetChar (h : ∀ c ∈ t, Bindings.isTargetChar c = true) : SignFree t := by
  intro c hc
  have htarget := h c hc
  rw [Bool.and_eq_true, bne_iff_ne, bne_iff_ne]
  constructor
  · rintro rfl
    exact absurd htarget (by decide)
  · rintro rfl
    exact absurd htarget (by decide)

/-- Two texts up to a sign are the same if the sign and what follows it are. -/
lemma eq_of_signFree {s u v : List Char} {c d : Char} (hs : SignFree s) (ht : SignFree t) (hc : c = '=' ∨ c = ':')
    (hd : d = '=' ∨ d = ':') (h : s ++ c :: u = t ++ d :: v) : s = t ∧ c = d := by
  have hsign : ∀ {c : Char} (u : List Char), (c = '=' ∨ c = ':') →
      (c :: u).head?.any (fun c => c != '=' && c != ':') = false := by
    rintro c u (rfl | rfl) <;> rfl
  obtain ⟨rfl, hrest⟩ := Text.run_unique hs ht (hsign u hc) (hsign v hd) h
  exact ⟨rfl, (List.cons.inj hrest).1⟩

/-- What is found to be the targets, with the text around it up to a sign. -/
lemma exists_eq_of_assignTargets {text : List Char} (h : Bindings.assignTargets.atStart? text = some m) :
    ∃ before c more after sign tail, m.group "targets" = c :: more ∧
      text = (before ++ ((c :: more) ++ after)) ++ sign :: tail ∧ (∀ d ∈ before, Text.isBlank d = true) ∧
      Text.isNameStart c = true ∧ (∀ d ∈ more, Bindings.isTargetChar d = true) ∧
      (∀ d ∈ after, Text.isBlank d = true) ∧ (sign = '=' ∨ sign = ':') := by
  -- the five parts of the expression, each from where the one before it ends
  obtain ⟨s, hs, hm⟩ := captured_of_atStart? h
  obtain ⟨s₄, hs, h₅⟩ := mem_ends_seq.mp hs
  obtain ⟨s₃, hs, h₄⟩ := mem_ends_seq.mp hs
  obtain ⟨s₂, hs, h₃⟩ := mem_ends_seq.mp hs
  obtain ⟨s₁, h₁, h₂⟩ := mem_ends_seq.mp hs
  obtain ⟨before, post₁, rfl, before_captures⟩ := exists_captures rfl (.ofText _) h₁
  obtain ⟨found, post₂, rfl, found_captures⟩ := exists_captures_group rfl before_captures.at_end h₂
  obtain ⟨after, post₃, rfl, after_captures⟩ := exists_captures rfl found_captures.at_end h₃
  obtain ⟨type, post₄, rfl, type_captures⟩ := exists_captures rfl after_captures.at_end h₄
  obtain ⟨sign, post₅, rfl, sign_captures⟩ := exists_captures rfl type_captures.at_end h₅
  have hgroup : m.group "targets" = found := by
    have hcaptured : m.captured = [("targets", found)] := by
      rw [hm, sign_captures.captured, type_captures.captured, after_captures.captured, found_captures.captured,
        before_captures.captured]
      rfl
    rw [Found.group_eq, hcaptured]
    rfl
  obtain ⟨_, more, rfl, ⟨c, hc, rfl⟩, hmore⟩ := spells_group.mp found_captures.spells
  obtain ⟨d, tail, htail, hd⟩ : ∃ d tail, type ++ (sign ++ post₅) = d :: tail ∧ (d = '=' ∨ d = ':') := by
    rcases type_captures.spells with ⟨_, typed, rfl, hcolon, -⟩ | rfl
    · rw [spells_text.mp hcolon]
      exact ⟨_, _, rfl, .inr rfl⟩
    · obtain ⟨_, ahead, rfl, hsign, -⟩ := sign_captures.spells
      rw [spells_text.mp hsign]
      exact ⟨_, _, rfl, .inl rfl⟩
  refine ⟨before, c, more, after, d, tail, hgroup, ?_, before_captures.spells, hc, hmore, after_captures.spells, hd⟩
  rw [htail]
  simp

lemma readAsTargets_between {before more after : List Char} {c : Char} (hbefore : ∀ d ∈ before, Text.isBlank d = true)
    (hc : Text.isNameStart c = true) (hmore : ∀ d ∈ more, Bindings.isTargetChar d = true)
    (hafter : ∀ d ∈ after, Text.isBlank d = true) : ReadAsTargets (before ++ ((c :: more) ++ after)) := by
  have hword := Text.isWord_of_isNameStart hc
  refine ⟨?_, ?_⟩
  · rw [List.dropWhile_append_of_pos hbefore, List.cons_append,
      List.dropWhile_cons_of_neg (by simp [Text.not_isBlank_of_isWord hword])]
    exact hc
  · intro d hd
    simp only [List.mem_append, List.mem_cons] at hd
    rcases hd with hd | (rfl | hd) | hd
    · exact isTargetChar_of_isBlank (hbefore d hd)
    · exact isTargetChar_of_isWord hword
    · exact hmore d hd
    · exact isTargetChar_of_isBlank (hafter d hd)

/-- What is found to be the targets is all that stands before the sign but the blanks around it. -/
lemma eq_of_assignTargets (ht : SignFree t) (h : Bindings.assignTargets.atStart? (t ++ '=' :: rest) = some m) :
    ReadAsTargets t ∧ Text.wordRuns t = Text.wordRuns (m.group "targets") := by
  obtain ⟨before, c, more, after, sign, tail, hgroup, htext, hbefore, hc, hmore, hafter, hsign⟩ :=
    exists_eq_of_assignTargets h
  have hread := readAsTargets_between hbefore hc hmore hafter
  obtain ⟨rfl, -⟩ := eq_of_signFree ht (signFree_of_isTargetChar hread.chars) (.inl rfl) hsign htext
  rw [hgroup]
  refine ⟨hread, Text.wordRuns_between ?_ ?_ _⟩
  · exact fun d hd => Text.not_isWord_of_isBlank (hbefore d hd)
  · exact fun d hd => Text.not_isWord_of_isBlank (hafter d hd)

lemma startsText_assignTargets (h : ReadAsTargets t) (hrest : rest.head? ≠ some '=') :
    Bindings.assignTargets.startsText (t ++ '=' :: rest) = true := by
  have hsplit : t = t.takeWhile Text.isBlank ++ t.dropWhile Text.isBlank := List.takeWhile_append_dropWhile.symm
  have hblank : ∀ c ∈ t.takeWhile Text.isBlank, Text.isBlank c = true := fun c hc => List.mem_takeWhile_imp hc
  obtain ⟨c, more, htargets⟩ : ∃ c more, t.dropWhile Text.isBlank = c :: more := by
    have hstart := h.start
    cases hdrop : t.dropWhile Text.isBlank with
    | nil => simp [hdrop] at hstart
    | cons c more => exact ⟨c, more, rfl⟩
  have hc : Text.isNameStart c = true := by simpa [htargets] using h.start
  have hmore : ∀ d ∈ more, Bindings.isTargetChar d = true := by
    intro d hd
    refine h.chars d ?_
    rw [hsplit, htargets]
    simp [hd]
  have hplain : Bindings.assignTargets.refersBack = false := rfl
  rw [startsText_iff hplain, hsplit, htargets]
  refine ⟨t.takeWhile Text.isBlank ++ (c :: more) ++ [] ++ [] ++ ['='], rest, by simp, _, _, rfl, ⟨_, _, rfl, ⟨_, _, rfl,
    ⟨_, _, rfl, hblank, ⟨[c], more, rfl, ⟨c, hc, rfl⟩, hmore⟩⟩, List.forall_mem_nil _⟩, .inr rfl⟩, ['='], [], rfl, spells_text.mpr rfl, rfl, ?_⟩
  rintro ⟨u, v, rfl, hequals⟩
  rw [spells_text.mp hequals] at hrest
  exact hrest rfl

/-- The names of an assignment, whose targets end at the first equals sign. -/
lemma mem_assignedNames_iff (ht : SignFree t) (hrest : rest.head? ≠ some '=')
    (hword : String.ofList (firstWord (t ++ '=' :: rest)) ∉ headWords) :
    x ∈ Bindings.assignedNames (t ++ '=' :: rest) ↔ ReadAsTargets t ∧ x ∈ Bindings.namesIn t := by
  have hdef : ¬ Bindings.defHeader.startsText (t ++ '=' :: rest) = true :=
    fun hstarts => hword (firstWord_of_defHeader hstarts)
  rw [Bindings.assignedNames]
  cases hm : Bindings.assignTargets.atStart? (t ++ '=' :: rest) with
  | none =>
    refine iff_of_false List.not_mem_nil fun ⟨hread, _⟩ => ?_
    have hstarts := startsText_assignTargets hread hrest
    rw [startsText, hm] at hstarts
    cases hstarts
  | some m =>
    obtain ⟨hread, hruns⟩ := eq_of_assignTargets ht hm
    dsimp only
    rw [if_neg hdef, namesIn_congr hruns, and_iff_right hread]

/-- The targets are followed by no type, since there is no colon before the sign. -/
lemma annotatedName_eq_none (ht : SignFree t) : Bindings.annotatedName.atStart? (t ++ '=' :: rest) = none := by
  have hplain : Bindings.annotatedName.refersBack = false := rfl
  refine atStart?_eq_none fun hstarts => ?_
  obtain ⟨_, post, htext, _, ending, rfl, ⟨_, type, rfl, ⟨_, gap, rfl, ⟨_, colon, rfl, ⟨_, after, rfl,
    ⟨before, n, rfl, hbefore, hn⟩, hafter⟩, hcolon⟩, -⟩, -⟩, -⟩ := (startsText_iff hplain).mp hstarts
  obtain rfl := spells_text.mp hcolon
  have hname := Text.isWord_of_mem_name (spells_name.mp (spells_group.mp hn))
  have hchars : ∀ c ∈ before ++ n ++ after, Bindings.isTargetChar c = true := by
    intro c hc
    simp only [List.mem_append] at hc
    rcases hc with (hc | hc) | hc
    · exact isTargetChar_of_isBlank (hbefore c hc)
    · exact isTargetChar_of_isWord (hname c hc)
    · exact isTargetChar_of_isBlank (hafter c hc)
  have hsame : t ++ '=' :: rest = (before ++ n ++ after) ++ ':' :: (gap ++ (type ++ (ending ++ post))) := by
    simpa using htext
  cases (eq_of_signFree ht (signFree_of_isTargetChar hchars) (.inl rfl) (.inr rfl) hsame).2

end Sign

/-- A name in a list of targets, with a star before it or without. -/
structure TargetName where
  lead : Text.Blanks
  /-- The blanks behind the star. -/
  star : Option Text.Blanks
  name : Identifier
  trail : Text.Blanks

/-- A list of names with commas between them, in brackets or not. -/
structure Target where
  /-- The blanks in front of the opening bracket, and those behind the closing one. -/
  bracket : Option (Text.Blanks × Text.Blanks)
  first : TargetName
  others : List TargetName
  /-- The blanks behind a comma at the end. -/
  comma : Option Text.Blanks

/-- An assignment of one value to targets one after the other, each with an equals sign behind it. -/
structure AssignmentStatement where
  first : Target
  others : List Target
  value : List Char
  value_start : value.head? ≠ some '='

namespace TargetName

def starText (n : TargetName) : List Char := (n.star.map ('*' :: ·.1)).getD []

def text (n : TargetName) : List Char := n.lead.1 ++ (n.starText ++ (n.name.1 ++ n.trail.1))

end TargetName

namespace Target

/-- What stands behind the first name of the list. -/
def listRest (others : List TargetName) (comma : Option Text.Blanks) : List Char :=
  others.flatMap (',' :: ·.text) ++ (comma.map (',' :: ·.1)).getD []

/-- The names with the commas, without the brackets. -/
def listText (t : Target) : List Char := t.first.text ++ listRest t.others t.comma

def text (t : Target) : List Char :=
  match t.bracket with
  | none => t.listText
  | some (before, after) => before.1 ++ '(' :: (t.listText ++ ')' :: after.1)

def names (t : Target) : List Name := (t.first :: t.others).map (·.name.1)

/-- No bracket and no star in front, and a name that starts with an ASCII letter or an underscore. -/
structure OpensWithName (t : Target) : Prop where
  noBracket : t.bracket = none
  noStar : t.first.star = none
  letter : t.first.name.1.head?.any Text.isNameStart = true

end Target

namespace AssignmentStatement

/-- What stands behind the first equals sign. -/
def rest (s : AssignmentStatement) : List Char := s.others.flatMap (·.text ++ ['=']) ++ s.value

def text (s : AssignmentStatement) : List Char := s.first.text ++ '=' :: s.rest

def names (s : AssignmentStatement) : List Name := (s.first :: s.others).flatMap Target.names

end AssignmentStatement

namespace TargetName

variable (n : TargetName)

lemma isWord_starText : ∀ c ∈ n.starText, Text.isWord c = false := by
  rw [starText]
  cases n.star with
  | none => exact List.forall_mem_nil _
  | some b => exact List.forall_mem_cons.mpr ⟨by decide, b.isWord⟩

lemma wordRuns_text : Text.wordRuns n.text = [n.name.1] := by
  have hfront : ∀ c ∈ n.lead.1 ++ n.starText, Text.isWord c = false :=
    List.forall_mem_append.mpr ⟨n.lead.isWord, n.isWord_starText⟩
  rw [text, ← List.append_assoc, Text.wordRuns_between hfront n.trail.isWord,
    Text.wordRuns_of_word n.name.ne_nil n.name.isWord]

lemma isTargetChar_of_mem : ∀ c ∈ n.text, Bindings.isTargetChar c = true := by
  intro c hc
  simp only [text, List.mem_append] at hc
  rcases hc with hc | hc | hc | hc
  · exact isTargetChar_of_isBlank (n.lead.isBlank c hc)
  · rw [starText] at hc
    cases hstar : n.star with
    | none => simp [hstar] at hc
    | some b =>
      rw [hstar] at hc
      rcases List.mem_cons.mp hc with rfl | hc
      · decide
      · exact isTargetChar_of_isBlank (b.isBlank c hc)
  · exact isTargetChar_of_isWord (n.name.isWord c hc)
  · exact isTargetChar_of_isBlank (n.trail.isBlank c hc)

end TargetName

namespace Target

section ListRest

variable (others : List TargetName) (comma : Option Text.Blanks)

lemma head?_listRest : (listRest others comma).head?.any Text.isWord = false := by
  cases others with
  | nil => cases comma <;> rfl
  | cons n others => rfl

lemma wordRuns_listRest : Text.wordRuns (listRest others comma) = others.map (·.name.1) := by
  induction others with
  | nil =>
    cases comma with
    | none => exact Text.wordRuns_nil
    | some b => exact (Text.wordRuns_cons (by decide) b.1).trans (Text.wordRuns_eq_nil b.isWord)
  | cons n others ih =>
    have htext : listRest (n :: others) comma = ',' :: (n.text ++ listRest others comma) := by
      simp [listRest]
    rw [htext, Text.wordRuns_cons (by decide), Text.wordRuns_append (head?_listRest others comma), n.wordRuns_text, ih]
    rfl

lemma isTargetChar_of_mem_listRest : ∀ c ∈ listRest others comma, Bindings.isTargetChar c = true := by
  intro c hc
  simp only [listRest, List.mem_append, List.mem_flatMap, List.mem_cons] at hc
  rcases hc with ⟨n, _, rfl | hc⟩ | hc
  · decide
  · exact n.isTargetChar_of_mem c hc
  · cases comma with
    | none => simp at hc
    | some b =>
      rcases List.mem_cons.mp hc with rfl | hc
      · decide
      · exact isTargetChar_of_isBlank (b.isBlank c hc)

end ListRest

variable (t : Target)

lemma wordRuns_listText : Text.wordRuns t.listText = t.names := by
  rw [listText, Text.wordRuns_append (head?_listRest _ _), t.first.wordRuns_text, wordRuns_listRest]
  rfl

lemma wordRuns_text : Text.wordRuns t.text = t.names := by
  rw [← t.wordRuns_listText, text]
  cases t.bracket with
  | none => rfl
  | some b =>
    obtain ⟨before, after⟩ := b
    have hbefore : ∀ c ∈ before.1 ++ ['('], Text.isWord c = false :=
      List.forall_mem_append.mpr ⟨before.isWord, List.forall_mem_singleton.mpr (by decide)⟩
    have hafter : ∀ c ∈ ')' :: after.1, Text.isWord c = false := List.forall_mem_cons.mpr ⟨by decide, after.isWord⟩
    simpa using Text.wordRuns_between hbefore hafter t.listText

lemma isTargetChar_of_mem_listText : ∀ c ∈ t.listText, Bindings.isTargetChar c = true :=
  List.forall_mem_append.mpr ⟨t.first.isTargetChar_of_mem, isTargetChar_of_mem_listRest _ _⟩

lemma signFree_text : SignFree t.text := by
  have hlist := signFree_of_isTargetChar t.isTargetChar_of_mem_listText
  have hblanks (b : Text.Blanks) : SignFree b.1 :=
    signFree_of_isTargetChar fun c hc => isTargetChar_of_isBlank (b.isBlank c hc)
  rw [text]
  cases t.bracket with
  | none => exact hlist
  | some b =>
    obtain ⟨before, after⟩ := b
    refine List.forall_mem_append.mpr ⟨hblanks before, List.forall_mem_cons.mpr ⟨by decide, ?_⟩⟩
    exact List.forall_mem_append.mpr ⟨hlist, List.forall_mem_cons.mpr ⟨by decide, hblanks after⟩⟩

/-- Behind the blanks in front of the list stands its star, or its first name. -/
lemma dropWhile_listText (more : List Char) : (t.listText ++ more).dropWhile Text.isBlank =
    t.first.starText ++ (t.first.name.1 ++ (t.first.trail.1 ++ (listRest t.others t.comma ++ more))) := by
  have htext : t.listText ++ more = t.first.lead.1 ++
      (t.first.starText ++ (t.first.name.1 ++ (t.first.trail.1 ++ (listRest t.others t.comma ++ more)))) := by
    simp [listText, TargetName.text]
  rw [htext, List.dropWhile_append_of_pos t.first.lead.isBlank, TargetName.starText]
  cases t.first.star with
  | some b => exact List.dropWhile_cons_of_neg (by decide)
  | none =>
    obtain ⟨c, rest, hname⟩ := List.exists_cons_of_ne_nil t.first.name.ne_nil
    have hc := Text.not_isBlank_of_isWord (t.first.name.isWord c (hname ▸ List.mem_cons_self))
    rw [hname]
    exact List.dropWhile_cons_of_neg (by simp [hc])

lemma readAsTargets_iff : ReadAsTargets t.text ↔ t.OpensWithName := by
  rw [text]
  cases hbracket : t.bracket with
  | some b =>
    refine iff_of_false (fun h => ?_) fun h => ?_
    · exact absurd (h.chars '(' (by simp)) (by decide)
    · rw [h.noBracket] at hbracket
      cases hbracket
  | none =>
    have hstart := t.dropWhile_listText []
    rw [List.append_nil, TargetName.starText] at hstart
    obtain ⟨c, rest, hname⟩ := List.exists_cons_of_ne_nil t.first.name.ne_nil
    constructor
    · intro h
      have hletter := h.start
      rw [hstart] at hletter
      cases hstar : t.first.star with
      | some b =>
        rw [hstar] at hletter
        cases hletter
      | none =>
        rw [hstar, hname] at hletter
        exact ⟨hbracket, hstar, hname ▸ hletter⟩
    · intro h
      have hletter := h.letter
      rw [hname] at hletter
      refine ⟨?_, t.isTargetChar_of_mem_listText⟩
      rw [hstart, h.noStar, hname]
      exact hletter

/-- The first word of a line that starts with a target is its first name, unless a bracket or a star comes first. -/
lemma firstWord_text (more : List Char) (h : more.head?.any Text.isWord = false) :
    firstWord (t.text ++ more) = [] ∨ firstWord (t.text ++ more) = t.first.name.1 := by
  rw [firstWord, text]
  cases t.bracket with
  | some b =>
    obtain ⟨before, after⟩ := b
    left
    rw [List.append_assoc, List.dropWhile_append_of_pos before.isBlank]
    rfl
  | none =>
    rw [t.dropWhile_listText, TargetName.starText]
    cases t.first.star with
    | some b => exact .inl rfl
    | none =>
      have hafter := Text.head?_any_append (Text.head?_any_eq_false t.first.trail.isWord)
        (Text.head?_any_append (head?_listRest t.others t.comma) h)
      exact .inr (Text.takeWhile_run t.first.name.isWord hafter)

end Target

namespace AssignmentStatement

variable (s : AssignmentStatement)

lemma head?_rest : s.rest.head? ≠ some '=' := by
  rw [rest]
  cases s.others with
  | nil => exact s.value_start
  | cons t others =>
    have hne : t.text ≠ [] := by
      intro htext
      have hruns := t.wordRuns_text
      rw [htext, Text.wordRuns_nil] at hruns
      cases hruns
    obtain ⟨c, text, htext⟩ := List.exists_cons_of_ne_nil hne
    have hc := t.signFree_text c (htext ▸ List.mem_cons_self)
    rw [List.flatMap_cons, htext]
    rintro hequals
    obtain rfl := Option.some.inj hequals
    cases hc

lemma firstWord_text : String.ofList (firstWord s.text) ∉ headWords := by
  intro hmem
  have hkeyword : ∀ w ∈ headWords, Vocabulary.keywords.contains w = true := by decide
  rcases s.first.firstWord_text ('=' :: s.rest) rfl with h | h
  · rw [text, h] at hmem
    exact absurd hmem (by decide)
  · rw [text, h] at hmem
    exact absurd (hkeyword _ hmem) (by simpa [Bindings.isKeyword] using s.first.first.name.not_isKeyword)

/-- The line binds the names of its first target, if this opens with a name, and what its expressions bind. -/
lemma mem_ofLine_iff {x : Name} {following : List Line} :
    x ∈ Bindings.ofLine s.text following ↔
      (s.first.OpensWithName ∧ x ∈ s.first.names.map Text.nameEnd ∧ x ≠ [] ∧ Bindings.isKeyword x = false) ∨
        x ∈ innerNames s.text := by
  have hfree := s.first.signFree_text
  have htargets : x ∈ Bindings.assignedNames s.text ↔
      s.first.OpensWithName ∧ x ∈ s.first.names.map Text.nameEnd ∧ x ≠ [] ∧ Bindings.isKeyword x = false := by
    rw [text, mem_assignedNames_iff hfree s.head?_rest s.firstWord_text, s.first.readAsTargets_iff, mem_namesIn,
      s.first.wordRuns_text, ← List.mem_map]
  have htyped : Bindings.headName Bindings.annotatedName s.text = [] := by
    rw [text, Bindings.headName, annotatedName_eq_none hfree]
    rfl
  rw [ofLine_eq s.firstWord_text, htyped, List.append_nil, List.mem_append, htargets]

end AssignmentStatement

end Source
end CodeAudit
