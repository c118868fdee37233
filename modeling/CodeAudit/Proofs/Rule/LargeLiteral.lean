import CodeAudit.Proofs.Rule.MixedSums
import CodeAudit.Proofs.Rule.Pieces
import CodeAudit.Proofs.Source.NestedLiteral

/-! Which list literals are reported for their length. Only brackets without brackets of their own kind inside are found,
so that a list of lists goes unreported however long it is, while a long list inside it does not. -/
namespace CodeAudit

open Regex Source

namespace Rule.Resource

section Candidates

variable {b : Bracket} {pre u w post : List Char}

/-- Brackets without brackets of their own kind inside. -/
def flat (b : Bracket) : Regex :=
  text (String.ofList [b.opening]) ++ many (fun c => c != b.opening && c != b.closing) ++ text (String.ofList [b.closing])

lemma expression_eq : largeLiteral.expression = (flat .square <|> flat .curly) := rfl

lemma not_isSign_iff {c : Char} : (c != b.opening && c != b.closing) = true ↔ b.isSign c = false := by
  simp [Bracket.isSign]

lemma spells_flat :
    (flat b).Spells pre w post ↔ ∃ u, w = b.opening :: (u ++ [b.closing]) ∧ ∀ c ∈ u, b.isSign c = false := by
  constructor
  · rintro ⟨_, _, rfl, ⟨_, u, rfl, hopening, hu⟩, hclosing⟩
    refine ⟨u, ?_, fun c hc => not_isSign_iff.mp (hu c hc)⟩
    rw [spells_text.mp hopening, spells_text.mp hclosing, String.toList_ofList, String.toList_ofList]
    rfl
  · rintro ⟨u, rfl, hu⟩
    refine ⟨[b.opening] ++ u, [b.closing], by simp,
      ⟨[b.opening], u, rfl, ?_, fun c hc => not_isSign_iff.mpr (hu c hc)⟩, ?_⟩
    · rw [spells_text, String.toList_ofList]
    · rw [spells_text, String.toList_ofList]

lemma reads_flat (hu : ∀ c ∈ u, b.isSign c = false) : (flat b).Reads pre (b.opening :: (u ++ [b.closing])) post [] := by
  have hsign : ∀ {c : Char} {pre post}, (text (String.ofList [c])).Reads pre [c] post [] := fun {c pre post} => by
    have hread : (text (String.ofList [c])).Reads pre _ post [] := reads_text _
    rwa [String.toList_ofList] at hread
  have hclosing : (b.closing :: post).head?.any (fun c => c != b.opening && c != b.closing) = false := by simp
  have hmany : ∀ c ∈ u, (c != b.opening && c != b.closing) = true := fun c hc => not_isSign_iff.mpr (hu c hc)
  exact (hsign.append (reads_many hmany hclosing)).append hsign

/-- A match is a list or braces, without brackets of the same kind inside. -/
lemma spells_expression (h : largeLiteral.expression.Spells pre w post) :
    ∃ b : Bracket, b ≠ .round ∧ ∃ u, w = b.opening :: (u ++ [b.closing]) ∧ ∀ c ∈ u, b.isSign c = false := by
  rw [expression_eq, spells_orElse] at h
  rcases h with h | h
  · exact ⟨.square, by decide, spells_flat.mp h⟩
  · exact ⟨.curly, by decide, spells_flat.mp h⟩

/-- Brackets other than round ones are read up to the closing one, if there are none of their kind inside. -/
lemma reads_expression (hb : b ≠ .round) (hu : ∀ c ∈ u, b.isSign c = false) :
    largeLiteral.expression.Reads pre (b.opening :: (u ++ [b.closing])) post [] := by
  rw [expression_eq]
  cases b with
  | round => exact absurd rfl hb
  | square => exact (reads_flat hu).orElse
  | curly =>
    refine (reads_flat hu).orElse_of_not_spells rfl fun w post' htext hspells => ?_
    obtain ⟨_, rfl, -⟩ := (spells_flat (b := .square)).mp hspells
    cases htext

/-- The brackets of a kind in a text, if there are any, start with an opening one. -/
inductive Opens (b : Bracket) : Bool → List Char → Prop where
  | free {w : List Char} (h : ∀ c ∈ w, b.isSign c = false) : Opens b false w
  | opened {u : List Char} (h : ∀ c ∈ u, b.isSign c = false) (v : List Char) : Opens b true (u ++ b.opening :: v)

lemma Opens.append {h k : Bool} (hv : Opens b h v) (hw : Opens b k w) : Opens b (h || k) (v ++ w) := by
  cases hv with
  | free hv =>
    cases hw with
    | free hw => exact .free (List.forall_mem_append.mpr ⟨hv, hw⟩)
    | opened hu v' =>
      rw [← List.append_assoc]
      exact .opened (List.forall_mem_append.mpr ⟨hv, hu⟩) v'
  | opened hu v' =>
    rw [List.append_assoc, List.cons_append]
    exact .opened hu (v' ++ w)

lemma Opens.of_not_isListSign (h : ∀ c ∈ w, isListSign c = false) : Opens b false w :=
  .free fun c hc => Bracket.isSign_eq_false (h c hc)

lemma Opens.blanks (blanks : Text.Blanks) : Opens b false blanks.1 :=
  .of_not_isListSign fun c hc => not_isListSign_of_isBlank (blanks.isBlank c hc)

lemma Opens.joined {items : List Item} (h : ∀ l ∈ items, Opens b (l.holds b) l.masked) (comma : Bool)
    (pad : Text.Blanks) : Opens b (items.any (Item.holds b)) (joined (items.map Item.masked) comma pad) := by
  have hcomma : Opens b false [','] := .free (Text.eq_false_of_any (by cases b <;> decide))
  refine Item.joined_of_append (P := fun w ls => Opens b (ls.any (Item.holds b)) w) (fun hv hw => ?_)
    hcomma Opens.blanks (fun l hl => ?_) comma pad
  · rw [List.any_append]
    exact hv.append hw
  · simpa using h l hl

/-- A literal that a kind of brackets is part of has an opening one first. -/
lemma opens_masked (b : Bracket) (l : Item) : Opens b (l.holds b) l.masked := by
  induction l with
  | number n => exact .of_not_isListSign n.not_isListSign
  | quoted s => exact .of_not_isListSign s.not_isListSign
  | spaced before l after ih =>
    simpa [Item.holds, Item.masked_spaced] using (Opens.blanks before).append (ih.append (Opens.blanks after))
  | entry key value ihkey ihvalue =>
    have hcolon : Opens b false [':'] := .free (Text.eq_false_of_any (by cases b <;> decide))
    simpa [Item.holds, Item.masked_entry] using ihkey.append (hcolon.append ihvalue)
  | enclosed b' items comma pad ih =>
    rw [Item.masked_enclosed, Item.holds, Item.anyHolds_eq_any]
    by_cases hb : b' = b
    · rw [hb, beq_self_eq_true, Bool.true_or]
      exact .opened (u := []) (List.forall_mem_nil _) _
    · have hsigns : b.isSign b'.opening = false ∧ b.isSign b'.closing = false := by
        revert hb
        cases b <;> cases b' <;> decide
      have hopening : Opens b false [b'.opening] := .free (by simpa using hsigns.1)
      have hclosing : Opens b false [b'.closing] := .free (by simpa using hsigns.2)
      rw [beq_false_of_ne hb, Bool.false_or]
      simpa using hopening.append ((Opens.joined ih comma pad).append hclosing)

/-- The candidate for a list or braces is all of it, up to the closing bracket. -/
inductive Shows (m : Found) : Item → Prop where
  | enclosed (b : Bracket) (items : List Item) (comma : Bool) (pad : Text.Blanks)
    (text : m.text = (Item.enclosed b items comma pad).masked) : Shows m (.enclosed b items comma pad)

/-- Wherever this text stands, these literals are found in it. -/
def Finds (w : List Char) (ls : List Item) : Prop :=
  ∀ pre post, ∃ ms, largeLiteral.expression.allAfter pre (w ++ post) =
    ms ++ largeLiteral.expression.allAfter (pre ++ w) post ∧ List.Forall₂ Shows ms ls

lemma Finds.append {ks ls : List Item} (hv : Finds v ks) (hw : Finds w ls) : Finds (v ++ w) (ks ++ ls) := by
  intro pre post
  obtain ⟨ms, hms, hks⟩ := hv pre (w ++ post)
  obtain ⟨ms', hms', hls⟩ := hw (pre ++ v) post
  refine ⟨ms ++ ms', ?_, List.rel_append hks hls⟩
  rw [List.append_assoc, hms, hms', List.append_assoc, List.append_assoc]

/-- A character is passed over unless it is a bracket that the next one of its kind closes. -/
lemma allAfter_cons_of_not_closed {c : Char}
    (hc : ∀ b : Bracket, b ≠ .round → c = b.opening → ∀ u rest, (∀ d ∈ u, b.isSign d = false) →
      post ≠ u ++ b.closing :: rest) (pre : List Char) :
    largeLiteral.expression.allAfter pre (c :: post) = largeLiteral.expression.allAfter (pre ++ [c]) post := by
  refine allAfter_cons rfl fun w post' htext hspells => ?_
  obtain ⟨b, hb, u, rfl, hu⟩ := spells_expression hspells
  obtain ⟨rfl, hpost⟩ := List.cons.inj htext
  exact hc b hb rfl u post' hu (by simpa using hpost)

lemma Finds.of_not_isOpening (h : ∀ c ∈ w, isOpening c = false) : Finds w [] := by
  intro pre post
  refine ⟨[], ?_, .nil⟩
  induction w generalizing pre with
  | nil => simp
  | cons c w ih =>
    obtain ⟨hc, hw⟩ := List.forall_mem_cons.mp h
    have hopening : ∀ b : Bracket, c ≠ b.opening := by
      rintro b rfl
      rw [b.isOpening] at hc
      cases hc
    rw [List.cons_append, allAfter_cons_of_not_closed (fun b _ hb => absurd hb (hopening b)), ih hw]
    simp

lemma Finds.of_not_isListSign (h : ∀ c ∈ w, isListSign c = false) : Finds w [] := by
  refine .of_not_isOpening fun c hc => ?_
  have hsign := h c hc
  simp only [isListSign, Bool.or_eq_false_iff] at hsign
  exact hsign.1.1

lemma Finds.blanks (blanks : Text.Blanks) : Finds blanks.1 [] :=
  .of_not_isListSign fun c hc => not_isListSign_of_isBlank (blanks.isBlank c hc)

lemma Finds.joined {items : List Item} (h : ∀ l ∈ items, Finds l.masked l.flats) (comma : Bool) (pad : Text.Blanks) :
    Finds (joined (items.map Item.masked) comma pad) (items.flatMap Item.flats) := by
  refine Item.joined_of_append (P := fun w ls => Finds w (ls.flatMap Item.flats)) (fun hv hw => ?_)
    (.of_not_isOpening (Text.eq_false_of_any (by decide))) Finds.blanks (fun l hl => ?_) comma pad
  · rw [List.flatMap_append]
    exact hv.append hw
  · simpa using h l hl

/-- Where brackets of a kind start with an opening one, the first of them closes nothing. -/
lemma Opens.ne_closed (h : Opens b true w) (hu : ∀ c ∈ u, b.isSign c = false) (post rest : List Char) :
    w ++ post ≠ u ++ b.closing :: rest := by
  intro htext
  cases h with
  | opened hv v =>
    have hsigns : b.isSign b.opening = true ∧ b.isSign b.closing = true := by cases b <;> decide
    have hne : b.opening ≠ b.closing := by cases b <;> decide
    rw [List.append_assoc, List.cons_append] at htext
    obtain ⟨-, hrest⟩ := Text.run_unique (p := fun c => !b.isSign c) (by simpa using hv) (by simpa using hu)
      (by simp [hsigns.1]) (by simp [hsigns.2]) htext
    exact hne (List.cons.inj hrest).1

/-- Brackets are found if there are none of their kind inside. -/
lemma finds_flat {items : List Item} {comma : Bool} {pad : Text.Blanks} (hb : b ≠ .round)
    (h : Opens b false (joined (items.map Item.masked) comma pad)) :
    Finds (Item.enclosed b items comma pad).masked [.enclosed b items comma pad] := by
  cases h with
  | free h =>
    intro pre post
    have hread : largeLiteral.expression.Reads pre _ post [] := reads_expression hb h
    obtain ⟨m, hm, hall⟩ := hread.exists_allAfter rfl (List.cons_ne_nil _ _)
    rw [Item.masked_enclosed]
    exact ⟨[m], hall, .cons (.enclosed b items comma pad (by rw [hm.text, Item.masked_enclosed])) .nil⟩

/-- Brackets are passed over if the first bracket of their kind inside opens, and round ones always are. -/
lemma finds_nested {items ls : List Item} {comma : Bool} {pad : Text.Blanks}
    (hinside : Finds (joined (items.map Item.masked) comma pad) ls)
    (h : b ≠ .round → Opens b true (joined (items.map Item.masked) comma pad)) :
    Finds (Item.enclosed b items comma pad).masked ls := by
  have hclosing : Finds [b.closing] [] := .of_not_isOpening (Text.eq_false_of_any (by cases b <;> decide))
  intro pre post
  obtain ⟨ms, hms, hshows⟩ := (hinside.append hclosing) (pre ++ [b.opening]) post
  refine ⟨ms, ?_, by simpa using hshows⟩
  rw [Item.masked_enclosed, List.cons_append, allAfter_cons_of_not_closed, hms]
  · simp
  · intro b' hb' hsame u rest hu
    obtain rfl : b = b' := by
      revert hsame
      cases b <;> cases b' <;> decide
    rw [List.append_assoc]
    exact (h hb').ne_closed hu _ rest

/-- What is found in a literal are its lists and dictionaries without brackets of their own kind inside. -/
lemma finds_masked (l : Item) : Finds l.masked l.flats := by
  induction l with
  | number n => exact .of_not_isListSign n.not_isListSign
  | quoted s => exact .of_not_isListSign s.not_isListSign
  | spaced before l after ih =>
    simpa [Item.flats, Item.masked_spaced] using (Finds.blanks before).append (ih.append (Finds.blanks after))
  | entry key value ihkey ihvalue =>
    have hcolon : Finds [':'] [] := .of_not_isOpening (Text.eq_false_of_any (by decide))
    simpa [Item.flats, Item.masked_entry] using ihkey.append (hcolon.append ihvalue)
  | enclosed b items comma pad ih =>
    have hopens : Opens b (items.any (Item.holds b)) (joined (items.map Item.masked) comma pad) :=
      Opens.joined (fun l _ => opens_masked b l) comma pad
    rw [Item.flats, Item.anyHolds_eq_any, Item.eachFlats_eq_flatMap]
    split
    · rename_i hflat
      rw [hflat.2] at hopens
      exact finds_flat hflat.1 hopens
    · rename_i hnested
      refine finds_nested (Finds.joined ih comma pad) fun hb => ?_
      have hany : items.any (Item.holds b) = true := by
        by_contra hnone
        exact hnested ⟨hb, Bool.eq_false_iff.mpr hnone⟩
      rwa [hany] at hopens

/-- The candidates on a line. -/
lemma candidates_of_line (s : ListLine) :
    List.Forall₂ Shows (largeLiteral.expression.all s.masked) s.list.flats := by
  have hhead : ∀ c ∈ s.head ++ ['='], isListSign c = false := by
    intro c hc
    rcases List.mem_append.mp hc with hc | hc
    · exact not_isListSign_of_class (p := fun c => Text.isWord c || Text.isBlank c) (by decide)
        (isWord_or_isBlank_head s.indent s.name s.gap c hc)
    · rw [List.mem_singleton.mp hc]
      rfl
  obtain ⟨ms, hms, hshows⟩ := ((Finds.of_not_isListSign hhead).append (finds_masked s.value)) [] []
  have hend : largeLiteral.expression.allAfter ([] ++ (s.head ++ ['='] ++ s.value.masked)) [] = [] :=
    allAfter_eq_nil rfl fun skipped w post' htext hspells => by
      obtain ⟨b, -, u, rfl, -⟩ := spells_expression hspells
      simp at htext
  have htext : s.masked = s.head ++ ['='] ++ s.value.masked ++ [] := by simp [ListLine.masked]
  rw [all_eq_allAfter, htext, hms, hend, List.append_nil]
  exact hshows

end Candidates

section Pieces

variable {w : List Char}

lemma inPiece_blanks {n : ℤ} (b : Text.Blanks) : InPiece n b.1 :=
  .of_not_isListSign fun c hc => not_isListSign_of_isBlank (b.isBlank c hc)

lemma inPiece_joined {items : List Item} (h : ∀ l ∈ items, InPiece 0 l.masked) (comma : Bool) (pad : Text.Blanks) :
    InPiece 1 (joined (items.map Item.masked) comma pad) :=
  Item.joined_of_append (P := fun w _ => InPiece 1 w) (fun hv hw => hv.append hw) .comma
    inPiece_blanks (fun l hl => (h l hl).mono (by decide)) comma pad

/-- A literal is one piece. -/
lemma inPiece_masked (l : Item) : InPiece 0 l.masked := by
  induction l with
  | number n => exact .of_not_isListSign n.not_isListSign
  | quoted s => exact .of_not_isListSign s.not_isListSign
  | spaced before l after ih => exact (inPiece_blanks before).append (ih.append (inPiece_blanks after))
  | entry key value ihkey ihvalue =>
    have hcolon : InPiece 0 [':'] := .of_not_isListSign (Text.eq_false_of_any (by decide))
    simpa [Item.masked_entry] using ihkey.append (hcolon.append ihvalue)
  | enclosed b items comma pad ih =>
    rw [Item.masked_enclosed]
    exact (inPiece_joined ih comma pad).enclosed b.isOpening b.isClosing

lemma isBlankText_masked (l : Item) : Text.isBlankText l.masked = false := by
  induction l with
  | number n =>
    obtain ⟨c, hc⟩ := List.exists_mem_of_ne_nil _ n.ne_nil
    exact Text.isBlankText_eq_false_of_mem hc (not_isBlank_of_isNumberChar (n.isNumberChar c hc))
  | quoted s =>
    exact Text.isBlankText_eq_false_of_mem (c := s.quote) List.mem_cons_self (Mapping.not_isBlank_of_isQuote s.isQuote)
  | spaced before l after ih =>
    rw [Text.isBlankText] at ih
    simp [Item.masked_spaced, Text.isBlankText, List.all_append, ih]
  | entry key value =>
    exact Text.isBlankText_eq_false_of_mem (c := ':') (by simp [Item.masked_entry]) rfl
  | enclosed b =>
    have hopening : Text.isBlank b.opening = false := by cases b <;> decide
    exact Text.isBlankText_eq_false_of_mem (c := b.opening) (by simp [Item.masked_enclosed]) hopening

lemma joined_cons_cons (t t' : List Char) (ts : List (List Char)) (comma : Bool) (pad : Text.Blanks) :
    joined (t :: t' :: ts) comma pad = t ++ ',' :: joined (t' :: ts) comma pad := by
  simp [joined, List.intercalate_cons_cons]

/-- Each item is one of the pieces that are not blank, and there are no others. -/
lemma length_pieces_joined (items : List Item) (comma : Bool) (pad : Text.Blanks) :
    ((topLevelPieces 0 [] (joined (items.map Item.masked) comma pad)).filter (!Text.isBlankText ·)).length =
      items.length := by
  have hpad : InPiece 0 pad.1 := inPiece_blanks pad
  have hnil : Text.isBlankText [] = true := rfl
  induction items with
  | nil =>
    cases comma with
    | false => simp [joined, hpad.topLevelPieces_eq, pad.2]
    | true =>
      have hcomma := (InPiece.nil (n := 0)).topLevelPieces_comma pad.1
      rw [List.nil_append] at hcomma
      simp [joined, hcomma, hpad.topLevelPieces_eq, pad.2, hnil]
  | cons l items ih =>
    have hl := inPiece_masked l
    have hblank := isBlankText_masked l
    cases items with
    | nil =>
      cases comma with
      | false =>
        have hlast : Text.isBlankText (l.masked ++ pad.1) = false := by
          rw [Text.isBlankText] at hblank ⊢
          rw [List.all_append, hblank, Bool.false_and]
        simp [joined, (hl.append hpad).topLevelPieces_eq, hlast]
      | true => simp [joined, hl.topLevelPieces_comma, hpad.topLevelPieces_eq, pad.2, hblank]
    | cons l' items =>
      rw [List.map_cons, List.map_cons, joined_cons_cons, hl.topLevelPieces_comma,
        List.filter_cons_of_pos (by simp [hblank]), List.length_cons]
      exact congrArg (· + 1) ih

end Pieces

/-- There is evidence for a literal with too many items. -/
lemma exists_evidence_iff {m : Found} {l : Item} (h : Shows m l) (src : Source) (index : ℕ) :
    (∃ es, es ≠ [] ∧ largeLiteral.evidence m src index = .ok es) ↔ maxElements < l.size := by
  obtain ⟨b, items, comma, pad, htext⟩ := h
  have hinner : (m.text.drop 1).dropLast = joined (items.map Item.masked) comma pad := by
    rw [htext, Item.masked_enclosed, List.drop_one, List.tail_cons, List.dropLast_concat]
  simp only [largeLiteral, hinner, length_pieces_joined, Item.size]
  split
  · rename_i hfew
    simpa using hfew
  · rename_i hmany
    exact iff_of_true ⟨_, List.cons_ne_nil _ _, rfl⟩ (Nat.lt_of_not_le hmany)

end Rule.Resource

namespace PatternScan

open Rule.Resource

/-- A line that assigns a list is reported if one of the literals that are found in it is large. -/
lemma reported_iff_exists_flat {code : List Char} {index : ℕ} {s : ListLine}
    (hline : (Text.lines code)[index]? = some s.text)
    (habove : Unquoted (Text.joinLines ((Text.lines code).take index))) (codeStructure : Structure) :
    (∃ m ∈ (ofCode Rule.catalog codeStructure code).ruleMatches,
        m.ruleId = largeLiteral.id ∧ m.startLine = index + 1) ↔
      ∃ l ∈ s.list.flats, maxElements < l.size := by
  have hmasked := ListLine.getElem?_maskLines hline habove
  have hblank : Text.isBlankText s.masked = false :=
    Text.isBlankText_eq_false_of_mem (c := '=') (by simp [ListLine.masked]) rfl
  have hrule : largeLiteral ∈ Rule.catalog := by simp [Rule.catalog]
  have htotal : largeLiteral.Total := fun _ _ _ => Rule.exists_ite_ok _ _
  rw [exists_reported_iff hrule htotal hmasked hblank codeStructure]
  exact exists_mem_iff_of_forall₂ (candidates_of_line s) fun m l hm => exists_evidence_iff hm (Source.ofText code) index

/-- A list is reported for a large literal in it that has no brackets of its own kind inside. It is reported for its own
length only if no list is part of it. -/
theorem large_literal_reported_iff {code : List Char} {index : ℕ} {s : ListLine}
    (hline : (Text.lines code)[index]? = some s.text)
    (habove : Unquoted (Text.joinLines ((Text.lines code).take index))) (codeStructure : Structure) :
    ((∃ m ∈ (ofCode Rule.catalog codeStructure code).ruleMatches,
        m.ruleId = largeLiteral.id ∧ m.startLine = index + 1) ↔
      ∃ l ∈ s.list.flats, maxElements < l.size) ∧
    ((∀ l ∈ s.items, l.holds .square = false) →
      ((∃ m ∈ (ofCode Rule.catalog codeStructure code).ruleMatches,
          m.ruleId = largeLiteral.id ∧ m.startLine = index + 1) ↔
        maxElements < s.items.length)) := by
  have hreported := reported_iff_exists_flat hline habove codeStructure
  refine ⟨hreported, fun hflat => ?_⟩
  have hnone : Item.anyHolds .square s.items = false := by
    rw [Item.anyHolds_eq_any, List.any_eq_false]
    simpa using hflat
  rw [hreported, ListLine.list, Item.flats, if_pos ⟨by decide, hnone⟩]
  simp [Item.size]

/-- The line that assigns a list of copies of an item, one more than go unreported. -/
def oneTooMany (item : Item) : ListLine where
  indent := .spaces 0
  name := ⟨['x'], by decide +kernel⟩
  gap := .spaces 1
  lead := .spaces 1
  items := List.replicate (maxElements + 1) item
  comma := false
  pad := .spaces 0
  trail := .spaces 0

/-- The item `(1,'a')`. -/
def tupleOfTwo : Item :=
  .enclosed .round [.number ⟨['1'], by decide +kernel⟩, .quoted ⟨'\'', ['a'], rfl, by decide⟩] false (.spaces 0)

/-- The item `[1]`. -/
def listOfOne : Item := .enclosed .square [.number ⟨['1'], by decide +kernel⟩] false (.spaces 0)

theorem large_list_of_tuples_reported :
    ∃ m ∈ (ofCode Rule.catalog {} ((oneTooMany tupleOfTwo).text ++ ['\n'])).ruleMatches,
      m.ruleId = largeLiteral.id ∧ m.startLine = 1 := by
  have hline : (Text.lines ((oneTooMany tupleOfTwo).text ++ ['\n']))[0]? = some (oneTooMany tupleOfTwo).text := by
    decide +kernel
  exact ((large_literal_reported_iff hline (by decide) {}).2 (by decide +kernel)).mpr (by decide)

/-- A list of lists may have too many items without being reported. -/
theorem large_list_not_always_reported :
    ¬ ∀ (code : List Char) (index : ℕ) (s : ListLine), (Text.lines code)[index]? = some s.text →
      Unquoted (Text.joinLines ((Text.lines code).take index)) → maxElements < s.items.length →
      ∃ m ∈ (ofCode Rule.catalog {} code).ruleMatches, m.ruleId = largeLiteral.id ∧ m.startLine = index + 1 := by
  intro h
  let code := (oneTooMany listOfOne).text ++ ['\n']
  have hline : (Text.lines code)[0]? = some (oneTooMany listOfOne).text := by decide +kernel
  have hreported := h code 0 (oneTooMany listOfOne) hline (by decide) (by decide)
  have hsmall : ¬ ∃ l ∈ (oneTooMany listOfOne).list.flats, maxElements < l.size := by decide +kernel
  exact hsmall ((reported_iff_exists_flat hline (by decide) {}).mp hreported)

end PatternScan

end CodeAudit
