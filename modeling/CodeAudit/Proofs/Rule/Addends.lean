import CodeAudit.Proofs.Numeric.Digits
import CodeAudit.Proofs.Source.SumLine
import CodeAudit.Rule.Mapping

/-! The addends of a sum as operands: each is an operand as a whole or not at all, and no operand starts within one but at
the quote that closes a string. -/
namespace CodeAudit

open Regex
open Source (Addend ValueKind Number Quoted)

namespace Source

/-- Digits and underscores after a digit, with a point and digits behind them or not. -/
def isPlainNumber : List Char → Bool
  | [] => false
  | c :: rest =>
    Text.isDecimal c &&
      match rest.dropWhile ValueKind.isDigitPart with
      | [] => true
      | d :: fraction => d == '.' && !fraction.isEmpty && fraction.all Text.isDecimal

namespace Addend

def kind : Addend → ValueKind
  | number _ => .number
  | quoted _ => .string

/-- Whether an addend is read as a whole. -/
def isRead : Addend → Bool
  | number n => isPlainNumber n.1
  | quoted _ => true

end Addend

lemma Number.exists_cons (n : Number) : ∃ c rest, n.1 = c :: rest ∧ Text.isNameStart c = false := by
  obtain ⟨w, hw⟩ := n
  rw [isNumber, Bool.and_eq_true] at hw
  cases w with
  | nil => cases hw.1
  | cons c rest =>
    refine ⟨c, rest, rfl, ?_⟩
    rcases Bool.or_eq_true_iff.mp hw.1 with hc | hc
    · exact Text.not_isNameStart_of_isDecimal hc
    · rw [beq_iff_eq.mp hc]
      rfl

lemma Quoted.masked_append (s : Quoted) (more : List Char) :
    (Addend.quoted s).masked ++ more = s.quote :: (List.replicate s.contents.length ' ' ++ s.quote :: more) := by
  simp [Addend.masked]

section PlainNumbers

variable {w : List Char}

lemma isPlainNumber_iff :
    isPlainNumber w = true ↔ ∃ c ds f, w = [c] ++ ds ++ f ∧ Text.isDecimal c = true ∧
      (∀ d ∈ ds, ValueKind.isDigitPart d = true) ∧
      (f = [] ∨ ∃ fs, f = ".".toList ++ fs ∧ fs ≠ [] ∧ ∀ d ∈ fs, Text.isDecimal d = true) := by
  constructor
  · intro h
    cases w with
    | nil => cases h
    | cons c rest =>
      rw [isPlainNumber, Bool.and_eq_true] at h
      refine ⟨c, rest.takeWhile ValueKind.isDigitPart, rest.dropWhile ValueKind.isDigitPart, ?_, h.1,
        fun d hd => List.mem_takeWhile_imp hd, ?_⟩
      · rw [List.append_assoc, List.takeWhile_append_dropWhile]
        rfl
      · have hfraction := h.2
        cases hdrop : rest.dropWhile ValueKind.isDigitPart with
        | nil => exact .inl rfl
        | cons d fraction =>
          rw [hdrop] at hfraction
          simp only [Bool.and_eq_true, beq_iff_eq, Bool.not_eq_true', List.isEmpty_eq_false_iff] at hfraction
          obtain ⟨⟨rfl, hne⟩, hdecimal⟩ := hfraction
          exact .inr ⟨fraction, rfl, hne, List.all_eq_true.mp hdecimal⟩
  · rintro ⟨c, ds, f, rfl, hc, hds, hf⟩
    change (Text.isDecimal c && match (ds ++ f).dropWhile ValueKind.isDigitPart with
      | [] => true
      | d :: fraction => d == '.' && !fraction.isEmpty && fraction.all Text.isDecimal) = true
    rw [List.dropWhile_append_of_pos hds, hc]
    rcases hf with rfl | ⟨fs, rfl, hne, hfs⟩
    · rfl
    · have hall : fs.all Text.isDecimal = true := List.all_eq_true.mpr hfs
      have hpoint : (".".toList ++ fs).dropWhile ValueKind.isDigitPart = '.' :: fs :=
        List.dropWhile_cons_of_neg (by decide)
      rw [hpoint]
      simp [hne, hall]

lemma isDotted_of_isDigitPart {c : Char} (h : ValueKind.isDigitPart c = true) : isDotted c = true := by
  rcases Bool.or_eq_true_iff.mp h with h | h
  · simp [isDotted, Text.isWord_of_isDecimal h]
  · rw [beq_iff_eq.mp h]
    decide

lemma isDotted_of_isPlainNumber (h : isPlainNumber w = true) : w ≠ [] ∧ ∀ c ∈ w, isDotted c = true := by
  obtain ⟨c, ds, f, rfl, hc, hds, hf⟩ := isPlainNumber_iff.mp h
  have hdecimal : ∀ {d : Char}, Text.isDecimal d = true → isDotted d = true := fun hd =>
    isDotted_of_isDigitPart (by rw [ValueKind.isDigitPart, hd, Bool.true_or])
  refine ⟨by simp, fun d hd => ?_⟩
  rcases List.mem_append.mp hd with hd | hd
  · rcases List.mem_append.mp hd with hd | hd
    · rw [List.mem_singleton.mp hd]
      exact hdecimal hc
    · exact isDotted_of_isDigitPart (hds d hd)
  · rcases hf with rfl | ⟨fs, rfl, -, hfs⟩
    · cases hd
    · rcases List.mem_append.mp hd with hd | hd
      · rw [List.mem_singleton.mp hd]
        rfl
      · exact hdecimal (hfs d hd)

end PlainNumbers

end Source

namespace Rule.Mapping

open Source (isPlainNumber isPlainNumber_iff isDotted_of_isPlainNumber isDotted_of_isDigitPart)

variable {pre w post : List Char}

lemma dotted_of_operand (h : isPlainNumber w = true ∨ Text.isName w = true) : w ≠ [] ∧ ∀ c ∈ w, isDotted c = true := by
  rcases h with h | h
  · exact isDotted_of_isPlainNumber h
  · exact ⟨Text.ne_nil_of_isName h, fun c hc => by simp [isDotted, Text.isWord_of_mem_name h c hc]⟩

/-- A number with no word character and no point around it. -/
def standingNumber : Regex :=
  notAfter isDotted ++ ValueKind.digits ++ ValueKind.fraction ++ notAhead (one isDotted)

/-- A name like that, which is not called and has no index. -/
def standingName : Regex :=
  notAfter isDotted ++ Regex.name ++ notAhead (one fun c => isDotted c || c == '(' || c == '[')

lemma operand_eq : operand = (standingNumber <|> (standingName <|> (quotedBy '"' <|> quotedBy '\''))) := rfl

lemma head?_of_notAhead {p : Char → Bool} (hp : ∀ c, isDotted c = true → p c = true)
    (h : (notAhead (one p)).Spells pre w post) : w = [] ∧ post.head?.any isDotted = false := by
  obtain ⟨rfl, hnone⟩ := h
  refine ⟨rfl, ?_⟩
  cases post with
  | nil => rfl
  | cons c rest => exact Bool.eq_false_iff.mpr fun hc => hnone ⟨[c], rest, rfl, c, hp c hc, rfl⟩

lemma standing_spells (h : standingNumber.Spells pre w post ∨ standingName.Spells pre w post) :
    pre.getLast?.any isDotted = false ∧ post.head?.any isDotted = false ∧
      (isPlainNumber w = true ∨ Text.isName w = true) := by
  rcases h with h | h
  · obtain ⟨_, _, rfl, ⟨_, f, rfl, ⟨_, ds, rfl, ⟨rfl, hbefore⟩, ⟨_, ds, rfl, ⟨c, hc, rfl⟩, hds⟩⟩, hf⟩, hend⟩ := h
    obtain ⟨rfl, hafter⟩ := head?_of_notAhead (fun _ hc => hc) hend
    refine ⟨hbefore, hafter, .inl (isPlainNumber_iff.mpr ⟨c, ds, f, by simp, hc, hds, ?_⟩)⟩
    rcases hf with ⟨_, fs, rfl, hpoint, hfs⟩ | rfl
    · rw [spells_text.mp hpoint]
      exact .inr ⟨fs, rfl, spells_many1.mp hfs⟩
    · exact .inl rfl
  · obtain ⟨_, _, rfl, ⟨_, n, rfl, ⟨rfl, hbefore⟩, hn⟩, hend⟩ := h
    obtain ⟨rfl, hafter⟩ := head?_of_notAhead (fun c hc => by simp [hc]) hend
    exact ⟨hbefore, hafter, .inr (by simpa using spells_name.mp hn)⟩

lemma quotedBy_spells {q : Char} (h : (quotedBy q).Spells pre w post) :
    ∃ s, w = q :: (s ++ [q]) ∧ ∀ c ∈ s, (c != q) = true := by
  obtain ⟨_, _, rfl, ⟨_, s, rfl, ⟨c, hc, rfl⟩, hs⟩, d, hd, rfl⟩ := h
  obtain rfl := beq_iff_eq.mp hc
  obtain rfl := beq_iff_eq.mp hd
  exact ⟨s, by simp, fun e he => (Bool.and_eq_true_iff.mp (hs e he)).1⟩

/-- What an operand is: a number or a name that stands alone, or a quoted text. -/
lemma operand_spells (h : operand.Spells pre w post) :
    (pre.getLast?.any isDotted = false ∧ post.head?.any isDotted = false ∧
      (isPlainNumber w = true ∨ Text.isName w = true)) ∨
    ∃ q s, Source.Mask.isQuote q = true ∧ w = q :: (s ++ [q]) ∧ ∀ c ∈ s, (c != q) = true := by
  rcases h with h | h | h | h
  · exact .inl (standing_spells (.inl h))
  · exact .inl (standing_spells (.inr h))
  · exact .inr ⟨_, _, rfl, (quotedBy_spells h).choose_spec⟩
  · exact .inr ⟨_, _, rfl, (quotedBy_spells h).choose_spec⟩

lemma expression_spells (h : mixedOperands.expression.Spells pre w post) :
    ∃ l b b' r, w = l ++ (b ++ '+' :: (b' ++ r)) ∧ (∀ c ∈ b, Text.isBlank c = true) ∧ (∀ c ∈ b', Text.isBlank c = true) ∧
      operand.Spells pre l (b ++ '+' :: (b' ++ (r ++ post))) ∧ ∃ pre', operand.Spells pre' r post := by
  obtain ⟨_, r, rfl, ⟨_, b', rfl, ⟨_, sign, rfl, ⟨l, b, rfl, hl, hb⟩, hsign⟩, hb'⟩, hr⟩ := h
  obtain rfl := spells_text.mp hsign
  exact ⟨l, b, b', r, by simp, hb, hb', by simpa using spells_group.mp hl, _, spells_group.mp hr⟩

/-- A match begins with a character of a number or a name that has none before it, or with a quote. -/
lemma head_of_operand_spells {c : Char} {rest : List Char} (h : operand.Spells pre w post)
    (htext : c :: rest = w ++ post) :
    (isDotted c = true ∧ pre.getLast?.any isDotted = false) ∨ Source.Mask.isQuote c = true := by
  rcases operand_spells h with ⟨hbefore, -, hw⟩ | ⟨q, s, hq, rfl, -⟩
  · left
    obtain ⟨hne, hdotted⟩ : w ≠ [] ∧ ∀ d ∈ w, isDotted d = true := dotted_of_operand hw
    obtain ⟨d, w, rfl⟩ := List.exists_cons_of_ne_nil hne
    obtain ⟨rfl, -⟩ := List.cons.inj htext
    exact ⟨hdotted c List.mem_cons_self, hbefore⟩
  · obtain ⟨rfl, -⟩ := List.cons.inj htext
    exact .inr hq

lemma bne_quote {q c : Char} (hq : Source.Mask.isQuote q = true) (hc : Source.Mask.isQuote c = false) :
    (c != q) = true := by
  rw [bne_iff_ne]
  rintro rfl
  rw [hc] at hq
  cases hq

lemma not_isBlank_of_isQuote {c : Char} (h : Source.Mask.isQuote c = true) : Text.isBlank c = false := by
  rcases Source.isQuote_iff.mp h with rfl | rfl <;> rfl

lemma apart_of_isBlank {c : Char} (h : Text.isBlank c = true) :
    isDotted c = false ∧ Source.Mask.isQuote c = false := by
  refine ⟨not_isDotted_of_isBlank h, Bool.eq_false_iff.mpr fun hc => ?_⟩
  rw [not_isBlank_of_isQuote hc] at h
  cases h

lemma not_isDotted_of_isQuote {c : Char} (h : Source.Mask.isQuote c = true) : isDotted c = false := by
  rcases Source.isQuote_iff.mp h with rfl | rfl <;> decide

lemma not_isQuote_of_isDotted {c : Char} (h : isDotted c = true) : Source.Mask.isQuote c = false := by
  refine Bool.eq_false_iff.mpr fun hc => ?_
  rw [not_isDotted_of_isQuote hc] at h
  cases h

section Parts

variable {token after l rest : List Char}

/-- A run of word characters and points starts with no quote. -/
lemma false_of_quote_run {q : Char} (hq : Source.Mask.isQuote q = true) (hl : l ≠ [] ∧ ∀ c ∈ l, isDotted c = true)
    (htext : q :: after = l ++ rest) : False := by
  obtain ⟨c, l, rfl⟩ := List.exists_cons_of_ne_nil hl.1
  obtain ⟨rfl, -⟩ := List.cons.inj htext
  have hfirst := hl.2 q List.mem_cons_self
  rw [not_isDotted_of_isQuote hq] at hfirst
  cases hfirst

/-- An operand that starts where a run of word characters and points does is this run. -/
lemma eq_token_of_operand_spells (hne : token ≠ []) (htoken : ∀ c ∈ token, isDotted c = true)
    (hafter : after.head?.any isDotted = false) (h : operand.Spells pre l rest) (htext : token ++ after = l ++ rest) :
    l = token ∧ rest = after ∧ (isPlainNumber token = true ∨ Text.isName token = true) := by
  rcases operand_spells h with ⟨-, hrest, hl⟩ | ⟨q, s, hq, rfl, -⟩
  · obtain ⟨rfl, rfl⟩ := Text.run_unique (dotted_of_operand hl).2 htoken hrest hafter htext.symm
    exact ⟨rfl, rfl, hl⟩
  · exact (false_of_quote_run hq ⟨hne, htoken⟩ htext.symm).elim

/-- An operand that starts with a quote goes on to the next quote of this kind. -/
lemma quoted_of_operand_spells {q : Char} (hq : Source.Mask.isQuote q = true) (h : operand.Spells pre l rest)
    (htext : q :: after = l ++ rest) :
    ∃ s, l = q :: (s ++ [q]) ∧ after = s ++ q :: rest ∧ ∀ c ∈ s, (c != q) = true := by
  rcases operand_spells h with ⟨-, -, hl⟩ | ⟨d, s, -, rfl, hs⟩
  · exact (false_of_quote_run hq (dotted_of_operand hl) htext).elim
  · obtain ⟨rfl, hmore⟩ := List.cons.inj htext
    exact ⟨s, rfl, by simpa using hmore, hs⟩

/-- An operand that starts where an addend does is this addend. -/
lemma eq_of_operand_spells {a : Addend} (hafter : after.head?.any isDotted = false) (h : operand.Spells pre l rest)
    (htext : a.masked ++ after = l ++ rest) : l = a.masked ∧ rest = after ∧ a.isRead = true := by
  cases a with
  | number n =>
    obtain ⟨c, more, hn, hc⟩ := n.exists_cons
    obtain ⟨hl, hrest, hword⟩ := eq_token_of_operand_spells (by simp [hn]) n.isDotted hafter h htext
    refine ⟨hl, hrest, hword.resolve_right fun hname => ?_⟩
    obtain ⟨d, _, hd, hstart, -⟩ := Text.isName_iff.mp hname
    rw [hn] at hd
    obtain ⟨rfl, -⟩ := List.cons.inj hd
    rw [hc] at hstart
    cases hstart
  | quoted s =>
    rw [s.masked_append] at htext
    obtain ⟨t, rfl, hmore, ht⟩ := quoted_of_operand_spells s.isQuote h htext
    have hblank : ∀ c ∈ List.replicate s.contents.length ' ', (c != s.quote) = true :=
      List.forall_mem_replicate.mpr (.inr (bne_quote s.isQuote rfl))
    obtain ⟨rfl, hrest⟩ := Text.run_unique hblank ht (by simp) (by simp) hmore
    exact ⟨rfl, (List.cons.inj hrest).2.symm, rfl⟩

lemma head?_of_operand_spells (h : operand.Spells pre w post) : (w ++ post).head?.any Text.isBlank = false := by
  cases htext : w ++ post with
  | nil => rfl
  | cons c rest =>
    rcases head_of_operand_spells h htext.symm with ⟨hc, -⟩ | hc
    · exact not_isBlank_of_isDotted hc
    · exact not_isBlank_of_isQuote hc

lemma head?_masked (a : Addend) (after : List Char) : (a.masked ++ after).head?.any Text.isBlank = false := by
  cases a with
  | number n =>
    obtain ⟨c, rest, hn, -⟩ := n.exists_cons
    have hc := n.isDotted c (by simp [hn])
    rw [Addend.masked, hn]
    exact not_isBlank_of_isDotted hc
  | quoted s => exact not_isBlank_of_isQuote s.isQuote

/-- What follows blanks is found behind them in one way only. -/
lemma eq_of_sign {b b' x y : List Char} {c d : Char} (hb : ∀ c ∈ b, Text.isBlank c = true)
    (hb' : ∀ c ∈ b', Text.isBlank c = true) (hc : Text.isBlank c = false) (hd : Text.isBlank d = false)
    (h : b ++ c :: x = b' ++ d :: y) : b = b' ∧ c = d ∧ x = y := by
  have hhead : ∀ {e : Char} (z : List Char), Text.isBlank e = false → (e :: z).head?.any Text.isBlank = false :=
    fun _ he => he
  obtain ⟨rfl, hrest⟩ := Text.run_unique hb hb' (hhead x hc) (hhead y hd) h
  obtain ⟨rfl, rfl⟩ := List.cons.inj hrest
  exact ⟨rfl, rfl, rfl⟩

lemma head?_sign {b x : List Char} {d : Char} (hb : ∀ c ∈ b, Text.isBlank c = true) (hd : isDotted d = false) :
    (b ++ d :: x).head?.any isDotted = false :=
  Text.head?_any_append (Text.head?_any_eq_false fun c hc => (apart_of_isBlank (hb c hc)).1) hd

/-- A match that starts where an addend does reads this one and the next one. -/
lemma isRead_of_expression_spells {a p : Addend} {b b' : List Char} (hb : ∀ c ∈ b, Text.isBlank c = true)
    (hb' : ∀ c ∈ b', Text.isBlank c = true) (hafter : after.head?.any isDotted = false)
    (h : mixedOperands.expression.Spells pre w post)
    (htext : a.masked ++ (b ++ '+' :: (b' ++ (p.masked ++ after))) = w ++ post) :
    a.isRead = true ∧ p.isRead = true := by
  obtain ⟨l, c, c', r, rfl, hc, hc', hl, pre', hr⟩ := expression_spells h
  have hleft : a.masked ++ (b ++ '+' :: (b' ++ (p.masked ++ after))) = l ++ (c ++ '+' :: (c' ++ (r ++ post))) := by
    simpa using htext
  obtain ⟨rfl, hrest, ha⟩ := eq_of_operand_spells (head?_sign hb rfl) hl hleft
  obtain ⟨-, -, hright⟩ := eq_of_sign hc hb rfl rfl hrest
  obtain ⟨-, hright⟩ := Text.run_unique hc' hb' (head?_of_operand_spells hr) (head?_masked p after) hright
  exact ⟨ha, (eq_of_operand_spells hafter hr hright.symm).2.2⟩

end Parts

section Reading

lemma reads_standingNumber (hw : isPlainNumber w = true) (hpre : pre.getLast?.any isDotted = false)
    (hpost : post.head?.any isDotted = false) : standingNumber.Reads pre w post [] := by
  obtain ⟨c, ds, f, rfl, hc, hds, hf⟩ := isPlainNumber_iff.mp hw
  have hafter : ∀ {p : Char → Bool}, (∀ c, p c = true → isDotted c = true) → post.head?.any p = false := by
    intro p hp
    cases post with
    | nil => rfl
    | cons d rest => exact Bool.eq_false_iff.mpr fun hd => Bool.eq_false_iff.mp hpost (hp d hd)
  have hdecimal : ∀ c, Text.isDecimal c = true → isDotted c = true := fun c hc => by
    simp [isDotted, Text.isWord_of_isDecimal hc]
  have hend : (notAhead (one isDotted)).Reads (pre ++ ([] ++ ([c] ++ ds) ++ f)) [] post [] := by
    refine reads_notAhead rfl ?_
    rintro _ v rfl ⟨d, hd, rfl⟩
    exact Bool.eq_false_iff.mp hpost hd
  have hfraction : ValueKind.fraction.Reads (pre ++ ([] ++ ([c] ++ ds))) f ([] ++ post) [] := by
    rcases hf with rfl | ⟨fs, rfl, hne, hfs⟩
    · refine reads_optional_of_not_spells rfl ?_
      rintro _ v htext ⟨_, fs, rfl, hpoint, -⟩
      rw [spells_text.mp hpoint] at htext
      obtain rfl : post = _ := htext
      cases hpost
    · exact ((reads_text ".").append (reads_many1 hne hfs (hafter hdecimal))).orElse
  have hdigits : (f ++ ([] ++ post)).head?.any ValueKind.isDigitPart = false := by
    rcases hf with rfl | ⟨fs, rfl, -⟩
    · exact hafter fun c hc => isDotted_of_isDigitPart hc
    · rfl
  have hread : standingNumber.Reads pre ([] ++ ([c] ++ ds) ++ f ++ []) post [] :=
    (((reads_notAfter hpre).append ((reads_one hc).append (reads_many hds hdigits))).append hfraction).append hend
  simpa using hread

lemma reads_quotedBy {s : Quoted} {q : Char} (hq : s.quote = q) :
    (quotedBy q).Reads pre (Addend.quoted s).masked post [] := by
  subst hq
  have hspaces : ∀ c ∈ List.replicate s.contents.length ' ', (c != s.quote && c != '\n') = true :=
    List.forall_mem_replicate.mpr (.inr (by rw [bne_quote s.isQuote rfl]; rfl))
  have hread : (quotedBy s.quote).Reads pre ([s.quote] ++ List.replicate s.contents.length ' ' ++ [s.quote]) post [] :=
    ((reads_one (by simp)).append (reads_many hspaces (by simp))).append (reads_one (by simp))
  simpa [Addend.masked] using hread

/-- An addend that is read is the next operand. -/
lemma reads_operand {a : Addend} (ha : a.isRead = true) (hpre : pre.getLast?.any isDotted = false)
    (hpost : post.head?.any isDotted = false) : operand.Reads pre a.masked post [] := by
  rw [operand_eq]
  cases a with
  | number n => exact (reads_standingNumber ha hpre hpost).orElse
  | quoted s =>
    have hstanding : ∀ r, r = standingNumber ∨ r = standingName →
        ∀ u v, (Addend.quoted s).masked ++ post = u ++ v → ¬ r.Spells pre u v := by
      intro r hr u v htext hspells
      obtain ⟨-, -, hu⟩ := standing_spells (hr.imp (fun h => h ▸ hspells) fun h => h ▸ hspells)
      rw [s.masked_append] at htext
      exact false_of_quote_run s.isQuote (dotted_of_operand hu) htext
    refine Reads.orElse_of_not_spells ?_ rfl (hstanding _ (.inl rfl))
    refine Reads.orElse_of_not_spells ?_ rfl (hstanding _ (.inr rfl))
    rcases Source.isQuote_iff.mp s.isQuote with hquote | hquote
    · exact (reads_quotedBy hquote).orElse
    · refine Reads.orElse_of_not_spells (reads_quotedBy hquote) rfl fun u v htext hspells => ?_
      obtain ⟨t, rfl, -⟩ := quotedBy_spells hspells
      rw [s.masked_append, hquote] at htext
      cases (List.cons.inj htext).1

end Reading

section Kinds

variable {a : Addend}

lemma startsText_number {n : List Char} (hn : isPlainNumber n = true) : number.startsText n = true := by
  obtain ⟨c, ds, f, rfl, hc, hds, hf⟩ := isPlainNumber_iff.mp hn
  have hfraction : ValueKind.fraction.Spells ([] ++ ([c] ++ ds)) f ([] ++ []) := by
    rcases hf with rfl | ⟨fs, rfl, hne, hfs⟩
    · exact .inr rfl
    · exact .inl ⟨_, fs, rfl, spells_text.mpr rfl, spells_many1.mpr ⟨hne, hfs⟩⟩
  have hplain : number.refersBack = false := rfl
  refine (startsText_iff hplain).mpr ⟨[c] ++ ds ++ f, [], by simp, _, [], (List.append_nil _).symm, ?_, rfl, .inl rfl⟩
  exact ⟨[c] ++ ds, f, rfl, ⟨[c], ds, rfl, ⟨c, hc, rfl⟩, hds⟩, hfraction⟩

lemma strip_masked (a : Addend) : Text.strip a.masked = a.masked := by
  have hfirst : a.masked.head?.any Text.isBlank = false := by simpa using head?_masked a []
  refine Text.strip_eq_self hfirst ?_
  cases a with
  | number n =>
    cases hlast : (Addend.number n).masked.getLast? with
    | none => rfl
    | some c => exact not_isBlank_of_isDotted (n.isDotted c (List.mem_of_getLast? hlast))
  | quoted s =>
    rw [Addend.masked, ← List.cons_append, List.getLast?_concat]
    exact not_isBlank_of_isQuote s.isQuote

lemma operandKind?_masked (ha : a.isRead = true) (src : Source) (index : ℕ) :
    operandKind? a.masked src index = some a.kind := by
  rw [operandKind?, strip_masked]
  cases a with
  | number n =>
    obtain ⟨c, rest, hn, -⟩ := n.exists_cons
    have hquote : ¬ ((Addend.number n).masked.head?.any fun c => c == '\'' || c == '"') = true := by
      have hc := n.isDotted c (by simp [hn])
      rw [Addend.masked, hn]
      intro hhead
      rcases Bool.or_eq_true_iff.mp hhead with h | h
      · rw [beq_iff_eq.mp h] at hc
        cases hc
      · rw [beq_iff_eq.mp h] at hc
        cases hc
    rw [if_neg hquote, Addend.masked, if_pos (startsText_number ha)]
    rfl
  | quoted s =>
    have hquote : ((Addend.quoted s).masked.head?.any fun c => c == '\'' || c == '"') = true := by
      rw [Addend.masked]
      rcases Source.isQuote_iff.mp s.isQuote with h | h <;> rw [h] <;> rfl
    exact if_pos hquote

end Kinds

end Rule.Mapping

end CodeAudit
