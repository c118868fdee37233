import CodeAudit.Execution.Literal
import CodeAudit.Proofs.Text.Output

/-! A value is written on one line, whatever line ends the texts in it have. -/
namespace CodeAudit

namespace Text

lemma isLine_hexDigits (width n : Nat) : IsLine (hexDigits width n) := by
  have hdigit : ∀ d < 16, isLineEnd (Nat.digitChar d) = false := by decide
  induction width generalizing n with
  | zero => exact List.forall_mem_nil _
  | succ width ih => exact (ih _).append (.singleton (hdigit _ (Nat.mod_lt n (by decide))))

lemma isLine_escapeChar {quote : Char} (hquote : isLineEnd quote = false) (c : Char) : IsLine (escapeChar quote c) := by
  have hpair : ∀ d, isLineEnd d = false → IsLine ['\\', d] := fun d hd => .cons (by decide) (.singleton hd)
  have hhex : ∀ letter width, isLineEnd letter = false → IsLine ('\\' :: letter :: hexDigits width c.toNat) :=
    fun letter width hletter => .cons (by decide) (.cons hletter (isLine_hexDigits _ _))
  unfold escapeChar
  split
  · rename_i hc
    rcases Bool.or_eq_true_iff.mp hc with hc | hc
    · exact hpair c (beq_iff_eq.mp hc ▸ hquote)
    · exact hpair c (beq_iff_eq.mp hc ▸ by decide)
  split
  · exact hpair 'n' (by decide)
  split
  · exact hpair 'r' (by decide)
  split
  · exact hpair 't' (by decide)
  split
  · rename_i hprintable
    exact .singleton (not_isLineEnd_of_isPrintable hprintable)
  split
  · exact hhex 'x' 2 (by decide)
  split
  · exact hhex 'u' 4 (by decide)
  · exact hhex 'U' 8 (by decide)

lemma not_isLineEnd_quoteFor (s : List Char) : isLineEnd (quoteFor s) = false := by
  unfold quoteFor
  split
  · decide
  · decide

lemma isLine_quoted (s : List Char) : IsLine (quoted s) := by
  have hquote := not_isLineEnd_quoteFor s
  refine .cons hquote (.append (fun d hd => ?_) (.singleton hquote))
  obtain ⟨c, -, hd⟩ := List.mem_flatMap.mp hd
  exact isLine_escapeChar hquote c d hd

lemma isLine_quotedBytes (bytes : List UInt8) : IsLine (quotedBytes bytes) := by
  have hquote := not_isLineEnd_quoteFor (bytes.map fun b => Char.ofNat b.toNat)
  refine .cons (by decide) (.cons hquote (.append (fun d hd => ?_) (.singleton hquote)))
  obtain ⟨b, -, hd⟩ := List.mem_flatMap.mp hd
  unfold escapeByte at hd
  split at hd
  · exact isLine_escapeChar hquote _ d hd
  · exact IsLine.cons (by decide) (.cons (by decide) (isLine_hexDigits _ _)) d hd

end Text

open Text (IsLine)

namespace Decimal

lemma isLine_digits (n : Nat) : IsLine (digits n) := fun _ hc =>
  Text.not_isLineEnd_of_isDigit (Nat.isDigit_of_mem_toDigits (by decide) (by decide) hc)

lemma isLine_zeros (n : Nat) : IsLine (List.replicate n '0') := by
  intro c hc
  rw [List.eq_of_mem_replicate hc]
  decide

lemma isLine_trimZeros {ds : List Char} (h : IsLine ds) : IsLine (trimZeros ds).1 := fun c hc =>
  h c (List.mem_reverse.mp ((List.dropWhile_sublist _).mem (List.mem_reverse.mp hc)))

lemma isLine_fraction {ds : List Char} (h : IsLine ds) : IsLine (if ds.isEmpty then ['0'] else ds) := by
  split
  · exact .singleton (by decide)
  · exact h

lemma isLine_magnitudeText (x : Rat) : IsLine (magnitudeText x) := by
  have hds := isLine_trimZeros (isLine_digits (shortest x).1)
  unfold magnitudeText
  split
  · exact show Text.IsLine "0.0".toList by decide
  dsimp only
  generalize (trimZeros (digits (shortest x).1)).1 = ds at hds
  have hdrop : ∀ n, IsLine (ds.drop n) := fun n c hc => hds c (List.mem_of_mem_drop hc)
  have htake : ∀ n, IsLine (ds.take n) := fun n c hc => hds c (List.mem_of_mem_take hc)
  split
  · split
    · exact .append (.append (show Text.IsLine "0.".toList by decide) (isLine_zeros _)) hds
    · exact .append (.append (htake _) (isLine_zeros _)) (.cons (by decide) (isLine_fraction (hdrop _)))
  · refine .append (.append (.append (htake 1) ?_) (.cons (by decide) (.singleton ?_))) ?_
    · split
      · exact List.forall_mem_nil _
      · exact .cons (by decide) (hdrop 1)
    · split
      · decide
      · decide
    · split
      · exact .cons (by decide) (isLine_digits _)
      · exact isLine_digits _

lemma isLine_text (x : Double) : IsLine (text x).toList := by
  have hnames : ∀ name ∈ ["nan".toList, "inf".toList, "-inf".toList], Text.IsLine name := by decide
  rcases toList_text x with h | ⟨front, hfront, h⟩
  · exact hnames _ h
  · rw [h]
    refine .append ?_ (isLine_magnitudeText _)
    rcases hfront with rfl | rfl
    · exact List.forall_mem_nil _
    · exact .singleton (by decide)

end Decimal

lemma Number.isLine_text (n : Number) : IsLine n.text.toList := by
  cases n with
  | int n =>
    rw [text, Int.toString_eq_repr, Int.repr_eq_if]
    split
    · rw [Nat.toList_repr]
      exact Decimal.isLine_digits _
    · rw [String.toList_append, Nat.toList_repr]
      exact .cons (by decide) (Decimal.isLine_digits _)
  | double x => exact Decimal.isLine_text x

namespace Literal

lemma isLine_commaSeparated {pieces : List (List Char)} (h : ∀ p ∈ pieces, IsLine p) :
    IsLine (commaSeparated pieces) := by
  fun_induction commaSeparated pieces with
  | case1 => exact List.forall_mem_nil _
  | case2 p => exact h p List.mem_cons_self
  | case3 p ps _ ih =>
    obtain ⟨hp, hps⟩ := List.forall_mem_cons.mp h
    exact hp.append (.cons (by decide) (.cons (by decide) (ih hps)))

mutual

lemma isLine_write (l : Literal) : IsLine l.write := by
  match l with
  | none => exact show Text.IsLine "None".toList by decide
  | bool true => exact show Text.IsLine "True".toList by decide
  | bool false => exact show Text.IsLine "False".toList by decide
  | number n => exact n.isLine_text
  | text s => exact Text.isLine_quoted s
  | bytes bs => exact Text.isLine_quotedBytes bs
  | list items =>
    exact .cons (by decide) ((isLine_commaSeparated (isLine_of_mem_writeAll items)).append (.singleton (by decide)))
  | tuple [] => exact show Text.IsLine ['(', ')'] by decide
  | tuple [item] =>
    exact .cons (by decide) ((isLine_write item).append (.cons (by decide) (.singleton (by decide))))
  | tuple (item :: next :: rest) =>
    have hitems := isLine_commaSeparated
      (List.forall_mem_cons.mpr ⟨isLine_write item, isLine_of_mem_writeAll (next :: rest)⟩)
    exact .cons (by decide) (hitems.append (.singleton (by decide)))
  | dict entries =>
    have hentries := isLine_commaSeparated (isLine_of_mem_writeEntries entries)
    exact .cons (by decide) (hentries.append (.singleton (by decide)))

lemma isLine_of_mem_writeAll (items : List Literal) : ∀ p ∈ writeAll items, IsLine p := by
  match items with
  | [] => simp [writeAll]
  | item :: rest => exact List.forall_mem_cons.mpr ⟨isLine_write item, isLine_of_mem_writeAll rest⟩

lemma isLine_of_mem_writeEntries (entries : List (Literal × Literal)) : ∀ p ∈ writeEntries entries, IsLine p := by
  match entries with
  | [] => simp [writeEntries]
  | (key, value) :: rest =>
    refine List.forall_mem_cons.mpr ⟨(isLine_write key).append ?_, isLine_of_mem_writeEntries rest⟩
    exact .cons (by decide) (.cons (by decide) (isLine_write value))

end

end Literal
end CodeAudit
