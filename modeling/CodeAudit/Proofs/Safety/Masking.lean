import CodeAudit.Proofs.Safety.Scan
import CodeAudit.Proofs.Source.Closed

/-! The safety of a program hangs neither on what its comments say nor on what its strings hold. -/
namespace CodeAudit.Safety

open Source (Closed PlainFor)
open Source.Mask (isQuote)

/-- The scan finds the same dangers in the two texts, and the verdict on both is the same. -/
def Alike (code code' : List Char) : Prop :=
  scan code = scan code' ∧ SafetyAssessment.ofCode code = SafetyAssessment.ofCode code'

lemma alike_of_mask {code code' : List Char} (h : Source.maskText code = Source.maskText code') :
    Alike code code' :=
  ⟨scan_congr h, congrArg SafetyAssessment.ofDangers (scan_congr h)⟩

/-- After a closed text, another comment of the same length changes nothing that the gate says of the program, nor
do other contents of the same length in a string, whatever comes after. -/
theorem verdict_ignores_comments_and_strings {a : List Char} (ha : Closed a) (b : List Char) :
    (∀ c₁ c₂ : List Char, '\n' ∉ c₁ → '\n' ∉ c₂ → c₁.length = c₂.length →
      Alike (a ++ '#' :: (c₁ ++ b)) (a ++ '#' :: (c₂ ++ b))) ∧
    ∀ (q : Char) (s₁ s₂ : List Char), isQuote q = true → s₁ ≠ [] → s₂ ≠ [] → PlainFor q s₁ → PlainFor q s₂ →
      s₁.length = s₂.length → Alike (a ++ q :: (s₁ ++ q :: b)) (a ++ q :: (s₂ ++ q :: b)) := by
  constructor
  · intro c₁ c₂ h₁ h₂ hlen
    exact alike_of_mask (Source.maskText_comment ha b h₁ h₂ hlen)
  · intro q s₁ s₂ hq hne₁ hne₂ h₁ h₂ hlen
    exact alike_of_mask (Source.maskText_string ha b hq hne₁ hne₂ h₁ h₂ hlen)

/-- The closed text may end in a string without contents, whose quotes the next one makes those of a long string. -/
theorem verdict_ignores_contents_after_empty_string :
    Closed "x = ''".toList ∧
      Alike "x = ''#'''y\nimport os".toList "x = ''#exec\nimport os".toList ∧
      Alike "x = '''y'''\nimport os".toList "x = '''#'''\nimport os".toList := by
  have ha : Closed "x = ''".toList := ⟨false, by decide⟩
  have hcomment := (verdict_ignores_comments_and_strings ha "\nimport os".toList).1
  have hstring := (verdict_ignores_comments_and_strings ha "''\nimport os".toList).2
  refine ⟨ha, hcomment "'''y".toList "exec".toList ?_ ?_ rfl, hstring '\'' ['y'] ['#'] rfl ?_ ?_ ?_ ?_ rfl⟩
  all_goals decide

end CodeAudit.Safety
