import CodeAudit.Numeric.Double

/-!
How alike two texts are: twice the length of their matching blocks, found longest first, over the length of both.
-/

namespace CodeAudit.Text

namespace Similarity

/-- The length from which on a text's frequent characters do not start a block. -/
def frequentFrom : Nat := 200

/-- The characters that occur too often in a long text to start a block. -/
def frequent (text : List Char) : List Char :=
  if text.length < frequentFrom then []
  else text.eraseDups.filter fun c => text.length / 100 + 1 < text.count c

/-- A block of equal characters: where it starts in the two texts, and its length. -/
structure Block where
  left : Nat
  right : Nat
  size : Nat
deriving DecidableEq

/-- How long the run of equal characters is that ends with `c` at each place of the right text, from the runs that
end one character earlier in both. -/
def runs (c : Char) : List Nat → List Char → List Nat
  | before :: earlier, d :: rest => (if d == c then before + 1 else 0) :: runs c earlier rest
  | _, _ => []

/-- The best block so far and the runs that end at character `i` of the left text. -/
def improve (i : Nat) (best : Block) (j : Nat) : List Nat → Block
  | [] => best
  | k :: rest =>
    improve i (if best.size < k then ⟨i + 1 - k, j + 1 - k, k⟩ else best) (j + 1) rest

/-- The first longest block without the characters to skip. -/
def longestFrom (skipped right : List Char) (i : Nat) (best : Block) (ended : List Nat) : List Char → Block
  | [] => best
  | c :: rest =>
    if skipped.contains c then longestFrom skipped right (i + 1) best (right.map fun _ => 0) rest
    else
      let ended := runs c (0 :: ended) right
      longestFrom skipped right (i + 1) (improve i best 0 ended) ended rest

/-- How many characters two texts start with in common. -/
def commonStart : List Char → List Char → Nat
  | c :: s, d :: t => if c == d then commonStart s t + 1 else 0
  | _, _ => 0

/-- The first longest block, widened by the equal characters around it. -/
def longest (skipped left right : List Char) : Block :=
  let b := longestFrom skipped right 0 ⟨0, 0, 0⟩ (right.map fun _ => 0) left
  let back := commonStart (left.take b.left).reverse (right.take b.right).reverse
  let forth := commonStart (left.drop (b.left + b.size)) (right.drop (b.right + b.size))
  ⟨b.left - back, b.right - back, back + b.size + forth⟩

/-- The length of all blocks: the longest one and those on its two sides. -/
def matched (skipped : List Char) : Nat → List Char → List Char → Nat
  | 0, _, _ => 0
  | fuel + 1, left, right =>
    let b := longest skipped left right
    if b.size = 0 then 0
    else
      b.size + matched skipped fuel (left.take b.left) (right.take b.right) +
        matched skipped fuel (left.drop (b.left + b.size)) (right.drop (b.right + b.size))

/-- The length of the matching blocks of two texts. -/
def matchedLength (left right : List Char) : Nat :=
  matched (frequent right) (left.length + 1) left right

/-- The similarity as an exact quotient; empty texts are alike. -/
def ratio (left right : List Char) : Rat :=
  if left.length + right.length = 0 then 1
  else mkRat (2 * matchedLength left right) (left.length + right.length)

end Similarity

/-- How alike two texts are, from zero to one. -/
def similarity (left right : List Char) : Double :=
  Double.ofRat (Similarity.ratio left right)

end CodeAudit.Text
