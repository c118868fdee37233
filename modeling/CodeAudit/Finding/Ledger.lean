import CodeAudit.Finding.Basic

/-!
Lists of findings: reports of one problem merge into one, the worst come first, and unsure ones are left out.
-/

namespace CodeAudit.Finding

/-- The worst and surest findings first; equal ones keep their order. -/
def sort (fs : List Finding) : List Finding :=
  fs.mergeSort fun f g => (order f g).isLE

/-- A list of findings with distinct keys and one more finding, merged into that of its key. -/
def mergeInto (f : Finding) : List Finding → List Finding
  | [] => [f]
  | g :: rest => if g.key = f.key then g.mergedWith f :: rest else g :: mergeInto f rest

/-- One finding for each key, in the order in which the keys appear. -/
def mergeByKey (fs : List Finding) : List Finding :=
  fs.foldl (fun done f => mergeInto f done) []

/-- One finding for each key, sorted. -/
def merge (fs : List Finding) : List Finding :=
  sort (mergeByKey fs)

/-- The findings of some kinds that are at least so sure. -/
def keep (threshold : Number) (focus : List Kind) (fs : List Finding) : List Finding :=
  fs.filter fun f => threshold.le f.confidence.value && focus.contains f.kind

/-- The findings of one kind. -/
def ofKind (k : Kind) (fs : List Finding) : List Finding :=
  fs.filter (·.kind == k)

end CodeAudit.Finding
