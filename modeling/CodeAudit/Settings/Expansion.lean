import CodeAudit.Settings.Document

/-!
References in the values of settings: `%(name)s` stands for the value of another option and `%%` for a percent sign.
-/

namespace CodeAudit.Settings

/-- Why a value cannot be expanded. -/
inductive ExpansionFault where
  /-- An option that is not there is referred to. -/
  | missing (sectionName option raw key : List Char)
  /-- References that lead too deep, for instance in a circle. -/
  | tooDeep (sectionName option raw : List Char)
  /-- A reference that does not end. -/
  | badReference (rest : List Char)
  /-- A percent sign with something else after it. -/
  | loneSign (rest : List Char)
deriving DecidableEq

namespace ExpansionFault

open DocumentFault (shown)

def message : ExpansionFault → String
  | missing sectionName option raw key =>
    s!"Bad value substitution: option {shown option} in section {shown sectionName} contains " ++
      s!"an interpolation key {shown key} which is not a valid option name. Raw value: {shown raw}"
  | tooDeep sectionName option raw =>
    s!"Recursion limit exceeded in value substitution: option {shown option} in section " ++
      s!"{shown sectionName} contains an interpolation key which cannot be substituted in 10 steps. " ++
      s!"Raw value: {shown raw}"
  | badReference rest => s!"bad interpolation variable reference {shown rest}"
  | loneSign rest => s!"'%' must be followed by '%' or '(', found: {shown rest}"

end ExpansionFault

namespace Expansion

/-- A piece of a value: a character, a reference, or what is neither. -/
inductive Piece where
  | char (c : Char)
  | reference (key : List Char)
  | badReference (rest : List Char)
  | loneSign (rest : List Char)
deriving DecidableEq

/-- The name in a reference and the text after it, given the text after its opening parenthesis. -/
def key? (s : List Char) : Option (List Char × List Char) :=
  match s.dropWhile (· != ')') with
  | ')' :: 's' :: after =>
    if s.head? = some ')' then none else some (s.takeWhile (· != ')'), after)
  | _ => none

theorem key?_rest_shorter {s key after : List Char} (h : key? s = some (key, after)) :
    after.length < s.length := by
  have bound := (List.dropWhile_suffix (p := fun c : Char => c != ')') (l := s)).length_le
  unfold key? at h
  split at h
  · next rest eq =>
    split at h
    · simp at h
    · simp only [Option.some.injEq, Prod.mk.injEq] at h
      rw [eq, h.2] at bound
      simp only [List.length_cons] at bound
      omega
  · simp at h

/-- The pieces of a value from left to right, up to the first that is neither character nor reference. -/
def pieces : List Char → List Piece
  | [] => []
  | '%' :: '%' :: rest => .char '%' :: pieces rest
  | '%' :: '(' :: rest =>
    match h : key? rest with
    | some (key, after) =>
      have := key?_rest_shorter h
      .reference key :: pieces after
    | none => [.badReference ('%' :: '(' :: rest)]
  | '%' :: rest => [.loneSign ('%' :: rest)]
  | c :: rest => .char c :: pieces rest
termination_by s => s.length

/-- How deep references may lead. -/
def maxDepth : Nat := 10

/-- A value with its references replaced, so many levels of them at most. -/
def expand (options : Entries (List Char)) (sectionName option : List Char) :
    Nat → List Char → Except ExpansionFault (List Char)
  | 0, _ =>
    .error (.tooDeep sectionName option ((Document.value? options option).getD []))
  | depth + 1, value => do
    let parts ← (pieces value).mapM fun
      | .char c => .ok [c]
      | .reference key =>
        let key := Text.lower key
        match Document.value? options key with
        | none => .error (.missing sectionName option ((Document.value? options option).getD []) key)
        | some text =>
          if text.contains '%' then expand options sectionName option depth text else .ok text
      | .badReference rest => .error (.badReference rest)
      | .loneSign rest => .error (.loneSign rest)
    return parts.flatten

end Expansion

namespace Document

/-- The expanded value of an option of a section, none if the option is not there. -/
def get? (d : Document) (sectionName key : List Char) : Except ExpansionFault (Option (List Char)) :=
  match (d.options? sectionName).bind (value? · key) with
  | none => .ok none
  | some value => do
    let options := (d.options? sectionName).getD []
    return some (← Expansion.expand options sectionName key Expansion.maxDepth value)

/-- All options of a section with their expanded values, none if there is no such section. -/
def expanded? (d : Document) (sectionName : List Char) :
    Except ExpansionFault (Option (Entries (List Char))) :=
  match d.options? sectionName with
  | none => .ok none
  | some options => do
    let values ← options.mapM fun (key, value) => do
      return (key, ← Expansion.expand options sectionName key Expansion.maxDepth value)
    return some values

end Document

end CodeAudit.Settings
