import CodeAudit.Regex.Search

/-!
Text inside console markup: what would read as a tag is escaped with a backslash, and the backslashes in front of it
are doubled.
-/

namespace CodeAudit.Markup

open Regex

/-- The characters that start the name of a tag. -/
def isTagStart (c : Char) : Bool :=
  ('a' ≤ c && c ≤ 'z') || c == '#' || c == '/' || c == '@'

/-- A tag with the backslashes in front of it. -/
def tag : Regex :=
  group "slashes" (many (· == '\\')) ++
    group "tag" ("[" ++ one isTagStart ++ run (· != '[') true ++ "]")

/-- The text of a tag as plain text. -/
def escapedTag (m : Found) : List Char :=
  m.group "slashes" ++ m.group "slashes" ++ '\\' :: m.group "tag"

/-- A text that ends in just one backslash gets another one, so that it does not reach what follows. -/
def closeSlash (s : List Char) : List Char :=
  match s.reverse with
  | '\\' :: '\\' :: _ => s
  | '\\' :: _ => s ++ ['\\']
  | _ => s

/-- A text that shows as itself. -/
def escape (s : String) : String :=
  String.ofList (closeSlash (tag.replaceAll escapedTag s.toList))

/-- A tag as it shows on a console without styles: an escaped one as itself and any other not at all. -/
def shownTag (m : Found) : List Char :=
  let slashes := m.group "slashes"
  slashes.take (slashes.length / 2) ++ if slashes.length % 2 = 1 then m.group "tag" else []

/-- Marked-up text as it shows on a console without styles. -/
def plain (s : String) : String :=
  String.ofList (tag.replaceAll shownTag s.toList)

/-- A text in a style. -/
def styled (style body : String) : String :=
  s!"[{style}]{body}[/{style}]"

end CodeAudit.Markup
