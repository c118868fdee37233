import CodeAudit.Text.Lines
import CodeAudit.Text.Quoted

/-!
The working directory: files by their paths below it, and why a path cannot be opened.
-/

namespace CodeAudit.CommandLine

/-- A path by its components; the ones that stay in place are left out. -/
structure Path where
  /-- The slashes that the path starts with, at most two; none for a path from the working directory. -/
  slashes : Nat
  parts : List (List Char)
deriving DecidableEq, Inhabited

namespace Path

/-- How many slashes at the start count: more than two are one. -/
def leadingSlashes (s : List Char) : Nat :=
  let n := (s.takeWhile (· == '/')).length
  if 2 < n then 1 else n

def ofString (s : String) : Path :=
  { slashes := leadingSlashes s.toList
    parts := (Text.splitOn '/' s.toList).filter fun part => !part.isEmpty && part != ['.'] }

def isAbsolute (p : Path) : Bool :=
  0 < p.slashes

def toString (p : Path) : String :=
  let text := List.replicate p.slashes '/' ++ Text.joinWith ['/'] p.parts
  if text.isEmpty then "." else String.ofList text

def quoted (p : Path) : String :=
  Text.quotedText p.toString

/-- The component that leads to the directory above. -/
def up : List Char := ['.', '.']

/-- Components with each one that another leads back from left out, without a look at what stands there. -/
def simplified (parts : List (List Char)) : List (List Char) :=
  (parts.foldl step []).reverse
where
  step (done : List (List Char)) (part : List Char) : List (List Char) :=
    match done with
    | last :: before => if part == up && last != up then before else part :: done
    | [] => [part]

/-- The path without steps up that can be read off its text. -/
def simplify (p : Path) : Path :=
  let parts := simplified p.parts
  { p with parts := if p.isAbsolute then parts.dropWhile (· == up) else parts }

/-- The most bytes of a component. -/
def maxComponentBytes : Nat := 255

/-- The most bytes of a path. -/
def maxBytes : Nat := 4095

end Path

/-- Why a path cannot be opened. -/
inductive PathFault where
  | missing (path : Path)
  | isDirectory (path : Path)
  /-- A file is used as a directory. -/
  | notDirectory (path : Path)
  | tooLong (path : Path)
  /-- A path cannot hold the character zero. -/
  | zeroCharacter
deriving DecidableEq

namespace PathFault

def message : PathFault → String
  | missing path => s!"[Errno 2] No such file or directory: {path.quoted}"
  | isDirectory path => s!"[Errno 21] Is a directory: {path.quoted}"
  | notDirectory path => s!"[Errno 20] Not a directory: {path.quoted}"
  | tooLong path => s!"[Errno 36] File name too long: {path.quoted}"
  | zeroCharacter => "embedded null byte"

end PathFault

/-- The files below the working directory. -/
structure Directory where
  files : List (List (List Char) × List UInt8) := []
deriving Inhabited

namespace Directory

/-- A place that a path leads to. -/
inductive Place where
  /-- Below the working directory, or that one itself. -/
  | below (parts : List (List Char))
  /-- So many directories above the working one. -/
  | above (levels : Nat)
  /-- Below the root of all directories, or that one itself. -/
  | root (parts : List (List Char))
deriving DecidableEq

/-- What stands at a place. -/
inductive Entry where
  | file (content : List UInt8)
  /-- What is written here is gone, and nothing is read. -/
  | sink
  | directory
  | missing
deriving DecidableEq

/-- The file with those components. -/
def file? (d : Directory) (parts : List (List Char)) : Option (List UInt8) :=
  (d.files.find? (·.1 == parts)).map (·.2)

/-- Whether the components lead to a directory: the working one, or one that holds a file. -/
def isDirectory (d : Directory) (parts : List (List Char)) : Bool :=
  parts.isEmpty || d.files.any fun (file, _) => parts.isPrefixOf file && parts.length < file.length

/-- What stands at a place; outside the working directory only the directories above it, the root and the devices are
known. -/
def entry (d : Directory) : Place → Entry
  | .below parts =>
    match d.file? parts with
    | some content => .file content
    | none => if d.isDirectory parts then .directory else .missing
  | .above _ => .directory
  | .root parts =>
    match parts.map String.ofList with
    | [] | ["dev"] | ["tmp"] => .directory
    | ["dev", "null"] => .sink
    | _ => .missing

/-- The place of a component of a directory, none when its name is unknown. -/
def Place.child : Place → List Char → Option Place
  | .below parts, name =>
    if name != Path.up then some (.below (parts ++ [name]))
    else if parts.isEmpty then some (.above 1) else some (.below parts.dropLast)
  | .above levels, name => if name == Path.up then some (.above (levels + 1)) else none
  | .root parts, name =>
    if name == Path.up then some (.root parts.dropLast) else some (.root (parts ++ [name]))

/-- What a walk along a path comes to: a place, or one that does not exist in a directory that does. -/
inductive Found where
  | place (place : Place) (entry : Entry)
  /-- Nothing stands here, though the directory does. -/
  | vacant (place : Option Place)
deriving DecidableEq

/-- A walk from a place along components, each of which must stand in a directory. -/
def walk (d : Directory) (p : Path) (here : Place) : List (List Char) → Except PathFault Found
  | [] => .ok (.place here (d.entry here))
  | name :: rest =>
    match d.entry here with
    | .missing => .error (.missing p)
    | .file _ | .sink => .error (.notDirectory p)
    | .directory =>
      if Path.maxComponentBytes < (String.ofList name).utf8ByteSize then .error (.tooLong p)
      else match here.child name with
        | some next =>
          if d.entry next = .missing && rest.isEmpty then .ok (.vacant next) else d.walk p next rest
        | none => if rest.isEmpty then .ok (.vacant none) else .error (.missing p)

/-- What a path leads to. -/
def find (d : Directory) (p : Path) : Except PathFault Found :=
  if p.parts.any (·.contains '\x00') then .error .zeroCharacter
  else if Path.maxBytes < p.toString.utf8ByteSize then .error (.tooLong p)
  else d.walk p (if p.isAbsolute then .root [] else .below []) p.parts

/-- The bytes of a file. -/
def read (d : Directory) (p : Path) : Except PathFault (List UInt8) := do
  match ← d.find p with
  | .place _ (.file content) => return content
  | .place _ .sink => return []
  | .place _ .directory => throw (.isDirectory p)
  | .place _ .missing | .vacant _ => throw (.missing p)

/-- Whether there is a file or a directory; a path that is too long has no answer. -/
def contains (d : Directory) (p : Path) : Except PathFault Bool :=
  match d.find p with
  | .ok (.place _ _) => .ok true
  | .ok (.vacant _) => .ok false
  | .error (.tooLong p) => .error (.tooLong p)
  | .error _ => .ok false

/-- The directory with a file in place of what had those components. -/
def withFile (d : Directory) (parts : List (List Char)) (content : List UInt8) : Directory :=
  ⟨(parts, content) :: d.files.filter (·.1 != parts)⟩

/-- The directory with a file written or written anew; what is written elsewhere leaves it as it is. -/
def write (d : Directory) (p : Path) (content : List UInt8) : Except PathFault Directory := do
  match ← d.find p with
  | .place _ .directory => throw (.isDirectory p)
  | .place (.below parts) _ | .vacant (some (.below parts)) => return d.withFile parts content
  | .place _ _ | .vacant _ => return d

/-- The directory with a file that is there at least, empty if it was not. -/
def touch (d : Directory) (p : Path) : Except PathFault Directory := do
  match ← d.find p with
  | .place _ (.file _) => return d
  | _ => d.write p []

/-- The names of the files in the directory itself. -/
def names (d : Directory) : List (List Char) :=
  d.files.filterMap fun (file, _) =>
    match file with
    | [name] => some name
    | _ => none

end Directory

end CodeAudit.CommandLine
