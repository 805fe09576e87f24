import DomainRegistry.Collection.SortedSet
import DomainRegistry.Text.Basic

/-!
A working directory with the files and directories in it, given as a value: what reading a path
yields, and what becomes of it when directories and files are made. A path is walked part by part;
of what lies outside of the working directory only the directories above it are known.
-/

namespace DomainRegistry

open Text

inductive FileFault where
  | missing
  | directory
  | notDirectory
  | occupied
  | nameTooLong
  | nulCharacter
  deriving DecidableEq

def FileFault.message : FileFault → String
  | missing => "No such file or directory (os error 2)"
  | directory => "Is a directory (os error 21)"
  | notDirectory => "Not a directory (os error 20)"
  | occupied => "File exists (os error 17)"
  | nameTooLong => "File name too long (os error 36)"
  | nulCharacter => "file name contained an unexpected NUL byte"

abbrev Path := List (List Char)

namespace Path

def top : List Char := ['/']

def up : List Char := ['.', '.']

def here : List Char := ['.']

/-- The parts of a path, without empty ones. -/
def parts (path : String) : Path :=
  let named := (splitAll '/' path.toList).filter fun part => !part.isEmpty
  if path.toList.head? = some '/' then top :: named else named

def render (parts : Path) : String :=
  match parts with
  | ['/'] :: named => "/" ++ String.ofList (['/'].intercalate named)
  | named => String.ofList (['/'].intercalate named)

def withoutEnd (parts : Path) : Path := (parts.reverse.dropWhile (· = here)).reverse

def parent (parts : Path) : Path := withoutEnd (withoutEnd parts).dropLast

/-- The path of a name in a directory; an absolute name is a path by itself. -/
def join (directory name : String) : String :=
  if directory.isEmpty || name.toList.head? = some '/' then name
  else if directory.toList.getLast? = some '/' then directory ++ name
  else directory ++ "/" ++ name

/-- Whether a place is the working directory or one above it. -/
def isAbove (place : Path) : Bool := place = [top] || place.all (· = up)

def step (place : Path) (part : List Char) : Path :=
  if part = top then [top]
  else if part = here then place
  else if part ≠ up then place ++ [part]
  else if place = [top] then place
  else if place.isAbove then place ++ [up]
  else place.dropLast

end Path

structure FileTree where
  /-- The files with their places, the oldest first. -/
  files : List (Path × String)
  /-- Directories that were made; those of files are there without it. -/
  directories : List Path := []

namespace FileTree

def ofFiles (files : List (String × String)) : FileTree :=
  ⟨files.map fun (name, text) => ((Path.parts name).filter (· ≠ Path.here), text), []⟩

def text? (t : FileTree) (place : Path) : Option String := t.files.lookup place

def places (t : FileTree) : List Path := t.files.map Prod.fst ++ t.directories

def isFile (t : FileTree) (place : Path) : Bool := (t.text? place).isSome

def isDirectory (t : FileTree) (place : Path) : Bool :=
  place.isAbove || t.directories.contains place
    || t.places.any fun p => place.isPrefixOf p && p ≠ place

def maxNameLength : Nat := 255

def isLong (part : List Char) : Bool := maxNameLength < (String.ofList part).utf8ByteSize

def enter (t : FileTree) (place : Path) : Except FileFault Unit :=
  if t.isFile place then .error .notDirectory
  else if t.isDirectory place then .ok ()
  else .error .missing

def walk (t : FileTree) : (place parts : Path) → Except FileFault Path
  | place, [] => .ok place
  | place, part :: parts =>
    match t.enter place with
    | .error e => .error e
    | .ok () => if isLong part then .error .nameTooLong else t.walk (place.step part) parts

/-- The place of a path, of which all but the last part has to be there. -/
def locate (t : FileTree) (parts : Path) : Except FileFault Path :=
  if parts.isEmpty then .error .missing
  else if parts.any fun part => part.contains '\x00' then .error .nulCharacter
  else t.walk [] parts

/-- The parts of a path that is read; a slash at its end stands for a directory. -/
def readParts (path : String) : Path :=
  if path.toList.getLast? = some '/' then Path.parts path ++ [Path.here] else Path.parts path

def read (t : FileTree) (path : String) : Except FileFault String :=
  match t.locate (readParts path) with
  | .error e => .error e
  | .ok place =>
    match t.text? place with
    | some text => .ok text
    | none => .error (if t.isDirectory place then .directory else .missing)

def directoryAt? (t : FileTree) (path : String) : Option Path :=
  (t.locate (readParts path)).toOption.filter t.isDirectory

def leadsToDirectory (t : FileTree) (parts : Path) : Bool :=
  match t.locate parts with
  | .ok place => t.isDirectory place
  | .error _ => false

def makeDirectory (t : FileTree) (parts : Path) : Except FileFault FileTree := do
  let place ← t.locate parts
  if t.isFile place || t.isDirectory place then throw .occupied
  return { t with directories := t.directories ++ [place] }

/-- Makes a directory and, where they are missing, those above it; each has fewer parts. -/
def makeAll : (limit : Nat) → Path → FileTree → Except FileFault FileTree
  | 0, _, t => .ok t
  | limit + 1, parts, t =>
    let orThere (t : FileTree) (e : FileFault) : Except FileFault FileTree :=
      if t.leadsToDirectory parts then .ok t else .error e
    if parts.isEmpty then .ok t
    else
      match t.makeDirectory parts with
      | .ok t => .ok t
      | .error .missing =>
        match makeAll limit parts.parent t with
        | .error e => .error e
        | .ok t =>
          match t.makeDirectory parts with
          | .ok t => .ok t
          | .error e => orThere t e
      | .error e => orThere t e

def makeDirectories (t : FileTree) (parts : Path) : Except FileFault FileTree :=
  makeAll (parts.length + 1) parts t

/-- Opens a file to add to it; it is made if it is missing. -/
def openFile (t : FileTree) (parts : Path) : Except FileFault FileTree := do
  let place ← t.locate parts
  if t.isDirectory place then throw .directory
  if t.isFile place then return t
  return { t with files := t.files ++ [(place, "")] }

def remove (t : FileTree) (place : Path) : FileTree :=
  { t with files := t.files.filter fun f => f.1 ≠ place }

/-- The files right in a directory, the oldest first. -/
def filesIn (t : FileTree) (place : Path) : List Path :=
  (t.files.map Prod.fst).filter fun p => !p.isEmpty && p.dropLast = place

def namesIn (t : FileTree) (place : Path) : SortedSet String :=
  .ofList (t.places.filterMap fun p =>
    ((place.isPrefixOf? p).bind List.head?).bind fun name =>
      if name = Path.up || name = Path.top then none else some (String.ofList name))

end FileTree

end DomainRegistry
