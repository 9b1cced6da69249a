import DiagramLint.Files.System
import DiagramLint.Text.Bytes

/-!
# A file tree in memory

A tree lists files and directories by their places below a working directory, each
place being the names on the way to it; what leads to an entry is a directory even
if it is not listed.  Nothing is known about what lies outside the working
directory, except that the directories above it exist.

A path is followed name by name.  Empty names and `.` stay where they are, `..` goes
up, and every other name goes down; the way must lead through directories, and a
path that ends in a slash or in `.` must end at one.
-/

namespace DiagramLint

/-- What is at a place. -/
inductive FileNode where
  | directory
  | file (bytes : ByteArray)

/-- The entries of a tree: where they are, and what they are. -/
structure FileTree where
  entries : List (List Text × FileNode)

namespace FileTree

/-- A place on the way of a path. -/
inductive Place where
  /-- Below the working directory, or the directory itself. -/
  | inside (names : List Text)
  /-- A directory above the working directory. -/
  | above (levels : Nat)
  | root

/-- The longest name of a file, in bytes. -/
def nameLimit : Nat := 255

/-- The length from which on a path is too long, in bytes. -/
def pathLimit : Nat := 4096

/-- The names of a path, including empty ones. -/
def names (path : Text) : List Text := path.splitOn '/'

/-- What is at some names below the working directory. -/
def node? (t : FileTree) (place : List Text) : Option FileNode :=
  match t.entries.find? fun (names, _) => names = place with
  | some (_, node) => some node
  | none =>
      if place = [] ∨ t.entries.any fun (names, _) => place.isPrefixOf names then some .directory
      else none

def isDirectory (t : FileTree) : Place → Bool
  | .inside names =>
      match t.node? names with
      | some .directory => true
      | _ => false
  | .above _ => true
  | .root => true

/-- The place one step from a directory. -/
def step (t : FileTree) (place : Place) (name : Text) : Except IoFault Place :=
  if name = [] ∨ name = ['.'] then .ok place
  else if name = ['.', '.'] then
    match place with
    | .inside [] => .ok (.above 1)
    | .inside names => .ok (.inside names.dropLast)
    | .above levels => .ok (.above (levels + 1))
    | .root => .ok .root
  else if nameLimit < Text.byteLength name then .error .nameTooLong
  else
    match place with
    | .inside names =>
        if (t.node? (names ++ [name])).isSome then .ok (.inside (names ++ [name]))
        else .error .notFound
    | _ => .error .notFound

/-- The place some steps away; each step starts at a directory. -/
def walk (t : FileTree) (place : Place) : List Text → Except IoFault Place
  | [] => .ok place
  | name :: names => do
      if t.isDirectory place then
        let next ← t.step place name
        t.walk next names
      else throw .notDirectory

/-- The place a path leads to. -/
def locate (t : FileTree) (path : String) : Except IoFault Place :=
  let path := path.toList
  if '\x00' ∈ path then .error .nulInPath
  else if path = [] then .error .notFound
  else if pathLimit ≤ Text.byteLength path then .error .nameTooLong
  else
    match names path with
    | [] :: rest => t.walk .root rest
    | names => t.walk (.inside []) names

def read (t : FileTree) (path : String) : Except IoFault Text := do
  match ← t.locate path with
  | .inside names =>
      match t.node? names with
      | some (.file bytes) => decodeText bytes
      | some .directory => throw .isDirectory
      | none => throw .notFound
  | _ => throw .isDirectory

/-- Whether there is something at a path. -/
def present (t : FileTree) (path : String) : Bool :=
  match t.locate path with
  | .ok _ => true
  | .error _ => false

/-- The files of the tree, as a run sees them. -/
def system (t : FileTree) : FileSystem := ⟨t.present, t.read⟩

end FileTree

end DiagramLint
