import DiagramLint.Files.System
import DiagramLint.Request
import DiagramLint.Settings.Discovery

/-!
# Snapshots of files

A run looks at a few paths only, which can be listed beforehand
(`Request.paths`).  A snapshot holds what reading each of them gave; to a run it is a
file system in which every other path is missing.
-/

namespace DiagramLint

/-- The paths that a request may look at. -/
def Request.paths (r : Request) (userDirectory : Option String) : List String :=
  r.config.toList ++ Settings.candidates userDirectory ++ [r.input]

/-- What reading some paths gave. -/
abbrev Snapshot := List (String × Except IoFault ByteArray)

namespace Snapshot

/-- Whether a fault says that there is nothing at the path. -/
def saysMissing : IoFault → Bool
  | .notFound => true
  | .notDirectory => true
  | .nameTooLong => true
  | .nulInPath => true
  | _ => false

def get (s : Snapshot) (path : String) : Except IoFault ByteArray :=
  (s.lookup path).getD (.error .notFound)

def system (s : Snapshot) : FileSystem where
  present path :=
    match s.get path with
    | .ok _ => true
    | .error fault => !saysMissing fault
  read path := (s.get path).bind decodeText

end Snapshot

end DiagramLint
