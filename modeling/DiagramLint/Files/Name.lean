import DiagramLint.Text.Blank

/-!
# The name of a file

The name of a file is the last name of its path.  Empty names and, behind the first,
names that are a single dot do not count; a path whose last name is `.` or `..`, and
one without names, names no file.
-/

namespace DiagramLint

/-- The names of a path that count. -/
def countedNames (path : Text) : List Text :=
  match path.splitOn '/' with
  | [] => []
  | first :: rest =>
      (if first = [] then [] else [first]) ++ rest.filter fun name => name ≠ [] ∧ name ≠ ['.']

/-- The name of the file at a path, or the whole path when it names no file. -/
def fileName (path : String) : String :=
  match (countedNames path.toList).getLast? with
  | none => path
  | some name => if name = ['.'] ∨ name = ['.', '.'] then path else String.ofList name

end DiagramLint
