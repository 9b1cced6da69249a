import DiagramLint.Toml.Statement

/-!
# TOML documents

A document is read statement by statement, each on its line.  The table that the
last header opened takes the pairs that follow it; before the first header that is
the document itself.  A statement that contradicts an earlier one, such as a second
value for a key, is an error, and so is a line that is no statement.
-/

namespace DiagramLint.Toml

/-- Why a text is not a document. -/
inductive Error where
  /-- A line is no statement. -/
  | malformed (line : Nat)
  /-- A line contradicts the lines before it. -/
  | redefined (line : Nat)
  deriving DecidableEq, Repr

def Error.message : Error → String
  | malformed line => "line " ++ toString line ++ " is not well formed"
  | redefined line => "line " ++ toString line ++ " redefines a key"

/-- A document in the making. -/
structure Draft where
  entries : Entries
  /-- Where pairs go: the names of the tables that lead to the open one. -/
  current : List Text

/-- The draft with one more statement, unless that contradicts it. -/
def Draft.add? (d : Draft) : Statement → Option Draft
  | .blank => some d
  | .table path name =>
      (d.entries.openTable? path name).map fun entries => ⟨entries, path ++ [name]⟩
  | .tables path name =>
      (d.entries.openTables? path name).map fun entries => ⟨entries, path ++ [name]⟩
  | .pair path key value =>
      (d.entries.descend? (fun es => es.insert? path key value) d.current).map fun entries =>
        { d with entries }

/-- Adds the statements of a text, at most `fuel` lines, the first of which has the
given number. -/
def Draft.readLines (d : Draft) (line : Nat) : Nat → Text → Except Error Draft
  | 0, _ => .error (.malformed line)
  | fuel + 1, t =>
      match readStatement t with
      | none => .error (.malformed line)
      | some (statement, rest) =>
          match d.add? statement with
          | none => .error (.redefined line)
          | some d =>
              match skipRemark rest with
              | [] => .ok d
              | rest =>
                  match newline? rest with
                  | none => .error (.malformed line)
                  | some next =>
                      let passed := (t.length - next.length)
                      d.readLines (line + (t.take passed).count '\n') fuel next

/-- The document without the byte order mark it may start with. -/
def dropMark : Text → Text
  | '\ufeff' :: t => t
  | t => t

def read (t : Text) : Except Error Entries :=
  let t := dropMark t
  (Draft.readLines ⟨[], []⟩ 1 (t.length + 1) t).map Draft.entries

end DiagramLint.Toml
