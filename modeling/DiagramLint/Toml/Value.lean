import DiagramLint.Text.Blank

/-!
# TOML values

A TOML document is a table: keys with values, some of which are tables again.  Each
table remembers how it was written, because that decides what may be added to it
later: a table with a header of its own takes no dotted keys from elsewhere, one
that a dotted key made or passed through takes no header, and an inline table takes
nothing.

`insert?` adds a value under a dotted key, `openTable?` and `openTables?` open what
a header names; each has no result when the document already says otherwise.
-/

namespace DiagramLint.Toml

/-- How a table was written. -/
inductive TableForm where
  /-- By a header. -/
  | declared
  /-- On the way to a table with a header. -/
  | implied
  /-- On the way to a dotted key, whether or not a header had implied it before. -/
  | dotted
  | inline
  deriving DecidableEq, Repr

inductive Value where
  | string (text : Text)
  | integer (value : Int)
  | float (value : Float)
  /-- A number without a value: one that lacks digits or has characters that are none,
  or one with a point or an exponent that is beyond the doubles. -/
  | unreadable
  | boolean (value : Bool)
  /-- A date, a time, or both. -/
  | datetime
  | array (items : List Value)
  | table (form : TableForm) (entries : List (Text × Value))
  /-- The tables of one header in double brackets. -/
  | tables (items : List (List (Text × Value)))

/-- The keys of a table with their values. -/
abbrev Entries := List (Text × Value)

namespace Entries

def get? (key : Text) (es : Entries) : Option Value := es.lookup key

/-- Puts what `change` makes of the value under a key in its place. -/
def alter? (key : Text) (change : Option Value → Option Value) : Entries → Option Entries
  | [] => (change none).map fun v => [(key, v)]
  | (k, v) :: es =>
      if k = key then (change (some v)).map fun v => (k, v) :: es
      else (alter? key change es).map fun es => (k, v) :: es

/-- Adds a value under a key that is reached through the tables in `path`, making
those that are missing.  The tables on the way must have been made by dotted keys or
implied by headers, and are from then on taken as made by dotted keys.  Of several
tables under one name the last is meant; it lets dotted keys through, but values of
its own it takes from its header only. -/
def insert? (path : List Text) (key : Text) (value : Value) (es : Entries) : Option Entries :=
  match path with
  | [] =>
      es.alter? key fun
        | none => some value
        | some _ => none
  | name :: path =>
      es.alter? name fun
        | none => (insert? path key value []).map (.table .dotted)
        | some (.table .dotted inner) => (insert? path key value inner).map (.table .dotted)
        | some (.table .implied inner) => (insert? path key value inner).map (.table .dotted)
        | some (.tables items) =>
            if path = [] then none
            else
              items.getLast?.bind fun inner =>
                (insert? path key value inner).map fun inner => .tables (items.dropLast ++ [inner])
        | some _ => none

/-- Changes the table that `path` leads to, making implied tables on the way; of
several tables under one name the last is meant. -/
def descend? (change : Entries → Option Entries) : List Text → Entries → Option Entries
  | [], es => change es
  | name :: path, es =>
      es.alter? name fun
        | none => (descend? change path []).map (.table .implied)
        | some (.table .inline _) => none
        | some (.table form inner) => (descend? change path inner).map (.table form)
        | some (.tables items) =>
            items.getLast?.bind fun inner =>
              (descend? change path inner).map fun inner => .tables (items.dropLast ++ [inner])
        | some _ => none

/-- Opens the table that a header names. -/
def openTable? (path : List Text) (name : Text) (es : Entries) : Option Entries :=
  es.descend? (fun inner => inner.alter? name fun
    | none => some (.table .declared [])
    | some (.table .implied entries) => some (.table .declared entries)
    | some _ => none) path

/-- Opens one more of the tables that a header in double brackets names. -/
def openTables? (path : List Text) (name : Text) (es : Entries) : Option Entries :=
  es.descend? (fun inner => inner.alter? name fun
    | none => some (.tables [[]])
    | some (.tables items) => some (.tables (items ++ [[]]))
    | some _ => none) path

end Entries

end DiagramLint.Toml
