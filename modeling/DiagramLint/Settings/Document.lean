import DiagramLint.Settings.Basic
import DiagramLint.Toml.Document

/-!
# Settings in a document

A document chooses settings in three sections: `extract` (`field`, `delimiter`),
`gantt` (`grid_width`, `ascii_char_width`, `wide_char_width`) and `quadrant`
(`preview_len`).  A section is a table, or an array with the same values in this
order; a date or a time counts as a section without values.  What a document leaves
out keeps its default, and keys and tables of other names are ignored.

Each value has a kind: a string, a string of one character, a number, or a natural
number in range.  A document with a section or a value of another kind, or with a
number that cannot be read at all, is rejected.
-/

namespace DiagramLint.Settings

open Toml (Value Entries)

/-- Why a document does not give settings. -/
inductive DocumentError where
  | syntactic (e : Toml.Error)
  /-- A section is neither a table nor an array. -/
  | section (name : String)
  /-- A value is not of its kind. -/
  | kind (key : String)
  /-- An ignored value has a number that cannot be read. -/
  | number

def DocumentError.message : DocumentError → String
  | syntactic e => e.message
  | .section name => name ++ " must be a table"
  | kind key => key ++ " has a value of the wrong type"
  | number => "a number cannot be read"

/-- The integers that can be read at all. -/
def readableInteger (n : Int) : Bool := -Int.pow 2 127 ≤ n && n < Int.pow 2 128

mutual

/-- Whether all numbers in a value can be read. -/
def readable : Value → Bool
  | .integer n => readableInteger n
  | .unreadable => false
  | .array items => readableItems items
  | .table _ entries => readableEntries entries
  | .tables items => readableTables items
  | _ => true

def readableItems : List Value → Bool
  | [] => true
  | v :: vs => readable v && readableItems vs

/-- Whether all numbers in the values of some keys can be read. -/
def readableEntries : List (Text × Value) → Bool
  | [] => true
  | (_, v) :: es => readable v && readableEntries es

def readableTables : List (List (Text × Value)) → Bool
  | [] => true
  | es :: rest => readableEntries es && readableTables rest

end

/-! ## The kinds of values -/

def asText? : Value → Option Text
  | .string t => some t
  | _ => none

/-- The character of a string of one character. -/
def asChar? : Value → Option Char
  | .string [c] => some c
  | _ => none

/-- A number as a double; integers must fit into 64 bits, with or without a sign. -/
def asFloat? : Value → Option Float
  | .float x => some x
  | .integer n => if -Int.pow 2 63 ≤ n ∧ n < Int.pow 2 64 then some (Float.ofInt n) else none
  | _ => none

/-- A natural number that fits into 64 bits. -/
def asNat? : Value → Option Nat
  | .integer n => if 0 ≤ n ∧ n < Int.pow 2 64 then some n.toNat else none
  | _ => none

/-! ## Sections -/

/-- What a section says about its keys: a value, or nothing. -/
abbrev Section := String → Option Value

def keyText (key : String) : Text := key.toList

/-- The section of a name whose keys are `keys`, in order. -/
def section? (es : Entries) (name : String) (keys : List String) : Except DocumentError Section :=
  match es.get? (keyText name) with
  | none => .ok fun _ => none
  | some .datetime => .ok fun _ => none
  | some (.array items) => .ok fun key => (keys.zip items).lookup key
  | some (.tables items) => .ok fun key => (keys.zip (items.map (Value.table .declared))).lookup key
  | some (.table _ entries) =>
      if readableEntries (entries.filter fun (k, _) => k ∉ keys.map keyText) then
        .ok fun key => Entries.get? (keyText key) entries
      else .error .number
  | some _ => .error (.section name)

/-- The value of a key in a section, or its default. -/
def Section.value {α : Type} (s : Section) (key : String) (as? : Value → Option α) (default : α) :
    Except DocumentError α :=
  match s key with
  | none => .ok default
  | some v =>
      match as? v with
      | some a => .ok a
      | none => .error (.kind key)

def sectionNames : List String := ["extract", "gantt", "quadrant"]

/-- The settings that a document chooses. -/
def ofEntries (es : Entries) : Except DocumentError Settings := do
  let extract ← section? es "extract" ["field", "delimiter"]
  let field ← extract.value "field" asText? defaultMarker.field
  let delimiter ← extract.value "delimiter" asChar? defaultMarker.delimiter
  let gantt ← section? es "gantt" ["grid_width", "ascii_char_width", "wide_char_width"]
  let gridWidth ← gantt.value "grid_width" asFloat? defaultMetrics.gridWidth
  let asciiWidth ← gantt.value "ascii_char_width" asFloat? defaultMetrics.asciiWidth
  let wideWidth ← gantt.value "wide_char_width" asFloat? defaultMetrics.wideWidth
  let quadrant ← section? es "quadrant" ["preview_len"]
  let previewLength ← quadrant.value "preview_len" asNat? defaultPreviewLength
  if readableEntries (es.filter fun (k, _) => k ∉ sectionNames.map keyText) then
    return ⟨⟨field, delimiter⟩, ⟨gridWidth, asciiWidth, wideWidth⟩, previewLength⟩
  else throw .number

/-- The settings that the text of a document chooses. -/
def ofDocument (t : Text) : Except DocumentError Settings :=
  match Toml.read t with
  | .ok es => ofEntries es
  | .error e => .error (.syntactic e)

end DiagramLint.Settings
