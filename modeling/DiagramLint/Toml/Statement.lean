import DiagramLint.Toml.Datetime
import DiagramLint.Toml.Number
import DiagramLint.Toml.String

/-!
# TOML statements

A document is a sequence of statements, one to a line: a header, which opens a table
(in double brackets, one more of several), or a key with its value.  Blank lines and
comments state nothing.

Arrays and inline tables may run over several lines and hold comments, also around
the equals signs of the latter; their items are parted by commas, and a comma may
stand behind the last.  Keys have a bounded number of parts (`keyLimit`), and values
nest to a bounded depth (`nestingLimit`), on which `readValue` recurs.
-/

namespace DiagramLint.Toml

def keyLimit : Nat := 80

def nestingLimit : Nat := 80

/-- What a line of a document says. -/
inductive Statement where
  | blank
  /-- Opens the table `name`, reached through `path`. -/
  | table (path : List Text) (name : Text)
  /-- Opens one more of the tables `name`, reached through `path`. -/
  | tables (path : List Text) (name : Text)
  /-- Gives `key`, reached through `path`, a value. -/
  | pair (path : List Text) (key : Text) (value : Value)

/-- Whether a character may stand in a key without quotes. -/
def isBareKeyChar (c : Char) : Bool := c.isAlphanum || c = '_' || c = '-'

def readSimpleKey (t : Text) : Option (Text × Text) :=
  match t with
  | '\x22' :: t => readBasic t
  | '\x27' :: t => readLiteral t
  | t =>
      match t.takeWhile isBareKeyChar with
      | [] => none
      | name => some (name, t.dropWhile isBareKeyChar)

/-- Reads the parts of a dotted key, at most `fuel` of them, and the spaces behind
it: the parts before the last, the last, and what follows. -/
def readKeyParts : Nat → Text → Option (List Text × Text × Text)
  | 0, _ => none
  | fuel + 1, t => do
      let (name, t) ← readSimpleKey (skipSpaces t)
      match skipSpaces t with
      | '.' :: t =>
          let (path, key, t) ← readKeyParts fuel t
          return (name :: path, key, t)
      | t => return ([], name, t)

/-- Reads a key, dotted or not. -/
def readKey (t : Text) : Option (List Text × Text × Text) := readKeyParts keyLimit t

/-- The characters that end a value without quotes and brackets, spaces aside. -/
def valueStops : List Char := ['=', ',', '[', ']', '\x7b', '\x7d', '#', '\r', '\n']

/-- Whether a character may stand in a value without quotes and brackets. -/
def isBareValueChar (c : Char) : Bool := !isSpace c && c ∉ valueStops

def isQuote (c : Char) : Bool := c = '\x22' || c = '\x27'

/-- The characters of a value without quotes and brackets, and the tabs among and behind
them; directly behind a tab, a quote belongs to a string of its own. -/
def bareRun (behindTab : Bool) : Text → Text
  | [] => []
  | c :: t =>
      if c = '\t' then c :: bareRun true t
      else if isBareValueChar c && !(behindTab && isQuote c) then c :: bareRun false t
      else []

/-- The word that a value without quotes and brackets is.  Tabs may be part of it, but
not its end. -/
def bareWord (t : Text) : Text :=
  ((bareRun true t).reverse.dropWhile fun c => c = '\t').reverse

/-- Reads a boolean, a number, a date or a time. -/
def readBareValue (t : Text) : Option (Value × Text) :=
  match bareWord t, t.drop (bareWord t).length with
  | ['t', 'r', 'u', 'e'], rest => some (.boolean true, rest)
  | ['f', 'a', 'l', 's', 'e'], rest => some (.boolean false, rest)
  | word, rest =>
      match number? word with
      | some value => some (value, rest)
      | none => (afterMoment? t).map fun rest => (.datetime, rest)

/-- Reads items up to a closing bracket, at most `fuel` of them. -/
def readItems {α : Type} (readItem : Text → Option (α × Text)) (close : Char) :
    Nat → Text → Option (List α × Text)
  | 0, _ => none
  | fuel + 1, t =>
      match afterChar? close (skipGap t) with
      | some rest => some ([], rest)
      | none => do
          let (item, t) ← readItem (skipGap t)
          match afterChar? ',' (skipGap t) with
          | some t =>
              let (items, t) ← readItems readItem close fuel t
              return (item :: items, t)
          | none =>
              let t ← afterChar? close (skipGap t)
              return ([item], t)

/-- Reads a key, an equals sign and what `readItem` reads; `skip` passes over what may
stand around the equals sign. -/
def readPair {α : Type} (skip : Text → Text) (readItem : Text → Option (α × Text)) (t : Text) :
    Option ((List Text × Text × α) × Text) := do
  let (path, key, t) ← readKey t
  let t ← afterChar? '=' (skip t)
  let (item, t) ← readItem (skip t)
  return ((path, key, item), t)

/-- The inline table of some pairs, if none contradicts those before it. -/
def inlineTable? (pairs : List (List Text × Text × Value)) : Option Value := do
  let entries ← pairs.foldlM (fun (es : Entries) (path, key, v) => es.insert? path key v) []
  return .table .inline entries

/-- Reads a value with at most `depth` arrays and inline tables around one another. -/
def readValue (depth : Nat) (t : Text) : Option (Value × Text) :=
  match t with
  | '[' :: t =>
      match depth with
      | 0 => none
      | depth + 1 => do
          let (items, t) ← readItems (readValue depth) ']' (t.length + 1) t
          return (.array items, t)
  | '\x7b' :: t =>
      match depth with
      | 0 => none
      | depth + 1 => do
          let (pairs, t) ← readItems (readPair skipGap (readValue depth)) '\x7d' (t.length + 1) t
          return (← inlineTable? pairs, t)
  | '\x22' :: _ => (readString t).map fun (s, t) => (.string s, t)
  | '\x27' :: _ => (readString t).map fun (s, t) => (.string s, t)
  | t => readBareValue t

/-- Reads the statement that a line makes. -/
def readStatement (t : Text) : Option (Statement × Text) :=
  match skipSpaces t with
  | [] => some (.blank, [])
  | '#' :: t => some (.blank, '#' :: t)
  | '\n' :: t => some (.blank, '\n' :: t)
  | '\r' :: t => some (.blank, '\r' :: t)
  | '[' :: '[' :: t => do
      let (path, name, t) ← readKey t
      let t ← Text.after? [']', ']'] t
      return (.tables path name, t)
  | '[' :: t => do
      let (path, name, t) ← readKey t
      let t ← afterChar? ']' t
      return (.table path name, t)
  | t => do
      let ((path, key, value), t) ← readPair skipSpaces (readValue nestingLimit) t
      return (.pair path key value, t)

end DiagramLint.Toml
