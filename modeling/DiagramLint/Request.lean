/-!
# Requests

What a user asks for on the command line: the content source, a configuration file,
the level of the log, and whether findings are shown as diagnostics.

A word is read as follows.  `--name` and `--name=value` name an option; `-abc` names
one option for each letter, up to one that takes a value, whose value is what
follows the letter, with or without `=`.  An option that takes a value and has none
yet takes the next word that is not an option; any other such word is the content
source, and there can be one only.  Behind `--` no word is an option.  A lone `-` and
an empty word are not options either.

An option that still lacks its value, or has been given twice, is an error as soon
as anything else is read that makes sense by itself; words that make no sense are
reported first.
-/

namespace DiagramLint

/-- What a user asks for. -/
structure Request where
  input : String
  config : Option String
  logLevel : String
  /-- Whether findings are also shown as diagnostics. -/
  diagnostics : Bool
  deriving DecidableEq, Repr

/-- Why the words of a command line are no request. -/
inductive UsageError where
  /-- No option has this name, or the word is one too many. -/
  | unknown (word : String)
  | missingValue (option : String)
  | repeated (option : String)
  | unexpectedValue (option : String)
  deriving DecidableEq, Repr

def UsageError.message : UsageError → String
  | unknown word => "unexpected argument " ++ word
  | missingValue option => "a value is required for " ++ option
  | repeated option => option ++ " cannot be used multiple times"
  | unexpectedValue option => "unexpected value for " ++ option

/-- What a command line can come to instead of a request. -/
inductive Refusal where
  | help
  | version
  | usage (e : UsageError)
  deriving DecidableEq, Repr

/-- The exit code of a command line that is no request. -/
def Refusal.exitCode : Refusal → Nat
  | help => 0
  | version => 0
  | usage _ => 2

namespace Request

def defaultInput : String := "src/data/phases.ts"

def defaultLogLevel : String := "warn"

/-- The options that take a value. -/
inductive Setting where
  | config
  | logLevel
  deriving DecidableEq, Repr

def Setting.name : Setting → String
  | config => "--config"
  | logLevel => "--log-level"

/-- The options that take no value. -/
inductive Switch where
  | diagnostics
  | help
  | version
  deriving DecidableEq, Repr

def Switch.name : Switch → String
  | diagnostics => "--diagnostics"
  | help => "--help"
  | version => "--version"

/-- What the words read so far say. -/
structure Reading where
  input : Option String := none
  config : Option String := none
  logLevel : Option String := none
  diagnostics : Bool := false
  /-- The last option with a value, with the value once that is there; it has not
  been checked yet. -/
  pending : Option (Setting × Option String) := none
  /-- Whether `--` has been read. -/
  plain : Bool := false

namespace Reading

/-- A value for an option that has none yet. -/
def assign (r : Reading) (s : Setting) (value : String) : Except Refusal Reading :=
  match s with
  | .config =>
      if r.config.isSome then .error (.usage (.repeated s.name))
      else .ok { r with config := some value }
  | .logLevel =>
      if r.logLevel.isSome then .error (.usage (.repeated s.name))
      else .ok { r with logLevel := some value }

def settle (r : Reading) : Except Refusal Reading :=
  match r.pending with
  | none => .ok r
  | some (s, none) => .error (.usage (.missingValue s.name))
  | some (s, some value) => { r with pending := none }.assign s value

/-- An option whose value is still to come. -/
def await (r : Reading) (s : Setting) : Except Refusal Reading :=
  r.settle.map fun r => { r with pending := some (s, none) }

def give (r : Reading) (s : Setting) (value : String) : Except Refusal Reading :=
  r.settle.bind fun r => r.assign s value

def switch (r : Reading) (s : Switch) : Except Refusal Reading := do
  let r ← r.settle
  match s with
  | .help => throw .help
  | .version => throw .version
  | .diagnostics =>
      if r.diagnostics then throw (.usage (.repeated s.name))
      else return { r with diagnostics := true }

/-- A word that is not an option and no value. -/
def source (r : Reading) (word : String) : Except Refusal Reading :=
  match r.input with
  | some _ => .error (.usage (.unknown word))
  | none => r.settle.map fun r => { r with input := some word }

/-- A word that is not an option. -/
def word (r : Reading) (word : String) : Except Refusal Reading :=
  match r.pending with
  | some (s, none) => .ok { r with pending := some (s, some word) }
  | _ => r.source word

def letters (r : Reading) : List Char → Except Refusal Reading
  | [] => .ok r
  | 'd' :: cs => (r.switch .diagnostics).bind fun r => r.letters cs
  | 'h' :: _ => r.switch .help
  | 'V' :: _ => r.switch .version
  | ['c'] => r.await .config
  | 'c' :: '=' :: cs => r.give .config (String.ofList cs)
  | 'c' :: cs => r.give .config (String.ofList cs)
  | c :: _ => .error (.usage (.unknown (String.ofList ['-', c])))

/-- An option with a value, by its long name. -/
def longSetting (r : Reading) (s : Setting) : Option String → Except Refusal Reading
  | none => r.await s
  | some value => r.give s value

/-- An option without a value, by its long name. -/
def longSwitch (r : Reading) (s : Switch) : Option String → Except Refusal Reading
  | none => r.switch s
  | some _ => .error (.usage (.unexpectedValue s.name))

/-- An option by its long name, with the value behind an equals sign. -/
def long (r : Reading) (name : String) (value : Option String) : Except Refusal Reading :=
  if name = Setting.config.name then r.longSetting .config value
  else if name = Setting.logLevel.name then r.longSetting .logLevel value
  else if name = Switch.diagnostics.name then r.longSwitch .diagnostics value
  else if name = Switch.help.name then r.longSwitch .help value
  else if name = Switch.version.name then r.longSwitch .version value
  else .error (.usage (.unknown name))

def next (r : Reading) (w : String) : Except Refusal Reading :=
  if r.plain then r.source w
  else
    match w.toList with
    | ['-', '-'] => .ok { r with plain := true }
    | '-' :: '-' :: cs =>
        let name := String.ofList ('-' :: '-' :: cs.takeWhile fun c => c ≠ '=')
        match cs.dropWhile fun c => c ≠ '=' with
        | [] => r.long name none
        | _ :: value => r.long name (some (String.ofList value))
    | '-' :: c :: cs => r.letters (c :: cs)
    | _ => r.word w

def request (r : Reading) : Request where
  input := r.input.getD defaultInput
  config := r.config
  logLevel := r.logLevel.getD defaultLogLevel
  diagnostics := r.diagnostics

end Reading

/-- The request of a command line. -/
def ofWords (words : List String) : Except Refusal Request := do
  let r ← words.foldlM Reading.next {}
  let r ← r.settle
  return r.request

end Request

end DiagramLint
