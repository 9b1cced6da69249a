import DiagramLint.Files.System
import DiagramLint.Settings.Document

/-!
# Finding the settings

Settings come from the first of these that applies: the file that was asked for; the
file in the working directory, if it exists; the file in the user's configuration
directory, if it exists; the defaults.  The choice is final (`chosen?`): whatever is
wrong with the chosen file is a fault, and no later candidate stands in for it.

How the text of a file is read is left open: whatever the reader of documents makes of
it, what is loaded is valid (`valid_of_loadFile`).
-/

namespace DiagramLint.Settings

/-- A reader of documents: the settings that a text chooses, or why it chooses none. -/
abbrev DocumentReader := Text → Except DocumentError Settings

def localFile : String := "sextant/config.toml"

/-- The configuration file of a user's configuration directory. -/
def userFile (directory : String) : String := directory ++ "/sextant/config.toml"

/-- The files that are looked for, in order, when none was asked for. -/
def candidates (userDirectory : Option String) : List String :=
  localFile :: (userDirectory.map userFile).toList

/-- The file that the settings come from, unless they are the defaults. -/
def chosen? (fs : FileSystem) (userDirectory : Option String) (asked : Option String) :
    Option String :=
  match asked with
  | some path => some path
  | none => (candidates userDirectory).find? fs.present

/-- The settings of a text, if they are valid. -/
def ofConfiguration (reader : DocumentReader) (t : Text) : Except ConfigFault Settings :=
  match reader t with
  | .error e => .error (.unreadable e.message)
  | .ok s =>
      match s.violation? with
      | some v => .error (.rejected v.message)
      | none => .ok s

def loadFile (reader : DocumentReader) (fs : FileSystem) (path : String) :
    Except Fault Settings :=
  if fs.present path then
    match fs.read path with
    | .error cause => .error (.read path cause)
    | .ok t => (ofConfiguration reader t).mapError .config
  else .error (.config (.missingFile path))

/-- The settings of a run. -/
def load (reader : DocumentReader) (fs : FileSystem) (userDirectory : Option String)
    (asked : Option String) : Except Fault Settings :=
  match chosen? fs userDirectory asked with
  | some path => loadFile reader fs path
  | none => .ok default

variable {reader : DocumentReader}

theorem valid_of_ofConfiguration {t : Text} {s : Settings}
    (h : ofConfiguration reader t = .ok s) : s.Valid := by
  unfold ofConfiguration at h
  split at h
  · cases h
  · split at h
    · cases h
    · rename_i hv
      cases h
      exact hv

/-- **Settings that were loaded from a file are valid.** -/
theorem valid_of_loadFile {fs : FileSystem} {path : String} {s : Settings}
    (h : loadFile reader fs path = .ok s) : s.Valid := by
  unfold loadFile at h
  split at h
  · split at h
    · cases h
    · rename_i t _
      cases hc : ofConfiguration reader t with
      | error e => rw [hc] at h; cases h
      | ok s' =>
          rw [hc] at h
          cases h
          exact valid_of_ofConfiguration hc
  · cases h

end DiagramLint.Settings
