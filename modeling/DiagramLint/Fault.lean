import DiagramLint.Report.Record

/-!
# Faults

A fault stops a run before it is complete: a stream that cannot be written, a file
that cannot be read, or a configuration that cannot be used.  Defects of diagrams
are findings and no faults.
-/

namespace DiagramLint

/-- Why a file cannot be read or a stream cannot be written. -/
inductive IoFault where
  | notFound
  | isDirectory
  | notDirectory
  | nameTooLong
  /-- The path has a character that no path can have. -/
  | nulInPath
  | notUtf8
  /-- The stream takes no more bytes. -/
  | full (stream : Stream)
  | unrenderable
  /-- Any other reason, in words. -/
  | other (message : String)
  deriving DecidableEq, Repr

def Stream.name : Stream → String
  | out => "out"
  | err => "err"

def IoFault.message : IoFault → String
  | notFound => "No such file or directory (os error 2)"
  | isDirectory => "Is a directory (os error 21)"
  | notDirectory => "Not a directory (os error 20)"
  | nameTooLong => "File name too long (os error 36)"
  | nulInPath => "file name contained an unexpected NUL byte"
  | notUtf8 => "stream did not contain valid UTF-8"
  | full stream => stream.name ++ " is full"
  | unrenderable => "an error occurred when formatting an argument"
  | other message => message

/-- Why a configuration cannot be used. -/
inductive ConfigFault where
  /-- The text is no document, or not one with settings. -/
  | unreadable (detail : String)
  | missingFile (path : String)
  | rejected (reason : String)
  /-- Any other reason, in words. -/
  | other (reason : String)
  deriving DecidableEq, Repr

def ConfigFault.message : ConfigFault → String
  | unreadable detail => "Failed to parse TOML configuration: " ++ detail
  | missingFile path => "Missing configuration file: " ++ path
  | rejected reason => "Validation error: " ++ reason
  | other reason => reason

/-- Why a run was stopped. -/
inductive Fault where
  | io (cause : IoFault)
  | read (path : String) (cause : IoFault)
  | config (cause : ConfigFault)
  deriving DecidableEq, Repr

namespace Fault

def message : Fault → String
  | io cause => "I/O error: " ++ cause.message
  | read path cause => "Failed to read " ++ path ++ ": " ++ cause.message
  | config cause => "Configuration error: " ++ cause.message

def code : Fault → String
  | io _ => "sextant::io"
  | read _ _ => "sextant::read"
  | config _ => "sextant::config"

def help : Fault → Option String
  | io _ => none
  | read _ _ => some "check that the path exists and is readable"
  | config _ => some "check the configuration file, or pass another one with --config"

/-- What the system said, where it was asked. -/
def source : Fault → Option String
  | io cause => some cause.message
  | read _ cause => some cause.message
  | config _ => none

end Fault

/-- The exit code of a run that a fault stopped. -/
def faultExitCode : Nat := 2

end DiagramLint
