import DiagramLint.Run

/-!
# The program

The whole program as a function: from the words of the command line and the state of
the files to what is written and the exit code.  The code is 0 for a clean run and
for help and version, 1 for a run with findings, and 2 when a fault or a wrong
command line prevents a run.

Not everything that is said on the error stream has to be taken by it.  The log drops what
is not, and so does a refusal; but the program is cut short, without an exit code of its own,
when there is no room for the notice on a level of the log that does not exist, or for a
fault while the log is off.
-/

namespace DiagramLint

def versionText : String := "sextant-cli 0.1.0\n"

def usageText : String := "Usage: sextant [OPTIONS] [INPUT]\n"

def helpText : String :=
  String.join
    ["Command-line interface for checking Mermaid diagrams in content sources\n",
      "\n",
      usageText,
      "\n",
      "Arguments:\n",
      "  [INPUT]  Path to the content source containing diagram literals " ++
        "[default: src/data/phases.ts]\n",
      "\n",
      "Options:\n",
      "  -c, --config <CONFIG>        Path to configuration file (TOML)\n",
      "      --log-level <LOG_LEVEL>  Log level (off, error, warn, info, debug, trace) " ++
        "[default: warn]\n",
      "  -d, --diagnostics            Render every finding with an annotated snippet of the " ++
        "source\n",
      "  -h, --help                   Print help\n",
      "  -V, --version                Print version\n"]

/-- What is written for a command line that is no request. -/
def Refusal.record : Refusal → Record
  | help => ⟨.out, helpText⟩
  | version => ⟨.out, versionText⟩
  | usage e => ⟨.err, "error: " ++ e.message ++ "\n\n" ++ usageText⟩

/-- The levels of the log, in lower case. -/
def logLevels : List String := ["off", "error", "warn", "info", "debug", "trace"]

/-- Whether a level of the log has this name; case does not count. -/
def isLogLevel (name : String) : Bool := (name.map Char.toLower) ∈ logLevels

/-- Whether the log is off; a level that does not exist leaves it on. -/
def isLogOff (name : String) : Bool := name.map Char.toLower = "off"

/-- The notice on a level that does not exist. -/
def logNotice (r : Request) : List Record :=
  if isLogLevel r.logLevel then []
  else [⟨.err, "Invalid log level: " ++ r.logLevel ++ ". Using 'warn' instead.\n"⟩]

/-- What is written for a fault: a diagnostic, or its bare message when that cannot be
shown. -/
def Fault.record (renderer : Diagnostic.Renderer) (f : Fault) : Record :=
  ⟨.err, (renderer "" [] (.fault f)).getD f.message ++ "\n"⟩

/-- Runs a request: what was written, and the exit code unless it was cut short. -/
def Host.execute (h : Host) (r : Request) (c : Console) : Console × Option Nat :=
  match c.deliver (logNotice r) with
  | (c, .error _) => (c, none)
  | (c, .ok ()) =>
      match h.run r c with
      | (c, .ok tally) => (c, some tally.exitCode)
      | (c, .error fault) =>
          match c.deliver [fault.record h.renderer] with
          | (c, .ok ()) => (c, some faultExitCode)
          | (c, .error _) => (c, if isLogOff r.logLevel then none else some faultExitCode)

/-- The program on a host: what was written, and the exit code unless it was cut short. -/
def Host.program (h : Host) (words : List String) (c : Console) : Console × Option Nat :=
  match Request.ofWords words with
  | .ok r => h.execute r c
  | .error refusal => ((c.deliver [refusal.record]).1, some refusal.exitCode)

/-- The exit code that is seen of a program that was cut short. -/
def abortExitCode : Nat := 134

/-- The program on some files. -/
def program (fs : FileSystem) (userDirectory : Option String) (words : List String)
    (c : Console) : Console × Nat :=
  ((Host.ofFiles fs userDirectory).program words c).map id fun code => code.getD abortExitCode

end DiagramLint
