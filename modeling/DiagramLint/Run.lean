import DiagramLint.Check
import DiagramLint.Diagnostic
import DiagramLint.Files.Name
import DiagramLint.Report.Console
import DiagramLint.Request
import DiagramLint.Settings.Discovery

/-!
# Runs

A run loads the settings, reads the source, checks it and writes the report behind a
heading; asked to, it goes on to write a diagnostic for every finding.  Settings come
before the source, and nothing is written until both are there (`prepare`), so a
fault in either leaves the streams untouched.  A stream that runs full is a fault
too, but what was written before stays.

A run takes what it does not do itself from a `Host`: the files, how a document is read
and how a diagnostic is shown.
-/

namespace DiagramLint

/-- What a run takes from where it runs. -/
structure Host where
  files : FileSystem
  /-- The directory for the configuration of the user, if there is one. -/
  userDirectory : Option String
  reader : Settings.DocumentReader
  renderer : Diagnostic.Renderer

/-- The settings that a run uses when this file was asked for, if one was. -/
def Host.settings (h : Host) (asked : Option String) : Except Fault Settings :=
  Settings.load h.reader h.files h.userDirectory asked

/-- The settings and the source of a run. -/
def Host.prepare (h : Host) (r : Request) : Except Fault (Settings × Text) := do
  let settings ← h.settings r.config
  let source ← (h.files.read r.input).mapError (.read r.input)
  return (settings, source)

/-- The heading of the report. -/
def heading (t : Tally) (name : String) : Record :=
  ⟨.out, "Checking " ++ toString t.diagramCount ++ " Mermaid diagrams in " ++ name ++ "\n\n"⟩

/-- The diagnostics that a request asks for. -/
def Request.diagnosed (r : Request) (t : Tally) : List Diagnostic :=
  if r.diagnostics && !t.isClean then t.diagnostics else []

/-- Writes diagnostics in order, up to the first that cannot be rendered or written. -/
def Console.deliverDiagnostics (renderer : Diagnostic.Renderer) (c : Console) (name : String)
    (source : Text) : List Diagnostic → Console × Except IoFault Unit
  | [] => (c, .ok ())
  | d :: ds =>
      match renderer name source d with
      | none => (c, .error .unrenderable)
      | some text =>
          match c.write ⟨.err, text ++ "\n"⟩ with
          | (c, .error s) => (c, .error (.full s))
          | (c, .ok ()) => c.deliverDiagnostics renderer name source ds

namespace Host

/-- Writes the report on a source, and the diagnostics that are asked for. -/
def present (h : Host) (c : Console) (r : Request) (source : Text) (t : Tally) :
    Console × Except IoFault Unit :=
  match c.deliver (heading t (fileName r.input) :: t.report) with
  | (c, .error s) => (c, .error (.full s))
  | (c, .ok ()) =>
      c.deliverDiagnostics h.renderer (fileName r.input) source (r.diagnosed t)

/-- A whole run: what was written, and the tally or the fault it ended with. -/
def run (h : Host) (r : Request) (c : Console) : Console × Except Fault Tally :=
  match h.prepare r with
  | .error fault => (c, .error fault)
  | .ok (settings, source) =>
      let tally := check settings source
      match h.present c r source tally with
      | (c, .error cause) => (c, .error (.io cause))
      | (c, .ok ()) => (c, .ok tally)

/-- The host with these files, on which documents are read and diagnostics shown as the
library does it. -/
def ofFiles (fs : FileSystem) (userDirectory : Option String) : Host :=
  ⟨fs, userDirectory, Settings.ofDocument, Diagnostic.render?⟩

end Host

/-- A whole run on some files. -/
def run (fs : FileSystem) (userDirectory : Option String) (r : Request) (c : Console) :
    Console × Except Fault Tally :=
  (Host.ofFiles fs userDirectory).run r c

end DiagramLint
