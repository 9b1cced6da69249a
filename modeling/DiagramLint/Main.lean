import DiagramLint.Files.Snapshot
import DiagramLint.Program

/-!
# The command

Reads the files that a request may look at, runs the program on what they hold, and
writes what it has written to the streams of the process.
-/

namespace DiagramLint.Main

/-- The number of an error of the system; it may come with a sign. -/
def systemCode (code : UInt32) : Nat := code.toInt32.toInt.natAbs

/-- The fault that an error of the system stands for. -/
def faultOf (e : IO.Error) : IoFault :=
  match e with
  | .noFileOrDirectory .. => .notFound
  | .inappropriateType _ code _ => if systemCode code = 21 then .isDirectory else .notDirectory
  | .invalidArgument _ code _ => if systemCode code = 36 then .nameTooLong else .nulInPath
  | e => .other e.toString

/-- What reading a path gives. -/
def readPath (path : String) : IO (Except IoFault ByteArray) := do
  try
    return .ok (← IO.FS.readBinFile path)
  catch e =>
    return .error (faultOf e)

def snapshot (paths : List String) : IO Snapshot :=
  paths.mapM fun path => do return (path, ← readPath path)

/-- The directory for the configuration of the user. -/
def userDirectory : IO (Option String) := do
  match ← IO.getEnv "XDG_CONFIG_HOME" with
  | some directory =>
      if directory.startsWith "/" then return some directory
  | none => pure ()
  return (← IO.getEnv "HOME").map fun home => home ++ "/.config"

/-- The files that the words of a command line may look at. -/
def filesOf (words : List String) (directory : Option String) : IO Snapshot :=
  match Request.ofWords words with
  | .ok r => snapshot (r.paths directory)
  | .error _ => return []

def run (words : List String) : IO UInt32 := do
  let directory ← userDirectory
  let files ← filesOf words directory
  let (console, code) := program files.system directory words (.ofCapacities none none)
  let out ← IO.getStdout
  out.write console.out.received
  out.flush
  let err ← IO.getStderr
  err.write console.err.received
  err.flush
  return code.toUInt32

end DiagramLint.Main

/-- Runs the program on the words of the command line. -/
def main (words : List String) : IO UInt32 := DiagramLint.Main.run words
