import DiagramLint.Fault

/-!
# Files

What a run needs of the files: whether there is something at a path, and the text of
the file at a path, or why it cannot be had.  Bytes that are no UTF-8 are no text.
-/

namespace DiagramLint

/-- The state of the files during a run. -/
structure FileSystem where
  /-- Whether there is a file or a directory at a path. -/
  present : String → Bool
  read : String → Except IoFault Text

/-- The text that some bytes encode. -/
def decodeText (bytes : ByteArray) : Except IoFault Text :=
  match String.fromUTF8? bytes with
  | some s => .ok s.toList
  | none => .error .notUtf8

end DiagramLint
