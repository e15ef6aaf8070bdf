import DocScribe.FileSystem.Basic
import DocScribe.Scan.Target

/-!
# Buffers

A buffer is a source file held as editable lines. It remembers how its lines end, so that writing it
back leaves line ends as they were, and the file it came from. Saving writes a file beside the
target and renames it, so that the target is never half written.
-/

namespace DocScribe

/-- How lines end. -/
inductive LineEnd where
  | lf
  | crlf
deriving DecidableEq, Repr, Inhabited

/-- The bytes of a line end. -/
def LineEnd.text : LineEnd → Text
  | .lf => [Text.lf]
  | .crlf => [Text.cr, Text.lf]

/-- A source file as lines. -/
structure Buffer where
  lines : Document
  lineEnd : LineEnd := .lf
  /-- The file the buffer was loaded from or saved to, empty if there is none. -/
  path : Text := []
deriving DecidableEq, Repr, Inhabited

namespace Buffer

/-- A buffer over a text. Its lines end in CR LF if any line of the text does. -/
def ofText (s : Text) : Buffer :=
  { lines := Document.ofText s
    lineEnd := if s.includes [Text.cr, Text.lf] then .crlf else .lf }

/-- The whole text. -/
def text (b : Buffer) : Text :=
  Text.join b.lineEnd.text b.lines

/-- The number in the closed interval that is nearest to `n`. -/
def clamp (n low high : Int) : Int :=
  if n < low then low else if high < n then high else n

/-- The part of line `n` that a range covers, with a line feed unless it is the last. -/
def lineInRange (range : Range) (n : Nat) (line : Text) : Text :=
  let glyphs := line.glyphs
  let size : Int := glyphs.length
  let first := if n == range.anchor.line then clamp range.anchor.column 0 size else 0
  let last :=
    if n == range.last.line then clamp (Number.wrap (range.last.column + 1)) first size else size
  let covered := (glyphs.take last.toNat).drop first.toNat
  covered.flatMap Text.Glyph.repaired ++ (if n == range.last.line then [] else [Text.lf])

/-- The lines of a range, where the first of `lines` has number `n`. -/
def linesInRange (range : Range) : (n : Nat) → (lines : List Text) → Text
  | _, [] => []
  | n, line :: lines =>
    let rest := linesInRange range (n + 1) lines
    if range.anchor.line ≤ n && n ≤ range.last.line then lineInRange range n line ++ rest else rest

/-- The text that a range covers, the character at its end included. Columns are moved into their
line. -/
def textIn (b : Buffer) (range : Range) : Text :=
  linesInRange range 0 b.lines

/-- Reads a file into a buffer. -/
def load (fs : FileSystem) (path : Text) : Except Fault Buffer :=
  match fs.readFile path with
  | .ok content => .ok { ofText content with path }
  | .error f => .error (.wrap (("failed to read " : Text) ++ path) f)

/-- Writes the buffer to a file, and says how the file system is left. -/
def saveAs (b : Buffer) (fs : FileSystem) (path : Text) : FileSystem × Except Fault Buffer :=
  let draft := path ++ (".tmp" : Text)
  match fs.writeFile draft b.text with
  | .error f => (fs, .error (.wrap (("failed to write " : Text) ++ path) f))
  | .ok written =>
    match written.rename draft path with
    | .ok renamed => (renamed, .ok { b with path })
    | .error f =>
      let left :=
        match written.remove draft with
        | .ok removed => removed
        | .error _ => written
      (left, .error (.wrap (("failed to rename " : Text) ++ draft) f))

/-- Writes the buffer back to the file it came from. -/
def save (b : Buffer) (fs : FileSystem) : FileSystem × Except Fault Buffer :=
  if b.path.isEmpty then (fs, .error (.plain "buffer has no file path"))
  else b.saveAs fs b.path

end Buffer

end DocScribe
