import DocScribe.Source.Declaration

/-!
# Documents

A document is a list of lines without their line ends. Lines and columns are counted from zero, and
a column counts characters. `Document.upFrom` and `Document.downFrom` are the lines a scan walks
over: nearest first, none when the line is outside the document.
-/

namespace DocScribe

/-- A line and a column, both counted from zero. -/
structure Position where
  line : Int := 0
  column : Int := 0
deriving DecidableEq, Repr, Inhabited

/-- The extent of a construct, from column 0 of its declaration to the last column of the line that
closes it. -/
structure Range where
  anchor : Position := {}
  last : Position := {}
deriving DecidableEq, Repr, Inhabited

/-- The lines of a source file. -/
abbrev Document := List Text

namespace Document

/-- The lines of a text: split at line feeds, and one carriage return dropped before each. -/
def ofText (s : Text) : Document :=
  (s.splitOnByte Text.lf).map (Text.trimEndOf [Text.cr])

/-- Whether the document has this line. -/
def hasLine (d : Document) (n : Int) : Bool :=
  0 ≤ n && n < d.length

/-- The text of a line, empty outside the document. -/
def lineText (d : Document) (n : Int) : Text :=
  if n < 0 then [] else d.getD n.toNat []

/-- The lines from line `n` up to the first, nearest first. -/
def upFrom (d : Document) (n : Int) : List Text :=
  if d.hasLine n then (d.take (n.toNat + 1)).reverse else []

/-- The lines from line `n` down to the last. -/
def downFrom (d : Document) (n : Int) : List Text :=
  if d.hasLine n then d.drop n.toNat else []

end Document

/-- The column of the last character of a line, 0 for an empty one. -/
def lastColumn (line : Text) : Nat :=
  line.glyphCount - 1

end DocScribe
