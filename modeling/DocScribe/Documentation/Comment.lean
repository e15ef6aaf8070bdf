import DocScribe.Text.Blank

/-!
# Doc comments from free text

`formatComment` turns what a generator wrote into doc comment lines at an indentation. The text is
cut at `///` markers and at line ends, every piece is trimmed, empty pieces at both ends are
dropped, and each piece becomes one line.
-/

namespace DocScribe.Documentation

/-- The trimmed lines of a part between two markers, one empty piece for a blank part. -/
def partPieces (part : Text) : List Text :=
  let s := part.trim
  if s.isEmpty then [[]] else (s.splitOnByte Text.lf).map Text.trim

/-- The pieces of a text, empty ones at both ends left out. -/
def commentPieces (s : Text) : List Text :=
  let parts := Text.splitOn "///" (Text.replaceAll [Text.cr, Text.lf] [Text.lf] s)
  let pieces := parts.flatMap partPieces
  ((pieces.dropWhile List.isEmpty).reverse.dropWhile List.isEmpty).reverse

/-- The doc comment line of a piece. -/
def pieceLine (indent piece : Text) : Text :=
  if piece.isEmpty then indent ++ ("///\n" : Text)
  else indent ++ ("/// " : Text) ++ piece ++ [Text.lf]

/-- The text as doc comment lines; empty if nothing is left of it. -/
def formatComment (indent s : Text) : Text :=
  (commentPieces s).flatMap (pieceLine indent)

end DocScribe.Documentation
