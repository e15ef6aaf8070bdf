import DocScribe.Text.Blank

/-!
# Comments on a line

`stripComments` leaves the code of a line: it cuts a `//` comment off and removes the first
`/* ... */` span that opens and closes in what is left. A `//` right after a backslash is skipped,
both slashes of it. Braces are counted in the code only.
-/

namespace DocScribe.Source

/-- The start of the first line comment, where `escaped` says that a backslash stands before the
text. A `//` after a backslash is passed over as a whole. -/
def commentStartFrom : (escaped : Bool) → Text → Option Nat
  | _, [] => none
  | _, [_] => none
  | escaped, b :: c :: s =>
    if b == Text.slash && c == Text.slash then
      if escaped then (commentStartFrom false s).map (· + 2) else some 0
    else (commentStartFrom (b == Text.backslash) (c :: s)).map (· + 1)

/-- The start of the first line comment. -/
def commentStart? (line : Text) : Option Nat :=
  commentStartFrom false line

/-- The line up to its first line comment. -/
def cutLineComment (line : Text) : Text :=
  match commentStart? line with
  | some i => line.take i
  | none => line

/-- The line without its first block comment that closes on it. -/
def cutBlockComment (line : Text) : Text :=
  match Text.cut? "/*" line with
  | none => line
  | some (before, inside) =>
    match Text.cut? "*/" inside with
    | none => line
    | some (_, after) => before ++ after

/-- The code of a line. -/
def stripComments (line : Text) : Text :=
  cutBlockComment (cutLineComment line)

/-- How often a character occurs in the line; a negative number stands for U+FFFD. -/
def countChar (line : Text) (code : Int) : Nat :=
  Text.occurrences (Text.encode (if code < 0 then Text.replacement else code.toNat)) line

/-- The opening braces of the code of a line. -/
def opens (line : Text) : Nat :=
  (stripComments line).countByte Text.openBrace

/-- The closing braces of the code of a line. -/
def closes (line : Text) : Nat :=
  (stripComments line).countByte Text.closeBrace

/-- Opening less closing braces of the code of a line. -/
def balance (line : Text) : Int :=
  (opens line : Int) - (closes line : Int)

/-- Whether the line holds a comment and nothing else: it is not blank, but its code is. -/
def isCommentOnly (line : Text) : Bool :=
  !line.isBlank && (stripComments line).isBlank

end DocScribe.Source
