import DocScribe.Buffer.Basic

/-!
# Inserting a doc comment

A doc comment is placed directly above a declaration. The lines right above that hold a comment and
nothing else are replaced; a blank line or a line with code ends them.
-/

namespace DocScribe.Buffer

open Source

/-- The lines of a comment, where a line feed at its end does not count. -/
def commentLines (comment : Text) : List Text :=
  let s := Text.trimEndOf [Text.lf] (Text.replaceAll [Text.cr, Text.lf] [Text.lf] comment)
  if s.isEmpty then [] else s.splitOnByte Text.lf

/-- How many lines directly above line `n` hold a comment and nothing else. -/
def commentsAbove (lines : Document) (n : Nat) : Nat :=
  ((lines.take n).reverse.takeWhile isCommentOnly).length

/-- A line that the buffer does not have. -/
structure LineOutOfRange where
  line : Int
  count : Nat
deriving DecidableEq, Repr

/-- The wording of the problem. -/
def LineOutOfRange.message (e : LineOutOfRange) : Text :=
  ("line " : Text) ++ Number.signed e.line ++ (" out of range (0-" : Text) ++
    Number.signed ((e.count : Int) - 1) ++ (")" : Text)

/-- Places a comment above a line, and says how many lines it replaced. -/
def insertComment (b : Buffer) (line : Int) (comment : Text) :
    Except LineOutOfRange (Nat × Buffer) :=
  if b.lines.hasLine line then
    let n := line.toNat
    let removed := commentsAbove b.lines n
    .ok (removed,
      { b with
        lines := b.lines.take (n - removed) ++ commentLines comment ++ b.lines.drop n })
  else .error ⟨line, b.lines.length⟩

end DocScribe.Buffer
