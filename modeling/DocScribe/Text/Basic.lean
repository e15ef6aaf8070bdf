/-!
# Texts

A text is any sequence of bytes; file contents, command-line arguments and messages need not be
valid UTF-8. This module holds the operations that look at bytes only: taking a known start or end
off, cutting at the first occurrence of a separator (`cut?`), splitting at every one (`splitOn`,
`splitOnByte`), joining and counting. Literals are strings coerced by `ofString`.
-/

namespace DocScribe

/-- A sequence of bytes. -/
abbrev Text := List UInt8

namespace Text

/-- The UTF-8 bytes of a string. -/
def ofString (s : String) : Text :=
  s.toList.flatMap String.utf8EncodeChar

instance : Coe String Text := ⟨ofString⟩

/-- Line feed. -/
@[match_pattern] abbrev lf : UInt8 := 0x0a
/-- Carriage return. -/
@[match_pattern] abbrev cr : UInt8 := 0x0d
/-- Slash. -/
@[match_pattern] abbrev slash : UInt8 := 0x2f
/-- Backslash. -/
@[match_pattern] abbrev backslash : UInt8 := 0x5c
/-- Double quote. -/
@[match_pattern] abbrev quote : UInt8 := 0x22
/-- Opening brace. -/
@[match_pattern] abbrev openBrace : UInt8 := 0x7b
/-- Closing brace. -/
@[match_pattern] abbrev closeBrace : UInt8 := 0x7d

/-- What follows `start` when the text begins with it. -/
def dropStart? : (start : Text) → Text → Option Text
  | [], s => some s
  | _ :: _, [] => none
  | b :: start, c :: s => if b == c then dropStart? start s else none

/-- Whether the text begins with `start`. -/
def startsWith (s start : Text) : Bool :=
  (dropStart? start s).isSome

/-- What precedes `tail` when the text ends with it. -/
def dropEnd? (tail s : Text) : Option Text :=
  (dropStart? tail.reverse s.reverse).map List.reverse

/-- The text without `start` at its beginning, if it is there. -/
def trimStartOf (start s : Text) : Text :=
  (dropStart? start s).getD s

/-- The text without `tail` at its end, if it is there. -/
def trimEndOf (tail s : Text) : Text :=
  (dropEnd? tail s).getD s

/-- The text before and after the first occurrence of `sep`. -/
def cut? (sep : Text) : Text → Option (Text × Text)
  | [] => if sep.isEmpty then some ([], []) else none
  | c :: s =>
    match dropStart? sep (c :: s) with
    | some rest => some ([], rest)
    | none => (cut? sep s).map fun p => (c :: p.1, p.2)

/-- Whether `sep` occurs in the text. -/
def includes (s sep : Text) : Bool :=
  (cut? sep s).isSome

/-- The pieces between the bytes equal to `sep`; never an empty list. -/
def splitOnByte (sep : UInt8) : Text → List Text
  | [] => [[]]
  | c :: s =>
    if c == sep then [] :: splitOnByte sep s
    else
      match splitOnByte sep s with
      | [] => [[c]]
      | piece :: pieces => (c :: piece) :: pieces

/-- The pieces between the leftmost non-overlapping occurrences of `sep`, after `skip` bytes. -/
def splitAfter (sep : Text) : (skip : Nat) → Text → List Text
  | _, [] => [[]]
  | skip + 1, _ :: s => splitAfter sep skip s
  | 0, c :: s =>
    if startsWith (c :: s) sep then [] :: splitAfter sep (sep.length - 1) s
    else
      match splitAfter sep 0 s with
      | [] => [[c]]
      | piece :: pieces => (c :: piece) :: pieces

/-- The pieces between the leftmost non-overlapping occurrences of `sep`, which is not empty. -/
def splitOn (sep s : Text) : List Text :=
  splitAfter sep 0 s

/-- The pieces in order with `sep` between them. -/
def join (sep : Text) : List Text → Text
  | [] => []
  | [piece] => piece
  | piece :: pieces => piece ++ sep ++ join sep pieces

/-- The text with each occurrence of `old`, which is not empty, replaced by `new`. -/
def replaceAll (old new s : Text) : Text :=
  join new (splitOn old s)

/-- How many bytes of the text equal `b`. -/
def countByte (b : UInt8) (s : Text) : Nat :=
  s.count b

/-- How often `sep` occurs in the text without overlap. -/
def occurrences (sep s : Text) : Nat :=
  (splitOn sep s).length - 1

/-- An ASCII letter, digit or underscore. -/
def isWordByte (b : UInt8) : Bool :=
  (0x30 ≤ b && b ≤ 0x39) || (0x41 ≤ b && b ≤ 0x5a) || b == 0x5f || (0x61 ≤ b && b ≤ 0x7a)

/-- An ASCII digit. -/
def isDigitByte (b : UInt8) : Bool :=
  0x30 ≤ b && b ≤ 0x39

/-- Order by bytes. -/
def lt : Text → Text → Bool
  | [], [] => false
  | [], _ :: _ => true
  | _ :: _, [] => false
  | b :: s, c :: t => b < c || (b == c && lt s t)

/-- The texts in ascending order; equal ones keep their order. -/
def sort (texts : List Text) : List Text :=
  texts.mergeSort fun s t => !lt t s

/-- The text as a string, if it is valid UTF-8. -/
def toString? (s : Text) : Option String :=
  String.fromUTF8? ⟨s.toArray⟩

end Text

end DocScribe
