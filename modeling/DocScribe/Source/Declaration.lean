import DocScribe.Source.Comment
import DocScribe.Source.Kind
import DocScribe.Text.Letter

/-!
# Declarations

What a line of code declares, and the name it gives. A function, structure, trait or macro is its
keyword as a word of its own followed by a name of ASCII word characters (`keywordName?`). An impl
block opens the line (`implHeader?`); it implements a trait when the word `for` follows, and its
name is the last segment of the path after its generic parameters (`pathName`). `classify` tries the
forms in a fixed order, impl blocks first.
-/

namespace DocScribe.Source

/-- White space that separates words on a line. -/
def isGap (b : UInt8) : Bool :=
  b == 0x20 || (0x09 ≤ b && b ≤ 0x0d && b != 0x0b)

/-- The word characters at the head of the text, if there are any. -/
def takeWord? (s : Text) : Option Text :=
  let word := s.takeWhile Text.isWordByte
  if word.isEmpty then none else some word

/-- The name after `keyword` at the head of the text; `gap` says that white space must stand
between them. -/
def nameAfter? (keyword : Text) (gap : Bool) (s : Text) : Option Text :=
  match Text.dropStart? keyword s with
  | none => none
  | some rest =>
    let name := rest.dropWhile isGap
    if gap && name.length == rest.length then none else takeWord? name

/-- The name after the first `keyword` that stands at the start, which `first` marks, or after white
space. -/
def keywordNameFrom? (keyword : Text) (gap : Bool) : (first : Bool) → Text → Option Text
  | _, [] => none
  | first, b :: s =>
    match if first then nameAfter? keyword gap (b :: s) else none with
    | some name => some name
    | none => keywordNameFrom? keyword gap (isGap b) s

/-- The name after the first `keyword` that starts a word of the line. -/
def keywordName? (keyword : Text) (gap : Bool) (line : Text) : Option Text :=
  keywordNameFrom? keyword gap true line

/-- The name of a declared function. -/
def functionName? (line : Text) : Option Text :=
  keywordName? "fn" true line

/-- The name of a declared structure. -/
def structName? (line : Text) : Option Text :=
  keywordName? "struct" true line

/-- The name of a declared trait. -/
def traitName? (line : Text) : Option Text :=
  keywordName? "trait" true line

/-- The name of a declared macro. -/
def macroName? (line : Text) : Option Text :=
  keywordName? "macro_rules!" false line

/-- The text after an optional `unsafe` and its white space. -/
def dropUnsafe (s : Text) : Text :=
  match Text.dropStart? "unsafe" s with
  | some rest =>
    let word := rest.dropWhile isGap
    if word.length == rest.length then s else word
  | none => s

/-- What follows the keyword of an impl block up to the end of the line; it is not empty and does
not continue the keyword. -/
def implHeader? (line : Text) : Option Text :=
  match Text.dropStart? "impl" (dropUnsafe (line.dropWhile isGap)) with
  | some (b :: rest) =>
    if Text.isWordByte b || b == Text.lf then none
    else some ((b :: rest).takeWhile (· != Text.lf))
  | _ => none

/-- What precedes the first word `for`, where `inWord` says that a word character stands before the
text. -/
def beforeForIn? : (inWord : Bool) → Text → Option Text
  | _, [] => none
  | inWord, b :: s =>
    let found :=
      match inWord, Text.dropStart? "for" (b :: s) with
      | false, some [] => true
      | false, some (c :: _) => !Text.isWordByte c
      | _, _ => false
    if found then some []
    else (beforeForIn? (Text.isWordByte b) s).map (b :: ·)

/-- What precedes the first word `for` of an impl header. -/
def beforeFor? (header : Text) : Option Text :=
  beforeForIn? false header

/-- What follows the list of generic parameters at the head of the text, where `depth` brackets are
open and `arrow` says that a dash stands before the text. The bracket of an arrow closes nothing,
and a list that never closes leaves nothing. -/
def afterGenerics : (depth : Nat) → (arrow : Bool) → Text → Text
  | _, _, [] => []
  | depth, arrow, b :: s =>
    if b == 0x3c then afterGenerics (depth + 1) false s
    else if b == 0x3e && !arrow then
      if depth ≤ 1 then s else afterGenerics (depth - 1) false s
    else afterGenerics depth (b == 0x2d) s

/-- A character of a path. -/
def isPathChar (code : Nat) : Bool :=
  code == 0x3a || code == 0x5f || Text.isLetter code || Text.isDigit code

/-- Whether characters may continue an identifier. -/
def continuesIdent (g : Text.Glyph) : Bool :=
  g.code == 0x5f || Text.isLetter g.code || Text.isDigit g.code

/-- Whether a character may start an identifier. -/
def startsIdent (g : Text.Glyph) : Bool :=
  g.code == 0x5f || Text.isLetter g.code

/-- Whether the text is an identifier: letters, digits and underscores, no digit first. -/
def isIdent (s : Text) : Bool :=
  match s.glyphs with
  | [] => false
  | g :: gs => startsIdent g && gs.all continuesIdent

/-- The last segment of a path that is not empty, if it is an identifier; `segments` are in reverse
order. -/
def lastSegment : (segments : List Text) → Text
  | [] => []
  | segment :: segments =>
    if isIdent segment then segment
    else if segment.isEmpty then lastSegment segments
    else []

/-- The text without a list of generic parameters at its head. -/
def dropGenerics (s : Text) : Text :=
  match s with
  | 0x3c :: _ => (afterGenerics 0 false s).trim
  | _ => s

/-- The type or trait that an impl header names, empty if there is no usable name. -/
def pathName (header : Text) : Text :=
  let s := dropGenerics header.trim
  let s := (Text.trimStartOf "dyn " (Text.trimStartOf "!" s)).trim
  lastSegment (Text.splitOn "::" (s.takeGlyphs isPathChar)).reverse

/-- The construct that a line declares. -/
def classify (line : Text) : Kind :=
  match implHeader? line with
  | some header => if (beforeFor? header).isSome then .traitImpl else .structImpl
  | none =>
    if (functionName? line).isSome then .function
    else if (structName? line).isSome then .struct
    else if (traitName? line).isSome then .trait
    else if (macroName? line).isSome then .macroRules
    else .unknown

/-- The name that a line gives to a construct of the kind, empty if there is none. -/
def extractName (line : Text) : Kind → Text
  | .structImpl =>
    match implHeader? line with
    | some header => if (beforeFor? header).isSome then [] else pathName header
    | none => []
  | .traitImpl =>
    match (implHeader? line).bind beforeFor? with
    | some before => pathName before
    | none => []
  | .function => (functionName? line).getD []
  | .struct => (structName? line).getD []
  | .trait => (traitName? line).getD []
  | .macroRules => (macroName? line).getD []
  | .unknown => []

/-- The construct that the code of a line declares. -/
def codeKind (line : Text) : Kind :=
  classify (stripComments line)

/-- The name that the code of a line gives to a construct of the kind. -/
def codeName (line : Text) (kind : Kind) : Text :=
  extractName (stripComments line) kind

end DocScribe.Source
