import DocScribe.Text.Glyph
import DocScribe.Yaml.Implicit

/-!
# Scalars

A text is written without quotes where it can be, else in single quotes, else in double quotes with
escapes; a text with line feeds is written as a literal block if its lines allow it. A text that is
not valid UTF-8 is written as binary data.
-/

namespace DocScribe.Yaml

/-- Whether a character can be written as it is. -/
def isPrintable (code : Nat) : Bool :=
  code == 0x0a || (0x20 ≤ code && code ≤ 0x7e) || (0xa0 ≤ code && code ≤ 0xd7ff) ||
    (0xe000 ≤ code && code ≤ 0xfffd && code != 0xfeff)

/-- Whether a character breaks lines. -/
def isBreak (code : Nat) : Bool :=
  code == 0x0a || code == 0x0d || code == 0x85 || code == 0x2028 || code == 0x2029

/-- Space or tab. -/
def isGap (code : Nat) : Bool :=
  code == 0x20 || code == 0x09

/-- Characters that a plain scalar cannot start with. -/
def leadIndicators : Text := "#,[]\x7b\x7d&*!|>'\"%@\x60"

/-- Whether some neighbours in the list satisfy `p`. -/
def anyNeighbours (p : Nat → Nat → Bool) : List Nat → Bool
  | a :: b :: codes => p a b || anyNeighbours p (b :: codes)
  | _ => false

/-- Whether a gap or the end comes first. -/
def gapFollows : List Nat → Bool
  | [] => true
  | code :: _ => isGap code

/-- Whether a colon before a gap, or a comment mark after one, stands among the characters, where
`before` is the character before them. -/
def hasInnerIndicator : (before : Nat) → List Nat → Bool
  | _, [] => false
  | before, code :: codes =>
    (code == 0x3a && gapFollows codes) ||
      (code == 0x23 && (isGap before || isBreak before || before == 0)) ||
      hasInnerIndicator code codes

/-- Whether the characters of a text have a meaning of their own in a plain scalar. -/
def hasIndicator (s : Text) : Bool :=
  s.startsWith "---" || s.startsWith "..." ||
    match s.glyphs.map Text.Glyph.code with
    | [] => false
    | code :: codes =>
      leadIndicators.any (fun b => b.toNat == code) ||
        ((code == 0x3f || code == 0x3a || code == 0x2d) && gapFollows codes) ||
        hasInnerIndicator code codes

/-- What the style of a scalar depends on. -/
structure Traits where
  /-- Has a character that must be escaped; a tab does not count. -/
  special : Bool
  tab : Bool
  breaks : Bool
  spaceThenBreak : Bool
  breakThenSpace : Bool
  /-- Starts or ends with a space or a line break. -/
  ragged : Bool
  endsWithSpace : Bool
  indicator : Bool

/-- The traits of a text. -/
def Traits.of (s : Text) : Traits :=
  let codes := s.glyphs.map Text.Glyph.code
  let isEdge (code : Option Nat) : Bool := (code.map fun c => c == 0x20 || isBreak c).getD false
  { special := codes.any fun c => c != 0x09 && !isPrintable c
    tab := codes.contains 0x09
    breaks := codes.any isBreak
    spaceThenBreak := anyNeighbours (fun a b => a == 0x20 && isBreak b) codes
    breakThenSpace := anyNeighbours (fun a b => isBreak a && b == 0x20) codes
    ragged := isEdge codes.head? || isEdge codes.getLast?
    endsWithSpace := codes.getLast? == some 0x20
    indicator := hasIndicator s }

namespace Traits

/-- Whether single quotes are enough. -/
def allowsSingle (t : Traits) : Bool :=
  !(t.special || t.tab || t.spaceThenBreak || t.breakThenSpace)

/-- Whether no quotes are needed. -/
def allowsPlain (t : Traits) : Bool :=
  t.allowsSingle && !t.ragged && !t.breaks && !t.indicator

/-- Whether the text can be a literal block. -/
def allowsLiteral (t : Traits) : Bool :=
  !(t.special || t.spaceThenBreak || t.endsWithSpace)

end Traits

/-- How a scalar is written. -/
inductive Style where
  | plain
  | single
  | double
  | literal
deriving DecidableEq, Repr

/-- The style of a text; `bare` says whether it would be read as intended without quotes. -/
def styleOf (bare : Bool) (s : Text) : Style :=
  let traits := Traits.of s
  if s.contains Text.lf then if traits.allowsLiteral then .literal else .double
  else if !bare then .double
  else if traits.allowsPlain then .plain
  else if traits.allowsSingle then .single
  else .double

/-! ## The styles -/

/-- Spaces. -/
def spaces (n : Nat) : Text :=
  List.replicate n 0x20

/-- A text whose lines, which end at any line break, are indented; empty ones are not. `fresh` says
whether a line starts here. -/
def indentLines (indent : Nat) : (fresh : Bool) → List Text.Glyph → Text
  | _, [] => []
  | fresh, g :: gs =>
    if isBreak g.code then g.bytes ++ indentLines indent true gs
    else (if fresh then spaces indent else []) ++ g.bytes ++ indentLines indent false gs

/-- In single quotes, which are doubled inside. -/
def singleQuoted (indent : Nat) (s : Text) : Text :=
  let body := indentLines indent false s.glyphs
  0x27 :: (body.flatMap fun b => if b == 0x27 then [b, b] else [b]) ++ [0x27]

/-- The letter of a short escape. -/
def shortEscape? (code : Nat) : Option UInt8 :=
  [(0x00, 0x30), (0x07, 0x61), (0x08, 0x62), (0x09, 0x74), (0x0a, 0x6e), (0x0b, 0x76), (0x0c, 0x66),
   (0x0d, 0x72), (0x1b, 0x65), (0x22, 0x22), (0x5c, 0x5c), (0x85, 0x4e), (0x2028, 0x4c),
   (0x2029, 0x50)].lookup code

/-- One character between double quotes. -/
def escapeGlyph (g : Text.Glyph) : Text :=
  match shortEscape? g.code with
  | some letter => [Text.backslash, letter]
  | none =>
    let digits (mark : UInt8) (width : Nat) : Text :=
      Text.backslash :: mark :: (Number.hex width g.code).map
        fun b => if 0x61 ≤ b && b ≤ 0x66 then b - 0x20 else b
    if isPrintable g.code then g.bytes
    else if g.code ≤ 0xff then digits 0x78 2
    else if g.code ≤ 0xffff then digits 0x75 4
    else digits 0x55 8

/-- In double quotes. -/
def doubleQuoted (s : Text) : Text :=
  Text.quote :: s.glyphs.flatMap escapeGlyph ++ [Text.quote]

/-- The columns of one level. -/
def step : Nat := 4

/-- The mark of a literal block: an indentation hint where the first line does not show it, and what
becomes of line breaks at the end. -/
def literalMark (s : Text) : Text :=
  let codes := s.glyphs.map Text.Glyph.code
  let isEdge (code : Nat) : Bool := code == 0x20 || isBreak code
  let hint : Text := if (codes.head?.map isEdge).getD false then Number.decimal step else ""
  let chomp : Text :=
    match codes.reverse with
    | [] => "-"
    | [last] => if isBreak last then "+" else "-"
    | last :: next :: _ => if !isBreak last then "-" else if isBreak next then "+" else ""
  0x7c :: hint ++ chomp

/-- A literal block. The line feed at its end is the one that ends any scalar, and a line feed at
its start takes the place of the one after the mark. -/
def literalBlock (indent : Nat) (s : Text) : Text :=
  let body := Text.trimEndOf [Text.lf] (indentLines indent true s.glyphs)
  let startsWithBreak := (s.glyphs.head?.map fun g => isBreak g.code).getD false
  literalMark s ++ (if startsWithBreak then body else Text.lf :: body)

/-- A text in a style, where the lines of a block stand at column `indent`. -/
def styled (indent : Nat) (s : Text) : Style → Text
  | .plain => s
  | .single => singleQuoted indent s
  | .double => doubleQuoted s
  | .literal => literalBlock indent s

/-! ## Binary data -/

/-- The digit of six bits. -/
def sixBitDigit (n : Nat) : UInt8 :=
  ((Text.ofString "ABCDEFGHIJKLMNOPQRSTUVWXYZabcdefghijklmnopqrstuvwxyz0123456789+/")[n]?).getD 0x3d

/-- Bytes as digits of six bits, four for three bytes. -/
def sixBitDigits : Text → Text
  | a :: b :: c :: s =>
    let n := a.toNat * 65536 + b.toNat * 256 + c.toNat
    sixBitDigit (n / 262144) :: sixBitDigit (n / 4096 % 64) :: sixBitDigit (n / 64 % 64) ::
      sixBitDigit (n % 64) :: sixBitDigits s
  | [a, b] =>
    let n := a.toNat * 256 + b.toNat
    [sixBitDigit (n / 1024), sixBitDigit (n / 16 % 64), sixBitDigit (n % 16 * 4), 0x3d]
  | [a] => [sixBitDigit (a.toNat / 4), sixBitDigit (a.toNat % 4 * 16), 0x3d, 0x3d]
  | [] => []

/-- The text in pieces of at most `width` bytes. -/
def piecesOf (width : Nat) : (fuel : Nat) → Text → List Text
  | 0, _ => []
  | _ + 1, [] => []
  | fuel + 1, s => s.take width :: piecesOf width fuel (s.drop width)

/-- The digits of binary data, on lines of their own if there are many. -/
def binaryDigits (s : Text) : Text :=
  let digits := sixBitDigits s
  if digits.length < 70 then digits
  else (piecesOf 70 digits.length digits).flatMap fun piece => piece ++ [Text.lf]

/-- The tag of binary data. -/
def binaryTag : Text := "!!binary"

/-- A text as a scalar, where the lines of a block stand at column `indent`. -/
def scalar (indent : Nat) (s : Text) : Text :=
  if s.isUtf8 then styled indent s (styleOf (isString s) s)
  else
    let digits := binaryDigits s
    binaryTag ++ 0x20 :: styled indent digits (styleOf true digits)

/-- Whether a text can be the key of an entry on one line. -/
def isSimpleKey (s : Text) : Bool :=
  if s.isUtf8 then s.length ≤ 128 && !(s.glyphs.any fun g => isBreak g.code)
  else binaryTag.length + (binaryDigits s).length ≤ 128 && !(binaryDigits s).contains Text.lf

end DocScribe.Yaml
