import DocScribe.Fault.Basic
import DocScribe.Number.Binary64
import DocScribe.Text.Blank
import DocScribe.Text.Case
import DocScribe.Text.Quoted

/-!
# Sizes

A size is a decimal number with an optional unit, such as `500KB` or `1.5 GB`. Units are powers of
1024, and what is left of a byte is dropped.
-/

namespace DocScribe.Log

/-- The units, with the power of two of each. -/
def sizeUnits : List (Text × Nat) :=
  [("", 0), ("B", 0), ("KB", 10), ("MB", 20), ("GB", 30)]

/-- White space between a number and its unit. -/
def isUnitSpace (b : UInt8) : Bool :=
  b == 0x20 || (0x09 ≤ b && b ≤ 0x0d && b != 0x0b)

/-- The number at the head of a text, with its fraction, and the rest. Digits stand on both sides of
the point. -/
def takeAmount (s : Text) : Text × Text :=
  let whole := s.takeWhile Text.isDigitByte
  match s.dropWhile Text.isDigitByte with
  | 0x2e :: rest =>
    let places := rest.takeWhile Text.isDigitByte
    if whole.isEmpty || places.isEmpty then (whole, 0x2e :: rest)
    else (whole ++ 0x2e :: places, rest.dropWhile Text.isDigitByte)
  | rest => (whole, rest)

/-- The wording for a size that cannot be read. -/
def badSize (s : Text) : Fault :=
  .plain (("invalid size " : Text) ++ s.quoted)

/-- The size that a text names in bytes; nothing for an empty text. -/
def readSize (text : Text) : Except Fault Int :=
  let s : Text := text.trim.toUpper
  if s.isEmpty then .ok 0
  else
    let (amount, rest) := takeAmount s
    match amount.isEmpty, sizeUnits.lookup (rest.dropWhile isUnitSpace) with
    | false, some power =>
      match Number.Binary64.read amount with
      | .ok x => .ok (x.scale power).truncate
      | .error _ =>
        .error (.compound ": "
          [badSize s, .plain (("strconv.ParseFloat: parsing " : Text) ++ amount.quoted),
           .plain "value out of range"])
    | _, _ => .error (badSize s)

end DocScribe.Log
