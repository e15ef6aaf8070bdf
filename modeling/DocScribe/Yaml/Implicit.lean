import DocScribe.Number.Binary64
import DocScribe.Number.Integer

/-!
# Plain scalars that are no strings

In YAML a scalar without quotes can be null, a Boolean, a number or a timestamp. `isString` says
which texts are none of these, so that they can be written without quotes. Words and numbers that
older readers take for Booleans or for numbers of base 60 do not count as strings either.
-/

namespace DocScribe.Yaml

/-- Words that stand for null, a Boolean or a special number, and words that older readers take for
Booleans. -/
def reservedWords : List String :=
  ["", "~", "null", "Null", "NULL", "true", "True", "TRUE", "false", "False", "FALSE",
   ".nan", ".NaN", ".NAN", ".inf", ".Inf", ".INF", "+.inf", "+.Inf", "+.INF",
   "-.inf", "-.Inf", "-.INF",
   "y", "Y", "yes", "Yes", "YES", "on", "On", "ON",
   "n", "N", "no", "No", "NO", "off", "Off", "OFF"]

/-! ## Numbers -/

/-- Whether a reading succeeds. -/
def reads {ε α : Type} : Except ε α → Bool
  | .ok _ => true
  | .error _ => false

/-- Whether a text is a number in `base` with an optional sign that fits into 64 bits. -/
def isSignedIn (base : Nat) (s : Text) : Bool :=
  let (negative, digits) := Number.takeSign s
  match Number.digitsValue? base digits with
  | some n => reads (Number.withSign negative n)
  | none => false

/-- Whether a text is a number in `base` without a sign that fits into 64 bits. -/
def isUnsignedIn (base : Nat) (s : Text) : Bool :=
  match Number.digitsValue? base s with
  | some n => n < Nat.pow 2 64
  | none => false

/-- Whether a text is an integer with a mark of its base, signed or unsigned. -/
def isInteger (s : Text) : Bool :=
  reads (Number.readLiteral s) ||
    let (base, digits) := Number.takeBase s
    isUnsignedIn base digits

/-- Whether a text is an integer after the mark `mark` of its base, where the sign may come on
either side of the mark. -/
def isMarked (mark : Text) (base : Nat) (s : Text) : Bool :=
  match Text.dropStart? (0x30 :: mark) s, Text.dropStart? (0x2d :: 0x30 :: mark) s with
  | some digits, _ => isSignedIn base digits || isUnsignedIn base digits
  | none, some digits => isSignedIn base (0x2d :: digits)
  | none, none => false

/-- Whether a text is a decimal fraction that can be read. -/
def isDecimalFraction (s : Text) : Bool :=
  (s.all fun b => Text.isDigitByte b || (Text.ofString ".eE+-").contains b) &&
    reads (Number.Binary64.readNumber s)

/-- Whether a text that starts with a digit or sign is a number. -/
def isNumber (s : Text) : Bool :=
  let plain := s.filter (· != 0x5f)
  isInteger plain || isDecimalFraction plain || isMarked "b" 2 plain || isMarked "o" 8 plain

/-! ## Timestamps -/

/-- A number of one or two digits at the head of a text. -/
def takeShort? : Text → Option (Nat × Text)
  | a :: b :: s =>
    if !Text.isDigitByte a then none
    else if Text.isDigitByte b then some ((a.toNat - 0x30) * 10 + (b.toNat - 0x30), s)
    else some (a.toNat - 0x30, b :: s)
  | [a] => if Text.isDigitByte a then some (a.toNat - 0x30, []) else none
  | [] => none

/-- Such a number that is less than `bound`. -/
def takeBelow? (bound : Nat) (s : Text) : Option (Nat × Text) :=
  (takeShort? s).filter fun p => p.1 < bound

/-- How many days a month has. -/
def daysIn (year month : Nat) : Nat :=
  if month == 2 then
    if year % 4 == 0 && (year % 100 != 0 || year % 400 == 0) then 29 else 28
  else if month == 4 || month == 6 || month == 9 || month == 11 then 30
  else 31

/-- The text after a decimal fraction at its head, if there is one. -/
def dropFraction : Text → Text
  | b :: c :: s =>
    if (b == 0x2e || b == 0x2c) && Text.isDigitByte c then s.dropWhile Text.isDigitByte
    else b :: c :: s
  | s => s

/-- The text after a time of day. -/
def dropClock? (s : Text) : Option Text := do
  let (_, s) ← takeBelow? 24 s
  let (_, s) ← takeBelow? 60 (← Text.dropStart? ":" s)
  let (_, s) ← takeBelow? 60 (← Text.dropStart? ":" s)
  return dropFraction s

/-- Whether a text is the offset of a time zone. -/
def isZone (s : Text) : Bool :=
  match s with
  | [z] => z == 0x5a
  | [sign, a, b, colon, c, d] =>
    (sign == 0x2b || sign == 0x2d) && colon == 0x3a &&
      match Number.digitsValue? 10 [a, b], Number.digitsValue? 10 [c, d] with
      | some hours, some minutes => hours ≤ 24 && minutes ≤ 60
      | _, _ => false
  | _ => false

/-- Whether what follows a date makes it a timestamp: nothing, a time with its zone, or spaces and a
time. -/
def isClockSuffix : Text → Bool
  | [] => true
  | b :: s =>
    if b == 0x54 || b == 0x74 then ((dropClock? s).map isZone).getD false
    else if b == 0x20 then dropClock? (s.dropWhile (· == 0x20)) == some []
    else false

/-- Whether a text is a timestamp. -/
def isTimestamp (s : Text) : Bool :=
  let read : Option Bool := do
    let year ← Number.digitsValue? 10 (s.takeWhile Text.isDigitByte)
    let rest := s.dropWhile Text.isDigitByte
    let (month, rest) ← takeBelow? 13 (← Text.dropStart? "-" rest)
    let (day, rest) ← takeShort? (← Text.dropStart? "-" rest)
    return (s.takeWhile Text.isDigitByte).length == 4 && 1 ≤ month && 1 ≤ day
      && day ≤ daysIn year month && isClockSuffix rest
  read.getD false

/-! ## Numbers of base 60 -/

/-- Whether a text is a digit below six and a digit, or one digit. -/
def isSixtieth : Text → Bool
  | [a] => Text.isDigitByte a
  | [a, b] => 0x30 ≤ a && a ≤ 0x35 && Text.isDigitByte b
  | _ => false

/-- Whether all bytes are digits or underscores. -/
def areSpacedDigits (s : Text) : Bool :=
  s.all fun b => Text.isDigitByte b || b == 0x5f

/-- Whether a text is a number of base 60, digits and colons with an optional fraction. -/
def isSexagesimal (s : Text) : Bool :=
  let unsigned := (Number.takeSign s).2
  let (whole, fraction) := (Text.cut? "." unsigned).getD (unsigned, [])
  areSpacedDigits fraction &&
    match whole.splitOnByte 0x3a with
    | first :: part :: parts =>
      (first.head?.map Text.isDigitByte).getD false && areSpacedDigits first &&
        (part :: parts).all isSixtieth
    | _ => false

/-- Whether a text without quotes is read as a string. -/
def isString (s : Text) : Bool :=
  !(reservedWords.any fun w => s == Text.ofString w) && !isSexagesimal s &&
    match s with
    | [] => false
    | b :: _ =>
      if b == 0x2e then !reads (Number.Binary64.read s)
      else if Text.isDigitByte b || b == 0x2b || b == 0x2d then !(isTimestamp s || isNumber s)
      else true

end DocScribe.Yaml
