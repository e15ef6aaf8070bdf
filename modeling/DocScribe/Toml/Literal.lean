import DocScribe.Number.Binary64
import DocScribe.Toml.Basic

/-!
# Literals of TOML

Numbers and moments. An integer fits in 64 bits, and a number with a fraction or an exponent in the
range of floating point; digits may be set off by single underscores between digits. A moment is a
date, a time of day, or a date and a time with or without an offset. `isLiteral` tells the literals
that stand for one of them from the malformed ones.
-/

namespace DocScribe.Toml

/-- Which writings are read. -/
structure Dialect where
  /-- Line breaks, comments and a last comma in inline tables, `\x` escapes, and times without
  seconds. -/
  relaxed : Bool
  /-- Whether a byte order mark may stand at the start. -/
  marked : Bool
  /-- Whether six quotes close a string of several lines after an escaped backslash, three of them
  being part of the string. -/
  sixQuotes : Bool
  /-- The seconds of a time are below this. -/
  secondLimit : Nat
  /-- The hours of an offset are below this. -/
  offsetHourLimit : Nat
  /-- The minutes of an offset are below this. -/
  offsetMinuteLimit : Nat

/-- Digits with underscores only between two of them. -/
def digitsFit (isDigit : UInt8 → Bool) : (afterDigit : Bool) → Text → Bool
  | afterDigit, [] => afterDigit
  | afterDigit, b :: s =>
    if b == 0x5f then afterDigit && digitsFit isDigit false s
    else isDigit b && digitsFit isDigit true s

/-- Digits of the base, with underscores between them. -/
def areDigits (base : Nat) (s : Text) : Bool :=
  digitsFit (fun b => (Number.digitsValue? base [b]).isSome) false s

/-- The text without a sign. -/
def dropSign : Text → Text
  | 0x2b :: s => s
  | 0x2d :: s => s
  | s => s

/-- A whole number without needless zeros. -/
def isWhole (s : Text) : Bool :=
  s == [0x30] || (areDigits 10 s && s.head? != some 0x30)

/-- The value of digits that fit. -/
def valueOf (base : Nat) (s : Text) : Nat :=
  (Number.digitsValue? base (s.filter (· != 0x5f))).getD 0

/-- An integer of 64 bits. -/
def isInteger (s : Text) : Bool :=
  match s with
  | 0x30 :: 0x78 :: digits => areDigits 16 digits && valueOf 16 digits < Nat.pow 2 63
  | 0x30 :: 0x6f :: digits => areDigits 8 digits && valueOf 8 digits < Nat.pow 2 63
  | 0x30 :: 0x62 :: digits => areDigits 2 digits && valueOf 2 digits < Nat.pow 2 63
  | 0x2d :: digits => isWhole digits && valueOf 10 digits ≤ Nat.pow 2 63
  | _ => isWhole (dropSign s) && valueOf 10 (dropSign s) < Nat.pow 2 63

/-- A whole number, perhaps with a fraction. -/
def isMantissa (s : Text) : Bool :=
  match Text.cut? "." s with
  | none => isWhole s
  | some (whole, fraction) => isWhole whole && areDigits 10 fraction

/-- A number with a fraction, an exponent or both. -/
def isScientific (s : Text) : Bool :=
  match Text.splitOnByte 0x65 (s.map fun b => if b == 0x45 then 0x65 else b) with
  | [mantissa] => isMantissa mantissa && mantissa.contains 0x2e
  | [mantissa, exponent] => isMantissa mantissa && areDigits 10 (dropSign exponent)
  | _ => false

/-- A floating-point number in range, or one of the special values. -/
def isFloat (s : Text) : Bool :=
  let body := dropSign s
  if body == ("inf" : Text) || body == ("nan" : Text) then true
  else isScientific body && (Number.Binary64.read (body.filter (· != 0x5f))).toBool

/-- The number that exactly `width` digits stand for. -/
def fixedDigits? (width : Nat) (s : Text) : Option Nat :=
  if s.length == width then Number.digitsValue? 10 s else none

/-- The days of a month. -/
def daysIn (year month : Nat) : Nat :=
  if month == 2 then
    if year % 4 == 0 && (year % 100 != 0 || year % 400 == 0) then 29 else 28
  else if month == 4 || month == 6 || month == 9 || month == 11 then 30
  else 31

/-- A day of the calendar, as `2021-12-31`. -/
def isDate (s : Text) : Bool :=
  match (Text.splitOnByte 0x2d s) with
  | [y, m, d] =>
    match fixedDigits? 4 y, fixedDigits? 2 m, fixedDigits? 2 d with
    | some year, some month, some day =>
      1 ≤ month && month ≤ 12 && 1 ≤ day && day ≤ daysIn year month
    | _, _, _ => false
  | _ => false

/-- Two digits below a limit. -/
def isBelow (limit : Nat) (s : Text) : Bool :=
  match fixedDigits? 2 s with
  | some n => n < limit
  | none => false

/-- A time of day, as `23:59:59` and perhaps a fraction. -/
def isTime (dialect : Dialect) (s : Text) : Bool :=
  let (clock, fractionFits) :=
    match Text.cut? "." s with
    | none => (s, true)
    | some (clock, fraction) => (clock, !fraction.isEmpty && fraction.all Text.isDigitByte)
  match Text.splitOnByte 0x3a clock with
  | [h, m, sec] => isBelow 24 h && isBelow 60 m && isBelow dialect.secondLimit sec && fractionFits
  | [h, m] => dialect.relaxed && isBelow 24 h && isBelow 60 m && clock == s
  | _ => false

/-- A time with an offset, or without. -/
def isOffsetTime (dialect : Dialect) (s : Text) : Bool :=
  match s.reverse with
  | 0x5a :: time => isTime dialect time.reverse
  | 0x7a :: time => isTime dialect time.reverse
  | m₂ :: m₁ :: 0x3a :: h₂ :: h₁ :: sign :: time =>
    if sign == 0x2b || sign == 0x2d then
      isBelow dialect.offsetHourLimit [h₁, h₂] && isBelow dialect.offsetMinuteLimit [m₁, m₂] &&
        isTime dialect time.reverse
    else isTime dialect s
  | _ => isTime dialect s

/-- A date, a time of day, or both with `T` or a space between them. -/
def isMoment (dialect : Dialect) (s : Text) : Bool :=
  isDate s || isTime dialect s ||
    (isDate (s.take 10) &&
      match s.drop 10 with
      | b :: time => (b == 0x54 || b == 0x74 || b == 0x20) && isOffsetTime dialect time
      | [] => false)

/-- A literal that stands for a number or a moment. -/
def isLiteral (dialect : Dialect) (s : Text) : Bool :=
  isInteger s || isFloat s || isMoment dialect s

end DocScribe.Toml
