import DocScribe.Text.Basic

/-!
# Digits

Whole numbers as text: `decimal` and `signed` in base ten, `hex` in base sixteen with a least width.
`digitsValue?` reads decimal digits back.
-/

namespace DocScribe.Number

/-- The byte of a digit below sixteen, letters in lower case. -/
def digitByte (d : Nat) : UInt8 :=
  if d < 10 then .ofNat (0x30 + d) else .ofNat (0x57 + d)

/-- The decimal digits of a number, without leading zeros. -/
def decimal (n : Nat) : Text :=
  if n < 10 then [digitByte n] else decimal (n / 10) ++ [digitByte (n % 10)]
decreasing_by omega

/-- A whole number in decimal, with a minus sign when it is negative. -/
def signed : Int → Text
  | .ofNat n => decimal n
  | .negSucc n => 0x2d :: decimal (n + 1)

/-- The hexadecimal digits of a number in lower case. -/
def hexDigits (n : Nat) : Text :=
  if n < 16 then [digitByte n] else hexDigits (n / 16) ++ [digitByte (n % 16)]
decreasing_by omega

/-- The text, filled up with `fill` on the left to at least `width` bytes. -/
def padLeft (fill : UInt8) (width : Nat) (s : Text) : Text :=
  List.replicate (width - s.length) fill ++ s

/-- A number in decimal with at least `width` digits. -/
def padded (width n : Nat) : Text :=
  padLeft 0x30 width (decimal n)

/-- A number in hexadecimal with at least `width` digits. -/
def hex (width n : Nat) : Text :=
  padLeft 0x30 width (hexDigits n)

/-- The value of a digit of any base up to 36, letters of either case. -/
def digitValue? (b : UInt8) : Option Nat :=
  if 0x30 ≤ b && b ≤ 0x39 then some (b.toNat - 0x30)
  else if 0x61 ≤ b && b ≤ 0x7a then some (b.toNat - 0x57)
  else if 0x41 ≤ b && b ≤ 0x5a then some (b.toNat - 0x37)
  else none

/-- The number that `digits` add to `value` in `base`, if all of them are digits of that base. -/
def extendValue? (base : Nat) : (value : Nat) → (digits : Text) → Option Nat
  | value, [] => some value
  | value, b :: digits =>
    match digitValue? b with
    | some d => if d < base then extendValue? base (value * base + d) digits else none
    | none => none

/-- The number written by a non-empty text of digits of `base`. -/
def digitsValue? (base : Nat) (digits : Text) : Option Nat :=
  if digits.isEmpty then none else extendValue? base 0 digits

end DocScribe.Number
