import DocScribe.Number.Digits

/-!
# 64-bit integers

Integers stay in the signed 64-bit range. `readDecimal` takes an optional sign and decimal digits;
`readLiteral` also takes a base mark (`0x`, `0o`, `0b`, a leading `0`) and underscores between
digits. Both tell a malformed text from one that is out of range.
-/

namespace DocScribe.Number

/-- The largest signed 64-bit integer. -/
def maxInt : Int := 9223372036854775807

/-- The smallest signed 64-bit integer. -/
def minInt : Int := -9223372036854775808

/-- The signed 64-bit integer with the same low 64 bits. -/
def wrap (n : Int) : Int :=
  n.bmod (Nat.pow 2 64)

/-- Why a text is not an integer. -/
inductive IntegerError where
  | malformed
  | outOfRange
deriving DecidableEq, Repr

/-- The wording of the reason. -/
def IntegerError.message : IntegerError → Text
  | .malformed => "invalid syntax"
  | .outOfRange => "value out of range"

/-- The sign at the head of a text, true for minus, and the rest. -/
def takeSign : Text → Bool × Text
  | 0x2b :: s => (false, s)
  | 0x2d :: s => (true, s)
  | s => (false, s)

/-- The value with its sign, if it fits into 64 bits. -/
def withSign (negative : Bool) (value : Nat) : Except IntegerError Int :=
  let n : Int := if negative then -value else value
  if minInt ≤ n && n ≤ maxInt then .ok n else .error .outOfRange

/-- An integer in decimal with an optional sign. -/
def readDecimal (s : Text) : Except IntegerError Int :=
  let (negative, digits) := takeSign s
  match digitsValue? 10 digits with
  | some value => withSign negative value
  | none => .error .malformed

/-- The base that the head of an unsigned literal announces and the digits after the mark. -/
def takeBase : Text → Nat × Text
  | 0x30 :: mark :: c :: s =>
    if mark == 0x78 || mark == 0x58 then (16, c :: s)
    else if mark == 0x6f || mark == 0x4f then (8, c :: s)
    else if mark == 0x62 || mark == 0x42 then (2, c :: s)
    else (8, mark :: c :: s)
  | 0x30 :: s => (8, s)
  | s => (10, s)

/-- What stood before a character when underscores are checked. -/
inductive Before where
  | start
  | digit
  | underscore
  | other
deriving DecidableEq

/-- Whether each underscore stands between digits. Letters are digits when `letters` is set. -/
def underscoresBetween (letters : Bool) : Before → Text → Bool
  | before, [] => before != .underscore
  | before, b :: s =>
    if Text.isDigitByte b || (letters && ((0x61 ≤ b && b ≤ 0x66) || (0x41 ≤ b && b ≤ 0x46))) then
      underscoresBetween letters .digit s
    else if b == 0x5f then before == .digit && underscoresBetween letters .underscore s
    else before != .underscore && underscoresBetween letters .other s

/-- Whether the underscores of a number literal separate its digits. A base mark counts as a
digit. -/
def underscoresFit (s : Text) : Bool :=
  match (takeSign s).2 with
  | 0x30 :: mark :: digits =>
    if mark == 0x78 || mark == 0x58 then underscoresBetween true .digit digits
    else if mark == 0x6f || mark == 0x4f || mark == 0x62 || mark == 0x42 then
      underscoresBetween false .digit digits
    else underscoresBetween false .start (0x30 :: mark :: digits)
  | digits => underscoresBetween false .start digits

/-- The sign of an integer literal, true for minus, and its value: base mark, digits and underscores
between them. -/
def literalValue? (s : Text) : Option (Bool × Nat) :=
  let (negative, unsigned) := takeSign s
  if unsigned.isEmpty then none
  else
    let (base, digits) := takeBase unsigned
    match extendValue? base 0 (digits.filter (· != 0x5f)) with
    | none => none
    | some value =>
      if digits.contains 0x5f && !underscoresFit s then none else some (negative, value)

/-- An integer literal with an optional sign. -/
def readLiteral (s : Text) : Except IntegerError Int :=
  match literalValue? s with
  | some (negative, value) => withSign negative value
  | none => .error .malformed

end DocScribe.Number
