import DocScribe.Number.Integer

/-!
# Binary floating point

Numbers of the 64-bit binary format as exact values `m · 2^q`. `ofRatio` rounds a quotient to the
nearest number, ties to the even one; reading, scaling and truncation are all exact arithmetic on
natural numbers followed by at most one such rounding.
-/

namespace DocScribe.Number

/-- A 64-bit binary floating-point number. A finite one is `m · 2^q` with `m < 2^53` and
`-1074 ≤ q`, and `m` has 53 bits unless `q = -1074`. -/
inductive Binary64 where
  | nan
  | infinite (negative : Bool)
  | finite (negative : Bool) (m : Nat) (q : Int)
deriving DecidableEq, Repr

namespace Binary64

/-- The smallest exponent. -/
def minExponent : Int := -1074

/-- The largest exponent. -/
def maxExponent : Int := 971

/-- Zero. -/
def zero : Binary64 := .finite false 0 minExponent

/-- The quotient rounded to the nearest natural number, a tie to the even one. -/
def roundDiv (num den : Nat) : Nat :=
  let d := num / den
  let r := num % den
  if 2 * r > den || (2 * r == den && d % 2 == 1) then d + 1 else d

/-- `num / den / 2^q`, rounded. -/
def significand (num den : Nat) (q : Int) : Nat :=
  match q with
  | .ofNat k => roundDiv num (den * Nat.pow 2 k)
  | .negSucc k => roundDiv (num * Nat.pow 2 (k + 1)) den

/-- Whether `num / den < 2^e`. -/
def belowPower (num den : Nat) (e : Int) : Bool :=
  match e with
  | .ofNat k => num < den * Nat.pow 2 k
  | .negSucc k => num * Nat.pow 2 (k + 1) < den

/-- The number nearest to `num / den`, infinite when that is too large. -/
def ofRatio (negative : Bool) (num den : Nat) : Binary64 :=
  if num == 0 then .finite negative 0 minExponent
  else
    let e : Int := (num.log2 : Int) - (den.log2 : Int)
    let e := if belowPower num den e then e - 1 else e
    let q := max (e - 52) minExponent
    let m := significand num den q
    let (m, q) := if m == Nat.pow 2 53 then (Nat.pow 2 52, q + 1) else (m, q)
    if q > maxExponent then .infinite negative else .finite negative m q

/-- The number nearest to `m · 10^e`. -/
def ofDecimal (negative : Bool) (m : Nat) (e : Int) : Binary64 :=
  match e with
  | .ofNat k => ofRatio negative (m * Nat.pow 10 k) 1
  | .negSucc k => ofRatio negative m (Nat.pow 10 (k + 1))

/-- The number nearest to `m · 2^e`. -/
def ofBinary (negative : Bool) (m : Nat) (e : Int) : Binary64 :=
  match e with
  | .ofNat k => ofRatio negative (m * Nat.pow 2 k) 1
  | .negSucc k => ofRatio negative m (Nat.pow 2 (k + 1))

/-- The number nearest to an integer. -/
def ofInt (n : Int) : Binary64 :=
  ofRatio (n < 0) n.natAbs 1

/-- The number times `2^k`. -/
def scale (k : Nat) : Binary64 → Binary64
  | .finite negative m q => ofBinary negative m (q + k)
  | x => x

/-- The number as a numerator and a denominator, zero for one that is not finite. -/
def ratio : Binary64 → Int × Nat
  | .finite negative m q =>
    let value : Int := if negative then -m else m
    match q with
    | .ofNat k => (value * Nat.pow 2 k, 1)
    | .negSucc k => (value, Nat.pow 2 (k + 1))
  | _ => (0, 1)

/-- The integer part as a 64-bit integer; what does not fit gives the smallest one. -/
def truncate : Binary64 → Int
  | .finite negative m q =>
    let n : Nat :=
      match q with
      | .ofNat k => m * Nat.pow 2 k
      | .negSucc k => m / Nat.pow 2 (k + 1)
    let n : Int := if negative then -n else n
    if minInt ≤ n && n ≤ maxInt then n else minInt
  | _ => minInt

/-- Order of numbers; nothing is below or above a NaN. -/
def lt : Binary64 → Binary64 → Bool
  | .nan, _ => false
  | _, .nan => false
  | .infinite a, .infinite b => a && !b
  | .infinite a, .finite .. => a
  | .finite .., .infinite b => !b
  | x@(.finite ..), y@(.finite ..) =>
    let (a, b) := x.ratio
    let (c, d) := y.ratio
    a * d < c * b

/-- Whether the number is not zero; a NaN is not. -/
def isNonzero : Binary64 → Bool
  | .finite _ m _ => m != 0
  | _ => true

/-- Equality of numbers: zeros are equal whatever their sign, and a NaN equals nothing. -/
def same (x y : Binary64) : Bool :=
  x != .nan && y != .nan && !lt x y && !lt y x

/-- Why a text is not a number. -/
inductive ReadError where
  | malformed
  | outOfRange
deriving DecidableEq, Repr

/-- The digits of a mantissa in `base`, with underscores and at most one point: their value, how
many stand after the point, whether there was one, how many digits there are, and the rest. -/
structure Mantissa where
  value : Nat := 0
  places : Nat := 0
  point : Bool := false
  digits : Nat := 0
  rest : Text := []

/-- Reads mantissa digits from the head of a text. -/
def readMantissa (base : Nat) : Mantissa → Text → Mantissa
  | acc, [] => acc
  | acc, b :: s =>
    if b == 0x5f then readMantissa base acc s
    else if b == 0x2e then
      if acc.point then { acc with rest := b :: s }
      else readMantissa base { acc with point := true } s
    else
      match digitValue? b with
      | some d =>
        if d < base then
          readMantissa base
            { acc with
              value := acc.value * base + d
              places := if acc.point then acc.places + 1 else acc.places
              digits := acc.digits + 1 } s
        else { acc with rest := b :: s }
      | none => { acc with rest := b :: s }

/-- Reads the digits of an exponent; it stops growing at five digits. -/
def readExponentDigits : Nat → Text → Nat × Text
  | e, [] => (e, [])
  | e, b :: s =>
    if b == 0x5f then readExponentDigits e s
    else if Text.isDigitByte b then
      readExponentDigits (if e < 10000 then e * 10 + (b.toNat - 0x30) else e) s
    else (e, b :: s)

/-- Reads a signed exponent, which starts with a digit after its sign. -/
def readExponent (s : Text) : Option (Int × Text) :=
  let (negative, digits) := takeSign s
  match digits with
  | b :: _ =>
    if Text.isDigitByte b then
      let (e, rest) := readExponentDigits 0 digits
      some (if negative then -e else e, rest)
    else none
  | [] => none

/-- Lower-case ASCII. -/
def lowerByte (b : UInt8) : UInt8 :=
  if 0x41 ≤ b && b ≤ 0x5a then b + 0x20 else b

/-- A number that overflowed while it was read is out of range. -/
def inRange : Binary64 → Except ReadError Binary64
  | .infinite _ => .error .outOfRange
  | x => .ok x

/-- Whether an unsigned literal has the mark of a hexadecimal one, and the digits after it. -/
def takeHexMark : Text → Bool × Text
  | 0x30 :: mark :: c :: rest =>
    if lowerByte mark == 0x78 then (true, c :: rest) else (false, 0x30 :: mark :: c :: rest)
  | s => (false, s)

/-- Reads the exponent after a mantissa. Only a decimal literal can do without one. -/
def takeExponent? (hexadecimal : Bool) : Text → Option (Int × Text)
  | b :: rest =>
    if lowerByte b == (if hexadecimal then 0x70 else 0x65) then readExponent rest
    else if hexadecimal then none
    else some (0, b :: rest)
  | [] => if hexadecimal then none else some (0, [])

/-- A decimal or hexadecimal floating-point literal with an optional sign. -/
def readNumber (s : Text) : Except ReadError Binary64 :=
  let (negative, unsigned) := takeSign s
  let (hexadecimal, body) := takeHexMark unsigned
  let mantissa := readMantissa (if hexadecimal then 16 else 10) {} body
  match takeExponent? hexadecimal mantissa.rest with
  | some (e, []) =>
    if mantissa.digits == 0 then .error .malformed
    else if s.contains 0x5f && !underscoresFit s then .error .malformed
    else if hexadecimal then
      inRange (ofBinary negative mantissa.value (e - 4 * mantissa.places))
    else inRange (ofDecimal negative mantissa.value (e - mantissa.places))
  | _ => .error .malformed

/-- A floating-point number: a literal, or `inf`, `infinity` with an optional sign, or `nan`, in any
case. -/
def read (s : Text) : Except ReadError Binary64 :=
  let (negative, word) := takeSign (s.map lowerByte)
  if word == "inf" || word == "infinity" then .ok (.infinite negative)
  else if s.map lowerByte == "nan" then .ok .nan
  else readNumber s

end Binary64

end DocScribe.Number
