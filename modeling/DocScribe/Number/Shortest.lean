import DocScribe.Number.Binary64

/-!
# Shortest decimals

The fewest decimal digits that read back as a given number. `shortest` tries one digit, two digits
and so on, each time with the two neighbours of the number on that decimal grid, and keeps the
nearest that lies in the interval of reals which round to the number. A `Layout` says how the digits
are written: where positional notation ends and how an exponent looks.
-/

namespace DocScribe.Number

/-- A positive rational number. -/
structure Ratio where
  num : Nat
  den : Nat

/-- Order of rationals. -/
def Ratio.lt (x y : Ratio) : Bool :=
  x.num * y.den < y.num * x.den

/-- `m · b^e`. -/
def Ratio.power (m b : Nat) (e : Int) : Ratio :=
  match e with
  | .ofNat k => ⟨m * Nat.pow b k, 1⟩
  | .negSucc k => ⟨m, Nat.pow b (k + 1)⟩

/-- Decimal digits `digits`, the first not zero, for the value `0.digits · 10^point`. -/
structure DecimalDigits where
  digits : List Nat
  point : Int

/-- The decimal exponent `k` with `10^(k-1) ≤ x < 10^k`, found by stepping up from `k`. -/
def decimalPoint (x : Ratio) : (fuel : Nat) → (k : Int) → Int
  | 0, k => k
  | fuel + 1, k => if Ratio.lt x (.power 1 10 k) then k else decimalPoint x fuel (k + 1)

/-- The interval of reals that round to `m · 2^q`; the ends belong to it when `m` is even. -/
def roundingInterval (m : Nat) (q : Int) : Ratio × Ratio :=
  let low :=
    if m == Nat.pow 2 52 && q > Binary64.minExponent then Ratio.power (4 * m - 1) 2 (q - 2)
    else Ratio.power (2 * m - 1) 2 (q - 1)
  (low, Ratio.power (2 * m + 1) 2 (q - 1))

/-- Whether the rational rounds to `m · 2^q`. -/
def roundsTo (m : Nat) (q : Int) (x : Ratio) : Bool :=
  let (low, high) := roundingInterval m q
  if m % 2 == 0 then !Ratio.lt x low && !Ratio.lt high x else Ratio.lt low x && Ratio.lt x high

/-- The nearest of the two neighbours of `m · 2^q` among multiples of `10^t` that rounds to it. -/
def gridPoint? (m : Nat) (q t : Int) : Option Nat :=
  let x := Ratio.power m 2 q
  let unit := Ratio.power 1 10 t
  let num := x.num * unit.den
  let den := x.den * unit.num
  let below := num / den
  let rest := num % den
  let okBelow := roundsTo m q (.power below 10 t)
  let okAbove := roundsTo m q (.power (below + 1) 10 t)
  match okBelow, okAbove with
  | true, true =>
    some (if 2 * rest > den || (2 * rest == den && below % 2 == 1) then below + 1 else below)
  | true, false => some below
  | false, true => some (below + 1)
  | false, false => none

/-- The first grid, from `count` digits on, that has a point which rounds to `m · 2^q`. -/
def shortestFrom (m : Nat) (q k : Int) : (fuel : Nat) → (count : Nat) → Nat × Int
  | 0, _ => (m, q)
  | fuel + 1, count =>
    match gridPoint? m q (k - count) with
    | some d => (d, k - count)
    | none => shortestFrom m q k fuel (count + 1)

/-- The fewest digits that read back as `m · 2^q`, without trailing zeros. -/
def shortest (m : Nat) (q : Int) : DecimalDigits :=
  if m == 0 then ⟨[], 0⟩
  else
    let k := decimalPoint (.power m 2 q) 700 (-330)
    let (d, t) := shortestFrom m q k 17 1
    let all := (decimal d).map fun b => b.toNat - 0x30
    let digits := (all.reverse.dropWhile (· == 0)).reverse
    ⟨digits, t + all.length⟩

/-- How a number is written: positional for decimal exponents from `least` to below `limit`, else
with an exponent of at least `width` digits. -/
structure Layout where
  least : Int
  limit : Int
  width : Nat

/-- The general layout: exponents below -4 and from 6 on are spelt out, with two digits. -/
def Layout.general : Layout := ⟨-4, 6, 2⟩

/-- Digits as text. -/
def digitText (digits : List Nat) : Text :=
  digits.map digitByte

/-- Positional notation. -/
def positional (d : DecimalDigits) : Text :=
  if d.digits.isEmpty then "0"
  else if d.point ≤ 0 then
    ("0." : Text) ++ List.replicate (-d.point).toNat 0x30 ++ digitText d.digits
  else
    let n := d.point.toNat
    let whole := digitText (d.digits.take n) ++ List.replicate (n - d.digits.length) 0x30
    if d.digits.length ≤ n then whole
    else whole ++ 0x2e :: digitText (d.digits.drop n)

/-- Notation with an exponent. -/
def scientific (width : Nat) (d : DecimalDigits) : Text :=
  match d.digits with
  | [] => "0"
  | first :: more =>
    let e := d.point - 1
    let mantissa : Text :=
      if more.isEmpty then [digitByte first] else digitByte first :: 0x2e :: digitText more
    mantissa ++ (if e < 0 then ("e-" : Text) else "e+") ++ padded width e.natAbs

/-- The number in the given layout. -/
def Binary64.render (layout : Layout) : Binary64 → Text
  | .nan => "NaN"
  | .infinite true => "-Inf"
  | .infinite false => "+Inf"
  | .finite negative m q =>
    let d := shortest m q
    let e := d.point - 1
    let sign : Text := if negative then "-" else ""
    if m == 0 || (layout.least ≤ e && e < layout.limit) then sign ++ positional d
    else sign ++ scientific layout.width d

/-- The number in positional notation whatever its size. -/
def Binary64.renderPositional : Binary64 → Text
  | .finite negative m q =>
    (if negative then ("-" : Text) else "") ++ positional (shortest m q)
  | x => x.render .general

end DocScribe.Number
