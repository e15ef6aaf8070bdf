import DocScribe.Json.Basic

/-!
# Reading JSON

`Json.read?` accepts exactly the texts of the JSON grammar, with white space around the value. In
strings a stray byte or a lone surrogate is read as U+FFFD. Nesting deeper than 10000 is refused.
-/

namespace DocScribe.Json

/-- The text without JSON white space at its start. -/
def skipSpace : Text → Text
  | b :: s =>
    if b == 0x20 || b == 0x09 || b == 0x0a || b == 0x0d then skipSpace s else b :: s
  | [] => []

/-- The value of four hexadecimal digits at the head of a text. -/
def readUnit? : Text → Option (Nat × Text)
  | a :: b :: c :: d :: s => (Number.digitsValue? 16 [a, b, c, d]).map fun n => (n, s)
  | _ => none

/-- The byte that a short escape stands for. -/
def escapedByte? : UInt8 → Option UInt8
  | 0x22 => some 0x22
  | 0x5c => some 0x5c
  | 0x2f => some 0x2f
  | 0x62 => some 0x08
  | 0x66 => some 0x0c
  | 0x6e => some 0x0a
  | 0x72 => some 0x0d
  | 0x74 => some 0x09
  | _ => none

/-- The code point at a `\u` escape whose first unit is `unit`, and what follows it. A surrogate
without its partner is U+FFFD. -/
def pairUnit (unit : Nat) (s : Text) : Nat × Text :=
  if 0xd800 ≤ unit && unit < 0xdc00 then
    match s with
    | 0x5c :: 0x75 :: rest =>
      match readUnit? rest with
      | some (low, rest) =>
        if 0xdc00 ≤ low && low < 0xe000 then
          (0x10000 + (unit - 0xd800) * 1024 + (low - 0xdc00), rest)
        else (Text.replacement, s)
      | none => (Text.replacement, s)
    | _ => (Text.replacement, s)
  else if 0xdc00 ≤ unit && unit < 0xe000 then (Text.replacement, s)
  else (unit, s)

/-- The characters of a string after its opening quote, reversed onto `acc`, and what follows its
closing quote. -/
def readString? : (fuel : Nat) → (acc : Text) → Text → Option (Text × Text)
  | 0, _, _ => none
  | _ + 1, _, [] => none
  | fuel + 1, acc, b :: s =>
    if b == 0x22 then some (acc.reverse, s)
    else if b == 0x5c then
      match s with
      | 0x75 :: s =>
        match readUnit? s with
        | some (unit, s) =>
          let (code, s) := pairUnit unit s
          readString? fuel ((Text.encode code).reverse ++ acc) s
        | none => none
      | e :: s =>
        match escapedByte? e with
        | some c => readString? fuel (c :: acc) s
        | none => none
      | [] => none
    else if b < 0x20 then none
    else
      let g := Text.headGlyph b s
      readString? fuel (g.repaired.reverse ++ acc) (s.drop (g.bytes.length - 1))

/-- The digits at the head of a text, at least one, and the rest. -/
def takeDigits? (s : Text) : Option (Text × Text) :=
  let digits := s.takeWhile Text.isDigitByte
  if digits.isEmpty then none else some (digits, s.drop digits.length)

/-- The fraction at the head of a text, empty if there is no point. -/
def takeFraction? : Text → Option (Text × Text)
  | 0x2e :: s => (takeDigits? s).map fun p => (0x2e :: p.1, p.2)
  | s => some ([], s)

/-- The exponent at the head of a text, empty if there is no mark. -/
def takeExponent? (s : Text) : Option (Text × Text) :=
  match s with
  | e :: rest =>
    if e == 0x65 || e == 0x45 then
      let (sign, rest) : Text × Text :=
        match rest with
        | 0x2b :: more => ([0x2b], more)
        | 0x2d :: more => ([0x2d], more)
        | _ => ([], rest)
      (takeDigits? rest).map fun p => (e :: sign ++ p.1, p.2)
    else some ([], s)
  | [] => some ([], s)

/-- The minus sign at the head of a text, empty if there is none. -/
def takeMinus : Text → Text × Text
  | 0x2d :: s => ([0x2d], s)
  | s => ([], s)

/-- The whole digits at the head of a text. A zero stands alone. -/
def takeWhole? : Text → Option (Text × Text)
  | 0x30 :: s => some ([0x30], s)
  | s => takeDigits? s

/-- A number literal at the head of a text. -/
def readNumber? (s : Text) : Option (Text × Text) := do
  let (sign, s) := takeMinus s
  let (whole, s) ← takeWhole? s
  let (fraction, s) ← takeFraction? s
  let (exponent, s) ← takeExponent? s
  return (sign ++ whole ++ fraction ++ exponent, s)

/-- The nesting that is still read. -/
def maxDepth : Nat := 10000

mutual

/-- A value at the head of a text that starts with no white space. -/
def readValue? (fuel : Nat) (depth : Nat) (s : Text) : Option (Json × Text) :=
  match fuel with
  | 0 => none
  | fuel + 1 =>
    match s with
    | 0x6e :: 0x75 :: 0x6c :: 0x6c :: rest => some (.null, rest)
    | 0x74 :: 0x72 :: 0x75 :: 0x65 :: rest => some (.bool true, rest)
    | 0x66 :: 0x61 :: 0x6c :: 0x73 :: 0x65 :: rest => some (.bool false, rest)
    | 0x22 :: rest => (readString? (rest.length + 1) [] rest).map fun p => (.string p.1, p.2)
    | 0x5b :: rest =>
      if depth == 0 then none
      else
        match skipSpace rest with
        | 0x5d :: rest => some (.array [], rest)
        | rest => (readItems? fuel (depth - 1) rest).map fun p => (.array p.1, p.2)
    | 0x7b :: rest =>
      if depth == 0 then none
      else
        match skipSpace rest with
        | 0x7d :: rest => some (.object [], rest)
        | rest => (readMembers? fuel (depth - 1) rest).map fun p => (.object p.1, p.2)
    | _ => (readNumber? s).map fun p => (.number p.1, p.2)

/-- The items of an array up to its closing bracket. -/
def readItems? (fuel : Nat) (depth : Nat) (s : Text) : Option (List Json × Text) :=
  match fuel with
  | 0 => none
  | fuel + 1 =>
    match readValue? fuel depth s with
    | none => none
    | some (v, rest) =>
      match skipSpace rest with
      | 0x2c :: rest => (readItems? fuel depth (skipSpace rest)).map fun p => (v :: p.1, p.2)
      | 0x5d :: rest => some ([v], rest)
      | _ => none

/-- The members of an object up to its closing brace. -/
def readMembers? (fuel : Nat) (depth : Nat) (s : Text) : Option (List (Text × Json) × Text) :=
  match fuel with
  | 0 => none
  | fuel + 1 =>
    match s with
    | 0x22 :: rest =>
      match readString? (rest.length + 1) [] rest with
      | none => none
      | some (name, rest) =>
        match skipSpace rest with
        | 0x3a :: rest =>
          match readValue? fuel depth (skipSpace rest) with
          | none => none
          | some (v, rest) =>
            match skipSpace rest with
            | 0x2c :: rest =>
              (readMembers? fuel depth (skipSpace rest)).map fun p => ((name, v) :: p.1, p.2)
            | 0x7d :: rest => some ([(name, v)], rest)
            | _ => none
        | _ => none
    | _ => none

end

/-- The value that a text holds, and nothing but white space around it. -/
def read? (s : Text) : Option Json :=
  match readValue? (2 * s.length + 2) maxDepth (skipSpace s) with
  | some (v, rest) => if (skipSpace rest).isEmpty then some v else none
  | none => none

end DocScribe.Json
