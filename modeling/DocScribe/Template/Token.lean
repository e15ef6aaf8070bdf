import DocScribe.Number.Integer
import DocScribe.Text.Letter

/-!
# Segments of a template

A template is literal text with actions between double braces. `segments?` cuts it into literals and
the tokens of its actions. A dash and a space inside the braces trim the white space of the literal
on that side, and a comment in braces leaves nothing. A template that is not closed properly has no
segments.
-/

namespace DocScribe.Template

/-- A token of an action. -/
inductive Token where
  | space
  | dot
  | field (name : Text)
  | word (name : Text)
  | dollar (name : Text)
  | string (value : Text)
  | number (value : Int)
  | bar
  | opening
  | closing
deriving DecidableEq, Repr

/-- A piece of a template. -/
inductive Segment where
  | literal (s : Text)
  | action (tokens : List Token)
deriving Repr

/-- White space that trim marks take away. -/
def isSpace (b : UInt8) : Bool :=
  b == 0x20 || b == 0x09 || b == 0x0d || b == 0x0a

/-- The text without white space at its end. -/
def dropSpaceEnd (s : Text) : Text :=
  (s.reverse.dropWhile isSpace).reverse

/-- What follows the end of an action at the head of the text, and whether it trims. -/
def actionEnd? : Text → Option (Bool × Text)
  | 0x7d :: 0x7d :: s => some (false, s)
  | b :: 0x2d :: 0x7d :: 0x7d :: s => if isSpace b then some (true, s) else none
  | _ => none

/-- A letter, digit or underscore. -/
def isNameChar (code : Nat) : Bool :=
  code == 0x5f || Text.isLetter code || Text.isDigit code

/-- Whether a name may end before the text. -/
def endsName (s : Text) : Bool :=
  match s with
  | [] => true
  | b :: _ =>
    isSpace b || b == 0x2e || b == 0x2c || b == 0x7c || b == 0x3a || b == 0x29 || b == 0x28
      || s.startsWith [0x7d, 0x7d]

/-- A name at the head of the text and the rest. -/
def takeName (s : Text) : Text × Text :=
  let name := s.takeGlyphs isNameChar
  (name, s.drop name.length)

/-- The text of a string up to its closing quote, and the rest; `none` if it is not closed on its
line. Escapes are kept. -/
def takeQuoted : Text → Option (Text × Text)
  | [] => none
  | 0x22 :: s => some ([], s)
  | 0x5c :: b :: s =>
    if b == Text.lf then none else (takeQuoted s).map fun p => (0x5c :: b :: p.1, p.2)
  | b :: s => if b == Text.lf then none else (takeQuoted s).map fun p => (b :: p.1, p.2)

/-- The byte of a one-letter escape in a string. -/
def simpleEscape? : UInt8 → Option UInt8
  | 0x61 => some 0x07
  | 0x62 => some 0x08
  | 0x66 => some 0x0c
  | 0x6e => some 0x0a
  | 0x72 => some 0x0d
  | 0x74 => some 0x09
  | 0x76 => some 0x0b
  | 0x5c => some 0x5c
  | 0x22 => some 0x22
  | _ => none

/-- The text that an escape with digits stands for, where its letter is `mark`, and the rest. -/
def numberEscape? (mark : UInt8) (s : Text) : Option (Text × Text) :=
  let read (base count : Nat) (digits : Text) : Option (Nat × Text) :=
    if digits.length < count then none
    else (Number.digitsValue? base (digits.take count)).map fun n => (n, digits.drop count)
  let asChar (p : Nat × Text) : Option (Text × Text) :=
    if p.1 > 0x10ffff || (0xd800 ≤ p.1 && p.1 ≤ 0xdfff) then none
    else some (Text.encode p.1, p.2)
  if mark == 0x78 then (read 16 2 s).map fun p => ([.ofNat p.1], p.2)
  else if mark == 0x75 then (read 16 4 s).bind asChar
  else if mark == 0x55 then (read 16 8 s).bind asChar
  else if 0x30 ≤ mark && mark ≤ 0x37 then
    (read 8 3 (mark :: s)).bind fun p => if p.1 < 256 then some ([.ofNat p.1], p.2) else none
  else none

/-- The value of a string between its quotes. -/
def unquote? : (fuel : Nat) → Text → Option Text
  | 0, _ => none
  | _ + 1, [] => some []
  | fuel + 1, 0x5c :: b :: s =>
    match simpleEscape? b with
    | some c => (unquote? fuel s).map (c :: ·)
    | none =>
      match numberEscape? b s with
      | some (value, rest) => (unquote? fuel rest).map (value ++ ·)
      | none => none
  | _ + 1, [0x5c] => none
  | fuel + 1, b :: s => (unquote? fuel s).map (b :: ·)

/-- A digit of a number in `base`, or an underscore. -/
def isNumberByte (base : Nat) (b : UInt8) : Bool :=
  b == 0x5f || (Number.digitValue? b).any (· < base)

/-- The number at the head of the text as it is written: sign, base mark, digits and underscores. -/
def numberText (s : Text) : Text :=
  let unsigned := (Number.takeSign s).2
  let marked (length base : Nat) : Nat :=
    length + ((unsigned.drop length).takeWhile (isNumberByte base)).length
  let length :=
    match unsigned with
    | 0x30 :: mark :: _ =>
      if mark == 0x78 || mark == 0x58 then marked 2 16
      else if mark == 0x6f || mark == 0x4f then marked 2 8
      else if mark == 0x62 || mark == 0x42 then marked 2 2
      else marked 0 10
    | _ => marked 0 10
  s.take (s.length - unsigned.length + length)

/-- The value of an integer literal that fits into 64 bits, without a sign if it has none. -/
def numberValue? (literal : Text) : Option Int :=
  match Number.literalValue? literal with
  | none => none
  | some (negative, value) =>
    match Number.withSign negative value with
    | .ok n => some n
    | .error _ =>
      let isUnsigned := (literal.head?.map Text.isDigitByte).getD false
      if isUnsigned && value < Nat.pow 2 64 then some value else none

/-- An integer at the head of the text and the rest. -/
def takeNumber? (s : Text) : Option (Int × Text) :=
  let literal := numberText s
  let rest : Text := s.drop literal.length
  let continued :=
    match rest.glyphs with
    | [] => false
    | g :: _ => isNameChar g.code || g.code == 0x2e
  if continued then none else (numberValue? literal).map fun n => (n, rest)

/-- The tokens of an action, whether its end trims, and what follows it. -/
def tokens? : (fuel : Nat) → (depth : Nat) → Text → Option (List Token × Bool × Text)
  | 0, _, _ => none
  | fuel + 1, depth, s =>
    let more (t : Token) (depth : Nat) (rest : Text) : Option (List Token × Bool × Text) :=
      (tokens? fuel depth rest).map fun p => (t :: p.1, p.2)
    match actionEnd? s with
    | some (trims, rest) => if depth == 0 then some ([], trims, rest) else none
    | none =>
      match s with
      | [] => none
      | b :: rest =>
        if isSpace b then more .space depth rest
        else if b == 0x22 then
          match takeQuoted rest with
          | some (raw, rest) =>
            match unquote? (raw.length + 1) raw with
            | some value => more (.string value) depth rest
            | none => none
          | none => none
        else if b == 0x60 then
          match Text.cut? [0x60] rest with
          | some (value, rest) => more (.string (value.filter (· != Text.cr))) depth rest
          | none => none
        else if b == 0x7c then more .bar depth rest
        else if b == 0x28 then more .opening (depth + 1) rest
        else if b == 0x29 then if depth == 0 then none else more .closing (depth - 1) rest
        else if b == 0x2e then
          let (name, after) := takeName rest
          if !endsName after || (name.head?.map Text.isDigitByte).getD false then none
          else if name.isEmpty then more .dot depth after
          else more (.field name) depth after
        else if b == 0x24 then
          let (name, after) := takeName rest
          if endsName after then more (.dollar name) depth after else none
        else if Text.isDigitByte b || b == 0x2b || b == 0x2d then
          match takeNumber? s with
          | some (n, rest) => more (.number n) depth rest
          | none => none
        else
          let (name, after) := takeName s
          if name.isEmpty || !endsName after then none else more (.word name) depth after

/-- What follows a comment, whose opening has been read, and whether its end trims. -/
def afterComment? (s : Text) : Option (Bool × Text) :=
  match Text.cut? "*/" s with
  | some (_, rest) => actionEnd? rest
  | none => none

/-- The segments of a text, which is trimmed at its start when `trim` is set. -/
def segmentsFrom? : (fuel : Nat) → (trim : Bool) → Text → Option (List Segment)
  | 0, _, _ => none
  | fuel + 1, trim, s =>
    let s := if trim then s.dropWhile isSpace else s
    match Text.cut? [0x7b, 0x7b] s with
    | none => some [.literal s]
    | some (before, rest) =>
      let (before, rest) :=
        match rest with
        | 0x2d :: b :: after => if isSpace b then (dropSpaceEnd before, after) else (before, rest)
        | _ => (before, rest)
      match rest with
      | 0x2f :: 0x2a :: inside =>
        match afterComment? inside with
        | some (trims, rest) => (segmentsFrom? fuel trims rest).map (.literal before :: ·)
        | none => none
      | _ =>
        match tokens? (rest.length + 1) 0 rest with
        | some (tokens, trims, rest) =>
          (segmentsFrom? fuel trims rest).map (.literal before :: .action tokens :: ·)
        | none => none

/-- The segments of a template. -/
def segments? (s : Text) : Option (List Segment) :=
  segmentsFrom? (s.length + 1) false s

end DocScribe.Template
