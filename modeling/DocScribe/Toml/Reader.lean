import DocScribe.Toml.Quoted

/-!
# Reading TOML

`read` takes a text apart by the TOML grammar: valid UTF-8 without control characters, one statement
a line, comments from `#` to the end of the line. Which relaxations are accepted is the dialect's.
Literals are cut out by their bytes and judged later, so a malformed one ends no reading. A text
that breaks the grammar still gives the statements before the problem.
-/

namespace DocScribe.Toml

/-- What follows a comment, if there is one: a line break or nothing. -/
def skipComment (s : Text) : Except Problem Text :=
  match s with
  | 0x23 :: s =>
    let rest := s.dropWhile fun b => !isControl b
    if rest.isEmpty || (dropBreak? rest).isSome then .ok rest else .error .badComment
  | _ => .ok s

/-- What follows the line break after a statement, unless the text ends. -/
def endLine (s : Text) : Except Problem Text :=
  match dropBreak? s, s with
  | some rest, _ => .ok rest
  | none, [] => .ok []
  | none, b :: _ => .error (if b == 0x0d then .loneReturn else .expectedBreak b)

/-- What follows blanks, line breaks and comments. -/
def skipLines : (fuel : Nat) → Text → Except Problem Text
  | 0, s => .ok s
  | fuel + 1, s => do
    let rest ← skipComment (skipBlanks s)
    match dropBreak? rest with
    | some rest => skipLines fuel rest
    | none => if rest.head? == some 0x0d then .error .loneReturn else .ok rest

/-- One name of a key. -/
def readName (dialect : Dialect) (s : Text) : Except Problem (Text × Text) :=
  match s with
  | [] => .error .missingKey
  | 0x22 :: s => readLine dialect s
  | 0x27 :: s => readVerbatim s
  | b :: _ =>
    let name := s.takeWhile isBareByte
    if name.isEmpty then .error (.badKeyStart b) else .ok (name, s.drop name.length)

/-- A dotted key, and what follows it and blanks after it. -/
def readKey (dialect : Dialect) : (fuel : Nat) → Text → Except Problem (Key × Text)
  | 0, _ => .error .missingKey
  | fuel + 1, s => do
    let (name, rest) ← readName dialect (skipBlanks s)
    match skipBlanks rest with
    | 0x2e :: rest =>
      let (names, rest) ← readKey dialect fuel rest
      return (name :: names, rest)
    | rest => return ([name], rest)

/-- What follows a byte that has to be there. -/
def skipByte (wanted : UInt8) : Text → Except Problem Text
  | [] => .error (.endsBefore wanted)
  | b :: s => if b == wanted then .ok s else .error (.expected wanted)

/-- A byte of a number. -/
def isNumberByte (b : UInt8) : Bool :=
  Text.isDigitByte b || b == 0x2b || b == 0x2d || b == 0x5f || b == 0x2e || b == 0x65 || b == 0x45

/-- A byte of a moment. -/
def isMomentByte (b : UInt8) : Bool :=
  Text.isDigitByte b || b == 0x2b || b == 0x2d || b == 0x3a || b == 0x2e || b == 0x54 ||
    b == 0x74 || b == 0x5a || b == 0x7a

/-- Whether a text starts as a date or a time of day does. -/
def startsMoment (s : Text) : Bool :=
  let digits := (s.takeWhile Text.isDigitByte).length
  (digits == 4 && s[4]? == some 0x2d) || (digits == 2 && s[2]? == some 0x3a)

/-- The bytes of a moment. One space may stand in it, if a digit follows; whatever comes after that
digit is taken with it. -/
def takeMoment (s : Text) : Text :=
  let first := s.takeWhile isMomentByte
  match s.drop first.length with
  | 0x20 :: b :: rest =>
    if Text.isDigitByte b then
      first ++ 0x20 :: b :: rest.take 1 ++ (rest.drop 1).takeWhile isMomentByte
    else first
  | _ => first

/-- The base that a letter after a zero stands for. -/
def baseOf? (letter : UInt8) : Option Nat :=
  if letter == 0x78 then some 16
  else if letter == 0x6f then some 8
  else if letter == 0x62 then some 2
  else none

/-- The bytes of a number without a base: one of the special values may end it. -/
def takeDecimal (s : Text) : Except Problem Text :=
  let first := s.takeWhile isNumberByte
  let rest := s.drop first.length
  if Text.startsWith rest "inf" || Text.startsWith rest "nan" then .ok (first ++ rest.take 3)
  else
    match rest.head? with
    | some 0x69 => .error (.strayLetter 0x69)
    | some 0x6e => .error (.strayLetter 0x6e)
    | _ => if first.isEmpty then .error .missingDigits else .ok first

/-- The bytes of a number. A zero stands alone unless a base, a point or an exponent follows it, or
the text ends after one more byte. -/
def takeNumber (s : Text) : Except Problem Text :=
  match s with
  | 0x30 :: b :: c :: rest =>
    if b == 0x2e || b == 0x65 || b == 0x45 then takeDecimal s
    else
      match baseOf? b with
      | some base =>
        .ok (0x30 :: b :: (c :: rest).takeWhile fun d =>
          d == 0x5f || (Number.digitsValue? base [d]).isSome)
      | none => .ok [0x30]
  | _ => takeDecimal s

/-- What follows a word that has to be there. -/
def skipWord (word s : Text) : Except Problem Text :=
  match Text.dropStart? word s with
  | some rest => .ok rest
  | none => .error (.expectedWord word)

/-- A number or a moment at the head of a text. -/
def readLiteral (s : Text) : Except Problem (Scalar × Text) := do
  let literal ←
    match s.head? with
    | some 0x69 => (skipWord "inf" s).map fun _ => s.take 3
    | some 0x6e => (skipWord "nan" s).map fun _ => s.take 3
    | _ => if startsMoment s then .ok (takeMoment s) else takeNumber s
  return (.literal literal, s.drop literal.length)

/-- A scalar at the head of a text. -/
def readScalar (dialect : Dialect) (s : Text) : Except Problem (Scalar × Text) :=
  match s with
  | [] => .error .missingValue
  | 0x22 :: _ => (readString dialect s).map fun p => (.string p.1, p.2)
  | 0x27 :: _ => (readString dialect s).map fun p => (.string p.1, p.2)
  | 0x74 :: _ => (skipWord "true" s).map fun rest => (.bool true, rest)
  | 0x66 :: _ => (skipWord "false" s).map fun rest => (.bool false, rest)
  | _ => readLiteral s

/-- What follows the space between the parts of an inline table. -/
def skipInline (dialect : Dialect) (s : Text) : Except Problem Text :=
  if dialect.relaxed then skipLines (s.length + 1) s else .ok (skipBlanks s)

/-- A key and the equals sign after it, and what follows them and blanks. -/
def readTarget (dialect : Dialect) (s : Text) : Except Problem (Key × Text) := do
  let (key, rest) ← readKey dialect (s.length + 1) s
  if rest.isEmpty then .error .missingEquals
  let rest ← skipByte 0x3d rest
  return (key, skipBlanks rest)

mutual

/-- A value at the head of a text. -/
def readValue (dialect : Dialect) (fuel : Nat) (s : Text) : Except Problem (Value × Text) :=
  match fuel with
  | 0 => .error .missingValue
  | fuel + 1 =>
    match s with
    | 0x5b :: rest => (readItems dialect true fuel rest).map fun p => (.array p.1, p.2)
    | 0x7b :: rest =>
      match skipInline dialect rest with
      | .error p => .error p
      | .ok (0x7d :: rest) => .ok (.table [], rest)
      | .ok [] => .error .openTable
      | .ok rest => (readMembers dialect fuel rest).map fun p => (.table p.1, p.2)
    | _ => (readScalar dialect s).map fun p => (.scalar p.1, p.2)

/-- The items of an array up to its closing bracket. -/
def readItems (dialect : Dialect) (first : Bool) (fuel : Nat) (s : Text) :
    Except Problem (List Value × Text) :=
  match fuel with
  | 0 => .error .openArray
  | fuel + 1 =>
    match skipLines (s.length + 1) s with
    | .error p => .error p
    | .ok (0x5d :: rest) => .ok ([], rest)
    | .ok rest =>
      if first && rest.isEmpty then .error .openArray
      else if first && rest.head? == some 0x2c then .error .leadingComma
      else
        match readValue dialect fuel rest with
        | .error p => .error p
        | .ok (v, rest) =>
          match skipLines (rest.length + 1) rest with
          | .error p => .error p
          | .ok (0x2c :: rest) =>
            (readItems dialect false fuel rest).map fun p => (v :: p.1, p.2)
          | .ok (0x5d :: rest) => .ok ([v], rest)
          | .ok [] => .error (.endsBefore 0x5d)
          | .ok _ => .error .missingComma

/-- The members of an inline table, at least one, up to its closing brace. -/
def readMembers (dialect : Dialect) (fuel : Nat) (s : Text) :
    Except Problem (List (Key × Value) × Text) :=
  match fuel with
  | 0 => .error .openTable
  | fuel + 1 =>
    match readTarget dialect s with
    | .error p => .error p
    | .ok (key, rest) =>
      match readValue dialect fuel rest with
      | .error p => .error p
      | .ok (v, rest) =>
        match skipInline dialect rest with
        | .error p => .error p
        | .ok (0x7d :: rest) => .ok ([(key, v)], rest)
        | .ok (0x2c :: rest) =>
          match skipInline dialect rest with
          | .error p => .error p
          | .ok (0x7d :: rest) =>
            if dialect.relaxed then .ok ([(key, v)], rest) else .error (.badKeyStart 0x7d)
          | .ok rest => (readMembers dialect fuel rest).map fun p => ((key, v) :: p.1, p.2)
        | .ok [] => .error (.endsBefore 0x7d)
        | .ok _ => .error (.expected 0x2c)

end

/-- A statement at the head of a text, which starts with no blank. -/
def readStatement (dialect : Dialect) (s : Text) : Except Problem (Statement × Text) :=
  match s with
  | 0x5b :: 0x5b :: rest => do
    let (key, rest) ← readKey dialect (rest.length + 1) rest
    return (.element key, ← skipByte 0x5d (← skipByte 0x5d rest))
  | 0x5b :: rest => do
    let (key, rest) ← readKey dialect (rest.length + 1) rest
    return (.table key, ← skipByte 0x5d rest)
  | _ => do
    let (key, rest) ← readTarget dialect s
    let (v, rest) ← readValue dialect (2 * rest.length + 2) rest
    return (.assign key v, rest)

/-- What is read of a text: its statements, up to the first problem if there is one. -/
structure Document where
  statements : List Statement
  problem : Option Problem

/-- The document with a statement before all others. -/
def Document.cons (statement : Statement) (document : Document) : Document :=
  { document with statements := statement :: document.statements }

/-- The statements of a text. -/
def readStatements (dialect : Dialect) : (fuel : Nat) → Text → Document
  | 0, _ => ⟨[], none⟩
  | fuel + 1, s =>
    match skipLines (s.length + 1) s with
    | .error p => ⟨[], some p⟩
    | .ok [] => ⟨[], none⟩
    | .ok rest =>
      match readStatement dialect rest with
      | .error p => ⟨[], some p⟩
      | .ok (statement, rest) =>
        match skipComment (skipBlanks rest) with
        | .error p => ⟨[], some p⟩
        | .ok rest =>
          match endLine rest with
          | .error p => ⟨[statement], some p⟩
          | .ok rest => (readStatements dialect fuel rest).cons statement

/-- The text without a byte order mark at its start. -/
def dropMark : Text → Text
  | 0xff :: 0xfe :: s => s
  | 0xfe :: 0xff :: s => s
  | 0xef :: 0xbb :: 0xbf :: s => s
  | s => s

/-- The document that a text holds. -/
def read (dialect : Dialect) (s : Text) : Document :=
  let s := if dialect.marked then dropMark s else s
  if s.isUtf8 then readStatements dialect (s.length + 1) s else ⟨[], some .notUtf8⟩

end DocScribe.Toml
