import DocScribe.Toml.Literal
import DocScribe.Toml.Problem

/-!
# Strings of TOML

A string is first cut out of the text, up to the quotes that close it, and its escapes are read
afterwards. A string of several lines loses a line break right after its opening quotes, and a
backslash at the end of a line takes the break and all blanks after it away. `readString` reads a
string of any kind; `readLine` and `readVerbatim` those that may also be names in a key.
-/

namespace DocScribe.Toml

/-- The text without spaces and tabs at its start. -/
def skipBlanks (s : Text) : Text :=
  s.dropWhile fun b => b == 0x20 || b == 0x09

/-- A control character, which no string and no comment holds. -/
def isControl (b : UInt8) : Bool :=
  (b < 0x20 && b != 0x09) || b == 0x7f

/-- What follows a line break at the head of a text. -/
def dropBreak? : Text → Option Text
  | 0x0a :: s => some s
  | 0x0d :: 0x0a :: s => some s
  | _ => none

/-- The character that `digits` hexadecimal digits stand for, and what follows them. -/
def readCode (digits : Nat) (s : Text) : Except Problem (Text × Text) :=
  let code := s.take digits
  if code.length < digits then .error (.shortCode digits code.length)
  else
    match Number.digitsValue? 16 code with
    | none => .error .badCodeDigit
    | some code =>
      if (0xd800 ≤ code && code < 0xe000) || 0x10ffff < code then .error .badCode
      else .ok (Text.encode code, s.drop digits)

/-- What an escape stands for, after its backslash, and what follows it. -/
def readEscape (dialect : Dialect) (s : Text) : Except Problem (Text × Text) :=
  match s with
  | 0x62 :: s => .ok ([0x08], s)
  | 0x74 :: s => .ok ([0x09], s)
  | 0x6e :: s => .ok ([0x0a], s)
  | 0x66 :: s => .ok ([0x0c], s)
  | 0x72 :: s => .ok ([0x0d], s)
  | 0x65 :: s => .ok ([0x1b], s)
  | 0x22 :: s => .ok ([0x22], s)
  | 0x5c :: s => .ok ([0x5c], s)
  | 0x75 :: s => readCode 4 s
  | 0x55 :: s => readCode 8 s
  | 0x78 :: s => if dialect.relaxed then readCode 2 s else .error (.badEscape 0x78)
  | b :: _ => .error (.badEscape b)
  | [] => .error .missingEscape

/-- What follows the blanks and line breaks after a backslash, if a line ends with it. -/
def continueLine? (s : Text) : Option Text :=
  (dropBreak? (skipBlanks s)).map fun rest =>
    rest.dropWhile fun b => b == 0x20 || b == 0x09 || b == 0x0a || b == 0x0d

/-- A byte that may stand in a string of several lines. -/
def isBlockByte (b : UInt8) (rest : Text) : Bool :=
  !isControl b || b == 0x0a || (b == 0x0d && rest.head? == some 0x0a)

/-- The string that a text with escapes stands for, after the reversed start of it. Only in a block
do lines end. -/
def unescape (dialect : Dialect) (block : Bool) :
    (fuel : Nat) → (start : Text) → Text → Except Problem Text
  | 0, _, _ => .error .missingEscape
  | _ + 1, start, [] => .ok start.reverse
  | fuel + 1, start, b :: s =>
    if b == 0x5c then
      match if block then continueLine? s else none with
      | some s => unescape dialect block fuel start s
      | none =>
        match readEscape dialect s with
        | .ok (c, s) => unescape dialect block fuel (c.reverse ++ start) s
        | .error p => .error p
    else if if block then isBlockByte b s else !isControl b then
      unescape dialect block fuel (b :: start) s
    else .error (.badCharacter b)

/-- The inside of a string of one line after its opening quote, following its reversed start, and
what follows the closing quote. -/
def cutLine (start : Text) : Text → Except Problem (Text × Text)
  | [] => .error (.unclosed .line)
  | 0x22 :: s => .ok (start.reverse, s)
  | 0x5c :: c :: s => cutLine (c :: 0x5c :: start) s
  | b :: s =>
    if b == 0x0a || b == 0x0d then .error (.brokenLine .line)
    else if b == 0x5c then .error .missingEscape
    else cutLine (b :: start) s

/-- A string of one line after its opening quote. -/
def readLine (dialect : Dialect) (s : Text) : Except Problem (Text × Text) := do
  let (inside, rest) ← cutLine [] s
  return (← unescape dialect false (inside.length + 1) [] inside, rest)

/-- A string without escapes after its opening quote. -/
def readVerbatim (s : Text) : Except Problem (Text × Text) :=
  let body := s.takeWhile fun b => b != 0x27 && !isControl b
  match s.drop body.length with
  | 0x27 :: rest => .ok (body, rest)
  | [] => .error (.unclosed .verbatim)
  | b :: _ =>
    if b == 0x0a || b == 0x0d then .error (.brokenLine .verbatim) else .error (.badCharacter b)

/-- Whether a run of quotes closes a string of several lines: three do, and one or two more before
them are part of the string. -/
def closes (dialect : Dialect) (quote : UInt8) (start : Text) (run : Nat) : Bool :=
  run ≤ 5 || (run == 6 && dialect.sixQuotes && quote == 0x22 && start.head? == some 0x5c)

/-- The inside of a string of several lines after its opening quotes, following its reversed start,
and what follows the closing quotes. Double quotes can be escaped. -/
def cutBlock (dialect : Dialect) (quote : UInt8) (start : Text) :
    Text → Except Problem (Text × Text)
  | [] => .error (.unclosed (.block quote))
  | b :: s =>
    let run := ((b :: s).takeWhile (· == quote)).length
    if 3 ≤ run then
      if closes dialect quote start run then
        .ok (start.reverse ++ List.replicate (run - 3) quote, (b :: s).drop run)
      else .error (.tooManyQuotes quote)
    else if b == 0x5c && quote == 0x22 then
      match s with
      | [] => .error .missingEscape
      | c :: s => cutBlock dialect quote (c :: b :: start) s
    else if b == 0x0d && s.head? != some 0x0a then .error (.brokenLine (.block quote))
    else cutBlock dialect quote (b :: start) s

/-- A string of several lines after its opening quotes. -/
def readBlock (dialect : Dialect) (quote : UInt8) (s : Text) : Except Problem (Text × Text) := do
  let (inside, rest) ← cutBlock dialect quote [] s
  let inside := (dropBreak? inside).getD inside
  if quote == 0x22 then
    return (← unescape dialect true (inside.length + 1) [] inside, rest)
  else
    match inside.find? fun b => isControl b && b != 0x0a && b != 0x0d with
    | some b => .error (.badCharacter b)
    | none => return (inside, rest)

/-- A string at the head of a text, which starts with a quote. -/
def readString (dialect : Dialect) (s : Text) : Except Problem (Text × Text) :=
  match s with
  | 0x22 :: 0x22 :: 0x22 :: s => readBlock dialect 0x22 s
  | 0x27 :: 0x27 :: 0x27 :: s => readBlock dialect 0x27 s
  | 0x22 :: s => readLine dialect s
  | 0x27 :: s => readVerbatim s
  | b :: _ => .error (.badCharacter b)
  | [] => .error .missingValue

end DocScribe.Toml
