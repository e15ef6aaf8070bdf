import DocScribe.Number.Digits
import DocScribe.Text.Case
import DocScribe.Text.Printable

/-!
# Problems of TOML documents

Why a text is no document, or a document does not say what it should. `Problem.message` words each
problem.
-/

namespace DocScribe.Toml

/-- A kind of string. -/
inductive StringKind where
  /-- Between double quotes. -/
  | line
  /-- Between single quotes. -/
  | verbatim
  /-- Of several lines, between three quotes each. -/
  | block (quote : UInt8)
deriving DecidableEq, Repr

/-- What stands at a key that was named before. -/
inductive Standing where
  | value
  | table
  | elements
deriving DecidableEq, Repr

/-- The word for it. -/
def Standing.word : Standing → Text
  | .value => "value"
  | .table => "table"
  | .elements => "array table"

/-- Why a text holds no document, or one that is not wanted. -/
inductive Problem where
  | notUtf8
  /-- Something else than a line break follows a statement. -/
  | expectedBreak (found : UInt8)
  /-- A carriage return without a line feed. -/
  | loneReturn
  | expected (byte : UInt8)
  /-- The text ends where a byte should be. -/
  | endsBefore (byte : UInt8)
  | missingEquals
  | missingKey
  | badKeyStart (found : UInt8)
  /-- The text ends where a value should be. -/
  | missingValue
  | expectedWord (word : Text)
  | missingDigits
  /-- A letter that starts neither `inf` nor `nan` in a number. -/
  | strayLetter (letter : UInt8)
  | badComment
  | unclosed (kind : StringKind)
  | brokenLine (kind : StringKind)
  /-- More quotes than a string of several lines ends with. -/
  | tooManyQuotes (quote : UInt8)
  | badCharacter (found : UInt8)
  | missingEscape
  | badEscape (found : UInt8)
  | shortCode (wanted found : Nat)
  | badCodeDigit
  | badCode
  | openArray
  | leadingComma
  | missingComma
  | openTable
  | malformedLiteral (literal : Text)
  | defined (name : Text)
  | notTable (name : Text) (standing : Standing)
  | notElements (name : Text) (standing : Standing)
  | headedTwice (name : Text)
  | closedTable (name : Text)
  /-- The value does not fit what the key is for. -/
  | unsuitable (name : Text)
deriving DecidableEq, Repr

/-- A code point by its number in capital digits, and as it is if it is printable. -/
def describeByte (b : UInt8) : Text :=
  let number := ("U+" : Text) ++ Text.toUpper (Number.hex 4 b.toNat)
  if Text.isPrintable b.toNat then
    number ++ (" '" : Text) ++ Text.encode b.toNat ++ ("'" : Text)
  else number

/-- How a string that does not end is worded. -/
def StringKind.unclosed : StringKind → Text
  | .line => "basic string not terminated by \""
  | .verbatim => "unterminated literal string"
  | .block quote =>
    (if quote == 0x22 then ("multiline basic string not terminated by " : Text)
      else ("multiline literal string not terminated by " : Text)) ++ List.replicate 3 quote

/-- How a line break in a string is worded. -/
def StringKind.brokenLine : StringKind → Text
  | .line => "basic strings cannot have new lines"
  | .verbatim => "literal strings cannot have new lines"
  | .block _ => "need a \\n after \\r"

/-- What a problem says, without the name of the format. -/
def Problem.detail : Problem → Text
  | .notUtf8 => "invalid UTF-8"
  | .expectedBreak b => ("expected newline but got " : Text) ++ describeByte b
  | .loneReturn => "windows new line should be \\r\\n"
  | .expected b => ("expected character " : Text) ++ Text.encode b.toNat
  | .endsBefore b =>
    ("expected character " : Text) ++ Text.encode b.toNat ++ (" but the document ended here" : Text)
  | .missingEquals => "expected = after a key, but the document ends there"
  | .missingKey => "expected key but found none"
  | .badKeyStart b => ("invalid character at start of key: " : Text) ++ Text.encode b.toNat
  | .missingValue => "expected value, not eof"
  | .expectedWord word => ("expected '" : Text) ++ word ++ ("'" : Text)
  | .missingDigits => "incomplete number"
  | .strayLetter b =>
    ("unexpected character '" : Text) ++ [b] ++ ("' while scanning for a number" : Text)
  | .badComment => "invalid character in comment"
  | .unclosed kind => kind.unclosed
  | .brokenLine kind => kind.brokenLine
  | .tooManyQuotes quote =>
    List.replicate 3 quote ++ (" not allowed in multiline " : Text) ++
      (if quote == 0x22 then ("basic string" : Text) else ("literal string" : Text))
  | .badCharacter b => ("invalid character " : Text) ++ describeByte b
  | .missingEscape => "need a character after \\"
  | .badEscape b => ("invalid escaped character " : Text) ++ describeByte b
  | .shortCode wanted found =>
    ("unicode point needs " : Text) ++ Number.decimal wanted ++ (" character, not " : Text) ++
      Number.decimal found
  | .badCodeDigit => "non-hex character"
  | .badCode => "escape sequence is invalid Unicode code point"
  | .openArray => "array is incomplete"
  | .leadingComma => "array cannot start with comma"
  | .missingComma => "array elements must be separated by commas"
  | .openTable => "inline table is incomplete"
  | .malformedLiteral literal => ("malformed literal " : Text) ++ literal
  | .defined name => ("key " : Text) ++ name ++ (" is already defined" : Text)
  | .notTable name standing =>
    ("expected " : Text) ++ name ++ (" to be a table, not a " : Text) ++ standing.word
  | .notElements name standing =>
    ("key " : Text) ++ standing.word ++ (" already exists as a " : Text) ++ name ++
      (",  but should be an array table" : Text)
  | .headedTwice name => ("table " : Text) ++ name ++ (" already exists" : Text)
  | .closedTable name =>
    ("cannot redefine table " : Text) ++ name ++
      (" that has already been explicitly defined" : Text)
  | .unsuitable name => ("value does not fit " : Text) ++ name

/-- The wording of a problem. -/
def Problem.message (p : Problem) : Text :=
  ("toml: " : Text) ++ p.detail

end DocScribe.Toml
