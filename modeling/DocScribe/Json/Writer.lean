import DocScribe.Json.Basic

/-!
# Writing JSON

Strings escape quotes, backslashes, control characters and the two Unicode line separators, and a
stray byte is written as U+FFFD. An `Escapes` record says what else is escaped. A value is written
without white space (`compact`) or with two spaces per level (`indented`).
-/

namespace DocScribe.Json

/-- What a string escapes beyond the grammar's needs. -/
structure Escapes where
  /-- Escape `<`, `>` and `&` so that the text can stand inside markup. -/
  markup : Bool
  /-- Use the short escapes of backspace and form feed. -/
  short : Bool
  /-- Write U+FFFD for a stray byte as an escape. -/
  stray : Bool

/-- The escapes of documents. -/
def Escapes.document : Escapes := ⟨true, true, false⟩

/-- The escapes that the grammar asks for. -/
def Escapes.plain : Escapes := ⟨false, true, false⟩

/-- One character of a string. -/
def escapeGlyph (escapes : Escapes) (g : Text.Glyph) : Text :=
  match g.code? with
  | none => if escapes.stray then "\\ufffd" else Text.encode Text.replacement
  | some code =>
    if code == 0x22 || code == 0x5c then Text.backslash :: g.bytes
    else if code == 0x0a then "\\n"
    else if code == 0x0d then "\\r"
    else if code == 0x09 then "\\t"
    else if code == 0x08 && escapes.short then "\\b"
    else if code == 0x0c && escapes.short then "\\f"
    else if code < 0x20 || code == 0x2028 || code == 0x2029
        || (escapes.markup && (code == 0x3c || code == 0x3e || code == 0x26)) then
      ("\\u" : Text) ++ Number.hex 4 code
    else g.bytes

/-- A string in quotes. -/
def quote (escapes : Escapes) (s : Text) : Text :=
  Text.quote :: s.glyphs.flatMap (escapeGlyph escapes) ++ [Text.quote]

mutual

/-- The value without white space. -/
def compact (escapes : Escapes) : Json → Text
  | .null => "null"
  | .bool true => "true"
  | .bool false => "false"
  | .number literal => literal
  | .string s => quote escapes s
  | .array vs => 0x5b :: compactItems escapes vs ++ [0x5d]
  | .object ms => 0x7b :: compactMembers escapes ms ++ [0x7d]

/-- Items with commas between them. -/
def compactItems (escapes : Escapes) : List Json → Text
  | [] => []
  | [v] => compact escapes v
  | v :: w :: vs => compact escapes v ++ 0x2c :: compactItems escapes (w :: vs)

/-- Members with commas between them. -/
def compactMembers (escapes : Escapes) : List (Text × Json) → Text
  | [] => []
  | [(name, v)] => quote escapes name ++ 0x3a :: compact escapes v
  | (name, v) :: m :: ms =>
    quote escapes name ++ 0x3a :: compact escapes v ++ 0x2c :: compactMembers escapes (m :: ms)

end

/-- A line break and two spaces per level. -/
def newline (level : Nat) : Text :=
  Text.lf :: List.replicate (2 * level) 0x20

mutual

/-- The value with each item and member on a line of its own. -/
def indentedAt (escapes : Escapes) (level : Nat) : Json → Text
  | .array (v :: vs) =>
    0x5b :: indentedItems escapes (level + 1) (v :: vs) ++ newline level ++ [0x5d]
  | .object (m :: ms) =>
    0x7b :: indentedMembers escapes (level + 1) (m :: ms) ++ newline level ++ [0x7d]
  | .null => "null"
  | .bool true => "true"
  | .bool false => "false"
  | .number literal => literal
  | .string s => quote escapes s
  | .array [] => "[]"
  | .object [] => [0x7b, 0x7d]

/-- Items on lines of their own. -/
def indentedItems (escapes : Escapes) (level : Nat) : List Json → Text
  | [] => []
  | [v] => newline level ++ indentedAt escapes level v
  | v :: w :: vs =>
    newline level ++ indentedAt escapes level v ++ 0x2c :: indentedItems escapes level (w :: vs)

/-- Members on lines of their own. -/
def indentedMembers (escapes : Escapes) (level : Nat) : List (Text × Json) → Text
  | [] => []
  | [(name, v)] =>
    newline level ++ quote escapes name ++ (": " : Text) ++ indentedAt escapes level v
  | (name, v) :: m :: ms =>
    newline level ++ quote escapes name ++ (": " : Text) ++ indentedAt escapes level v ++
      0x2c :: indentedMembers escapes level (m :: ms)

end

/-- The value with two spaces per level. -/
def indented (escapes : Escapes) (v : Json) : Text :=
  indentedAt escapes 0 v

end DocScribe.Json
