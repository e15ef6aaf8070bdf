import DocScribe.Number.Shortest
import DocScribe.Text.Glyph

/-!
# JSON values

A JSON value keeps the literal of a number as it was written and the members of an object in the
order of the document, repeated names included. `member?` finds a member by its exact name, the last
one winning.
-/

namespace DocScribe

/-- A JSON value. -/
inductive Json where
  | null
  | bool (value : Bool)
  | number (literal : Text)
  | string (value : Text)
  | array (items : List Json)
  | object (members : List (Text × Json))
deriving Inhabited, Repr

namespace Json

/-- An integer. -/
def int (n : Int) : Json :=
  .number (Number.signed n)

/-- A natural number. -/
def nat (n : Nat) : Json :=
  .number (Number.decimal n)

/-- How JSON writes a floating-point number: exponents below -6 and from 21 on are spelt out. -/
def floatLayout : Number.Layout := ⟨-6, 21, 1⟩

/-- A floating-point number. -/
def float (x : Number.Binary64) : Json :=
  .number (x.render floatLayout)

/-- A list of texts. -/
def strings (items : List Text) : Json :=
  .array (items.map .string)

/-- The value, or `null`. -/
def orNull : Option Json → Json
  | some v => v
  | none => .null

/-- Whether the value is `null`. -/
def isNull : Json → Bool
  | .null => true
  | _ => false

/-- The members of an object, none for any other value. -/
def members : Json → List (Text × Json)
  | .object ms => ms
  | _ => []

/-- The items of an array, none for any other value. -/
def items : Json → List Json
  | .array vs => vs
  | _ => []

/-- The value of the last member with this name. -/
def member? (v : Json) (name : Text) : Option Json :=
  (v.members.reverse.find? fun m => m.1 == name).map (·.2)

/-- A text with its letters folded for the comparison of names: ASCII letters in lower case, and the
two other characters that fold to an ASCII letter. -/
def foldName (name : Text) : Text :=
  name.glyphs.flatMap fun g =>
    if 0x41 ≤ g.code && g.code ≤ 0x5a then [.ofNat (g.code + 32)]
    else if g.code == 0x17f then [0x73]
    else if g.code == 0x212a then [0x6b]
    else g.bytes

/-- The integer that a number literal without fraction and exponent writes. -/
def int? : Json → Option Int
  | .number literal =>
    match Number.readDecimal literal with
    | .ok n => some n
    | .error _ => none
  | _ => none

/-- The floating-point number nearest to a number literal. -/
def float? : Json → Option Number.Binary64
  | .number literal =>
    match Number.Binary64.read literal with
    | .ok x => some x
    | .error _ => none
  | _ => none

/-- The text of a string. -/
def string? : Json → Option Text
  | .string s => some s
  | _ => none

/-- The value of a Boolean. -/
def bool? : Json → Option Bool
  | .bool b => some b
  | _ => none

end Json

end DocScribe
