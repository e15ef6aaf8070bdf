import DocScribe.Output.Tree
import DocScribe.Text.Letter
import DocScribe.Yaml.Scalar

/-!
# Writing YAML

Values in block style. The items of a list stand under the key they belong to, one level deeper, and
what is inside an item starts two columns after its dash. Every other level starts at the next
multiple of four columns. The entries of a map are sorted so that numbers inside their names count
as numbers.
-/

namespace DocScribe.Yaml

/-! ## The order of names -/

/-- The number at the head of some characters after `start`, and how many digits it has. -/
def leadingNumber : (start : Nat) → List Nat → Nat × Nat
  | n, [] => (n, 0)
  | n, code :: codes =>
    if Text.isDigit code then
      let (value, count) := leadingNumber (n * 10 + (code - 0x30)) codes
      (value, count + 1)
    else (n, 0)

/-- The comparison of two names from their first difference on. `digits` says whether a digit comes
before it, and `positive` whether the digits before it are not all zero. -/
def differenceLt (digits positive : Bool) (a b : Nat) (as bs : List Nat) : Bool :=
  let aLetter := Text.isLetter a
  let bLetter := Text.isLetter b
  if aLetter && bLetter then a < b
  else if aLetter || bLetter then if digits then aLetter else bLetter
  else
    let start := if (a == 0x30 || b == 0x30) && positive then 1 else 0
    let (m, mDigits) := leadingNumber start (a :: as)
    let (n, nDigits) := leadingNumber start (b :: bs)
    if m != n then m < n else if mDigits != nDigits then mDigits < nDigits else a < b

/-- The order of names after what they have in common. -/
def codesLt (digits positive : Bool) : List Nat → List Nat → Bool
  | a :: as, b :: bs =>
    if a == b then
      let isDigit := Text.isDigit a
      codesLt isDigit (isDigit && (positive || a != 0x30)) as bs
    else differenceLt digits positive a b as bs
  | [], _ :: _ => true
  | _, _ => false

/-- The order of names. -/
def nameLt (a b : Text) : Bool :=
  codesLt false false (a.glyphs.map Text.Glyph.code) (b.glyphs.map Text.Glyph.code)

/-- Named parts in the order of their names. -/
def sortByName (parts : List (Text × Text)) : List (Text × Text) :=
  parts.mergeSort fun a b => !nameLt b.1 a.1

/-! ## Blocks -/

/-- The column one level below `column`. -/
def deeper (column : Nat) : Nat :=
  step * ((column + step) / step)

/-- A new line that starts at `column`. -/
def lineAt (column : Nat) : Text :=
  Text.lf :: spaces column

/-- Parts under each other at `column`, the first after `lead`. -/
def stacked (lead : Text) (column : Nat) (parts : List Text) : Text :=
  lead ++ Text.join (lineAt column) parts

/-- A floating-point number. -/
def floatText : Number.Binary64 → Text
  | .infinite false => ".inf"
  | .infinite true => "-.inf"
  | .nan => ".nan"
  | x => x.render .general

mutual

/-- What follows a key, a dash or nothing: a scalar after a space, or a block at `column` whose
first part comes after `lead`. -/
def block (lead : Text) (column : Nat) : Tree → Text
  | .null => " null"
  | .bool true => " true"
  | .bool false => " false"
  | .int n => 0x20 :: Number.signed n
  | .float x => 0x20 :: floatText x
  | .text s => 0x20 :: scalar column s
  | .noList => " []"
  | .list [] => " []"
  | .list (t :: ts) => stacked lead column (itemParts column (t :: ts))
  | .record [] => [0x20, 0x7b, 0x7d]
  | .record (f :: fs) => stacked lead column ((entryParts column (f :: fs)).map Prod.snd)
  | .map [] => [0x20, 0x7b, 0x7d]
  | .map (f :: fs) => stacked lead column ((sortByName (entryParts column (f :: fs))).map Prod.snd)

/-- The items of a list at `column`. -/
def itemParts (column : Nat) : List Tree → List Text
  | [] => []
  | t :: ts => (0x2d :: block " " (column + 2) t) :: itemParts column ts

/-- The entries at `column` with their names. The value of a long name stands on its own line. -/
def entryParts (column : Nat) : List (Text × Tree) → List (Text × Text)
  | [] => []
  | (name, t) :: es =>
    let below := deeper column
    let entry : Text :=
      if isSimpleKey name then scalar below name ++ 0x3a :: block (lineAt below) below t
      else
        ("? " : Text) ++ scalar below name ++ lineAt column ++
          0x3a :: block (spaces (below - column - 1)) below t
    (name, entry) :: entryParts column es

end

/-- A document without the line feed at its end. -/
def document (t : Tree) : Text :=
  match block [] 0 t with
  | 0x20 :: s => s
  | s => s

end DocScribe.Yaml
