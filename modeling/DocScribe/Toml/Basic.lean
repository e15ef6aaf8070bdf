import DocScribe.Number.Digits
import DocScribe.Text.Glyph

/-!
# TOML documents

A document is a list of statements: table headers, headers of array elements, and assignments of a
value to a dotted key. A number or a moment keeps its literal, which nothing here computes with; it
is for whoever uses a document to refuse a malformed one. `sections` groups the assignments under
their headers, `keys` lists all keys that a document names, and `literals` all its literals, in
their order.
-/

namespace DocScribe.Toml

/-- The names of a dotted key or a header. -/
abbrev Key := List Text

/-- A value without parts. -/
inductive Scalar where
  | string (s : Text)
  | bool (b : Bool)
  /-- What stands for a number, a date or a time of day. -/
  | literal (s : Text)
deriving DecidableEq, Repr

/-- What a key is assigned. -/
inductive Value where
  | scalar (s : Scalar)
  | array (items : List Value)
  | table (members : List (Key × Value))

/-- A line of a document. -/
inductive Statement where
  | table (key : Key)
  /-- Starts a new element of an array of tables. -/
  | element (key : Key)
  | assign (key : Key) (value : Value)

mutual

/-- The keys inside a value that stands at `key`. -/
def Value.keys (key : Key) : Value → List Key
  | .scalar _ => []
  | .array items => itemKeys key items
  | .table members => memberKeys key members

/-- The keys inside the items of an array at `key`. -/
def itemKeys (key : Key) : List Value → List Key
  | [] => []
  | v :: items => v.keys key ++ itemKeys key items

/-- The keys of an inline table at `key`, each followed by those inside it. -/
def memberKeys (key : Key) : List (Key × Value) → List Key
  | [] => []
  | (name, v) :: members => (key ++ name) :: v.keys (key ++ name) ++ memberKeys key members

end

/-- The keys that statements below the header `context` name. -/
def keysBelow (context : Key) : List Statement → List Key
  | [] => []
  | .table key :: rest => key :: keysBelow key rest
  | .element key :: rest => key :: keysBelow key rest
  | .assign key v :: rest =>
    (context ++ key) :: v.keys (context ++ key) ++ keysBelow context rest

/-- The keys of a document. -/
def keys (document : List Statement) : List Key :=
  keysBelow [] document

mutual

/-- The literals in a value. -/
def Value.literals : Value → List Text
  | .scalar (.literal s) => [s]
  | .scalar _ => []
  | .array items => itemLiterals items
  | .table members => memberLiterals members

/-- The literals in the items of an array. -/
def itemLiterals : List Value → List Text
  | [] => []
  | v :: items => v.literals ++ itemLiterals items

/-- The literals in an inline table. -/
def memberLiterals : List (Key × Value) → List Text
  | [] => []
  | (_, v) :: members => v.literals ++ memberLiterals members

end

/-- The literals of a document. -/
def literals (document : List Statement) : List Text :=
  document.flatMap fun statement =>
    match statement with
    | .assign _ v => v.literals
    | _ => []

/-- Where a section of a document starts. -/
inductive Header where
  /-- The start of the document. -/
  | top
  | table (key : Key)
  | element (key : Key)
deriving DecidableEq, Repr

/-- The key of a header. -/
def Header.key : Header → Key
  | .top => []
  | .table key => key
  | .element key => key

/-- A header and the assignments up to the next one. -/
structure Section where
  header : Header
  assignments : List (Key × Value)

/-- The assignments before the first header, and the sections from there on. -/
def splitSections : List Statement → List (Key × Value) × List Section
  | [] => ([], [])
  | .assign key v :: rest => ((key, v) :: (splitSections rest).1, (splitSections rest).2)
  | .table key :: rest => ([], ⟨.table key, (splitSections rest).1⟩ :: (splitSections rest).2)
  | .element key :: rest => ([], ⟨.element key, (splitSections rest).1⟩ :: (splitSections rest).2)

/-- The sections of a document, the one before all headers first. -/
def sections (document : List Statement) : List Section :=
  let (assignments, rest) := splitSections document
  ⟨.top, assignments⟩ :: rest

/-- A byte of a name that needs no quotes. -/
def isBareByte (b : UInt8) : Bool :=
  Text.isWordByte b || b == 0x2d

/-- A byte of a quoted name as it is written. -/
def escapeByte (b : UInt8) : Text :=
  match b with
  | 0x22 => "\\\""
  | 0x5c => "\\\\"
  | 0x08 => "\\b"
  | 0x09 => "\\t"
  | 0x0a => "\\n"
  | 0x0c => "\\f"
  | 0x0d => "\\r"
  | b => if b < 0x20 || b == 0x7f then ("\\u" : Text) ++ Number.hex 4 b.toNat else [b]

/-- A name of a key as it is written. -/
def writeName (name : Text) : Text :=
  if !name.isEmpty && name.all isBareByte then name
  else Text.quote :: name.flatMap escapeByte ++ [Text.quote]

/-- A key as it is written. -/
def writeKey (key : Key) : Text :=
  Text.join "." (key.map writeName)

end DocScribe.Toml
