import DocScribe.Json.Basic
import DocScribe.Number.Shortest

/-!
# Output values

What the program tells the user, before a format is chosen. A record keeps the order of its fields;
a map has no order of its own, and every format sorts it in its own way. A list that was never made
is told apart from an empty one, because some formats show the difference.
-/

namespace DocScribe

/-- A value to be shown. -/
inductive Tree where
  | null
  | bool (value : Bool)
  | int (value : Int)
  | float (value : Number.Binary64)
  | text (value : Text)
  /-- A list that was never made. -/
  | noList
  | list (items : List Tree)
  | record (fields : List (Text × Tree))
  | map (entries : List (Text × Tree))
deriving Inhabited, Repr

namespace Tree

/-- A list, or one that was never made. -/
def ofList? : Option (List Tree) → Tree
  | some items => .list items
  | none => .noList

/-- A value, or nothing. -/
def orNull : Option Tree → Tree
  | some t => t
  | none => .null

/-- A list of texts. -/
def texts (items : List Text) : Tree :=
  .list (items.map .text)

/-- A record whose fields come in groups. -/
def recordOf (groups : List (List (Text × Tree))) : Tree :=
  .record groups.flatten

/-- A field that is left out when its text is empty. -/
def optionalField (name value : Text) : List (Text × Tree) :=
  if value.isEmpty then [] else [(name, .text value)]

/-- The entries without those that a later one of the same name replaces. -/
def lastOfEach {α : Type} : List (Text × α) → List (Text × α)
  | [] => []
  | entry :: entries =>
    if entries.any fun other => other.1 == entry.1 then lastOfEach entries
    else entry :: lastOfEach entries

/-- The entries in the order of their names. -/
def sortEntries {α : Type} (entries : List (Text × α)) : List (Text × α) :=
  entries.mergeSort fun a b => !Text.lt b.1 a.1

mutual

/-- Equality of values: numbers are equal as numbers, and the entries of a map have no order. -/
def same : Tree → Tree → Bool
  | .null, .null => true
  | .bool a, .bool b => a == b
  | .int m, .int n => m == n
  | .float x, .float y => x.same y
  | .text s, .text t => s == t
  | .noList, .noList => true
  | .list vs, .list ws => sameItems vs ws
  | .record fs, .record gs => sameFields fs gs
  | .map es, .map fs => es.length == fs.length && sameEntries es fs
  | _, _ => false
termination_by structural t => t

/-- Equality of the values of lists. -/
def sameItems : List Tree → List Tree → Bool
  | [], [] => true
  | v :: vs, w :: ws => same v w && sameItems vs ws
  | _, _ => false
termination_by structural vs => vs

/-- Equality of fields, in their order. -/
def sameFields : List (Text × Tree) → List (Text × Tree) → Bool
  | [], [] => true
  | (name, v) :: fs, (other, w) :: gs => name == other && same v w && sameFields fs gs
  | _, _ => false
termination_by structural fs => fs

/-- Whether all entries of one map are in another. -/
def sameEntries : List (Text × Tree) → List (Text × Tree) → Bool
  | [], _ => true
  | (name, v) :: es, fs =>
    (match fs.lookup name with
      | some w => same v w
      | none => false) && sameEntries es fs
termination_by structural es => es

end

mutual

/-- The value of a JSON document, where every number is a floating-point number and every object a
map. -/
def ofJson : Json → Tree
  | .null => .null
  | .bool b => .bool b
  | .number literal =>
    match Number.Binary64.read literal with
    | .ok x => .float x
    | .error _ => .null
  | .string s => .text s
  | .array items => .list (ofJsonItems items)
  | .object members => .map (lastOfEach (ofJsonMembers members))

/-- The values of JSON items. -/
def ofJsonItems : List Json → List Tree
  | [] => []
  | v :: vs => ofJson v :: ofJsonItems vs

/-- The entries of JSON members. -/
def ofJsonMembers : List (Text × Json) → List (Text × Tree)
  | [] => []
  | (name, v) :: ms => (name, ofJson v) :: ofJsonMembers ms

end

mutual

/-- The value as JSON. -/
def toJson : Tree → Json
  | .null => .null
  | .bool b => .bool b
  | .int n => .int n
  | .float x => .float x
  | .text s => .string s
  | .noList => .null
  | .list items => .array (toJsonItems items)
  | .record fields => .object (toJsonMembers fields)
  | .map entries => .object (sortEntries (toJsonMembers entries))

/-- The values of a list as JSON. -/
def toJsonItems : List Tree → List Json
  | [] => []
  | t :: ts => toJson t :: toJsonItems ts

/-- The values of fields as JSON. -/
def toJsonMembers : List (Text × Tree) → List (Text × Json)
  | [] => []
  | (name, t) :: fs => (name, toJson t) :: toJsonMembers fs

end

mutual

/-- The value as plain words, lists and maps in brackets. -/
def plain : Tree → Text
  | .null => "<nil>"
  | .bool true => "true"
  | .bool false => "false"
  | .int n => Number.signed n
  | .float x => x.render .general
  | .text s => s
  | .noList => "[]"
  | .list items => 0x5b :: Text.join [0x20] (plainItems items) ++ [0x5d]
  | .record fields => 0x7b :: Text.join [0x20] ((plainEntries fields).map Prod.snd) ++ [0x7d]
  | .map entries =>
    ("map[" : Text) ++ Text.join [0x20] ((sortEntries (plainEntries entries)).map Prod.snd) ++
      [0x5d]

/-- The items of a list as plain words. -/
def plainItems : List Tree → List Text
  | [] => []
  | t :: ts => plain t :: plainItems ts

/-- The entries of a map as pairs of plain words, with their names. -/
def plainEntries : List (Text × Tree) → List (Text × Text)
  | [] => []
  | (name, t) :: es => (name, name ++ 0x3a :: plain t) :: plainEntries es

end

end Tree

end DocScribe
