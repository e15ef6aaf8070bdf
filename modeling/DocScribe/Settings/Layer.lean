import DocScribe.Output.Tree
import DocScribe.Settings.Library

/-!
# Layers of settings

Settings come from three layers: the environment, the settings file and the defaults, each before
the next. A key is a path of names with dots between them, in lower case, and an object of the file
may spell a part of the path with dots in one of its names. A value that is no object hides
everything below its key, in its own layer and in those after it.
-/

namespace DocScribe.Settings

/-- The value of a variable, unless it is empty. -/
def Environment.nonempty? (env : Environment) (name : Text) : Option Text :=
  (env.lookup name).filter fun value => !value.isEmpty

mutual

/-- A value with the names of its objects in lower case, where the last of equal names wins. -/
def lowered : Json → Json
  | .object members => .object (Tree.lastOfEach (loweredMembers members))
  | v => v

/-- Members with their names in lower case. -/
def loweredMembers : List (Text × Json) → List (Text × Json)
  | [] => []
  | (name, v) :: ms => (name.toLower, lowered v) :: loweredMembers ms

end

/-! ## Keys -/

mutual

/-- Adds the keys of a value that stands at `key` to `keys`; nothing below a key that is known as a
value is added. -/
def addKeys (keys : List Text) (key : Text) : Json → List Text
  | .object members =>
    if keys.contains key then keys else addMemberKeys keys (key ++ [0x2e]) members
  | _ => if keys.contains key then keys else keys ++ [key]

/-- Adds the keys of members, whose names come after `start`. -/
def addMemberKeys (keys : List Text) (start : Text) : List (Text × Json) → List Text
  | [] => keys
  | (name, v) :: ms => addMemberKeys (addKeys keys (start ++ name) v) start ms

end

/-- Where settings come from. -/
structure Layers where
  /-- What the environment says of a key. -/
  override? : Text → Option Text
  file : Json
  defaults : Json

namespace Layers

/-- The keys of the file and the defaults in order. -/
def keys (l : Layers) : List Text :=
  Text.sort (addMemberKeys (addMemberKeys [] [] l.file.members) [] l.defaults.members)

/-! ## Values -/

/-- A member that is not null. -/
def present? (v : Json) (name : Text) : Option Json :=
  (v.member? name).filter fun found => !found.isNull

/-- The value at a path, where a name of an object may stand for several parts of the path; longer
names are tried first. `fuel` bounds the depth. -/
def search? : (fuel : Nat) → (v : Json) → (path : List Text) → Option Json
  | 0, _, _ => none
  | fuel + 1, v, path =>
    if path.isEmpty then some v
    else
      ((List.range path.length).reverse.map (· + 1)).findSome? fun n =>
        match present? v (Text.join [0x2e] (path.take n)) with
        | none => none
        | some found =>
          if n == path.length then some found
          else
            match found with
            | .object _ => search? fuel found (path.drop n)
            | _ => none

/-- The value at a path. -/
def at? (v : Json) (path : List Text) : Option Json :=
  search? (path.length + 1) v path

/-- Whether a value that is no object stands above the end of a path. -/
def isHidden (v : Json) : (path : List Text) → Bool
  | [] => false
  | [_] => false
  | name :: rest =>
    match present? v name with
    | some (.object members) => isHidden (.object members) rest
    | some _ => true
    | none => false

/-- Whether the environment overrides a key above this one. -/
def isOverriddenAbove (l : Layers) (path : List Text) : Bool :=
  (List.range path.length).any fun n =>
    n != 0 && (l.override? (Text.join [0x2e] (path.take n))).isSome

/-- The value of a key. -/
def value? (l : Layers) (key : Text) : Option Json :=
  let path := key.splitOnByte 0x2e
  match l.override? key with
  | some value => some (.string value)
  | none =>
    if l.isOverriddenAbove path then none
    else
      match at? l.file path with
      | some v => some v
      | none => if isHidden l.file path then none else at? l.defaults path

/-- The members with one of them replaced or added. -/
def setMember (name : Text) (value : Json) : List (Text × Json) → List (Text × Json)
  | [] => [(name, value)]
  | m :: ms => if m.1 == name then (name, value) :: ms else m :: setMember name value ms

/-- The value with another at a path. What is no object on the way becomes one. -/
def put (value : Json) : (path : List Text) → Json → Json
  | [], _ => value
  | name :: rest, v =>
    .object (setMember name (put value rest ((v.member? name).getD .null)) v.members)

/-- The defaults as an object. -/
def ofDefaults (defaults : List (Text × Datum)) : Json :=
  defaults.foldl (fun all (key, d) => put d.json (key.toLower.splitOnByte 0x2e) all) (.object [])

/-- All layers as one object. -/
def merged (l : Layers) : Json :=
  l.keys.foldl
    (fun all key =>
      match l.value? key with
      | some v => put v (key.splitOnByte 0x2e) all
      | none => all)
    (.object [])

end Layers

end DocScribe.Settings
