import DocScribe.Toml.Basic

/-!
# The table of a TOML document

The statements of a document build one table, name by name. `Draft` holds it with two sets of keys:
those of tables that were only implied, as parts of longer keys, and those that hold plain arrays. A
key is defined once, except that an implied table may be defined on top of what it holds, and an
array may be replaced. An inline table is also built on its own, where its dotted keys go through
tables only. `build?` refuses a document that breaks one of these rules.
-/

namespace DocScribe.Toml

/-- What stands at a name. -/
inductive Entry where
  | scalar (s : Scalar)
  | array
  | table (members : List (Text × Entry))
  /-- An array of tables, the last one first. -/
  | elements (tables : List (List (Text × Entry)))

/-- The entries of a table in their order. -/
abbrev Members := List (Text × Entry)

namespace Members

/-- The members with this entry at a name. -/
def set (name : Text) (entry : Entry) (members : Members) : Members :=
  if (members.lookup name).isSome then
    members.map fun member => if member.1 == name then (name, entry) else member
  else members ++ [(name, entry)]

/-- What stands at a key, through tables and the last elements of arrays of tables; a fault if the
way is blocked. -/
def entryAt? : (key : Key) → Members → Option (Option Entry)
  | [], members => some (some (.table members))
  | [name], members => some (members.lookup name)
  | name :: key, members =>
    match members.lookup name with
    | some (.table inner) => entryAt? key inner
    | some (.elements (last :: _)) => entryAt? key last
    | _ => none

/-- The members with this entry at a key, where the way to it is free. -/
def put (entry : Entry) : (key : Key) → Members → Members
  | [], members => members
  | [name], members => members.set name entry
  | name :: key, members =>
    match members.lookup name with
    | some (.table inner) => members.set name (.table (put entry key inner))
    | some (.elements (last :: before)) =>
      members.set name (.elements (put entry key last :: before))
    | _ => members

/-- The members with this entry at a dotted key, in place of what was there; a fault if the key goes
through anything but tables. -/
def replace? (entry : Entry) : (key : Key) → Members → Option Members
  | [], members => some members
  | [name], members => some (members.set name entry)
  | name :: key, members =>
    match members.lookup name with
    | none => (replace? entry key []).map fun inner => members.set name (.table inner)
    | some (.table inner) =>
      (replace? entry key inner).map fun inner => members.set name (.table inner)
    | some _ => none

end Members

mutual

/-- A value as an entry of its own. -/
def Value.entry? : Value → Option Entry
  | .scalar s => some (.scalar s)
  | .array items => if areEntries items then some .array else none
  | .table members => (inlineMembers? [] members).map .table

/-- Whether all items of an array are entries. -/
def areEntries : List Value → Bool
  | [] => true
  | v :: items => v.entry?.isSome && areEntries items

/-- The members of an inline table after those before them. -/
def inlineMembers? (before : Members) : List (Key × Value) → Option Members
  | [] => some before
  | (key, v) :: members =>
    match v.entry? with
    | none => none
    | some entry =>
      match before.replace? entry key with
      | none => none
      | some before => inlineMembers? before members

end

/-- Whether a value is an array. -/
def Value.isArray : Value → Bool
  | .array _ => true
  | _ => false

/-- A table that is being built. -/
structure Draft where
  members : Members := []
  /-- The keys of tables that are there as parts of longer keys. -/
  implied : List Key := []
  /-- The keys that hold plain arrays. -/
  arrays : List Key := []

/-- The keys that lead to a key, the shortest first. -/
def Key.parents (key : Key) : List Key :=
  (List.range (key.length - 1)).map fun n => key.take (n + 1)

namespace Draft

/-- The draft with a key among the implied ones. -/
def imply (d : Draft) (key : Key) : Draft :=
  { d with implied := d.implied.insert key }

/-- The draft with a key not among the implied ones. -/
def settle (d : Draft) (key : Key) : Draft :=
  { d with implied := d.implied.filter (· != key) }

/-- The draft with an entry at a key. -/
def put (d : Draft) (key : Key) (entry : Entry) : Draft :=
  { d with members := d.members.put entry key }

/-- The draft with a key defined as this entry. -/
def define? (d : Draft) (key : Key) (entry : Entry) : Option Draft :=
  match d.members.entryAt? key with
  | none => none
  | some none => some (d.put key entry)
  | some (some _) =>
    if d.arrays.contains key then some ((d.settle key).put key entry)
    else if d.implied.contains key then some (d.settle key)
    else none

/-- The draft with a table at a key, an implied one if nothing was there. -/
def reach? (d : Draft) (key : Key) : Option Draft :=
  match d.members.entryAt? key with
  | some none => some ((d.put key (.table [])).imply key)
  | some (some (.table _)) => some d
  | some (some (.elements _)) => some d
  | _ => none

/-- The draft with the table of a key defined. -/
def openTable? (d : Draft) (key : Key) : Option Draft := do
  (← key.parents.foldlM reach? d).define? key (.table [])

/-- The draft with a new element in the array of tables of a key. -/
def openElement? (d : Draft) (key : Key) : Option Draft := do
  let d ← key.parents.foldlM reach? d
  match d.members.entryAt? key with
  | some none => some (d.put key (.elements [[]]))
  | some (some (.elements tables)) => some (d.put key (.elements ([] :: tables)))
  | _ => none

/-- The draft with the tables that a dotted key below `context` leads through. -/
def openParents? (d : Draft) (context key : Key) : Option Draft :=
  (key.parents.map (context ++ ·)).foldlM (fun d parent => (d.imply parent).openTable? parent) d

/-- The draft with a note of whether a name holds a plain array. The note of an empty name goes to
the table that it is in. -/
def note (d : Draft) (context : Key) (name : Text) (isArray : Bool) : Draft :=
  let key := if name.isEmpty then context else context ++ [name]
  let key := if key.isEmpty then [[]] else key
  { d with arrays := if isArray then d.arrays.insert key else d.arrays.filter (· != key) }

mutual

/-- The draft with the parts of a value at a name, which may be an item of an array there. -/
def addValue? (d : Draft) (context : Key) (name : Text) (inArray : Bool) : Value → Option Draft
  | .scalar _ => some d
  | .array items => (d.note context name true).addItems? context name items
  | .table members =>
    let key := context ++ [name]
    let opened := if inArray then (d.imply key).openElement? key else (d.imply key).openTable? key
    match opened with
    | none => none
    | some d => d.addMembers? key members

/-- The draft with the items of an array at a name. -/
def addItems? (d : Draft) (context : Key) (name : Text) : List Value → Option Draft
  | [] => some d
  | v :: items =>
    match d.addValue? context name true v with
    | none => none
    | some d => d.addItems? context name items

/-- The draft with values assigned to dotted keys below `context`. -/
def addMembers? (d : Draft) (context : Key) : List (Key × Value) → Option Draft
  | [] => some d
  | (key, v) :: members =>
    let parent := context ++ key.dropLast
    let name := key.getLastD []
    match d.openParents? context key with
    | none => none
    | some d =>
      match d.addValue? parent name false v, v.entry? with
      | some d, some entry =>
        match d.define? (context ++ key) entry with
        | none => none
        | some d => (d.note parent name v.isArray).addMembers? context members
      | _, _ => none

end

/-- The draft with a section of a document. -/
def addSection? (d : Draft) (part : Section) : Option Draft := do
  let key := part.header.key
  let d ←
    match part.header with
    | .top => some d
    | .table _ => d.openTable? key
    | .element _ => d.openElement? key
  let d := if key.isEmpty then d else d.note key [] false
  d.addMembers? key part.assignments

end Draft

/-- The table that a document builds. -/
def build? (document : List Statement) : Option Members :=
  ((sections document).foldlM Draft.addSection? {}).map (·.members)

end DocScribe.Toml
