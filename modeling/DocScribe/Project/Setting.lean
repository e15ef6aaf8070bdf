import DocScribe.Toml.Quoted

/-!
# Settings of any type

Some keys of a manifest take a value of any type. `Setting` is such a value, and the functions here
say what statements make of it: `Setting.assign` what an assignment does, at the key or below it,
`Setting.enterTable` what a table header with its assignments does, and `Setting.enterElement` what
a header of an array element does. A later statement overrides an earlier one, and tables grow.
-/

namespace DocScribe.Project

open Toml (Key Value Problem)

/-- How manifests are written. -/
def manifestDialect : Toml.Dialect :=
  { relaxed := false
    marked := false
    sixQuotes := false
    secondLimit := 61
    offsetHourLimit := 24
    offsetMinuteLimit := 60 }

/-- A value of any type. -/
inductive Setting where
  | string (s : Text)
  | bool (b : Bool)
  /-- A number or a moment. -/
  | literal (s : Text)
  | list (items : List Setting)
  | table (members : List (Text × Setting))

namespace Setting

/-- The members of a table with this setting at a name. -/
def setMember (name : Text) (setting : Setting) (members : List (Text × Setting)) :
    List (Text × Setting) :=
  if (members.lookup name).isSome then
    members.map fun member => if member.1 == name then (name, setting) else member
  else members ++ [(name, setting)]

/-- The members of a setting that is a table, none of any other. -/
def membersOf : Option Setting → List (Text × Setting)
  | some (.table members) => members
  | _ => []

/-- The members of a table with a setting at a dotted key. What is no table on the way gives way to
one. -/
def place (setting : Setting) : (key : Key) → List (Text × Setting) → List (Text × Setting)
  | [], members => members
  | [name], members => setMember name setting members
  | name :: key, members =>
    setMember name (.table (place setting key (membersOf (members.lookup name)))) members

mutual

/-- The setting that a value is, where nothing was before. -/
def ofValue : Value → Except Problem Setting
  | .scalar (.string s) => .ok (.string s)
  | .scalar (.bool b) => .ok (.bool b)
  | .scalar (.literal s) =>
    if Toml.isLiteral manifestDialect s then .ok (.literal s) else .error (.malformedLiteral s)
  | .array items => (ofItems items).map .list
  | .table members => (addMembers [] members).map .table

/-- The settings that the items of an array are. -/
def ofItems : List Value → Except Problem (List Setting)
  | [] => .ok []
  | v :: items =>
    match ofValue v with
    | .error p => .error p
    | .ok setting => (ofItems items).map (setting :: ·)

/-- The members of a table with those of an inline table. -/
def addMembers (before : List (Text × Setting)) :
    List (Key × Value) → Except Problem (List (Text × Setting))
  | [] => .ok before
  | (key, v) :: members =>
    match ofValue v with
    | .error p => .error p
    | .ok setting => addMembers (place setting key before) members

end

/-- The setting that a value makes of the one before it. An inline table adds to a table, an array
replaces a list, and neither replaces anything else. -/
def override (before : Option Setting) (v : Value) : Except Problem Setting :=
  match v, before with
  | .table members, none => (addMembers [] members).map .table
  | .table members, some (.table inner) => (addMembers inner members).map .table
  | .table _, some _ => .error (.unsuitable "inline table")
  | .array items, none => (ofItems items).map .list
  | .array items, some (.list _) => (ofItems items).map .list
  | .array _, some _ => .error (.unsuitable "array")
  | v, _ => ofValue v

/-- The setting that an assignment at a key below it makes of the one before. -/
def assign (before : Option Setting) (key : Key) (v : Value) : Except Problem Setting :=
  if key.isEmpty then override before v
  else (ofValue v).map fun setting => .table (place setting key (membersOf before))

/-- The setting that assignments below it make of the one before. -/
def assignAll (before : Option Setting) (assignments : List (Key × Value)) :
    Except Problem (Option Setting) :=
  assignments.foldlM (fun before p => (assign before p.1 p.2).map some) before

/-- The members of the table that a header goes through; a fault if something else is there. -/
def throughTable (before : Option Setting) : Except Problem (List (Text × Setting)) :=
  match before with
  | none => .ok []
  | some (.table members) => .ok members
  | some _ => .error (.unsuitable "header")

/-- The list with its last item after `change`; a fault if it is empty. -/
def changeLast (change : Option Setting → Except Problem (Option Setting)) (items : List Setting) :
    Except Problem Setting :=
  match items.getLast? with
  | none => .error (.unsuitable "header")
  | some last => (change (some last)).map fun new => .list (items.dropLast ++ [new.getD last])

/-- The setting that a table header and its assignments make of the one before, if the header names
a key below it. The header goes through tables and into the last items of lists. -/
def enterTable (assignments : List (Key × Value)) :
    (key : Key) → Option Setting → Except Problem (Option Setting)
  | [], before => assignAll before assignments
  | name :: key, before => do
    let members ← throughTable before
    let inner ←
      match members.lookup name with
      | none => (enterTable assignments key (some (.table []))).map (·.getD (.table []))
      | some (.list items) => changeLast (enterTable assignments key) items
      | some (.table inner) =>
        (enterTable assignments key (some (.table inner))).map (·.getD (.table inner))
      | some other =>
        if key.isEmpty && assignments.isEmpty then .ok other else .error (.unsuitable name)
    return some (.table (setMember name inner members))

/-- The list with one more item, a table of these assignments. A list that other statements than
headers made starts anew. -/
def append (assignments : List (Key × Value)) (isNew : Bool) (before : Option Setting) :
    Except Problem (Option Setting) := do
  let items ←
    match before with
    | none => .ok []
    | some (.list items) => .ok (if isNew then [] else items)
    | some _ => .error (.unsuitable "array table")
  let item ← assignAll (some (.table [])) assignments
  return some (.list (items ++ [item.getD (.table [])]))

/-- The setting that a header of an array element and its assignments make of the one before, if the
header names a key below it. -/
def enterElement (assignments : List (Key × Value)) (isNew : Bool) :
    (key : Key) → Option Setting → Except Problem (Option Setting)
  | [], before => append assignments isNew before
  | name :: key, before => do
    let members ← throughTable before
    let inner ←
      match members.lookup name, key.isEmpty with
      | before, true => append assignments isNew before
      | none, false => enterElement assignments isNew key (some (.table []))
      | some (.list items), false =>
        (changeLast (enterElement assignments isNew key) items).map some
      | some other, false => enterElement assignments isNew key (some other)
    return some (.table (setMember name (inner.getD (.table [])) members))

/-- The string that a setting is, empty for any other. -/
def text : Option Setting → Text
  | some (.string s) => s
  | _ => []

/-- The strings in a setting that is a list. -/
def texts : Option Setting → List Text
  | some (.list items) => items.filterMap fun item =>
    match item with
    | .string s => some s
    | _ => none
  | _ => []

/-- Whether a setting leaves its value to the workspace. -/
def isInherited : Option Setting → Bool
  | some (.table members) =>
    match members.lookup ("workspace" : Text) with
    | some (.bool b) => b
    | _ => false
  | _ => false

end Setting

end DocScribe.Project
