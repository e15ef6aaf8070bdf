import DocScribe.Toml.Basic
import DocScribe.Toml.Problem

/-!
# Which keys a TOML document has used

`Track` remembers, section by section, what stands at each key, so that no key is assigned twice, no
table has two headers, and no header or dotted key goes through a value. A table that dotted keys
made is closed at the next header. An inline table is checked on its own.
-/

namespace DocScribe.Toml

/-- How far a table is defined. -/
inductive Origin where
  /-- A longer header leads through it; a header of its own may follow. -/
  | implied
  /-- A dotted key of this section leads through it; more may. -/
  | dotted
  /-- It has its header, or its section is over. -/
  | closed
deriving DecidableEq, Repr

/-- What stands at a name, and below it. -/
inductive Mark where
  | value
  | table (origin : Origin) (below : List (Text × Mark))
  /-- The current element of an array of tables. -/
  | elements (below : List (Text × Mark))

/-- What stands at the names of a table. -/
abbrev Marks := List (Text × Mark)

/-- What kind of thing a mark stands for. -/
def Mark.standing : Mark → Standing
  | .value => .value
  | .table _ _ => .table
  | .elements _ => .elements

mutual

/-- The mark at the end of a section: tables that dotted keys made are closed. -/
def Mark.close : Mark → Mark
  | .value => .value
  | .table origin below =>
    .table (if origin == .dotted then .closed else origin) (closeAll below)
  | .elements below => .elements (closeAll below)

/-- The marks at the end of a section. -/
def closeAll : List (Text × Mark) → List (Text × Mark)
  | [] => []
  | (name, mark) :: marks => (name, mark.close) :: closeAll marks

end

namespace Marks

/-- The marks with this one at a name. -/
def set (name : Text) (mark : Mark) (marks : Marks) : Marks :=
  if (marks.lookup name).isSome then
    marks.map fun entry => if entry.1 == name then (name, mark) else entry
  else marks ++ [(name, mark)]

/-- The marks after `change` of those below a key that a header named. -/
def within (change : Marks → Except Problem Marks) : (key : Key) → Marks → Except Problem Marks
  | [], marks => change marks
  | name :: key, marks =>
    match marks.lookup name with
    | some (.table origin below) => do
      return marks.set name (.table origin (← within change key below))
    | some (.elements below) => do
      return marks.set name (.elements (← within change key below))
    | _ => .ok marks

/-- The marks with the last name of a header marked by `change`, which is given what stands there;
tables on the way are implied. -/
def enter (change : Text → Option Mark → Except Problem Mark) :
    (key : Key) → Marks → Except Problem Marks
  | [], marks => .ok marks
  | [name], marks => do return marks.set name (← change name (marks.lookup name))
  | name :: key, marks =>
    match marks.lookup name with
    | none => do return marks.set name (.table .implied (← Marks.enter change key []))
    | some .value => .error (.notTable name .value)
    | some (.table origin below) => do
      return marks.set name (.table origin (← Marks.enter change key below))
    | some (.elements below) => do
      return marks.set name (.elements (← Marks.enter change key below))

/-- The marks with a value at a dotted key. -/
def assign : (key : Key) → Marks → Except Problem Marks
  | [], marks => .ok marks
  | [name], marks =>
    if (marks.lookup name).isSome then .error (.defined name) else .ok (marks.set name .value)
  | name :: key, marks =>
    match marks.lookup name with
    | none => do return marks.set name (.table .dotted (← assign key []))
    | some (.table .closed _) => .error (.closedTable name)
    | some (.table origin below) => do return marks.set name (.table origin (← assign key below))
    | some mark => .error (.notTable name mark.standing)

end Marks

/-- The mark of a table that gets its header. -/
def headTable (name : Text) : Option Mark → Except Problem Mark
  | none => .ok (.table .closed [])
  | some (.table .closed _) => .error (.headedTwice name)
  | some (.table _ below) => .ok (.table .closed below)
  | some mark => .error (.notTable name mark.standing)

/-- The mark of an array of tables that gets a new element. -/
def headElement (name : Text) : Option Mark → Except Problem Mark
  | none => .ok (.elements [])
  | some (.elements _) => .ok (.elements [])
  | some mark => .error (.notElements name mark.standing)

mutual

/-- Whether the inline tables in a value use no key twice. -/
def Value.check : Value → Except Problem Unit
  | .scalar _ => .ok ()
  | .array items => checkItems items
  | .table members => checkMembers [] members

/-- Whether the inline tables in the items of an array use no key twice. -/
def checkItems : List Value → Except Problem Unit
  | [] => .ok ()
  | v :: items =>
    match v.check with
    | .error p => .error p
    | .ok () => checkItems items

/-- Whether the members of an inline table, after those marked, use no key twice. -/
def checkMembers (marks : Marks) : List (Key × Value) → Except Problem Unit
  | [] => .ok ()
  | (key, v) :: members =>
    match marks.assign key with
    | .error p => .error p
    | .ok marks =>
      match v.check with
      | .error p => .error p
      | .ok () => checkMembers marks members

end

/-- The keys used so far. -/
structure Track where
  marks : Marks := []
  /-- The header of the current section. -/
  current : Key := []

namespace Track

/-- Whether the array of tables of a header has no element yet. -/
def isNew : (key : Key) → Marks → Bool
  | [], _ => false
  | name :: key, marks =>
    match marks.lookup name with
    | none => true
    | some .value => false
    | some (.table _ below) => isNew key below
    | some (.elements below) => isNew key below

/-- The keys used after a header. -/
def enter (t : Track) (header : Header) : Except Problem Track := do
  match header with
  | .top => return t
  | .table key =>
    let marks ← t.marks.within (fun below => .ok (closeAll below)) t.current
    return { marks := ← Marks.enter headTable key marks, current := key }
  | .element key =>
    let marks ← t.marks.within (fun below => .ok (closeAll below)) t.current
    return { marks := ← Marks.enter headElement key marks, current := key }

/-- The keys used after an assignment in the current section. -/
def assign (t : Track) (assignment : Key × Value) : Except Problem Track := do
  let marks ← t.marks.within (Marks.assign assignment.1) t.current
  assignment.2.check
  return { t with marks }

end Track

end DocScribe.Toml
