import DocScribe.Scan.Boundary
import DocScribe.Scan.Owner

/-!
# Targets

A target is the construct that a cursor selects for documentation: a function, a structure or a
trait with its name, its extent, the indentation of its declaration and, for a function, its owner.
-/

namespace DocScribe.Scan

open Source

/-- A construct that can be documented. -/
structure Target where
  kind : Kind
  name : Text
  extent : Range
  /-- The white space before the declaration. -/
  indent : Text
  owner : Option Owner := none
deriving DecidableEq, Repr, Inhabited

/-- The construct of `kind` around the cursor, without its owner. -/
def documentable (d : Document) (limit : Limit) (cursor : Position) (kind : Kind) :
    Except Failure Target := do
  let extent ← findExtent d limit cursor kind
  let line := d.lineText extent.anchor.line
  let name := codeName line kind
  if name.isEmpty then .error (.unnamed kind extent.anchor.line)
  else return { kind, name, extent, indent := line.indent }

/-- The function around the cursor with its owner. -/
def currentFunction (d : Document) (limit : Limit) (cursor : Position) :
    Except Failure Target := do
  let target ← documentable d limit cursor .function
  let owner ← findOwner d limit target.extent.anchor.line
  return { target with owner }

/-- The structure around the cursor. -/
def currentStruct (d : Document) (limit : Limit) (cursor : Position) : Except Failure Target :=
  documentable d limit cursor .struct

/-- The trait around the cursor. -/
def currentTrait (d : Document) (limit : Limit) (cursor : Position) : Except Failure Target :=
  documentable d limit cursor .trait

/-- The construct that the nearest declaration at or above the cursor selects. -/
def current (d : Document) (limit : Limit) (cursor : Position) : Except Failure Target :=
  match currentScope d limit cursor with
  | .function => currentFunction d limit cursor
  | .struct => currentStruct d limit cursor
  | .trait => currentTrait d limit cursor
  | scope => .error (.undocumentable cursor.line scope)

/-- The event that narrates a search with this outcome, where a success is silent. -/
def failureEvent? {α : Type} (limit : Limit) : Except Failure α → Option Log.Event
  | .error f => f.event? limit
  | .ok _ => none

/-- The event that narrates the search for a function: its failure, or the search for the owner. -/
def functionEvent? (d : Document) (limit : Limit) (cursor : Position) : Option Log.Event :=
  match documentable d limit cursor .function with
  | .error f => f.event? limit
  | .ok target => ownerEvent? d limit target.extent.anchor.line

/-- The event that narrates the selection of a target. -/
def currentEvent? (d : Document) (limit : Limit) (cursor : Position) : Option Log.Event :=
  match currentScope d limit cursor with
  | .function => functionEvent? d limit cursor
  | _ => failureEvent? limit (current d limit cursor)

end DocScribe.Scan
