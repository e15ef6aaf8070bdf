import DocScribe.Scan.Failure

/-!
# Boundaries of a construct

`findStart` walks upward from a cursor to the declaration of a kind; lines that declare nothing are
passed over, and a declaration of any other kind ends the search. `findEnd` walks downward from a
declaration to the line whose closing brace balances it. `findExtent` is the one after the other.
-/

namespace DocScribe.Scan

open Source

/-- The line of the declaration of `kind` among `lines`, which are nearest first and reach up to
line 0; `examined` counts the lines including the next one. -/
def startAmong (limit : Limit) (kind : Kind) (cursor : Int) :
    (examined : Nat) → (lines : List Text) → Except Failure Nat
  | _, [] => .error .offDocument
  | examined, line :: above =>
    if limit.exceeded examined then .error (.startLimit kind cursor)
    else
      let found := codeKind line
      if found == kind then .ok above.length
      else if found == .unknown then startAmong limit kind cursor (examined + 1) above
      else .error (.blocked kind found above.length)

/-- The declaration of `kind` at or above the cursor. -/
def findStart (d : Document) (limit : Limit) (cursor : Position) (kind : Kind) :
    Except Failure Position :=
  if kind == .unknown then .error .noKind
  else (startAmong limit kind cursor.line 1 (d.upFrom cursor.line)).map fun n => ⟨n, 0⟩

/-- The end of the construct whose lines from `line` on are `lines`, where `depth` braces are open
and `opened` says that one has been. -/
def endAmong (limit : Limit) (kind : Kind) (start : Int) :
    (examined : Nat) → (depth : Int) → (opened : Bool) → (lines : List Text) →
      Except Failure Position
  | _, _, opened, [] => .error (.unclosed kind start opened)
  | examined, depth, opened, line :: below =>
    if limit.exceeded examined then .error (.endLimit kind start)
    else
      let depth := depth + balance line
      let opened := opened || 0 < opens line
      if opened && depth ≤ 0 then .ok ⟨start + (examined - 1 : Nat), lastColumn line⟩
      else endAmong limit kind start (examined + 1) depth opened below

/-- The last column of the line that closes the declaration of `kind` on the line of `start`. -/
def findEnd (d : Document) (limit : Limit) (start : Position) (kind : Kind) :
    Except Failure Position :=
  match d.downFrom start.line with
  | [] => .error .notDeclared
  | line :: below =>
    if codeKind line == kind then endAmong limit kind start.line 1 0 false (line :: below)
    else .error .notDeclared

/-- The extent of the declaration of `kind` at or above the cursor. -/
def findExtent (d : Document) (limit : Limit) (cursor : Position) (kind : Kind) :
    Except Failure Range := do
  let anchor ← findStart d limit cursor kind
  let last ← findEnd d limit anchor kind
  return ⟨anchor, last⟩

/-- The kind of the first declaration among `lines`, nearest first. -/
def scopeAmong (limit : Limit) : (examined : Nat) → (lines : List Text) → Kind
  | _, [] => .unknown
  | examined, line :: above =>
    if limit.exceeded examined then .unknown
    else
      let kind := codeKind line
      if kind == .unknown then scopeAmong limit (examined + 1) above else kind

/-- The kind of the first declaration at or above the cursor. -/
def currentScope (d : Document) (limit : Limit) (cursor : Position) : Kind :=
  scopeAmong limit 1 (d.upFrom cursor.line)

end DocScribe.Scan
