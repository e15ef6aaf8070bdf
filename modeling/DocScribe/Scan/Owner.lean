import DocScribe.Scan.Failure

/-!
# Owners

The impl block that a function is declared in. The scan walks upward from the function and stops at
the first line that leaves more braces open than it closes; if that line declares an impl block with
a name, the block is the owner.
-/

namespace DocScribe.Scan

open Source

/-- The impl block that a function belongs to. -/
structure Owner where
  kind : Kind
  name : Text
deriving DecidableEq, Repr, Inhabited

/-- The first of `lines`, nearest first, that opens the block they are in, with its number; `depth`
braces are open. -/
def enclosingAmong (limit : Limit) (anchor : Int) :
    (examined : Nat) → (depth : Int) → (lines : List Text) → Except Failure (Option (Text × Nat))
  | _, _, [] => .ok none
  | examined, depth, line :: above =>
    if limit.exceeded examined then .error (.ownerLimit anchor)
    else
      let depth := depth - balance line
      if depth ≤ 0 then .ok (some (line, above.length))
      else enclosingAmong limit anchor (examined + 1) depth above

/-- Whether the line declares a function. -/
def declaresFunction (d : Document) (line : Int) : Bool :=
  d.hasLine line && codeKind (d.lineText line) == .function

/-- The line that opens the block around the function on line `anchor`. -/
def enclosingLine (d : Document) (limit : Limit) (anchor : Int) :
    Except Failure (Option (Text × Nat)) :=
  if declaresFunction d anchor then enclosingAmong limit anchor 1 1 (d.upFrom (anchor - 1))
  else .ok none

/-- The owner that a line declares. -/
def ownerOnLine? (line : Text) : Option Owner :=
  let kind := codeKind line
  let name := codeName line kind
  if kind.isImpl && !name.isEmpty then some ⟨kind, name⟩ else none

/-- The impl block around the function on line `anchor`; none for a free or nested function. -/
def findOwner (d : Document) (limit : Limit) (anchor : Int) : Except Failure (Option Owner) :=
  (enclosingLine d limit anchor).map fun found => found.bind fun p => ownerOnLine? p.1

/-- The event that narrates the search for an owner. -/
def ownerEvent? (d : Document) (limit : Limit) (anchor : Int) : Option Log.Event :=
  match enclosingLine d limit anchor with
  | .error f => f.event? limit
  | .ok none => none
  | .ok (some (line, n)) =>
    let kind := codeKind line
    if kind.isImpl then none
    else
      some (.debug "no owner"
        [("anchor", .int anchor), ("enclosing", .ofKind kind), ("line", .int n)])

end DocScribe.Scan
