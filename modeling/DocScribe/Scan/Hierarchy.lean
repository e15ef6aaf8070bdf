import DocScribe.Scan.Failure

/-!
# Hierarchies

Every named construct from a cursor upward, nearest first, with its brace depth relative to the
cursor. A node that is pushed becomes the owner of the nodes before it that are deeper, walking back
from the most recent and stopping at the first that is not (`relink`); so the farthest shallower
node wins. `ancestors` follows the owner links from the innermost node outward.
-/

namespace DocScribe.Scan

open Source

/-- The owner index of a node without an owner. -/
def noOwner : Int := -1

/-- A named construct. -/
structure Node where
  kind : Kind
  name : Text
  /-- Closing less opening braces from this line to the cursor. -/
  depth : Int
  /-- The index of the owner in the same result, or `noOwner`. -/
  ownerIndex : Int
  position : Position
  indent : Text
deriving DecidableEq, Repr, Inhabited

/-- Points the deeper ones among `nodes`, most recent first, at the node with index `next`. -/
def relink (depth : Int) (next : Nat) : (nodes : List Node) → List Node
  | [] => []
  | node :: nodes =>
    if node.depth > depth then { node with ownerIndex := next } :: relink depth next nodes
    else node :: nodes

/-- Adds a node to `nodes`, most recent first. -/
def pushNode (node : Node) (nodes : List Node) : List Node :=
  node :: relink node.depth nodes.length nodes

/-- The node that a line gives rise to, if it declares something with a name. -/
def nodeOnLine? (line : Text) (n : Nat) (depth : Int) : Option Node :=
  let kind := codeKind line
  let name := codeName line kind
  if name.isEmpty then none
  else some ⟨kind, name, depth, noOwner, ⟨n, 0⟩, line.indent⟩

/-- The nodes of a scan, and why it stopped early if it did. -/
structure HierarchyResult where
  nodes : List Node
  failure : Option Failure := none

/-- The nodes of `lines`, nearest first and without line 0 at their end, pushed onto `nodes`. -/
def nodesAmong (limit : Limit) (cursor : Int) :
    (examined : Nat) → (depth : Int) → (nodes : List Node) → (lines : List Text) → HierarchyResult
  | _, _, nodes, [] => ⟨nodes.reverse, none⟩
  | examined, depth, nodes, line :: above =>
    if limit.exceeded examined then ⟨nodes.reverse, some (.hierarchyLimit cursor)⟩
    else
      let depth := depth - balance line
      let nodes :=
        match nodeOnLine? line (above.length + 1) depth with
        | some node => pushNode node nodes
        | none => nodes
      nodesAmong limit cursor (examined + 1) depth nodes above

/-- The named constructs from the cursor line up to line 1; line 0 is not scanned. -/
def hierarchy (d : Document) (limit : Limit) (cursor : Position) : HierarchyResult :=
  if d.hasLine cursor.line then
    nodesAmong limit cursor.line 1 0 [] (d.upFrom cursor.line).dropLast
  else ⟨[], some .offDocument⟩

/-- The event that narrates the scan. -/
def hierarchyEvent? (d : Document) (limit : Limit) (cursor : Position) : Option Log.Event :=
  let result := hierarchy d limit cursor
  match result.failure with
  | some f => f.event? limit
  | none =>
    some (.debug "hierarchy built"
      [("cursor", .int cursor.line), ("nodes", .int result.nodes.length)])

/-- The chain of owners from index `i` on, at most `fuel` long. -/
def ownersFrom (nodes : List Node) : (fuel : Nat) → (i : Int) → List Node
  | 0, _ => []
  | fuel + 1, i =>
    if i == noOwner then []
    else
      match nodes[i.toNat]? with
      | some node => node :: ownersFrom nodes fuel node.ownerIndex
      | none => []

/-- The innermost node and the chain of its owners. -/
def ancestors : List Node → List Node
  | [] => []
  | node :: nodes => node :: ownersFrom (node :: nodes) (nodes.length + 1) node.ownerIndex

end DocScribe.Scan
