import DocScribe.Fault.Basic
import DocScribe.Scan.Target

/-!
# Cross-check of the scanner

The functions that a parser found in a document are compared with what the scanner says at their
lines. `compare` lists every difference in extent, name and owner, and every line that the scanner
takes for a function and the parser does not, in the order of lines.
-/

namespace DocScribe.Check

open Source Scan

/-- A construct found by a parser. -/
structure Item where
  kind : Kind := .unknown
  name : Text := []
  line : Int := 0
  endLine : Int := 0
  hasBody : Bool := false
  /-- The name of the construct directly around it. -/
  container : Text := []
  containerKind : Kind := .unknown
deriving DecidableEq, Repr

/-- The impl block around an item. -/
def Item.owner? (item : Item) : Option Owner :=
  if item.containerKind.isImpl && !item.container.isEmpty then
    some ⟨item.containerKind, item.container⟩
  else none

/-- A difference between the scanner and the parser. -/
structure Mismatch where
  line : Int
  name : Text
  field : Text
  scanner : Text
  parser : Text
deriving DecidableEq, Repr

/-- An owner in words. -/
def describeOwner : Option Owner → Text
  | none => "none"
  | some o => o.kind.name ++ 0x20 :: o.name

/-- A failed scan in words. -/
def describeFailure (f : Failure) : Text :=
  match f.reason with
  | .notFound => "not found"
  | .limitExceeded => "scan limit exceeded"
  | .unresolvable => f.message

/-- A line in words. -/
def describeLine (n : Int) : Text :=
  ("line " : Text) ++ Number.signed n

/-- The differences at a function with a body. -/
def compareFunction (d : Document) (limit : Limit) (item : Item) : List Mismatch :=
  let mismatch (field scanner parser : Text) : Mismatch :=
    ⟨item.line, item.name, field, scanner, parser⟩
  match findExtent d limit ⟨item.line, 0⟩ .function with
  | .error f =>
    [mismatch "extent" (describeFailure f)
      (("lines " : Text) ++ Number.signed item.line ++ 0x2d :: Number.signed item.endLine)]
  | .ok extent =>
    let name := codeName (d.lineText extent.anchor.line) .function
    let start :=
      if extent.anchor.line == item.line then []
      else [mismatch "start" (describeLine extent.anchor.line) (describeLine item.line)]
    let finish :=
      if extent.last.line == item.endLine then []
      else [mismatch "end" (describeLine extent.last.line) (describeLine item.endLine)]
    let named := if name == item.name then [] else [mismatch "name" name item.name]
    let owned :=
      match findOwner d limit extent.anchor.line with
      | .error f => [mismatch "owner" (describeFailure f) (describeOwner item.owner?)]
      | .ok owner =>
        if owner == item.owner? then []
        else [mismatch "owner" (describeOwner owner) (describeOwner item.owner?)]
    start ++ finish ++ named ++ owned

/-- The lines from number `n` on that declare a function which is none of `items`. -/
def unmatched (items : List Item) : (n : Nat) → (lines : List Text) → List Mismatch
  | _, [] => []
  | n, line :: lines =>
    let rest := unmatched items (n + 1) lines
    if codeKind line == .function && !items.any (fun i => i.kind == .function && i.line == n) then
      ⟨n, codeName line .function, "unmatched", "function declaration", "no function item"⟩ :: rest
    else rest

/-- Every difference between the scanner and the parsed items, by line. -/
def compare (d : Document) (limit : Limit) (items : List Item) : List Mismatch :=
  let functions := items.filter fun i => i.kind == .function && i.hasBody
  let found := functions.flatMap (compareFunction d limit) ++ unmatched items 0 d
  found.mergeSort fun a b => a.line ≤ b.line

/-- Parsing of source files is not part of this build. -/
def extract : Except Fault (List Item) :=
  .error (.marked .noParser)

end DocScribe.Check
