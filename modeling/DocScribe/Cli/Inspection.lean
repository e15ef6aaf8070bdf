import DocScribe.Cli.Location
import DocScribe.Cli.Session

/-!
# Inspecting a source file

The commands that look at a source file and tell what the scanner finds: the declarations on its
lines, and the construct, the owner, the hierarchy or the scope at a location.
-/

namespace DocScribe.Cli

open Scan

/-- Reads a source file. -/
def loadSource (path : Text) : Action Buffer := do
  let b ← Action.ofExcept (Buffer.load (← Action.files) path)
  Action.log (.debug "Loaded source" [("path", .string path), ("lines", .int b.lines.length)])
  return b

/-- Reads a location and the source file that it is in. -/
def loadLocation (arg : Text) : Action (Location × Buffer) := do
  let loc ← Action.ofExcept (parseLocation arg)
  return (loc, ← loadSource loc.path)

/-- The result of a scan, whose fault is told with what was looked for. -/
def found {α : Type} (what : Text) (loc : Location) : Except Failure α → Action α
  | .ok a => pure a
  | .error f => throw (.wrap (what ++ (" at " : Text) ++ loc.text) (.ofScan f))

/-- The classified lines of a document: all of them, or those that declare something. -/
def classifiedLines (d : Document) (all : Bool) : List ClassifiedLine :=
  (d.zipIdx.map fun (line, n) => ClassifiedLine.of n line).filter fun line =>
    all || line.kind != .unknown

namespace Context

/-- Shows how a line that is given by a flag is classified. -/
def classifyText (c : Context) : Action Unit :=
  c.respond (.classified { lines := some [ClassifiedLine.of 0 c.options.text] })

/-- Shows the declarations of a file. -/
def classifyFile (c : Context) (path : Text) : Action Unit := do
  let b ← loadSource path
  let lines := classifiedLines b.lines c.options.all
  let file ← c.display path
  Action.log (.info "Classified file"
    [("path", .string path), ("declarations", .int lines.length)])
  c.respond (.classified { file, lines := some lines })

/-- The kind of construct to locate: the one asked for, or that of the nearest declaration. -/
def locatedKind (c : Context) (d : Document) (cursor : Position) : Except Fault Kind :=
  if c.options.kind == ("auto" : Text) then .ok (currentScope d c.limit cursor)
  else
    match Kind.parse? c.options.kind with
    | some kind => .ok kind
    | none => .error (invalidArgument (.plain (Kind.parseMessage c.options.kind)))

/-- Shows the construct around a location. -/
def locate (c : Context) (arg : Text) : Action Unit := do
  let (loc, b) ← loadLocation arg
  let kind ← Action.ofExcept (c.locatedKind b.lines loc.cursor)
  let search := findExtent b.lines c.limit loc.cursor kind
  Action.logAll (failureEvent? c.limit search).toList
  let extent ← found kind.name loc search
  let line := b.lines.lineText extent.anchor.line
  let name := Source.codeName line kind
  let file ← c.display loc.path
  Action.log (.info "Located construct"
    [("kind", .ofKind kind), ("name", .string name), ("start", .int extent.anchor.line),
     ("end", .int extent.last.line)])
  c.respond (.located
    { file, cursor := loc.cursor, kind, name, indent := line.indent, extent
      body := if c.options.body then b.textIn extent else [] })

/-- Shows the owner of the function at a location. -/
def owner (c : Context) (arg : Text) : Action Unit := do
  let (loc, b) ← loadLocation arg
  Action.logAll (functionEvent? b.lines c.limit loc.cursor).toList
  let target ← found "function" loc (currentFunction b.lines c.limit loc.cursor)
  c.respond (.owned
    { file := ← c.display loc.path, function := target.name, extent := target.extent
      owner := target.owner })

/-- Shows the constructs above a location. -/
def hierarchy (c : Context) (arg : Text) : Action Unit := do
  let (loc, b) ← loadLocation arg
  Action.logAll (hierarchyEvent? b.lines c.limit loc.cursor).toList
  let result := Scan.hierarchy b.lines c.limit loc.cursor
  if let some f := result.failure then found "hierarchy" loc (.error f)
  c.respond (.lineage
    { file := ← c.display loc.path, cursor := loc.cursor, nodes := some result.nodes
      ancestors := some (ancestors result.nodes) })

/-- Shows the kind of the nearest declaration at or above a location. -/
def scope (c : Context) (arg : Text) : Action Unit := do
  let (loc, b) ← loadLocation arg
  c.respond (.scoped
    { file := ← c.display loc.path, cursor := loc.cursor
      kind := currentScope b.lines c.limit loc.cursor })

end Context

end DocScribe.Cli
