import DocScribe.Check.Compare
import DocScribe.Fault.Report
import DocScribe.Output.Tree
import DocScribe.Scan.Hierarchy
import DocScribe.Settings.Load
import DocScribe.Source.Declaration

/-!
# Responses

What each command has to say, and its value for the structured formats (`Response.tree`). Lists that
were never made are `none`.
-/

namespace DocScribe.Cli

open Scan

/-- A classified source line. -/
structure ClassifiedLine where
  line : Int
  kind : Kind
  name : Text := []
  /-- How many bytes of white space the line starts with. -/
  indent : Int
  text : Text
deriving DecidableEq, Repr

/-- The line with number `n` as the scanner sees it. -/
def ClassifiedLine.of (n : Int) (raw : Text) : ClassifiedLine :=
  let kind := Source.codeKind raw
  { line := n, kind, name := Source.codeName raw kind, indent := raw.indent.length
    text := raw.trim }

/-- The classified lines of a file. -/
structure Classified where
  file : Text := []
  lines : Option (List ClassifiedLine)
deriving DecidableEq, Repr

/-- The construct around a cursor. -/
structure Located where
  file : Text
  cursor : Position
  kind : Kind
  name : Text := []
  indent : Text
  extent : Range
  body : Text := []
deriving DecidableEq, Repr

/-- A function and its owner. -/
structure Owned where
  file : Text
  function : Text
  extent : Range
  owner : Option Owner
deriving DecidableEq, Repr

/-- The constructs above a cursor. -/
structure Lineage where
  file : Text
  cursor : Position
  nodes : Option (List Node)
  ancestors : Option (List Node)
deriving DecidableEq, Repr

/-- The kind of construct that a cursor is in. -/
structure Scoped where
  file : Text
  cursor : Position
  kind : Kind
deriving DecidableEq, Repr

/-- A comment that was written for a construct. -/
structure Comment where
  target : Option Target
  prompt : Text := []
  text : Text
  insertedAt : Int
  removed : Int
deriving DecidableEq, Repr

/-- A documented construct. -/
structure Documented where
  file : Text
  written : Bool
  comment : Option Comment
deriving DecidableEq, Repr

/-- The prompt for a construct. -/
structure Prompted where
  file : Text
  target : Option Target
  prompt : Text
deriving DecidableEq, Repr

/-- The cross-check of one file. -/
structure CheckedFile where
  file : Text
  items : Int
  mismatches : Option (List Check.Mismatch)
deriving DecidableEq, Repr

/-- The cross-check of several files. -/
structure Checked where
  files : Option (List CheckedFile)
  mismatches : Int
deriving DecidableEq, Repr

/-- A setting and its default. -/
structure ShownSetting where
  key : Text
  value : Tree
  default : Tree
deriving Repr

/-- The settings in force. -/
structure ShownSettings where
  path : Text := []
  usedDefaults : Bool
  overrides : List Settings.Override := []
  settings : Option (List ShownSetting)
deriving Repr

/-- What is known of the program. -/
structure VersionNote where
  version : Text
  commit : Text
  date : Text
  /-- The version of the tools that built the program. -/
  toolchain : Text
  platform : Text
  parser : Bool
deriving DecidableEq, Repr

/-- What a command has to say. -/
inductive Response where
  | classified (r : Classified)
  | located (r : Located)
  | owned (r : Owned)
  | lineage (r : Lineage)
  | scoped (r : Scoped)
  | documented (r : Documented)
  | prompted (r : Prompted)
  | checked (r : Checked)
  | settings (r : ShownSettings)
  | variables (names : Option (List Text))
  | version (r : VersionNote)
  | report (notice : Notice) (cause : Option Text)
  | other (value : Tree)
deriving Repr

/-! ## Values -/

/-- A position. -/
def positionTree (p : Position) : Tree :=
  .record [("line", .int p.line), ("column", .int p.column)]

/-- A range. -/
def rangeTree (r : Range) : Tree :=
  .record [("anchor", positionTree r.anchor), ("end", positionTree r.last)]

/-- An owner. -/
def ownerTree (o : Owner) : Tree :=
  .record [("kind", .text o.kind.name), ("name", .text o.name)]

/-- A node of a hierarchy. -/
def nodeTree (n : Node) : Tree :=
  .record [("kind", .text n.kind.name), ("name", .text n.name), ("depth", .int n.depth),
    ("ownerIndex", .int n.ownerIndex), ("position", positionTree n.position),
    ("indent", .text n.indent)]

/-- A target; its owner is left out if there is none. -/
def targetTree (t : Target) : Tree :=
  let owner : List (Text × Tree) :=
    match t.owner with
    | some o => [("owner", ownerTree o)]
    | none => []
  .recordOf [[("kind", .text t.kind.name), ("name", .text t.name),
    ("extent", rangeTree t.extent), ("indent", .text t.indent)], owner]

/-- A list of values that may never have been made. -/
def listTree {α : Type} (tree : α → Tree) (items : Option (List α)) : Tree :=
  .ofList? (items.map fun l => l.map tree)

/-- A classified line as a value. -/
def ClassifiedLine.tree (l : ClassifiedLine) : Tree :=
  .recordOf [[("line", .int l.line), ("kind", .text l.kind.name)],
    Tree.optionalField "name" l.name, [("indent", .int l.indent), ("text", .text l.text)]]

/-- A mismatch as a value. -/
def mismatchTree (m : Check.Mismatch) : Tree :=
  .record [("line", .int m.line), ("name", .text m.name), ("field", .text m.field),
    ("scanner", .text m.scanner), ("parser", .text m.parser)]

/-- A checked file as a value. -/
def CheckedFile.tree (f : CheckedFile) : Tree :=
  .record [("file", .text f.file), ("items", .int f.items),
    ("mismatches", listTree mismatchTree f.mismatches)]

/-- A comment as a value. -/
def Comment.tree (c : Comment) : Tree :=
  .recordOf [[("target", .orNull (c.target.map targetTree))],
    Tree.optionalField "prompt" c.prompt,
    [("comment", .text c.text), ("insertedAt", .int c.insertedAt), ("removed", .int c.removed)]]

/-- A setting as a value. -/
def ShownSetting.tree (s : ShownSetting) : Tree :=
  .record [("key", .text s.key), ("value", s.value), ("default", s.default)]

/-- An override as a value. -/
def overrideTree (o : Settings.Override) : Tree :=
  .record [("envVar", .text o.name), ("key", .text o.key), ("value", .text o.value)]

/-- A fix as a value; empty parts are left out. -/
def fixTree (f : Fix) : Tree :=
  .recordOf [[("type", .text f.type)], Tree.optionalField "command" f.command,
    if f.safe then [("safe", .bool true)] else [], Tree.optionalField "description" f.description]

/-- A notice as a value; its cause is not shown. -/
def noticeTree (n : Notice) : Tree :=
  let details : List (Text × Tree) :=
    match n.details with
    | some v => [("details", .ofJson v)]
    | none => []
  let fixes : List (Text × Tree) :=
    if n.fixes.isEmpty then [] else [("suggestedFixes", .list (n.fixes.map fixTree))]
  .recordOf [[("code", .text n.code.name), ("message", .text n.message)], details, fixes]

namespace Response

/-- The response as a value. -/
def tree : Response → Tree
  | .classified r =>
    .recordOf [Tree.optionalField "file" r.file, [("lines", listTree ClassifiedLine.tree r.lines)]]
  | .located r =>
    .recordOf [[("file", .text r.file), ("cursor", positionTree r.cursor),
      ("kind", .text r.kind.name)], Tree.optionalField "name" r.name,
      [("indent", .text r.indent), ("extent", rangeTree r.extent)],
      Tree.optionalField "body" r.body]
  | .owned r =>
    .record [("file", .text r.file), ("function", .text r.function), ("extent", rangeTree r.extent),
      ("owner", .orNull (r.owner.map ownerTree))]
  | .lineage r =>
    .record [("file", .text r.file), ("cursor", positionTree r.cursor),
      ("nodes", listTree nodeTree r.nodes), ("ancestors", listTree nodeTree r.ancestors)]
  | .scoped r =>
    .record [("file", .text r.file), ("cursor", positionTree r.cursor), ("kind", .text r.kind.name)]
  | .documented r =>
    .record [("file", .text r.file), ("written", .bool r.written),
      ("result", .orNull (r.comment.map Comment.tree))]
  | .prompted r =>
    .record [("file", .text r.file), ("target", .orNull (r.target.map targetTree)),
      ("prompt", .text r.prompt)]
  | .checked r =>
    .record [("files", listTree CheckedFile.tree r.files), ("mismatches", .int r.mismatches)]
  | .settings r =>
    .recordOf [Tree.optionalField "configPath" r.path, [("usedDefaults", .bool r.usedDefaults)],
      if r.overrides.isEmpty then [] else [("envOverrides", .list (r.overrides.map overrideTree))],
      [("settings", listTree ShownSetting.tree r.settings)]]
  | .variables names => .record [("variables", listTree .text names)]
  | .version r =>
    .record [("version", .text r.version), ("commit", .text r.commit), ("buildDate", .text r.date),
      ("goVersion", .text r.toolchain), ("platform", .text r.platform),
      ("treeSitter", .bool r.parser)]
  | .report notice _ => noticeTree notice
  | .other value => value

/-- The response that tells a fault. -/
def ofFault (f : Fault) : Response :=
  match f.toReport with
  | .report notice cause => .report notice (cause.map Fault.message)
  | g => .report { code := .internalError, message := g.message } none

end Response

end DocScribe.Cli
