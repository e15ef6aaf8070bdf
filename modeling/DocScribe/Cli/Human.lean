import DocScribe.Cli.Location
import DocScribe.Cli.Response

/-!
# Responses for people

The words of each response, with a line feed after each line. Columns are filled up with spaces by
characters.
-/

namespace DocScribe.Cli

open Scan

/-- The text with spaces after it up to `width` characters. -/
def column (width : Nat) (s : Text) : Text :=
  s ++ List.replicate (width - s.glyphCount) 0x20

/-- A number with spaces before it up to `width` characters. -/
def numberColumn (width : Nat) (n : Int) : Text :=
  Number.padLeft 0x20 width (Number.signed n)

/-- A line counted from one. -/
def lineNumber (n : Int) : Int :=
  Number.wrap (n + 1)

/-- Parts and a line feed. -/
def line (parts : List Text) : Text :=
  parts.flatten ++ [Text.lf]

/-- The words for classified lines. -/
def Classified.human (r : Classified) : Text :=
  let head : Text := if r.file.isEmpty then [] else line [r.file]
  let lines := r.lines.getD []
  head ++
    if lines.isEmpty then line ["No declarations found."]
    else
      lines.flatMap fun l =>
        let name : Text := if l.name.isEmpty then "-" else l.name
        line [numberColumn 5 (lineNumber l.line), "  ", column 10 l.kind.name, "  ", column 20 name,
          "  ", l.text]

/-- The words for a located construct. -/
def Located.human (r : Located) : Text :=
  let name : Text := if r.name.isEmpty then "(unnamed)" else r.name
  line [r.kind.name, " ", name] ++
    line ["  ", r.file, ":", positionText r.extent.anchor, " - ", positionText r.extent.last] ++
    if r.body.isEmpty then [] else line ["\n", r.body]

/-- The words for an owner. -/
def Owned.human (r : Owned) : Text :=
  line ["fn ", r.function, "  ", r.file, ":", positionText r.extent.anchor] ++
    match r.owner with
    | none => line ["  owner: none"]
    | some o => line ["  owner: ", o.kind.name, " ", o.name]

/-- The words for a node of a hierarchy and its index. -/
def nodeLine (n : Node) (i : Nat) : Text :=
  let owner : Text := if n.ownerIndex == noOwner then "-" else 0x23 :: Number.signed n.ownerIndex
  line ["  #", column 3 (Number.decimal i), " ", numberColumn 5 (lineNumber n.position.line), "  ",
    column 10 n.kind.name, " ", column 20 n.name, " depth ", column 3 (Number.signed n.depth),
    " owner ", owner]

/-- The words for an ancestor and its distance. -/
def ancestorLine (n : Node) (i : Nat) : Text :=
  line ["  ", List.replicate (2 * i) 0x20, n.kind.name, " ", n.name, " (line ",
    Number.signed (lineNumber n.position.line), ")"]

/-- The words for a hierarchy. -/
def Lineage.human (r : Lineage) : Text :=
  let nodes := r.nodes.getD []
  line [r.file, ":", positionText r.cursor] ++
    if nodes.isEmpty then line ["No named constructs above this position."]
    else
      line ["\nNodes (nearest first):"] ++ nodes.zipIdx.flatMap (fun p => nodeLine p.1 p.2) ++
        line ["\nAncestors:"] ++
        (r.ancestors.getD []).zipIdx.flatMap (fun p => ancestorLine p.1 p.2)

/-- The words for a scope. -/
def Scoped.human (r : Scoped) : Text :=
  line [r.file, ":", positionText r.cursor, " ", r.kind.name]

/-- The words for a documented construct. -/
def Documented.human (r : Documented) : Text :=
  match r.comment with
  | none => []
  | some c =>
    let target : Target := c.target.getD default
    line [target.kind.name, " ", target.name, "  ", r.file, ":",
        Number.signed (lineNumber c.insertedAt)] ++
      (if 0 < c.removed then
        line ["Replaced ", Number.signed c.removed, " existing comment line(s)"]
       else []) ++
      Text.lf :: c.text ++
      if r.written then [] else line ["\n(not saved; use --write to update the file)"]

/-- The words for a checked file. -/
def CheckedFile.human (f : CheckedFile) : Text :=
  let mismatches := f.mismatches.getD []
  if mismatches.isEmpty then line ["ok    ", f.file, " (", Number.signed f.items, " items)"]
  else
    line ["FAIL  ", f.file, " (", Number.signed f.items, " items, ",
        Number.decimal mismatches.length, " mismatches)"] ++
      mismatches.flatMap fun m =>
        line ["  ", f.file, ":", Number.signed (lineNumber m.line), " ", m.name, " ", m.field,
          ": scanner ", m.scanner, ", tree-sitter ", m.parser]

/-- The words for settings. -/
def ShownSettings.human (r : ShownSettings) : Text :=
  let source : Text :=
    if r.usedDefaults then "Source: defaults (no config file found)\n"
    else if r.path.isEmpty then [] else line ["Source: ", r.path]
  let overrides : Text :=
    if r.overrides.isEmpty then []
    else
      line ["\nEnvironment Overrides:"] ++
        r.overrides.flatMap fun o => line ["  ", o.name, "=", o.value, " → ", o.key]
  let settings := r.settings.getD []
  line ["rustai Configuration"] ++
    line [(List.replicate 50 (Text.ofString "─")).flatten] ++ source ++ overrides ++ line [] ++
    (if settings.isEmpty then line ["All settings use their defaults."] else []) ++
    settings.flatMap fun s =>
      line [s.key, ": ", s.value.plain,
        if s.value.same s.default then [] else (" (default: " : Text) ++ s.default.plain ++ [0x29]]

/-- The words for the names of variables. -/
def variablesHuman (names : List Text) : Text :=
  line ["Supported environment variables:\n  ", Text.join "\n  " names]

/-- The words for a version. -/
def VersionNote.human (r : VersionNote) : Text :=
  let parser : Text := if r.parser then "available" else "unavailable (built without CGO)"
  line ["rustai version ", r.version] ++ line ["Commit: ", r.commit] ++ line ["Built: ", r.date] ++
    line ["Go: ", r.toolchain, " ", r.platform] ++ line ["Tree-sitter: ", parser]

/-- The words for a report. -/
def reportHuman (n : Notice) (cause : Option Text) : Text :=
  line ["Error [", n.code.name, "]: ", n.message] ++
    (match cause with
      | some s => line ["  ", s]
      | none => []) ++
    if n.fixes.isEmpty then []
    else
      line ["\nSuggested fixes:"] ++
        n.fixes.flatMap fun f =>
          line ["  - ", f.description,
            if f.command.isEmpty then [] else ("\n    $ " : Text) ++ f.command]

end DocScribe.Cli
