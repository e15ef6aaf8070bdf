import DocScribe.Text.Basic

/-!
# Paths as text

What can be said of a path without looking at any file: its parts, its shortest form (`clean`), its
directory, a path from another place (`join`, `absolute`) and a path relative to a directory
(`relativeTo`). The separator is the slash.
-/

namespace DocScribe.Path

/-- Whether the path starts at the root. -/
def isAbsolute (path : Text) : Bool :=
  path.head? == some Text.slash

/-- The parts between slashes, empty ones included. -/
def parts (path : Text) : List Text :=
  path.splitOnByte Text.slash

/-- Adds a part to `done`, which is in reverse order: `..` takes the last part away, unless there is
none below a root or only `..` before it. -/
def cleanStep (rooted : Bool) (done : List Text) (part : Text) : List Text :=
  if part.isEmpty || part == ("." : Text) then done
  else if part == (".." : Text) then
    match done with
    | [] => if rooted then [] else [part]
    | last :: rest => if last == (".." : Text) then part :: done else rest
  else part :: done

/-- The parts of the shortest form. -/
def cleanParts (path : Text) : List Text :=
  ((parts path).foldl (cleanStep (isAbsolute path)) []).reverse

/-- The path of these parts. -/
def ofParts (rooted : Bool) (names : List Text) : Text :=
  if rooted then Text.slash :: Text.join [Text.slash] names
  else if names.isEmpty then "." else Text.join [Text.slash] names

/-- The shortest path that names the same place, links apart. -/
def clean (path : Text) : Text :=
  ofParts (isAbsolute path) (cleanParts path)

/-- The parts that are not empty, joined and cleaned. -/
def join (elements : List Text) : Text :=
  let present := elements.filter fun e => !e.isEmpty
  if present.isEmpty then [] else clean (Text.join [Text.slash] present)

/-- The path after its last slash is cut off, cleaned. -/
def directory (path : Text) : Text :=
  match (parts path).reverse with
  | [] => "."
  | [_] => "."
  | _ :: front => clean (Text.join [Text.slash] front.reverse ++ [Text.slash])

/-- The cleaned path, taken from `working` if it is relative. -/
def absolute (working path : Text) : Text :=
  if isAbsolute path then clean path else join [working, path]

/-- What is left of two lists after their common start. -/
def dropCommon : List Text → List Text → List Text × List Text
  | a :: as, b :: bs => if a == b then dropCommon as bs else (a :: as, b :: bs)
  | as, bs => (as, bs)

/-- The path to `target` from the directory `base`, both absolute. -/
def relativeTo (base target : Text) : Text :=
  let (up, down) := dropCommon (cleanParts base) (cleanParts target)
  ofParts false (up.map (fun _ => (".." : Text)) ++ down)

end DocScribe.Path
