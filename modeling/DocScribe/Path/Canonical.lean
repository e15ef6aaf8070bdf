import DocScribe.FileSystem.Basic

/-!
# Canonical paths

`canonicalize` gives a path relative to a root, with the symbolic links of both followed as far as
they exist. From it come `isWithin` and `display`, which shows a path inside the root relative to it
and any other as it was given.
-/

namespace DocScribe.Path

/-- Why links could not be followed. -/
inductive LinkProblem where
  | missing
  | notDirectory
  | tooMany
deriving DecidableEq, Repr

/-- The wording of a problem. -/
def LinkProblem.fault : LinkProblem → Fault
  | .missing => .marked (.file .missing)
  | .notDirectory => .marked (.file .notDirectory)
  | .tooMany => .plain "EvalSymlinks: too many links"

/-- How many links are followed. -/
def maxLinks : Nat := 255

/-- The place that `names` lead to from `place`, every link followed; all of them must exist. -/
def follow (fs : FileSystem) (links : Nat) (place : Place) (names : List Text) :
    Except LinkProblem Place :=
  match names with
  | [] => .ok place
  | name :: rest =>
    if name.isEmpty || name == ("." : Text) then follow fs links place rest
    else if name == (".." : Text) then follow fs links place.dropLast rest
    else
      match fs.node? (place ++ [name]) with
      | none => .error .missing
      | some .directory => follow fs links (place ++ [name]) rest
      | some (.file _) => if rest.isEmpty then .ok (place ++ [name]) else .error .notDirectory
      | some (.link target) =>
        match links with
        | 0 => .error .tooMany
        | links + 1 =>
          follow fs links (if isAbsolute target then [] else place) (parts target ++ rest)
termination_by (links, names.length)

/-- The absolute path with its links followed, or left as it is when something on it is missing. -/
def resolve (fs : FileSystem) (path : Text) : Except Fault Text :=
  let full := absolute fs.workingPath path
  match follow fs maxLinks [] (parts full) with
  | .ok place => .ok (ofParts true place)
  | .error .missing => .ok full
  | .error p => .error p.fault

/-- The path relative to the root, links followed. -/
def canonicalize (fs : FileSystem) (path root : Text) : Except Fault Text := do
  let resolved ← resolve fs path
  let rootResolved ← resolve fs root
  return relativeTo rootResolved resolved

/-- Whether a path lies inside the root. -/
def isWithin (fs : FileSystem) (path root : Text) : Bool :=
  match canonicalize fs path root with
  | .ok canonical => canonical != (".." : Text) && !canonical.startsWith "../"
  | .error _ => false

/-- The path relative to the root if it lies inside it, else as it is. -/
def display (fs : FileSystem) (path root : Text) : Text :=
  if root.isEmpty || !isWithin fs path root then path
  else
    match canonicalize fs path root with
    | .ok canonical => canonical
    | .error _ => path

end DocScribe.Path
