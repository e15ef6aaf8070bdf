import DocScribe.Fault.Basic
import DocScribe.Path.Lexical

/-!
# File systems

A file system is a finite map from places to directories, files and symbolic links, with a working
directory. A place is the list of names from the root. `locate` walks a path through it, following
links; the operations read and change the map at the place that is found, or say why they cannot.
-/

namespace DocScribe

/-- The names from the root of the tree to a node. -/
abbrev Place := List Text

/-- What stands at a place. -/
inductive FileNode where
  | directory
  | file (content : Text)
  | link (target : Text)
deriving DecidableEq, Repr

/-- Nodes by place, and the place of relative paths. The root is always a directory. -/
structure FileSystem where
  nodes : List (Place × FileNode) := []
  working : Place := []
deriving Repr, Inhabited

namespace FileSystem

/-- The node at a place. -/
def node? (fs : FileSystem) (place : Place) : Option FileNode :=
  if place.isEmpty then some .directory else fs.nodes.lookup place

/-- The file system without the node at a place. -/
def erase (fs : FileSystem) (place : Place) : FileSystem :=
  { fs with nodes := fs.nodes.filter fun entry => entry.1 != place }

/-- The file system with a node at a place. -/
def put (fs : FileSystem) (place : Place) (node : FileNode) : FileSystem :=
  { fs with nodes := (place, node) :: (fs.erase place).nodes }

/-- The working directory as a path. -/
def workingPath (fs : FileSystem) : Text :=
  Path.ofParts true fs.working

/-- How many links one path may lead through. -/
def maxLinks : Nat := 40

/-- The place that `names` lead to from `place`. The last name need not exist; it is followed
through links when `follow` is set. -/
def walk (fs : FileSystem) (follow : Bool) (links : Nat) (place : Place) (names : List Text) :
    Except FileProblem Place :=
  match names with
  | [] => .ok place
  | name :: rest =>
    match fs.node? place with
    | none => .error .missing
    | some (.file _) => .error .notDirectory
    | some (.link _) => .error .notDirectory
    | some .directory =>
      if name.isEmpty || name == ("." : Text) then walk fs follow links place rest
      else if name == (".." : Text) then walk fs follow links place.dropLast rest
      else
        let next := place ++ [name]
        match fs.node? next with
        | none => if rest.isEmpty then .ok next else .error .missing
        | some (.link target) =>
          if rest.isEmpty && !follow then .ok next
          else
            match links with
            | 0 => .error .tooManyLinks
            | links + 1 =>
              walk fs follow links (if Path.isAbsolute target then [] else place)
                (Path.parts target ++ rest)
        | some _ => walk fs follow links next rest
termination_by (links, names.length)

/-- The place of a path. -/
def locate (fs : FileSystem) (follow : Bool) (path : Text) : Except FileProblem Place :=
  if path.isEmpty then .error .missing
  else walk fs follow maxLinks (if Path.isAbsolute path then [] else fs.working) (Path.parts path)

/-- The node at a path, links followed. -/
def stat (fs : FileSystem) (path : Text) : Except FileProblem FileNode :=
  match fs.locate true path with
  | .error p => .error p
  | .ok place =>
    match fs.node? place with
    | some node => .ok node
    | none => .error .missing

/-- The node at a path, a link at its end not followed. -/
def linkStat (fs : FileSystem) (path : Text) : Except FileProblem FileNode :=
  match fs.locate false path with
  | .error p => .error p
  | .ok place =>
    match fs.node? place with
    | some node => .ok node
    | none => .error .missing

/-- Whether there is a directory at the path. -/
def isDirectory (fs : FileSystem) (path : Text) : Bool :=
  match fs.stat path with
  | .ok .directory => true
  | _ => false

/-- Whether there is anything at the path. -/
def hasPath (fs : FileSystem) (path : Text) : Bool :=
  match fs.stat path with
  | .ok _ => true
  | .error _ => false

/-- The content of a file. -/
def readFile (fs : FileSystem) (path : Text) : Except Fault Text :=
  match fs.stat path with
  | .ok (.file content) => .ok content
  | .ok _ => .error (.file "read" path .isDirectory)
  | .error p => .error (.file "open" path p)

/-- The place of the file that is opened for writing at a path; it may not exist yet. -/
def writablePlace (fs : FileSystem) (path : Text) : Except Fault Place :=
  match fs.locate true path with
  | .error p => .error (.file "open" path p)
  | .ok place =>
    match fs.node? place with
    | some .directory => .error (.file "open" path .isDirectory)
    | _ => .ok place

/-- Replaces the content of a file, which is made if it does not exist. -/
def writeFile (fs : FileSystem) (path content : Text) : Except Fault FileSystem :=
  (fs.writablePlace path).map fun place => fs.put place (.file content)

/-- The content of the file at a place, empty if there is none. -/
def contentAt (fs : FileSystem) (place : Place) : Text :=
  match fs.node? place with
  | some (.file content) => content
  | _ => []

/-- Appends to the file at a place. -/
def appendAt (fs : FileSystem) (place : Place) (data : Text) : FileSystem :=
  fs.put place (.file (fs.contentAt place ++ data))

/-- Whether the directory at a place holds nothing. -/
def isEmptyAt (fs : FileSystem) (place : Place) : Bool :=
  fs.nodes.all fun entry => !(entry.1.length > place.length && entry.1.take place.length == place)

/-- Removes a file, a link or an empty directory. -/
def remove (fs : FileSystem) (path : Text) : Except Fault FileSystem :=
  match fs.locate false path with
  | .error p => .error (.file "remove" path p)
  | .ok place =>
    match fs.node? place with
    | none => .error (.file "remove" path .missing)
    | some .directory =>
      if fs.isEmptyAt place then .ok (fs.erase place) else .error (.file "remove" path .notEmpty)
    | some _ => .ok (fs.erase place)

/-- The file system with everything at or below `source` moved to `target`. -/
def move (fs : FileSystem) (source target : Place) : FileSystem :=
  { fs with
    nodes := (fs.nodes.filter fun entry => entry.1 != target).map fun entry =>
      if entry.1.take source.length == source then
        (target ++ entry.1.drop source.length, entry.2)
      else entry }

/-- A refused renaming. -/
def renameFault (source target : Text) (problem : FileProblem) : Fault :=
  .file "rename" (source ++ 0x20 :: target) problem

/-- Renames a node. An existing file at the target is replaced, an existing directory is not. -/
def rename (fs : FileSystem) (source target : Text) : Except Fault FileSystem :=
  match fs.linkStat source, fs.linkStat target with
  | .error p, _ => .error (renameFault source target p)
  | .ok _, .ok .directory => .error (renameFault source target .exists)
  | .ok node, found =>
    match fs.locate false source, fs.locate false target with
    | .ok oldPlace, .ok newPlace =>
      if oldPlace == newPlace then .ok fs
      else
        match node, found with
        | .directory, .ok _ => .error (renameFault source target .notDirectory)
        | _, _ => .ok (fs.move oldPlace newPlace)
    | .error p, _ => .error (renameFault source target p)
    | _, .error p => .error (renameFault source target p)

/-- The path without slashes at its end. -/
def trimSlashes (path : Text) : Text :=
  (path.reverse.dropWhile (· == Text.slash)).reverse

/-- Makes one directory, where slashes at the end of the path do not matter. -/
def makeDirectory (fs : FileSystem) (path : Text) : Except Fault FileSystem :=
  match fs.locate false (trimSlashes path) with
  | .error p => .error (.file "mkdir" path p)
  | .ok place =>
    match fs.node? place with
    | some .directory => .ok fs
    | some _ => .error (.file "mkdir" path .exists)
    | none => .ok (fs.put place .directory)

/-- The paths that end in a slash and start `path`, then `path`. -/
def leadingPaths (path : Text) : List Text :=
  let names := Path.parts path
  let inner := (List.range (names.length - 1)).filter fun i => !(names.getD i []).isEmpty
  inner.map (fun i => Text.join [Text.slash] (names.take (i + 1)) ++ [Text.slash]) ++ [path]

/-- Makes the first of `paths` that is no directory and all after it. -/
def makeAll (fs : FileSystem) : (paths : List Text) → Except Fault FileSystem
  | [] => .ok fs
  | path :: rest =>
    match fs.stat path with
    | .ok .directory => makeAll fs rest
    | .ok _ => .error (.file "mkdir" path .notDirectory)
    | .error _ =>
      match fs.makeDirectory path with
      | .error f => .error f
      | .ok fs => makeAll fs rest

/-- Makes a directory and all directories above it that do not exist. -/
def makeDirectories (fs : FileSystem) (path : Text) : Except Fault FileSystem :=
  match fs.stat path with
  | .ok .directory => .ok fs
  | .ok _ => .error (.file "mkdir" path .notDirectory)
  | .error _ => fs.makeAll (leadingPaths path)

/-- The files at or below a place with their contents. -/
def filesBelow (fs : FileSystem) (place : Place) : List (Place × Text) :=
  fs.nodes.filterMap fun entry =>
    match entry.2 with
    | .file content =>
      if entry.1.take place.length == place then some (entry.1.drop place.length, content)
      else none
    | _ => none

end FileSystem

end DocScribe
