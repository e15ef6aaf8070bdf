import DocScribe.Project.Setting
import DocScribe.Text.Case
import DocScribe.Toml.Reader
import DocScribe.Toml.Track

/-!
# What a manifest says, section by section

Four tables of a manifest matter: the whole, the package, the workspace, and the package values that
a workspace shares. `Place.of` finds the one that a key is in. Names count in any case, and a table
is there as soon as a key leads to it or through it. `Draft.addSection` takes a section of the
document in, `Draft.ofDocument` all of them; keys that mean nothing here are passed over, and below
a header that means nothing so are all assignments.
-/

namespace DocScribe.Project

open Toml (Key Value Problem Section Track)

/-- A key of a package that a workspace can give the value of. -/
inductive Shared where
  | version
  | edition
  | description
  | authors
deriving DecidableEq, Repr

namespace Shared

/-- All such keys in the order of listings. -/
def all : List Shared := [.version, .edition, .description, .authors]

/-- The key in a manifest. -/
def name : Shared → Text
  | .version => "version"
  | .edition => "edition"
  | .description => "description"
  | .authors => "authors"

end Shared

/-- A key of a package. -/
inductive PackageKey where
  | name
  | shared (key : Shared)
deriving DecidableEq, Repr

/-- The key of a package with this name in any case. -/
def PackageKey.of? (name : Text) : Option PackageKey :=
  if name.toLower == ("name" : Text) then some .name
  else (Shared.all.find? (·.name == name.toLower)).map .shared

/-- A table of a manifest whose keys have a meaning. -/
inductive Scope where
  | whole
  | package
  | workspace
  /-- The package values that a workspace shares. -/
  | common
deriving DecidableEq, Repr

/-- A table and a key in it. -/
structure Place where
  scope : Scope
  rest : Key
deriving DecidableEq, Repr

/-- Where a key leads: into the innermost table that has a meaning. -/
def Place.of : Key → Place
  | [] => ⟨.whole, []⟩
  | name :: key =>
    if name.toLower == ("package" : Text) then ⟨.package, key⟩
    else if name.toLower == ("workspace" : Text) then
      match key with
      | [] => ⟨.workspace, []⟩
      | inner :: rest =>
        if inner.toLower == ("package" : Text) then ⟨.common, rest⟩ else ⟨.workspace, key⟩
    else ⟨.whole, name :: key⟩

/-- Whether a key of the workspace is the list of its members. -/
def isMembers (name : Text) : Bool :=
  name.toLower == ("members" : Text)

/-- Whether a place has a meaning. -/
def Place.isKnown (place : Place) : Bool :=
  match place.scope, place.rest with
  | _, [] => true
  | .whole, _ => false
  | .workspace, name :: _ => isMembers name
  | .package, name :: _ => (PackageKey.of? name).isSome
  | .common, name :: _ => (PackageKey.of? name).isSome

/-- What is said of a package so far. -/
structure PackageDraft where
  name : Text := []
  settings : List (Shared × Setting) := []

namespace PackageDraft

/-- What is said of a key. -/
def get? (draft : PackageDraft) (key : Shared) : Option Setting :=
  draft.settings.lookup key

/-- The draft with something said of a key, or as before if nothing is. -/
def set (draft : PackageDraft) (key : Shared) : Option Setting → PackageDraft
  | none => draft
  | some setting =>
    { draft with settings := (key, setting) :: draft.settings.filter (·.1 != key) }

/-- The draft with a value assigned to a key of the package or below it. -/
def assign (draft : PackageDraft) (name : Text) (rest : Key) (v : Value) :
    Except Problem PackageDraft :=
  match PackageKey.of? name with
  | none => .ok draft
  | some .name =>
    match rest, v with
    | [], .scalar (.string s) => .ok { draft with name := s }
    | _, _ => .error (.unsuitable name)
  | some (.shared key) =>
    (Setting.assign (draft.get? key) rest v).map fun setting => draft.set key (some setting)

/-- The draft with a section whose header names a key of the package or one below it. -/
def addSection (draft : PackageDraft) (name : Text) (rest : Key) (isNew : Bool) (part : Section) :
    Except Problem PackageDraft :=
  match PackageKey.of? name, part.header with
  | none, _ => .ok draft
  | some .name, .element _ => .error (.unsuitable name)
  | some .name, _ =>
    if rest.isEmpty && part.assignments.isEmpty then .ok draft else .error (.unsuitable name)
  | some (.shared key), .element _ =>
    (Setting.enterElement part.assignments isNew rest (draft.get? key)).map (draft.set key)
  | some (.shared key), _ =>
    (Setting.enterTable part.assignments rest (draft.get? key)).map (draft.set key)

end PackageDraft

/-- What is said of a workspace so far. -/
structure WorkspaceDraft where
  members : List Text := []
  /-- What is said of the package values that it shares. -/
  package : Option PackageDraft := none

/-- What a manifest says so far. -/
structure Draft where
  package : Option PackageDraft := none
  workspace : Option WorkspaceDraft := none

/-- The string of a value that is one. -/
def stringOf (v : Value) : Except Problem Text :=
  match v with
  | .scalar (.string s) => .ok s
  | _ => .error (.unsuitable "members")

namespace Draft

/-- Whether the manifest has a workspace. -/
def isWorkspace (d : Draft) : Bool :=
  d.workspace.isSome

/-- What is said of the workspace, which may be nothing yet. -/
def ownWorkspace (d : Draft) : WorkspaceDraft :=
  d.workspace.getD {}

/-- What is said of the package values that the workspace shares. -/
def common (d : Draft) : Option PackageDraft :=
  d.workspace.bind (·.package)

/-- The draft with something else said of those values. -/
def setCommon (d : Draft) (common : PackageDraft) : Draft :=
  { d with workspace := some { d.ownWorkspace with package := some common } }

/-- The draft with this table in it. -/
def reach (d : Draft) : Scope → Draft
  | .whole => d
  | .package => { d with package := some (d.package.getD {}) }
  | .workspace => { d with workspace := some d.ownWorkspace }
  | .common => d.setCommon (d.common.getD {})

/-- The draft with the list of members assigned. -/
def setMembers (d : Draft) (rest : Key) (v : Value) : Except Problem Draft :=
  match rest, v with
  | [], .array items =>
    (items.mapM stringOf).map fun members =>
      { d with workspace := some { d.ownWorkspace with members } }
  | _, _ => .error (.unsuitable "members")

/-- The draft with a value assigned to a key in one of its tables. -/
def assignAt (d : Draft) (place : Place) (v : Value) : Except Problem Draft :=
  match place.scope, place.rest with
  | .workspace, name :: rest => if isMembers name then d.setMembers rest v else .ok d
  | .package, name :: rest =>
    ((d.package.getD {}).assign name rest v).map fun package => { d with package := some package }
  | .common, name :: rest => ((d.common.getD {}).assign name rest v).map d.setCommon
  | _, _ => .ok d

mutual

/-- The draft with a value assigned to a key. A table that has a meaning takes only an inline table,
whose members are assigned in it. -/
def assign (d : Draft) (key : Key) (v : Value) : Except Problem Draft :=
  let place := Place.of key
  let d := d.reach place.scope
  if place.rest.isEmpty then
    match v with
    | .table members => assignMembers d key members
    | _ => .error (.unsuitable (key.getLastD []))
  else d.assignAt place v

/-- The draft with the members of an inline table assigned below a key. -/
def assignMembers (d : Draft) (key : Key) : List (Key × Value) → Except Problem Draft
  | [] => .ok d
  | (name, v) :: members =>
    match assign d (key ++ name) v with
    | .error p => .error p
    | .ok d => assignMembers d key members

end

/-- The draft with a section whose header names the list of members, or a key below it. A header of
an array element adds an empty member. -/
def addMemberSection (d : Draft) (rest : Key) (isNew : Bool) (part : Section) :
    Except Problem Draft :=
  if !rest.isEmpty || !part.assignments.isEmpty then .error (.unsuitable "members")
  else
    let own := d.ownWorkspace
    match part.header with
    | .element _ =>
      let members := (if isNew then [] else own.members) ++ [[]]
      .ok { d with workspace := some { own with members } }
    | _ => if own.members.isEmpty then .error (.unsuitable "members") else .ok d

/-- The draft with a section of the document. -/
def addSection (d : Draft) (isNew : Bool) (part : Section) : Except Problem Draft :=
  let key := part.header.key
  let place := Place.of key
  let d := d.reach place.scope
  match place.scope, place.rest with
  | _, [] =>
    match part.header with
    | .element _ => .error (.unsuitable (key.getLastD []))
    | _ => assignMembers d key part.assignments
  | .whole, _ => .ok d
  | .workspace, name :: rest => if isMembers name then d.addMemberSection rest isNew part else .ok d
  | .package, name :: rest =>
    ((d.package.getD {}).addSection name rest isNew part).map fun package =>
      { d with package := some package }
  | .common, name :: rest =>
    ((d.common.getD {}).addSection name rest isNew part).map d.setCommon

/-- The draft and the keys used after one more section. -/
def step (state : Track × Draft) (part : Section) : Except Problem (Track × Draft) := do
  let (track, d) := state
  let isNew := Track.isNew part.header.key track.marks
  let track ← track.enter part.header
  let track ←
    if (Place.of part.header.key).isKnown then part.assignments.foldlM Track.assign track
    else .ok track
  return (track, ← d.addSection isNew part)

/-- What a document says. -/
def ofDocument (document : Toml.Document) : Except Problem Draft := do
  let (_, d) ← (Toml.sections document.statements).foldlM step ({}, {})
  match document.problem with
  | some p => .error p
  | none => .ok d

end Draft

end DocScribe.Project
