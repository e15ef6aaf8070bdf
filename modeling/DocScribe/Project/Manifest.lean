import DocScribe.FileSystem.Basic
import DocScribe.Project.Draft
import DocScribe.Proofs.Path.Ascent

/-!
# Manifests

A manifest describes the package in its directory, the workspace that the directory is the root of,
or both. A key of a package can say `workspace = true` in place of a value; it then has the value of
the nearest workspace. `Manifest.parse` reads a manifest, `Manifest.find` looks for the nearest one
above a directory, and `Manifest.packageOf` gives the package of a source file. How the text of a
manifest is decoded is up to a `Decoder`; the program has one of its own (`decodeManifest`).

Two loops go up from a directory. `findFrom` ends because the directory of a path is the path itself
or lower (`Path.height_directory_lt`), and `findWorkspace?` because what it searches next has fewer
names than the directory before (`names_lt_of_find`).
-/

namespace DocScribe.Project

/-- The name of a manifest. -/
def manifestName : Text := "Cargo.toml"

theorem isEntry_manifestName : Path.IsEntry manifestName :=
  ⟨⟨by decide, by decide, by decide⟩, by decide⟩

/-- What a manifest says of a package. -/
structure Package where
  name : Text := []
  version : Text := []
  edition : Text := []
  description : Text := []
  authors : List Text := []
deriving DecidableEq, Repr

/-- The package with this key's value from another one. -/
def Shared.take (key : Shared) (source pkg : Package) : Package :=
  match key with
  | .version => { pkg with version := source.version }
  | .edition => { pkg with edition := source.edition }
  | .description => { pkg with description := source.description }
  | .authors => { pkg with authors := source.authors }

/-- What is read from a manifest. -/
structure Manifest where
  path : Text
  package : Option Package := none
  /-- The keys of the package that its workspace gives. -/
  inherited : List Shared := []
  isWorkspace : Bool := false
  workspaceMembers : List Text := []
  workspacePackage : Option Package := none
deriving DecidableEq, Repr

/-- The package that a draft describes. -/
def PackageDraft.package (draft : PackageDraft) : Package :=
  { name := draft.name
    version := Setting.text (draft.get? .version)
    edition := Setting.text (draft.get? .edition)
    description := Setting.text (draft.get? .description)
    authors := Setting.texts (draft.get? .authors) }

/-- The keys that a package inherits. -/
def PackageDraft.inherited (draft : PackageDraft) : List Shared :=
  Shared.all.filter fun key => Setting.isInherited (draft.get? key)

/-- The manifest that a draft describes. -/
def Draft.manifest (path : Text) (d : Draft) : Manifest :=
  { path
    package := d.package.map (·.package)
    inherited := (d.package.map (·.inherited)).getD []
    isWorkspace := d.isWorkspace
    workspaceMembers := d.ownWorkspace.members
    workspacePackage := d.common.map (·.package) }

/-- What the text of a manifest says, or what is wrong with it. -/
abbrev Decoder := (content : Text) → Except Fault Draft

/-- The decoder that the program has. -/
def decodeManifest : Decoder := fun content =>
  match Draft.ofDocument (Toml.read manifestDialect content) with
  | .ok d => .ok d
  | .error p => .error (.plain p.message)

namespace Manifest

/-- Reads the manifest at a path. -/
def parse (fs : FileSystem) (path : Text) (decoder : Decoder := decodeManifest) :
    Except Fault Manifest :=
  match fs.readFile path with
  | .error f => .error (.wrap (("failed to read " : Text) ++ manifestName) f)
  | .ok content =>
    match decoder content with
    | .ok d => .ok (d.manifest path)
    | .error f => .error (.wrap (("failed to parse " : Text) ++ path) f)

/-- A directory and all directories above it, the nearest first. -/
def upward (fs : FileSystem) (dir : Text) : List Text :=
  let names := Path.cleanParts (Path.absolute fs.workingPath dir)
  (List.range (names.length + 1)).reverse.map fun n => Path.ofParts true (names.take n)

/-- The manifest in a directory. -/
def inDirectory? (fs : FileSystem) (dir : Text) : Option Text :=
  let path := Path.join [dir, manifestName]
  if fs.hasPath path && !fs.isDirectory path then some path else none

/-- The path of the nearest manifest from this directory up to the one that is its own directory. -/
def findFrom (fs : FileSystem) (dir : Text) : Except Fault Text :=
  match inDirectory? fs dir with
  | some path => .ok path
  | none =>
    if _ : Path.directory dir = dir then .error (.marked .noManifest)
    else findFrom fs (Path.directory dir)
termination_by Path.height dir
decreasing_by exact Path.height_directory_lt ‹_›

/-- The path of the nearest manifest at or above a directory. -/
def find (fs : FileSystem) (dir : Text) : Except Fault Text :=
  findFrom fs (Path.absolute fs.workingPath dir)

/-- The manifest at a path, if it can be read and has a workspace. -/
def workspaceAt? (fs : FileSystem) (decoder : Decoder) (path : Text) : Option Manifest :=
  match parse fs path decoder with
  | .ok manifest => if manifest.isWorkspace then some manifest else none
  | .error _ => none

/-- A manifest is found in the directory that it is looked for in, or in one above. -/
theorem exists_of_findFrom {fs : FileSystem} {dir path : Text} {names : List Text}
    (entries : ∀ name ∈ names, Path.IsEntry name) (hdir : dir = Path.ofParts true names)
    (h : findFrom fs dir = .ok path) :
    ∃ above, above <+: names ∧ path = Path.join [Path.ofParts true above, manifestName] := by
  induction dir using findFrom.induct fs generalizing names with
  | case1 dir found hin =>
    rw [findFrom, hin] at h
    obtain rfl := Except.ok.inj h
    refine ⟨names, List.prefix_rfl, ?_⟩
    rw [← hdir]
    rw [inDirectory?] at hin
    split at hin
    · exact (Option.some.inj hin).symm
    · cases hin
  | case2 dir hin hroot =>
    rw [findFrom, hin] at h
    simp only [dif_pos hroot, reduceCtorEq] at h
  | case3 dir hin hroot ih =>
    rw [findFrom, hin] at h
    simp only [dif_neg hroot] at h
    obtain ⟨above, habove, hpath⟩ := ih
      (fun name hname => entries name (List.dropLast_subset names hname))
      (by rw [hdir, Path.directory_dropLast entries]) h
    exact ⟨above, habove.trans (List.dropLast_prefix names), hpath⟩

/-- Above a manifest that is found there are fewer names than in the directory that it is looked for
in, unless the manifest is at the root. -/
theorem names_lt_of_find {fs : FileSystem} {dir path : Text} (h : find fs dir = .ok path)
    (hroot : Path.directory (Path.directory path) ≠ Path.directory path) :
    (Path.cleanParts
        (Path.absolute fs.workingPath (Path.directory (Path.directory path)))).length <
      (Path.cleanParts (Path.absolute fs.workingPath dir)).length := by
  have hworking : Path.isAbsolute fs.workingPath = true := rfl
  obtain ⟨names, entries, hdir⟩ := Path.exists_absolute_eq_ofParts hworking dir
  obtain ⟨above, habove, rfl⟩ := exists_of_findFrom entries hdir h
  have habsolute : Path.isAbsolute (Path.ofParts true above.dropLast) = true := rfl
  have hentries : ∀ name ∈ above, Path.IsEntry name := fun name hname =>
    entries name (habove.subset hname)
  have hfront : ∀ name ∈ above.dropLast, Path.IsEntry name := fun name hname =>
    hentries name (List.dropLast_subset above hname)
  rw [Path.join_ofParts hentries isEntry_manifestName,
    Path.directory_ofParts hentries isEntry_manifestName,
    Path.directory_dropLast hentries] at hroot ⊢
  have hne : above ≠ [] := by
    rintro rfl
    exact hroot rfl
  rw [Path.absolute, if_pos habsolute, Path.clean_ofParts hfront, Path.cleanParts_ofParts hfront,
    hdir, Path.cleanParts_ofParts entries, List.length_dropLast]
  have hpositive := List.length_pos_iff.2 hne
  have hle := habove.length_le
  omega

/-- The nearest manifest of a workspace at or above a directory. -/
def findWorkspace? (fs : FileSystem) (decoder : Decoder) (dir : Text) : Option Manifest :=
  match _ : find fs dir with
  | .error _ => none
  | .ok path =>
    match workspaceAt? fs decoder path with
    | some manifest => some manifest
    | none =>
      if _ : Path.directory (Path.directory path) = Path.directory path then none
      else findWorkspace? fs decoder (Path.directory (Path.directory path))
termination_by (Path.cleanParts (Path.absolute fs.workingPath dir)).length
decreasing_by exact names_lt_of_find ‹_› ‹_›

/-- The workspace that a manifest inherits from. -/
def workspace? (fs : FileSystem) (decoder : Decoder) (manifest : Manifest) : Option Manifest :=
  if manifest.isWorkspace then some manifest
  else findWorkspace? fs decoder (Path.directory (Path.directory manifest.path))

/-- The package of a manifest with what it inherits filled in. -/
def resolve (fs : FileSystem) (decoder : Decoder) (manifest : Manifest) (package : Package) :
    Package :=
  match (manifest.workspace? fs decoder).bind (·.workspacePackage) with
  | some shared => manifest.inherited.foldl (fun package key => key.take shared package) package
  | none => package

/-- The package that a source file belongs to. -/
def packageOf (fs : FileSystem) (path : Text) (decoder : Decoder := decodeManifest) :
    Except Fault Package := do
  let manifestPath ← find fs (Path.directory path)
  let manifest ← parse fs manifestPath decoder
  match manifest.package with
  | some package => .ok (manifest.resolve fs decoder package)
  | none =>
    .error (.wrap (manifestPath ++ (" has no [package] table" : Text)) (.marked .noManifest))

end Manifest

end DocScribe.Project
