import DocScribe.Cli.Reach
import Std.Time.DateTime.Timestamp

/-!
# The executable

Looks at the part of the file system that the run can touch, runs the program on it, and carries the
changes back. There is no network here, so a request never gets a response.
-/

namespace DocScribe.Executable

/-- A path as the name of a file. -/
def nameOf (place : Place) : IO String :=
  match (Path.ofParts true place).toString? with
  | some name => pure name
  | none => throw (IO.userError "a path is not valid UTF-8")

/-- What stands at a place, if anything. A link leads to its real path. -/
def look (place : Place) : IO (Option FileNode) := do
  try
    let name ← nameOf place
    let found ← ((← IO.currentDir) / name).symlinkMetadata
    match found.type with
    | .dir => return some .directory
    | .file => return some (.file (← IO.FS.readBinFile name).toList)
    | .symlink => return some (.link (Text.ofString (← IO.FS.realPath name).toString))
    | .other => return none
  catch _ => return none

/-- Adds what stands on the way along `names` from a place, as far as it goes. -/
def survey (fs : FileSystem) : (fuel : Nat) → Place → (names : List Text) → IO FileSystem
  | 0, _, _ => return fs
  | _, _, [] => return fs
  | fuel + 1, place, name :: rest => do
    if name.isEmpty || name == ("." : Text) then survey fs fuel place rest
    else if name == (".." : Text) then survey fs fuel place.dropLast rest
    else
      let next := place ++ [name]
      match ← look next with
      | none => return fs
      | some (.link target) =>
        survey (fs.put next (.link target)) fuel [] (Path.parts target ++ rest)
      | some node => survey (fs.put next node) fuel next rest

/-- The most steps along one path. -/
def maxSteps : Nat := 10000

/-- Adds what stands on the way along paths. -/
def surveyAll (fs : FileSystem) (paths : List Text) : IO FileSystem :=
  paths.foldlM
    (fun fs path =>
      survey fs maxSteps [] (Path.parts (Path.absolute fs.workingPath path))) fs

/-- The variables among `names` that are set. -/
def lookUp (names : List Text) : IO Settings.Environment :=
  names.filterMapM fun name => do
    match name.toString? with
    | none => return none
    | some key => return (← IO.getEnv key).map fun value => (name, Text.ofString value)

/-- Carries the changes of a run back. -/
def carryBack (before after : FileSystem) : IO Unit := do
  for (place, _) in before.nodes do
    if (after.node? place).isNone then IO.FS.removeFile (← nameOf place)
  for (place, node) in after.nodes.reverse do
    if before.node? place != some node then
      match node with
      | .directory => IO.FS.createDirAll (← nameOf place)
      | .file content => IO.FS.writeBinFile (← nameOf place) ⟨content.toArray⟩
      | .link _ => pure ()

/-- A name for a run, from sixteen random bytes. -/
def runName (random : List UInt8) : Text :=
  let digits : Text := random.flatMap fun b => Number.hex 2 b.toNat
  let part (start size : Nat) : Text := (digits.drop start).take size
  Text.join "-" [part 0 8, part 8 4, 0x34 :: part 13 3, 0x38 :: part 17 3, part 20 12]

/-- The seconds since 1970. -/
def now : IO Int := do
  return (← Std.Time.Timestamp.now).toSecondsSinceUnixEpoch.val

/-- What a run with these arguments is given. -/
def host (args : List Text) : IO Cli.Host := do
  let parsed := Cli.parsedArgs args
  let working := Text.ofString (← IO.currentDir).toString
  let empty : FileSystem := { working := Path.cleanParts working }
  let root := Cli.assumedRoot empty parsed.options
  let referred ← lookUp (Settings.references 0 root)
  let fs ← surveyAll empty (working :: Cli.settingsReach empty referred parsed.options)
  let overriding ← lookUp (Settings.variablesFor fs referred root)
  let environment := referred ++ overriding
  let settings : Settings :=
    match Settings.load fs environment root with
    | .ok loaded => loaded.settings
    | .error _ => {}
  let key ← lookUp [settings.generation.apiKeyEnv]
  let fs ← surveyAll fs (Cli.commandReach fs parsed settings)
  return {
    fs
    environment := environment ++ key
    transport := fun _ => .error "network is not available"
    now := ← now
    run := runName (← IO.getRandomBytes 16).toList
    toolchain := "unknown"
    platform := "unknown" }

end DocScribe.Executable

open DocScribe in
/-- Runs the program. -/
def main (args : List String) : IO UInt32 := do
  let args := args.map Text.ofString
  let host ← Executable.host args
  let outcome := Cli.run host args
  Executable.carryBack host.fs outcome.fs
  (← IO.getStdout).write ⟨outcome.stdout.toArray⟩
  (← IO.getStderr).write ⟨outcome.stderr.toArray⟩
  return outcome.exit.toUInt32
