import DocScribe.Settings.Layered

/-!
# Loading settings

The settings below a root are what a library gathers there for the program's `request`, if they are
valid. The variables that override a setting are reported with them.
-/

namespace DocScribe.Settings

/-- The environment variables that override settings. -/
def variableNames : List Text :=
  (layersOf [] (request []) (.object [])).keys.map variableName

/-- The environment variables that can change the settings below a root: also those for keys that
only the settings file has. -/
def variablesFor (fs : FileSystem) (env : Environment) (root : Text) : List Text :=
  let content := (filePath? fs env (request root)).bind fun path => (fs.readFile path).toOption
  let file := (content.bind readFile?).getD (.object [])
  (layersOf [] (request root) file).keys.map variableName

/-- A variable that is set, and the key it stands for. -/
structure Override where
  name : Text
  key : Text
  value : Text
deriving DecidableEq, Repr

/-- Loaded settings and where they came from. -/
structure Loaded where
  settings : Settings
  /-- The file that was read, empty if there was none. -/
  path : Text := []
  /-- Whether no file was read. -/
  usedDefaults : Bool := true
  overrides : List Override := []

/-- A settings file that cannot be used. -/
def badFile (message : Text) : Fault :=
  .setting "file" message

/-- The variables that are set for some keys, in the order of the keys. -/
def overridesOf (env : Environment) (keys : List Text) : List Override :=
  (Text.sort keys).filterMap fun key =>
    (env.lookup (variableName key)).map fun value => ⟨variableName key, key, value⟩

/-- Gathered settings and where they came from. -/
def Gathered.loaded (g : Gathered) (env : Environment) (settings : Settings) : Loaded where
  settings := settings
  path := g.path.getD []
  usedDefaults := g.path.isNone
  overrides := overridesOf env g.keys

/-- Loads the settings below a root. -/
def load (fs : FileSystem) (env : Environment) (root : Text) (library : Library := layered) :
    Except Fault Loaded :=
  match library fs env (request root) with
  | .error message => .error (badFile message)
  | .ok gathered =>
    match gathered.settings with
    | .error message => .error (badFile message)
    | .ok settings =>
      match settings.validate with
      | .error f => .error f
      | .ok _ => .ok (gathered.loaded env settings)

end DocScribe.Settings
