import DocScribe.Cli.Program

/-!
# What a run can touch

A run works on a file system that is given as a value. These lists say which paths of it matter, so
that only they need to be looked at: first those that settle the settings, then, once the settings
are known, those of the log, the sources, the manifests above them and the prompt file.
-/

namespace DocScribe.Cli

/-- The flags and arguments of the command that a command line names. -/
def parsedArgs (args : List Text) : Parsed :=
  match Command.find args with
  | .ok (command, rest) => Flag.parse command.flags {} rest
  | .error _ => { options := {} }

/-- The directory that holds the settings, whether it is there or not. -/
def assumedRoot (fs : FileSystem) (o : Options) : Text :=
  if o.root.isEmpty then fs.workingPath else o.root

/-- The paths that settle the settings. -/
def settingsReach (fs : FileSystem) (env : Settings.Environment) (o : Options) : List Text :=
  let root := assumedRoot fs o
  root :: Project.settingsDir root :: Settings.filePaths fs env (Settings.request root)

/-- The paths of the log. -/
def logReach (o : Options) (root : Text) (s : Settings) : List Text :=
  let setup : Log.Setup := { root, settings := s.logging, override := none }
  let path := setup.logPath o.logFile
  let file : Log.RotatingFile := { path, maxSize := 0, maxBackups := s.logging.maxBackups }
  if path.isEmpty then []
  else
    Path.directory path :: path ::
      (List.range (s.logging.maxBackups.toNat + 1)).map fun (n : Nat) => file.backupPath (n + 1)

/-- The paths of a source file that an argument names: the file, the draft it is saved by, and the
manifests above it. -/
def sourceReach (fs : FileSystem) (arg : Text) : List Text :=
  let path :=
    match Location.read arg with
    | .ok loc => loc.path
    | .error _ => arg
  let manifests := (Project.Manifest.upward fs (Path.directory path)).map fun dir =>
    Path.join [dir, Project.manifestName]
  path :: (path ++ (".tmp" : Text)) :: manifests

/-- The paths that a command can touch once the settings are known. -/
def commandReach (fs : FileSystem) (parsed : Parsed) (s : Settings) : List Text :=
  let root := assumedRoot fs parsed.options
  let prompts := s.generation.promptsFile
  let promptsPath : List Text :=
    if prompts.isEmpty then []
    else [if Path.isAbsolute prompts then prompts else Path.join [root, prompts]]
  logReach parsed.options root s ++ promptsPath ++ parsed.args.flatMap (sourceReach fs)

end DocScribe.Cli
