import DocScribe.Cli.Command
import DocScribe.Cli.Documenting
import DocScribe.Cli.SettingsView

/-!
# The program

`run` is the whole program: it finds the command, reads its flags, loads the settings, starts the
log and does what the command says. A fault is printed in the chosen format, and the exit code tells
whether there was one.
-/

namespace DocScribe.Cli

/-- The directory that holds the settings: the one that a flag names, or the working directory. -/
def settingsRoot (fs : FileSystem) (flag : Text) : Except Fault Text :=
  if flag.isEmpty then .ok fs.workingPath
  else
    match fs.stat flag with
    | .error p => .error (.file "stat" flag p)
    | .ok .directory => .ok flag
    | .ok _ => .error (.plain (("--root " : Text) ++ flag ++ (" is not a directory" : Text)))

/-- The level of the log that flags ask for. -/
def flagLevel? (o : Options) : Option Log.Level :=
  if 0 < o.verbosity || o.quiet then some (.ofVerbosity o.verbosity o.quiet) else none

/-- Starts the log with the name of the run and the command on every record. -/
def startLog (host : Host) (command : Command) (o : Options) (root : Text) (s : Settings) :
    Action Unit := do
  let setup : Log.Setup := { root, settings := s.logging, override := flagLevel? o }
  let logger ← Action.change fun fs => setup.start fs o.logFile
  modify fun session =>
    { session with
      logger := logger.withAttrs [("run", .string host.run), ("cmd", .string command.name)] }

/-- Loads the settings and starts the log. -/
def start (host : Host) (command : Command) (o : Options) : Action Context := do
  if let .error f := Format.read o.format then throw (invalidArgument f)
  let fs ← Action.files
  let root ← Action.ofExcept (settingsRoot fs o.root)
  let loaded ← Action.ofExcept (Settings.load fs host.environment root)
  startLog host command o root loaded.settings
  Action.log (.debug "Configuration loaded"
    [("root", .string root), ("config", .string loaded.path),
     ("defaults", .bool loaded.usedDefaults)])
  return { host, options := o, root, loaded }

namespace Context

/-- Writes the default settings. -/
def initSettings (c : Context) : Action Unit := do
  let path := Path.join [Project.settingsDir c.root, Settings.fileName]
  if (← Action.files).hasPath path && !c.options.force then
    throw (.plain (path ++ (" already exists; use --force to overwrite" : Text)))
  Action.change fun fs => Settings.save {} fs c.root
  Action.log (.info "Wrote default configuration" [("path", .string path)])
  Action.print (("Wrote " : Text) ++ (← c.display path) ++ [Text.lf])

/-- What is known of this build. -/
def versionNote (c : Context) : VersionNote :=
  { version := c.host.build.version, commit := c.host.build.commit, date := c.host.build.date
    toolchain := c.host.toolchain, platform := c.host.platform, parser := false }

/-- Does what a command says. The argument is the first one, empty if the command takes none. -/
def execute (c : Context) (arg : Text) : Command → Action Unit
  | .top => pure ()
  | .config => pure ()
  | .check => throw (.marked .noParser)
  | .classify => if c.options.text.isEmpty then c.classifyFile arg else c.classifyText
  | .configEnv => c.respond (.variables (some Settings.variableNames))
  | .configInit => c.initSettings
  | .configShow => do
    c.respond (.settings (← Action.ofExcept (showSettings c.loaded c.options.diff)))
  | .doc => c.doc arg
  | .hierarchy => c.hierarchy arg
  | .locate => c.locate arg
  | .owner => c.owner arg
  | .scope => c.scope arg
  | .version => c.respond (.version c.versionNote)

end Context

/-- A short help: the commands below a command, or the command itself. -/
def usage (command : Command) : Text :=
  let commands := if command.children.isEmpty then [command] else command.children
  ("Usage:\n" : Text) ++ commands.flatMap fun c => ("  " : Text) ++ c.path ++ [Text.lf]

/-- Runs a command whose flags were read. -/
def perform (host : Host) (command : Command) (parsed : Parsed) : Action Unit := do
  let o := parsed.options
  if let some p := parsed.problem then throw (.plain p.message)
  if o.help then Action.print (usage command)
  else if o.version then Action.print (host.build.full ++ [Text.lf])
  else if !command.runnable then Action.print (usage command)
  else
    if let some f := command.arityFault? o parsed.args then throw f
    let c ← start host command o
    c.execute (parsed.args.headD []) command

/-- The session before anything is done: nothing is logged. -/
def Host.session (host : Host) : Session :=
  { fs := host.fs, logger := { console := .ofFormat "human" Log.Level.silent }, now := host.now }

/-- Runs the program. -/
def run (host : Host) (args : List Text) : Outcome :=
  match Command.find args with
  | .error f => host.session.outcome ({} : Options).format (.error f)
  | .ok (command, rest) =>
    let parsed := Flag.parse command.flags {} rest
    let (result, session) := (perform host command parsed).run.run host.session
    session.outcome parsed.options.format result

end DocScribe.Cli
