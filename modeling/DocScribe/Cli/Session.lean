import DocScribe.Chat.Client
import DocScribe.Cli.Flag
import DocScribe.Cli.Format
import DocScribe.Cli.Version
import DocScribe.Log.Setup
import DocScribe.Path.Canonical
import DocScribe.Settings.Load

/-!
# Sessions

A session is the state of one run of a command: the file system, the log, what was printed and what
was sent. Commands are actions on it that may end in a fault; what they did before stays done.
-/

namespace DocScribe.Cli

/-- What a run of the program is given. -/
structure Host where
  fs : FileSystem
  environment : Settings.Environment := []
  transport : Chat.Transport
  /-- The time of log records, in seconds since 1970. -/
  now : Int
  /-- A name for this run that no other run has. -/
  run : Text
  build : Build := .current
  /-- The version of the tools that built the program. -/
  toolchain : Text
  platform : Text

/-- The state of a run. -/
structure Session where
  fs : FileSystem
  logger : Log.Logger
  now : Int
  stdout : Text := []
  stderr : Text := []
  /-- The requests that were sent. -/
  sent : List Chat.Request := []

/-- What a command does. -/
abbrev Action := ExceptT Fault (StateM Session)

namespace Action

/-- The result of a computation that may fail. -/
def ofExcept {α : Type} : Except Fault α → Action α
  | .ok a => pure a
  | .error f => throw f

/-- The file system as it is now. -/
def files : Action FileSystem := do
  return (← get).fs

/-- Changes the file system by an operation that may fail half way. -/
def change {α : Type} (operation : FileSystem → FileSystem × Except Fault α) : Action α := do
  let (fs, result) := operation (← get).fs
  modify fun s => { s with fs }
  ofExcept result

/-- Logs an event. -/
def log (event : Log.Event) : Action Unit :=
  modify fun s =>
    let (logger, fs, shown) := s.logger.log s.fs (.ofEvent event s.now)
    { s with logger, fs, stderr := s.stderr ++ shown }

/-- Logs events in order. -/
def logAll (events : List Log.Event) : Action Unit :=
  events.forM log

/-- Prints to the standard output. -/
def print (text : Text) : Action Unit :=
  modify fun s => { s with stdout := s.stdout ++ text }

/-- Notes a request that was sent. -/
def noteSent (request : Option Chat.Request) : Action Unit :=
  modify fun s => { s with sent := s.sent ++ request.toList }

end Action

/-- What a command works with, once the settings are loaded. -/
structure Context where
  host : Host
  options : Options
  /-- The directory that holds the settings. -/
  root : Text
  loaded : Settings.Loaded

namespace Context

/-- The settings. -/
def settings (c : Context) : Settings :=
  c.loaded.settings

/-- The limit of scans. -/
def limit (c : Context) : Scan.Limit :=
  ⟨c.settings.scan.maxLines⟩

/-- Prints a response in the chosen format. -/
def respond (c : Context) (r : Response) : Action Unit := do
  let text ← Action.ofExcept (r.format c.options.format)
  Action.print (text ++ [Text.lf])

/-- A path as it is shown, from the root if it is below it. -/
def display (c : Context) (path : Text) : Action Text := do
  let fs ← Action.files
  return Path.display fs (Path.absolute fs.workingPath path) c.root

end Context

/-- What a run of the program leaves behind. -/
structure Outcome where
  exit : Nat
  stdout : Text
  stderr : Text
  sent : List Chat.Request
  fs : FileSystem

/-- How a fault is told: in the chosen format, or in plain words if there is no such format. -/
def faultText (format : Text) (f : Fault) : Text :=
  match (Response.ofFault f).format format with
  | .ok text => text
  | .error _ => f.toReport.message

/-- The outcome of a session that ended in this way. -/
def Session.outcome (s : Session) (format : Text) : Except Fault Unit → Outcome
  | .ok _ => { exit := 0, stdout := s.stdout, stderr := s.stderr, sent := s.sent, fs := s.fs }
  | .error f =>
    { exit := 1, stdout := s.stdout, stderr := s.stderr ++ faultText format f ++ [Text.lf]
      sent := s.sent, fs := s.fs }

end DocScribe.Cli
