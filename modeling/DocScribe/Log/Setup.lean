import DocScribe.Log.Rotation
import DocScribe.Log.Sink
import DocScribe.Log.Size
import DocScribe.Settings.Basic

/-!
# The log of the program

The log goes to the console in the format of the settings and, if a log file is named, to that file
as lines. The level of the command line wins over the settings; a console that is told to be silent
leaves the file as it is.
-/

namespace DocScribe.Log

/-- What decides how the program logs. -/
structure Setup where
  /-- The directory that holds the settings. -/
  root : Text
  settings : LoggingSettings
  /-- The level of the command line. -/
  override : Option Level := none

/-- A log that is written to. -/
structure Logger where
  console : Sink
  file : Option (Sink × RotatingFile) := none

namespace Setup

/-- The level of the settings. -/
def settingsLevel (s : Setup) : Level :=
  if s.settings.level.isEmpty then Level.info else Level.ofText s.settings.level

/-- The level of the console. -/
def level (s : Setup) : Level :=
  s.override.getD s.settingsLevel

/-- The level of the log file. -/
def fileLevel (s : Setup) : Level :=
  match s.override with
  | some level => if level == Level.silent then s.settingsLevel else level
  | none => s.settingsLevel

/-- The log file: the one that the command line names, else that of the settings; empty for none. -/
def logPath (s : Setup) (flag : Text) : Text :=
  if flag == Project.defaultLogWord then Project.defaultLogPath s.root
  else if !flag.isEmpty then flag
  else Project.resolveLogPath s.root s.settings.file

/-- Opens the log file. -/
def openFile (s : Setup) (fs : FileSystem) (path : Text) :
    FileSystem × Except Fault RotatingFile :=
  match readSize s.settings.maxSize with
  | .error f => (fs, .error (.setting "logging.maxSize" f.message))
  | .ok size =>
    RotatingFile.opened { path, maxSize := size, maxBackups := s.settings.maxBackups } fs

/-- Starts the log. -/
def start (s : Setup) (fs : FileSystem) (flag : Text) : FileSystem × Except Fault Logger :=
  let console := Sink.ofFormat s.settings.format s.level
  let path := s.logPath flag
  if path.isEmpty then (fs, .ok { console })
  else
    match s.openFile fs path with
    | (fs, .error f) => (fs, .error (.wrap (("open log file " : Text) ++ path) f))
    | (fs, .ok file) => (fs, .ok { console, file := some (⟨s.fileLevel, .line {}⟩, file) })

end Setup

namespace Logger

/-- Binds attributes to every record. -/
def withAttrs (logger : Logger) (attrs : List Attr) : Logger :=
  { console := logger.console.withAttrs attrs
    file := logger.file.map fun (sink, file) => (sink.withAttrs attrs, file) }

/-- Logs a record: the log after it, the file system, and what the console shows. -/
def log (logger : Logger) (fs : FileSystem) (record : Record) : Logger × FileSystem × Text :=
  let shown := (logger.console.writeEnabled? record).getD []
  match logger.file with
  | none => (logger, fs, shown)
  | some (sink, file) =>
    match sink.writeEnabled? record with
    | none => (logger, fs, shown)
    | some text =>
      let written := file.write fs text
      ({ logger with file := some (sink, written.file) }, written.fs, shown)

/-- Logs records in order. -/
def logAll (logger : Logger) (fs : FileSystem) : List Record → Logger × FileSystem × Text
  | [] => (logger, fs, [])
  | record :: records =>
    let (logger, fs, shown) := logger.log fs record
    let (logger, fs, rest) := logAll logger fs records
    (logger, fs, shown ++ rest)

end Logger

end DocScribe.Log
