import DocScribe.Path.Lexical

/-!
# Where a project keeps its files

The settings and logs of a project live in one directory below its root.
-/

namespace DocScribe.Project

/-- The name of the directory of settings. -/
def settingsName : Text := ".rustai"

/-- The word that selects the default log file. -/
def defaultLogWord : Text := "default"

/-- The directory of settings. -/
def settingsDir (root : Text) : Text :=
  Path.join [root, settingsName]

/-- The directory of log files. -/
def logsDir (root : Text) : Text :=
  Path.join [settingsDir root, "logs"]

/-- The default log file. -/
def defaultLogPath (root : Text) : Text :=
  Path.join [logsDir root, "rustai.log"]

/-- The file that a configured log path means: none if it is empty, the default one for its word,
and a relative path is taken from the directory of settings. -/
def resolveLogPath (root path : Text) : Text :=
  if path.isEmpty then []
  else if path == defaultLogWord then defaultLogPath root
  else if Path.isAbsolute path then path
  else Path.join [settingsDir root, path]

end DocScribe.Project
