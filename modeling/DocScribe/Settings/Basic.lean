import DocScribe.Fault.Basic
import DocScribe.FileSystem.Basic
import DocScribe.Json.Writer
import DocScribe.Project.Layout

/-!
# Settings

The settings of a project with their defaults, what makes them valid (`Settings.validate`), and
their JSON form, which is also how they are saved.
-/

namespace DocScribe

/-- Settings of the scanner. -/
structure ScanSettings where
  /-- The most lines that one scan examines; 0 for no limit. -/
  maxLines : Int := 10000
deriving DecidableEq, Repr

/-- Settings of the generator of comments. -/
structure GenerationSettings where
  provider : Text := "openai"
  model : Text := "gpt-4o-mini"
  baseUrl : Text := "https://api.openai.com/v1/chat/completions"
  temperature : Number.Binary64 := .ofDecimal false 25 (-2)
  maxTokens : Int := 2000
  /-- The variable that holds the key of the service. -/
  apiKeyEnv : Text := "OPENAI_API_KEY"
  promptsFile : Text := []
  timeoutSeconds : Int := 120
deriving DecidableEq, Repr

/-- Settings of the log. -/
structure LoggingSettings where
  format : Text := "human"
  level : Text := "warn"
  /-- The log file; empty for none. -/
  file : Text := []
  /-- The size at which the log file is rotated; empty for never. -/
  maxSize : Text := []
  maxBackups : Int := 3
deriving DecidableEq, Repr

/-- The settings of a project. -/
structure Settings where
  version : Int := 1
  scan : ScanSettings := {}
  generation : GenerationSettings := {}
  logging : LoggingSettings := {}
deriving DecidableEq, Repr

/-- The key of the service, from the environment. -/
def GenerationSettings.apiKey (g : GenerationSettings) (environment : List (Text × Text)) : Text :=
  if g.apiKeyEnv.isEmpty then [] else (environment.lookup g.apiKeyEnv).getD []

/-- The time limit of a request in nanoseconds, as a 64-bit integer. -/
def GenerationSettings.timeout (g : GenerationSettings) : Int :=
  Number.wrap (g.timeoutSeconds * 1000000000)

/-- A word in single quotes. -/
def inSingleQuotes (s : Text) : Text :=
  0x27 :: s ++ [0x27]

namespace Settings

/-- The version of the settings that is understood. -/
def currentVersion : Int := 1

/-- The rules that settings keep, in the order in which they are checked: a field, whether its value
is bad, and what is said then. -/
def rules (s : Settings) : List (Text × Bool × Text) :=
  let g := s.generation
  let two : Number.Binary64 := .ofInt 2
  [("version", s.version != currentVersion, "unsupported config version"),
   ("scan.maxLines", s.scan.maxLines < 0, "must not be negative"),
   ("generation.provider", g.provider != ("openai" : Text),
    ("unsupported provider " : Text) ++ inSingleQuotes g.provider),
   ("generation.temperature", g.temperature.lt .zero || two.lt g.temperature,
    "must be between 0 and 2"),
   ("generation.maxTokens", g.maxTokens ≤ 0, "must be positive"),
   ("generation.timeoutSeconds", g.timeoutSeconds ≤ 0, "must be positive"),
   ("logging.level",
    !([("debug" : Text), ("info" : Text), ("warn" : Text), ("error" : Text)].contains
      s.logging.level),
    ("unknown level " : Text) ++ inSingleQuotes s.logging.level),
   ("logging.format", !([("human" : Text), ("json" : Text)].contains s.logging.format),
    ("unknown format " : Text) ++ inSingleQuotes s.logging.format),
   ("logging.maxBackups", s.logging.maxBackups < 0, "must not be negative")]

/-- Checks settings; the first rule that is broken is reported. -/
def validate (s : Settings) : Except Fault Unit :=
  match s.rules.find? fun rule => rule.2.1 with
  | some (field, _, message) => .error (.setting field message)
  | none => .ok ()

/-- The members of the log settings; a log file, a size and a number of backups that are not set are
left out. -/
def loggingMembers (l : LoggingSettings) : List (Text × Json) :=
  let text (name value : Text) : List (Text × Json) :=
    if value.isEmpty then [] else [(name, .string value)]
  let backups : List (Text × Json) :=
    if l.maxBackups == 0 then [] else [("maxBackups", .int l.maxBackups)]
  let always : List (Text × Json) := [("format", .string l.format), ("level", .string l.level)]
  always ++ text "file" l.file ++ text "maxSize" l.maxSize ++ backups

/-- The settings as JSON. -/
def toJson (s : Settings) : Json :=
  let g := s.generation
  .object
    [("version", .int s.version),
     ("scan", .object [("maxLines", .int s.scan.maxLines)]),
     ("generation", .object
       [("provider", .string g.provider), ("model", .string g.model),
        ("baseURL", .string g.baseUrl), ("temperature", .float g.temperature),
        ("maxTokens", .int g.maxTokens), ("apiKeyEnv", .string g.apiKeyEnv),
        ("promptsFile", .string g.promptsFile), ("timeoutSeconds", .int g.timeoutSeconds)]),
     ("logging", .object (loggingMembers s.logging))]

/-- The name of the settings file. -/
def fileName : Text := "config.json"

/-- The JSON form of the settings. A temperature that is no finite number has none. -/
def encoded (s : Settings) : Except Fault Json :=
  match s.generation.temperature with
  | .finite .. => .ok s.toJson
  | x => .error (.plain (("json: unsupported value: " : Text) ++ x.render .general))

/-- Saves the settings below a root. -/
def save (s : Settings) (fs : FileSystem) (root : Text) : FileSystem × Except Fault Unit :=
  let dir := Project.settingsDir root
  match fs.makeDirectories dir with
  | .error f => (fs, .error f)
  | .ok fs =>
    match s.encoded with
    | .error f => (fs, .error f)
    | .ok v =>
      match fs.writeFile (Path.join [dir, fileName]) (Json.indented .document v) with
      | .error f => (fs, .error f)
      | .ok fs => (fs, .ok ())

end Settings

end DocScribe
