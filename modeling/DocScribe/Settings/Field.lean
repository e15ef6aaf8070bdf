import DocScribe.Settings.Basic

/-!
# Settings by key

Each setting has a key, made of the name of its section and its own, and a value that is a text, an
integer or a floating-point number. `fields` is the table of them, in the order in which they are
registered and saved.
-/

namespace DocScribe.Settings

/-- The value of one setting. -/
inductive Datum where
  | text (s : Text)
  | int (n : Int)
  | float (x : Number.Binary64)
deriving DecidableEq

/-- Whether a value is empty or zero. -/
def Datum.isEmpty : Datum → Bool
  | .text s => s.isEmpty
  | .int n => n == 0
  | .float x => !x.isNonzero

/-- The value as JSON. -/
def Datum.json : Datum → Json
  | .text s => .string s
  | .int n => .int n
  | .float x => .float x

/-- A setting: its names and its value. -/
structure Field where
  /-- The section of the setting, if it is in one. -/
  group : Option Text := none
  name : Text
  value : Settings → Datum
  /-- Whether the JSON form leaves the setting out when it is empty or zero. -/
  optional : Bool := false

/-- The names that lead to the setting. -/
def Field.path (f : Field) : List Text :=
  f.group.toList ++ [f.name]

/-- The key of the setting. -/
def Field.key (f : Field) : Text :=
  Text.join [0x2e] f.path

/-- The settings of the scanner. -/
def scanFields : List Field :=
  [{ group := some "scan", name := "maxLines", value := fun s => .int s.scan.maxLines }]

/-- The settings of the generator. -/
def generationFields : List Field :=
  let group : Option Text := some "generation"
  [{ group, name := "provider", value := fun s => .text s.generation.provider },
   { group, name := "model", value := fun s => .text s.generation.model },
   { group, name := "baseURL", value := fun s => .text s.generation.baseUrl },
   { group, name := "temperature", value := fun s => .float s.generation.temperature },
   { group, name := "maxTokens", value := fun s => .int s.generation.maxTokens },
   { group, name := "apiKeyEnv", value := fun s => .text s.generation.apiKeyEnv },
   { group, name := "promptsFile", value := fun s => .text s.generation.promptsFile },
   { group, name := "timeoutSeconds", value := fun s => .int s.generation.timeoutSeconds }]

/-- The settings of the log. -/
def loggingFields : List Field :=
  let group : Option Text := some "logging"
  [{ group, name := "format", value := fun s => .text s.logging.format },
   { group, name := "level", value := fun s => .text s.logging.level },
   { group, name := "file", value := fun s => .text s.logging.file, optional := true },
   { group, name := "maxSize", value := fun s => .text s.logging.maxSize, optional := true },
   { group, name := "maxBackups", value := fun s => .int s.logging.maxBackups, optional := true }]

/-- The settings in the order of the JSON form. -/
def fields : List Field :=
  { name := "version", value := fun s => .int s.version } ::
    (scanFields ++ generationFields ++ loggingFields)

end DocScribe.Settings
