import DocScribe.Json.Reader
import DocScribe.Settings.Layer

/-!
# Settings from layers

The library that the program has. It reads the first settings file that there is, puts the
environment before it and the defaults behind it, and reads the settings from all three as one
object. References to variables in the path of the file are replaced by their values first. Values
are read loosely: a number may be written as a text or be a Boolean, a text may be a number or a
Boolean. A setting that no layer has is zero or empty.
-/

namespace DocScribe.Settings

/-! ## Values -/

/-- A value read as an integer; a fraction is cut off, and an empty text is zero. -/
def looseInt? : Json → Option Int
  | .number literal =>
    match Number.Binary64.read literal with
    | .ok x => some x.truncate
    | .error _ => none
  | .bool b => some (if b then 1 else 0)
  | .string s =>
    if s.isEmpty then some 0
    else
      match Number.readLiteral s with
      | .ok n => some n
      | .error _ => none
  | _ => none

/-- A value read as a floating-point number; an empty text is zero. -/
def looseFloat? : Json → Option Number.Binary64
  | .bool b => some (.ofInt (if b then 1 else 0))
  | .string s =>
    if s.isEmpty then some .zero
    else
      match Number.Binary64.read s with
      | .ok x => some x
      | .error _ => none
  | v => v.float?

/-- A value read as a text; a number is written out in full. -/
def looseText? : Json → Option Text
  | .string s => some s
  | .bool b => some (if b then "1" else "0")
  | v => v.float?.map Number.Binary64.renderPositional

/-- The member with this name, else one whose name folds to the same. -/
def field? (v : Json) (name : Text) : Option Json :=
  match v.member? name with
  | some found => some found
  | none => (v.members.find? fun m => Json.foldName m.1 == Json.foldName name).map (·.2)

/-- Reads a field; one that is missing has the value `zero`. -/
def readField {α : Type} (read? : Json → Option α) (zero : α) (v : Json) (name : Text) : Option α :=
  match field? v name with
  | none => some zero
  | some found => read? found

/-- An object of settings, empty if it is missing. -/
def section? (v : Json) (name : Text) : Option Json :=
  match field? v name with
  | none => some (.object [])
  | some (.object members) => some (.object members)
  | some _ => none

/-- The settings that an object holds. -/
def read? (v : Json) : Option Settings := do
  let int (v : Json) (name : Text) := readField looseInt? 0 v name
  let text (v : Json) (name : Text) := readField looseText? [] v name
  let scan ← section? v "scan"
  let generation ← section? v "generation"
  let logging ← section? v "logging"
  return {
    version := ← int v "version"
    scan := { maxLines := ← int scan "maxLines" }
    generation := {
      provider := ← text generation "provider"
      model := ← text generation "model"
      baseUrl := ← text generation "baseURL"
      temperature := ← readField looseFloat? .zero generation "temperature"
      maxTokens := ← int generation "maxTokens"
      apiKeyEnv := ← text generation "apiKeyEnv"
      promptsFile := ← text generation "promptsFile"
      timeoutSeconds := ← int generation "timeoutSeconds" }
    logging := {
      format := ← text logging "format"
      level := ← text logging "level"
      file := ← text logging "file"
      maxSize := ← text logging "maxSize"
      maxBackups := ← int logging "maxBackups" } }

/-! ## References to variables -/

/-- The characters that name a variable alone. -/
def isParameter (b : UInt8) : Bool :=
  ("*#$@!?-0123456789" : Text).contains b

/-- The name that stands after a dollar sign, and how many bytes it takes. A brace that is not
closed and a pair of braces with nothing inside are taken too. -/
def referenceAt : Text → Text × Nat
  | 0x7b :: s =>
    let name := s.takeWhile (· != 0x7d)
    if name.length == s.length then ([], 1) else (name, name.length + 2)
  | b :: s =>
    if isParameter b then ([b], 1)
    else
      let name := (b :: s).takeWhile Text.isWordByte
      (name, name.length)
  | [] => ([], 0)

/-- The names of the variables that a text refers to, after `skip` bytes of it. -/
def references : (skip : Nat) → Text → List Text
  | _, [] => []
  | skip + 1, _ :: s => references skip s
  | 0, b :: s =>
    if b == 0x24 then
      let (name, width) := referenceAt s
      if name.isEmpty then references width s else name :: references width s
    else references 0 s

/-- A text with the variables that it refers to replaced by their values, after `skip` bytes of it.
A dollar sign that nothing follows stays. -/
def Environment.expandAfter (env : Environment) : (skip : Nat) → Text → Text
  | _, [] => []
  | skip + 1, _ :: s => env.expandAfter skip s
  | 0, b :: s =>
    if b == 0x24 then
      let (name, width) := referenceAt s
      if !name.isEmpty then (env.lookup name).getD [] ++ env.expandAfter width s
      else if width == 0 then b :: env.expandAfter 0 s
      else env.expandAfter width s
    else b :: env.expandAfter 0 s

/-- A text with the variables that it refers to replaced by their values. -/
def Environment.expand (env : Environment) (s : Text) : Text :=
  env.expandAfter 0 s

/-! ## The settings file -/

/-- The endings of names that the settings file may have, in the order in which they are tried; the
content is the same format under every name. -/
def fileEndings : List Text :=
  [".json", ".toml", ".yaml", ".yml", ".properties", ".props", ".prop", ".hcl", ".tfvars",
   ".dotenv", ".env", ".ini", ""]

/-- The names of the settings file, as absolute paths in the order of `fileEndings`. -/
def filePaths (fs : FileSystem) (env : Environment) (r : Request) : List Text :=
  let dir := Path.absolute fs.workingPath (env.expand r.directory)
  fileEndings.map fun ending => Path.join [dir, r.name ++ ending]

/-- The settings file: the first of its names that is a file. -/
def filePath? (fs : FileSystem) (env : Environment) (r : Request) : Option Text :=
  (filePaths fs env r).find? fun path =>
    match fs.stat path with
    | .ok (.file _) => true
    | _ => false

mutual

/-- Whether every number of a value can be read. -/
def numbersFit : Json → Bool
  | .number literal =>
    match Number.Binary64.read literal with
    | .ok _ => true
    | .error _ => false
  | .array items => itemsFit items
  | .object members => membersFit members
  | _ => true

/-- Whether every number of some items can be read. -/
def itemsFit : List Json → Bool
  | [] => true
  | v :: vs => numbersFit v && itemsFit vs

/-- Whether every number of some members can be read. -/
def membersFit : List (Text × Json) → Bool
  | [] => true
  | (_, v) :: ms => numbersFit v && membersFit ms

end

/-- The object that a settings file holds; `null` counts as an empty one. -/
def readFile? (content : Text) : Option Json :=
  match Json.read? content with
  | some (.object members) =>
    if membersFit members then some (lowered (.object members)) else none
  | some .null => some (.object [])
  | _ => none

/-- The layers over the object of a settings file. -/
def layersOf (env : Environment) (r : Request) (file : Json) : Layers where
  override? := fun key => env.nonempty? (r.variableOf key)
  file := file
  defaults := Layers.ofDefaults r.defaults

/-- What layers give. -/
def Layers.gathered (l : Layers) (path : Option Text) : Gathered where
  path := path
  keys := l.keys
  settings :=
    match read? l.merged with
    | some s => .ok s
    | none => .error "a setting has the wrong type"

/-- Settings from the environment, the settings file and the defaults, each before the next. -/
def layered : Library := fun fs env r =>
  match filePath? fs env r with
  | none => .ok ((layersOf env r (.object [])).gathered none)
  | some path =>
    match fs.readFile path with
    | .error f => .error f.message
    | .ok content =>
      match readFile? content with
      | none => .error "the file cannot be read"
      | some file => .ok ((layersOf env r file).gathered (some path))

end DocScribe.Settings
