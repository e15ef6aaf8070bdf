import DocScribe.FileSystem.Basic
import DocScribe.Settings.Field
import DocScribe.Text.Case

/-!
# The library that settings are read with

A library gathers settings from a file, the environment and the defaults that are registered with
it. `Request` is what the program asks of it, `Gathered` what it answers. Which file it takes and
how it puts the three together is up to the library; the program has one of its own (`layered`).
-/

namespace DocScribe.Settings

/-- The environment: variables and their values. -/
abbrev Environment := List (Text × Text)

/-- What a library of settings is asked for. -/
structure Request where
  /-- The registered values of the keys. -/
  defaults : List (Text × Datum)
  /-- The directory of the settings file. -/
  directory : Text
  /-- The name of the settings file, without its ending. -/
  name : Text
  /-- The environment variable that overrides a key. -/
  variableOf : Text → Text

/-- What a library finds. -/
structure Gathered where
  /-- The settings file that was read, if there is one. -/
  path : Option Text
  /-- The keys that have a value, in any order. -/
  keys : List Text
  /-- The settings that the values make, or why they make none. -/
  settings : Except Text Settings

/-- A library of settings. It says what is wrong with a settings file that cannot be read. -/
abbrev Library := FileSystem → Environment → Request → Except Text Gathered

/-- The environment variable that overrides a key. -/
def variableName (key : Text) : Text :=
  ("RUSTAI_" : Text) ++ (Text.replaceAll "." "_" key).toUpper

/-- The defaults of all settings by key. -/
def registered : List (Text × Datum) :=
  fields.map fun f => (f.key, f.value {})

/-- What is asked for the settings below a root. -/
def request (root : Text) : Request where
  defaults := registered
  directory := Project.settingsDir root
  name := "config"
  variableOf := variableName

end DocScribe.Settings
