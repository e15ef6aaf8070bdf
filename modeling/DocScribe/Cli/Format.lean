import DocScribe.Cli.Human
import DocScribe.Json.Writer
import DocScribe.Yaml.Writer

/-!
# Output formats

A response is shown as words for people, as JSON or as YAML, without the line feed at its end.
-/

namespace DocScribe.Cli

/-- An output format. -/
inductive Format where
  | human
  | json
  | yaml
deriving DecidableEq, Repr

/-- The format that a word names, in any case. -/
def Format.read? (word : Text) : Option Format :=
  let name := word.toLower
  if name == ("human" : Text) then some .human
  else if name == ("json" : Text) then some .json
  else if name == ("yaml" : Text) then some .yaml
  else none

/-- The wording for a word that names no format. -/
def unsupportedFormat (word : Text) : Text :=
  ("unsupported format: " : Text) ++ word ++ (" (want human, json or yaml)" : Text)

/-- The format that a word names, or the fault of a word that names none. -/
def Format.read (word : Text) : Except Fault Format :=
  match Format.read? word with
  | some f => .ok f
  | none => .error (.plain (unsupportedFormat word))

namespace Response

/-- The response as JSON. -/
def json (r : Response) : Text :=
  Json.indented .document r.tree.toJson

/-- The words for people; a value without words is shown as JSON. -/
def human : Response → Text
  | .classified r => r.human
  | .located r => r.human
  | .owned r => r.human
  | .lineage r => r.human
  | .scoped r => r.human
  | .documented r => r.human
  | .prompted r => line [r.prompt]
  | .checked r => (r.files.getD []).flatMap CheckedFile.human
  | .settings r => r.human
  | .variables names => variablesHuman (names.getD [])
  | .version r => r.human
  | .report notice cause => reportHuman notice cause
  | .other value =>
    ("Human format not available for this response:\n" : Text) ++ json (.other value) ++ [Text.lf]

/-- The response in a format. -/
def text (r : Response) : Format → Text
  | .human => Text.trimEndOf [Text.lf] r.human
  | .json => r.json
  | .yaml => Yaml.document r.tree

/-- The response in the format that a word names. -/
def format (r : Response) (word : Text) : Except Fault Text :=
  (Format.read word).map r.text

end Response

end DocScribe.Cli
