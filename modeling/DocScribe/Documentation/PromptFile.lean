import DocScribe.Documentation.Prompt
import DocScribe.FileSystem.Basic
import DocScribe.Toml.Reader
import DocScribe.Toml.Table

/-!
# Prompt files

A prompt file replaces built-in templates: its keys are names of templates, in any case, and its
values are strings. `Templates.load` reads one. What the file does not name stays built in, and a
key that is no template's name is a fault that lists all such keys.
-/

namespace DocScribe.Documentation

/-- How prompt files are written. -/
def promptDialect : Toml.Dialect :=
  { relaxed := true
    marked := true
    sixQuotes := true
    secondLimit := 60
    offsetHourLimit := 25
    offsetMinuteLimit := 61 }

/-- The templates with one of them replaced, unless no template has this name. -/
def Templates.set? (t : Templates) (name template : Text) : Option Templates :=
  let folded := Json.foldName name
  if folded == ("system" : Text) then some { t with system := template }
  else if folded == ("function" : Text) then some { t with function := template }
  else if folded == ("method" : Text) then some { t with method := template }
  else if folded == ("struct" : Text) then some { t with struct := template }
  else if folded == ("trait" : Text) then some { t with trait := template }
  else none

/-- Whether a key is the name of a template. -/
def isTemplateKey : Toml.Key → Bool
  | [name] => (Templates.builtin.set? name []).isSome
  | _ => false

/-- The templates with those that a table names replaced, unless one of them is no string. -/
def Templates.override? (t : Templates) : Toml.Members → Option Templates
  | [] => some t
  | (name, entry) :: members =>
    match entry, isTemplateKey [name] with
    | .scalar (.string s), _ => ((t.set? name s).getD t).override? members
    | _, true => none
    | _, false => t.override? members

/-- The templates of a prompt file with this content, or nothing if it is no such file, and the keys
that name no template. -/
def Templates.parse? (content : Text) : Option (Templates × List Toml.Key) := do
  let document := Toml.read promptDialect content
  if document.problem.isSome then none
  if !(Toml.literals document.statements).all (Toml.isLiteral promptDialect) then none
  let templates ← Templates.builtin.override? (← Toml.build? document.statements)
  return (templates, (Toml.keys document.statements).filter fun key => !isTemplateKey key)

/-- The templates of the prompt file at a path, or the built-in ones if the path is empty. -/
def Templates.load (fs : FileSystem) (path : Text)
    (language : TemplateLanguage := templateLanguage) : Except Fault Templates :=
  if path.isEmpty then .ok .builtin
  else
    match fs.readFile path with
    | .error f => .error (.wrap "read prompts file" f)
    | .ok content =>
      match Templates.parse? content with
      | none => .error (.wrap "parse prompts file" (.plain "malformed file"))
      | some (templates, []) => (templates.validate language).map fun _ => templates
      | some (_, unknown) =>
        .error (.plain (("prompts file " : Text) ++ path ++ (": unknown keys: " : Text) ++
          Text.join ", " (unknown.map Toml.writeKey)))

end DocScribe.Documentation
