import DocScribe.Fault.Basic
import DocScribe.Template.Render
import DocScribe.Text.Blank

/-!
# Prompts

One template per construct that can be documented, and one for the role of the generator. A function
with an owner is a method. `Templates.render` gives the prompt for a construct, and `validate` finds
a template that is empty or malformed. What a template is and how it is rendered is up to a
`TemplateLanguage`; the program has one of its own (`templateLanguage`).
-/

namespace DocScribe.Documentation

/-- The templates of prompts. -/
structure Templates where
  system : Text
  function : Text
  method : Text
  struct : Text
  trait : Text
deriving DecidableEq, Repr

/-- What a prompt is rendered with. -/
structure PromptData where
  /-- The source of the construct. -/
  body : Text
  /-- The name of the impl block of a method. -/
  owner : Text := []
  crate : Text := []
  edition : Text := []
deriving DecidableEq, Repr

/-- A language of templates. It reads a text as the template of a name, or says what is wrong with
it, and a template that was read gives a text for the data, or says why it cannot. -/
abbrev TemplateLanguage :=
  (name template : Text) → Except Fault (PromptData → Except Fault Text)

/-- The data as a record of a template. -/
def PromptData.fields (data : PromptData) : List (Text × Text) :=
  [("Body", data.body), ("Owner", data.owner), ("Crate", data.crate), ("Edition", data.edition)]

/-- The language of templates that the program has. -/
def templateLanguage : TemplateLanguage := fun _ template =>
  match Template.parse? template with
  | none => .error (.plain "malformed template")
  | some parts =>
    .ok fun data =>
      match Template.render? template.length parts data.fields with
      | none => .error (.plain "template cannot be rendered")
      | some s => .ok s

/-- An action of a template. -/
def action (s : Text) : Text :=
  ("\x7b\x7b" : Text) ++ s ++ ("\x7d\x7d" : Text)

/-- The head of a built-in prompt: what is wanted, the crate if it is known, and the source. -/
def promptHead (want : Text) : Text :=
  ("Write a " : Text) ++ want ++ action "if .Crate" ++ (" from the " : Text) ++ action ".Crate" ++
    (" crate" : Text) ++ action "end" ++ (":\n\"" : Text) ++ action ".Body" ++ ("\"\n\n" : Text)

/-- What a built-in prompt asks of the comment of a function. -/
def functionTail : Text :=
  ("The doc comment should be written in markdown using three slashes on each line (like '///'), " :
      Text) ++
    ("contain a brief description of what the function does, list the arguments to the function,\n" :
      Text) ++
    ("the return value, and a minimal example of how to use the function without any 'using' " :
      Text) ++
    ("statements or\nnamespaces. Do not include any explanation or other non-commented code." : Text)

/-- What a built-in prompt asks of any comment of a type. -/
def typeTail : Text :=
  "The Rust doc comment should be written in markdown using three slashes on each line (like '///'),\n"

/-- The built-in templates. -/
def Templates.builtin : Templates where
  system := "You write concise, accurate Rust documentation comments."
  function := promptHead "doc comment for the following function" ++ functionTail
  method :=
    promptHead (("doc comment for the following method on the " : Text) ++ action ".Owner" ++
      (" object" : Text)) ++ functionTail
  struct :=
    promptHead "Rust doc comment for the following struct" ++ typeTail ++
      ("contain a brief description of what the struct does based on the properties in the struct " :
        Text) ++
      ("body,\nand a minimal example to demonstrate how to create an instance of the struct. The " :
        Text) ++
      ("example should\nassume that there is a 'new' function that can be used to create the " :
        Text) ++
      ("object." : Text)
  trait :=
    promptHead "Rust doc comment for the following trait" ++ typeTail ++
      ("contain a brief description of what the trait does based on the properties in the trait " :
        Text) ++
      ("body,\nand a minimal example to demonstrate how to use the trait. The example should " :
        Text) ++
      ("assume that there\nis an object called \"MyStruct\" that implements the trait and has a " :
        Text) ++
      ("'new' function used to create\nthe \"MyStruct\" object." : Text)

/-- The templates that are checked, by name. -/
def Templates.checked (t : Templates) : List (Text × Text) :=
  [("function", t.function), ("method", t.method), ("struct", t.struct), ("trait", t.trait)]

/-- A fault of the template of this name. -/
def inPrompt (name : Text) (f : Fault) : Fault :=
  .wrap (("prompt " : Text) ++ name.quoted) f

/-- What is wrong with a template. -/
def templateFault? (language : TemplateLanguage) (name template : Text) : Option Fault :=
  if template.isBlank then some (.plain (("prompt " : Text) ++ name.quoted ++ (" is empty" : Text)))
  else
    match language name template with
    | .error f => some (inPrompt name f)
    | .ok _ => none

/-- Checks that every template can be read. -/
def Templates.validate (t : Templates) (language : TemplateLanguage := templateLanguage) :
    Except Fault Unit :=
  match t.checked.findSome? fun entry => templateFault? language entry.1 entry.2 with
  | some f => .error f
  | none => .ok ()

/-- The name and the template for a construct. -/
def Templates.choose? (t : Templates) (kind : Option Kind) (data : PromptData) :
    Option (Text × Text) :=
  match kind with
  | some .function =>
    if data.owner.isEmpty then some ("function", t.function) else some ("method", t.method)
  | some .struct => some ("struct", t.struct)
  | some .trait => some ("trait", t.trait)
  | _ => none

/-- The prompt for a construct whose kind has this number. -/
def Templates.renderNumber (t : Templates) (number : Int) (data : PromptData)
    (language : TemplateLanguage := templateLanguage) : Except Fault Text :=
  match t.choose? (Kind.ofNumber? number) data with
  | none => .error (.plain (("no prompt for " : Text) ++ Kind.label number))
  | some (name, template) =>
    match language name template with
    | .error f => .error (inPrompt name f)
    | .ok render =>
      match render data with
      | .error f => .error (.wrap (("render prompt " : Text) ++ name.quoted) f)
      | .ok s => .ok s

/-- The prompt for a construct. -/
def Templates.render (t : Templates) (kind : Kind) (data : PromptData)
    (language : TemplateLanguage := templateLanguage) : Except Fault Text :=
  t.renderNumber kind.number data language

end DocScribe.Documentation
