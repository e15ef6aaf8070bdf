import DocScribe.Buffer.Insert
import DocScribe.Documentation.Comment
import DocScribe.Documentation.Prompt

/-!
# Documenting a construct

A documenter finds the construct at a cursor, renders its prompt, asks a generator for a text and
places the text above the declaration as a doc comment. Asking may be an action of any monad
(`documentIn`); where a generator is a plain function from prompts to replies the whole is a
function too (`document`). An attempt says what was asked (`Attempt.asked`), what came of it and how
the buffer is left: unchanged, unless a comment was placed.
-/

namespace DocScribe.Documentation

open Scan

/-- What a generator answers, and what it did on the way. -/
structure Reply where
  outcome : Except Fault Text
  events : List Log.Event := []

/-- A source of text for a prompt. -/
abbrev Generator := Text → Reply

/-- What is fixed for all constructs of a file. -/
structure Documenter where
  templates : Templates := .builtin
  crate : Text := []
  edition : Text := []
  limit : Limit := {}

/-- A comment that was placed. -/
structure Placed where
  target : Target
  prompt : Text
  comment : Text
  /-- The line that the comment starts on. -/
  insertedAt : Int
  /-- How many comment lines it replaced. -/
  removed : Nat
deriving Repr

/-- One attempt to document a construct. -/
structure Attempt where
  outcome : Except Fault Placed
  buffer : Buffer
  /-- The prompt that the generator was asked, if it was. -/
  asked : Option Text := none
  events : List Log.Event := []

namespace Documenter

/-- What the prompt for a target is rendered with. -/
def promptData (d : Documenter) (b : Buffer) (target : Target) : PromptData :=
  { body := b.textIn target.extent
    owner := (target.owner.map Owner.name).getD []
    crate := d.crate
    edition := d.edition }

/-- The construct at the cursor and its prompt. -/
def prompt (d : Documenter) (b : Buffer) (cursor : Position)
    (language : TemplateLanguage := templateLanguage) : Except Fault (Target × Text) :=
  match current b.lines d.limit cursor with
  | .error f => .error (.ofScan f)
  | .ok target =>
    (d.templates.render target.kind (d.promptData b target) language).map fun s => (target, s)

/-- The event that narrates the search for the construct. -/
def promptEvents (d : Documenter) (b : Buffer) (cursor : Position) : List Log.Event :=
  (currentEvent? b.lines d.limit cursor).toList

/-- A generator's fault, marked as a failed generation unless it says why already. -/
def generationFault (f : Fault) : Fault :=
  if f.hasMark .generationFailed || f.hasMark .notConfigured then f
  else .compound ": " [.marked .generationFailed, f]

/-- The event before the generator is asked. -/
def askedEvent (target : Target) : Log.Event :=
  .debug "Generating doc comment"
    [("kind", .ofKind target.kind), ("name", .string target.name),
     ("line", .int target.extent.anchor.line)]

/-- The event after a comment is placed. -/
def placedEvent (target : Target) (comment : Text) (removed : Nat) : Log.Event :=
  .info "Inserted doc comment"
    [("name", .string target.name), ("lines", .int (comment.countByte Text.lf)),
     ("replaced", .int removed)]

/-- Places a generated text above a target. -/
def place (b : Buffer) (target : Target) (prompt text : Text) :
    Except Fault (Placed × Buffer) :=
  let comment := formatComment target.indent text
  if comment.isEmpty then
    .error (.compound ": "
      [.marked .generationFailed, .plain "generator returned no comment text"])
  else
    let line := target.extent.anchor.line
    match b.insertComment line comment with
    | .error e => .error (.plain e.message)
    | .ok (removed, b) => .ok (⟨target, prompt, comment, line - removed, removed⟩, b)

/-- What comes of the reply to the prompt for a target, where `found` narrates how the target was
found. -/
def settle (found : List Log.Event) (b : Buffer) (target : Target) (prompt : Text)
    (reply : Reply) : Attempt :=
  let events := found ++ askedEvent target :: reply.events
  match reply.outcome with
  | .error f =>
    { outcome := .error (generationFault f), buffer := b, asked := some prompt, events }
  | .ok text =>
    match place b target prompt text with
    | .error f => { outcome := .error f, buffer := b, asked := some prompt, events }
    | .ok (placed, b) =>
      { outcome := .ok placed, buffer := b, asked := some prompt
        events := events ++ [placedEvent target placed.comment placed.removed] }

/-- Documents the construct at the cursor, where asking the generator is an action of `m`. -/
def documentIn {m : Type → Type} [Monad m] (d : Documenter) (generator : Option (Text → m Reply))
    (b : Buffer) (cursor : Position) (language : TemplateLanguage := templateLanguage) :
    m Attempt :=
  match generator with
  | none => pure { outcome := .error (.marked .notConfigured), buffer := b }
  | some generate =>
    let found := d.promptEvents b cursor
    match d.prompt b cursor language with
    | .error f => pure { outcome := .error f, buffer := b, events := found }
    | .ok (target, prompt) => do
      let reply ← generate prompt
      return settle found b target prompt reply

/-- Documents the construct at the cursor with a generator that is a function. -/
def document (d : Documenter) (generator : Option Generator) (b : Buffer) (cursor : Position)
    (language : TemplateLanguage := templateLanguage) : Attempt :=
  Id.run (d.documentIn (m := Id) generator b cursor language)

end Documenter

end DocScribe.Documentation
