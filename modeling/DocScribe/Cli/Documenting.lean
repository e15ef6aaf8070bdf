import DocScribe.Cli.Inspection
import DocScribe.Documentation.PromptFile
import DocScribe.Project.Manifest

/-!
# Documenting a location

The command that writes a doc comment for the construct at a location, or shows the prompt for it.
The templates come from the prompt file of the settings, the crate from the nearest manifest; a
manifest that cannot be read is told in the log and otherwise ignored.
-/

namespace DocScribe.Cli

open Documentation (Templates Documenter Placed)

/-- What the client of these settings is set up with. -/
def chatSettings (g : GenerationSettings) (environment : Settings.Environment)
    (model system : Text) : Chat.Settings :=
  { apiKey := g.apiKey environment
    model := if model.isEmpty then g.model else model
    baseUrl := g.baseUrl
    system
    temperature := some g.temperature
    maxTokens := g.maxTokens }

/-- The client that settings describe. -/
def chatClient (g : GenerationSettings) (environment : Settings.Environment)
    (model system : Text) : Except Fault Chat.Client :=
  (chatSettings g environment model system).client g.timeout

/-- A comment that was placed, for display. -/
def commentOf (p : Placed) : Comment :=
  { target := some p.target, prompt := p.prompt, text := p.comment, insertedAt := p.insertedAt
    removed := p.removed }

namespace Context

/-- The prompt file; a relative path is taken from the root. -/
def promptsPath (c : Context) : Text :=
  let path := c.settings.generation.promptsFile
  if path.isEmpty || Path.isAbsolute path then path else Path.join [c.root, path]

/-- The documenter for a source file. -/
def documenter (c : Context) (path : Text) (templates : Templates) : Action Documenter := do
  let plain : Documenter := { templates, limit := c.limit }
  match Project.Manifest.packageOf (← Action.files) path with
  | .ok package =>
    Action.log (.debug "Using crate metadata"
      [("crate", .string package.name), ("edition", .string package.edition)])
    return { plain with crate := package.name, edition := package.edition }
  | .error f =>
    if f.hasMark .noManifest then
      Action.log (.debug "No Cargo.toml above source file" [("path", .string path)])
    else
      Action.log ⟨Log.Level.warn, "Ignoring unreadable Cargo.toml", [("error", .error f.message)]⟩
    return plain

/-- Ends the command without a fault if there is just nothing to document. -/
def unlessNothing (c : Context) (loc : Location) (f : Fault) : Action Unit :=
  if f.hasMark (.scan .notFound) && !c.options.strict then
    Action.log (.info "Nothing to document" [("location", .string loc.text)])
  else throw f

/-- Shows the prompt for a construct. -/
def showPrompt (c : Context) (d : Documenter) (b : Buffer) (loc : Location) : Action Unit := do
  Action.logAll (d.promptEvents b loc.cursor)
  match d.prompt b loc.cursor with
  | .error f => c.unlessNothing loc f
  | .ok (target, prompt) =>
    c.respond (.prompted { file := ← c.display loc.path, target := some target, prompt })

/-- Shows a comment that was placed in a buffer, after the file is saved if that is asked for. -/
def showPlaced (c : Context) (b : Buffer) (loc : Location) (placed : Placed) : Action Unit := do
  if c.options.write then
    let _ ← Action.change fun fs =>
      match b.save fs with
      | (fs, .error f) => (fs, .error (.wrap (("save " : Text) ++ loc.path) f))
      | (fs, .ok b) => (fs, .ok b)
    Action.log (.info "Saved file" [("path", .string loc.path)])
  if c.options.stdout then Action.print b.text
  else
    c.respond (.documented
      { file := ← c.display loc.path, written := c.options.write
        comment := some (commentOf placed) })

/-- Writes a comment for a construct. -/
def writeComment (c : Context) (d : Documenter) (b : Buffer) (loc : Location) : Action Unit := do
  let g := c.settings.generation
  let client ← Action.ofExcept <|
    (chatClient g c.host.environment c.options.model d.templates.system).mapError fun f =>
      .wrap (g.provider ++ (" (set " : Text) ++ g.apiKeyEnv ++ (")" : Text)) f
  let chat := client.settings
  let attempt := d.document (some (chat.generator c.host.transport)) b loc.cursor
  Action.noteSent (attempt.asked.bind fun prompt => (chat.exchange c.host.transport prompt).sent)
  Action.logAll attempt.events
  match attempt.outcome with
  | .error f => c.unlessNothing loc f
  | .ok placed => c.showPlaced attempt.buffer loc placed

/-- Documents the construct at a location. -/
def doc (c : Context) (arg : Text) : Action Unit := do
  let (loc, b) ← loadLocation arg
  let templates ← Action.ofExcept (Templates.load (← Action.files) c.promptsPath)
  let d ← c.documenter loc.path templates
  if c.options.prompt then c.showPrompt d b loc else c.writeComment d b loc

end Context

end DocScribe.Cli
