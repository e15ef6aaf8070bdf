import DocScribe.Settings.Basic

/-!
# Patching settings

A JSON object laid over settings: the members that it has replace the values, `null` and unknown
members change nothing. Names match in any case.
-/

namespace DocScribe

/-- The last member whose name folds to this one, unless it is null. -/
def patchMember? (patch : Json) (name : Text) : Option Json :=
  (patch.members.reverse.find? fun m => Json.foldName m.1 == Json.foldName name && !m.2.isNull).map
    (·.2)

/-- The text of a member, or the old one. -/
def patchText (patch : Json) (name old : Text) : Text :=
  ((patchMember? patch name).bind Json.string?).getD old

/-- The integer of a member, or the old one. -/
def patchInt (patch : Json) (name : Text) (old : Int) : Int :=
  ((patchMember? patch name).bind Json.int?).getD old

/-- Settings with a patch laid over them. -/
def Settings.patched (s : Settings) (patch : Json) : Settings :=
  let scan := (patchMember? patch "scan").getD .null
  let generation := (patchMember? patch "generation").getD .null
  let logging := (patchMember? patch "logging").getD .null
  let g := s.generation
  let l := s.logging
  { version := patchInt patch "version" s.version
    scan := { maxLines := patchInt scan "maxLines" s.scan.maxLines }
    generation := {
      provider := patchText generation "provider" g.provider
      model := patchText generation "model" g.model
      baseUrl := patchText generation "baseURL" g.baseUrl
      temperature :=
        ((patchMember? generation "temperature").bind Json.float?).getD g.temperature
      maxTokens := patchInt generation "maxTokens" g.maxTokens
      apiKeyEnv := patchText generation "apiKeyEnv" g.apiKeyEnv
      promptsFile := patchText generation "promptsFile" g.promptsFile
      timeoutSeconds := patchInt generation "timeoutSeconds" g.timeoutSeconds }
    logging := {
      format := patchText logging "format" l.format
      level := patchText logging "level" l.level
      file := patchText logging "file" l.file
      maxSize := patchText logging "maxSize" l.maxSize
      maxBackups := patchInt logging "maxBackups" l.maxBackups } }

end DocScribe
