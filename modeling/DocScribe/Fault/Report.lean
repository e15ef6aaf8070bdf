import DocScribe.Fault.Basic

/-!
# Reports

`Fault.toReport` gives every fault the form shown to the user. A report that is already in the tree
is kept. Otherwise the first mark of a fixed list that occurs anywhere in the tree decides the code,
and what is not recognised is an internal error.
-/

namespace DocScribe

namespace Code

/-- The fixes suggested for a code. -/
def fixes : Code → List Fix
  | .generatorNotConfigured =>
    [{ type := "set-env", command := "export OPENAI_API_KEY=...",
       description := "Set the API key variable named by generation.apiKeyEnv" },
     { type := "run-command", command := "rustai config show", safe := true,
       description := "Check the effective generation settings" }]
  | .scanLimitExceeded =>
    [{ type := "set-env", command := "export RUSTAI_SCAN_MAXLINES=0",
       description := "Raise or disable the per-scan line limit" }]
  | .configInvalid =>
    [{ type := "edit-config", command := ".rustai/config.json",
       description := "Fix the field named in the error" }]
  | .parserUnavailable =>
    [{ type := "run-command", command := "CGO_ENABLED=1 go install ./cmd/rustai", safe := true,
       description := "Rebuild with CGO to enable tree-sitter" }]
  | _ => []

end Code

namespace Fault

/-- A report with the fixes of its code. -/
def ofCode (code : Code) (message : Text) (cause : Option Fault) : Fault :=
  .report { code, message, fixes := code.fixes } cause

/-- The marks that decide a code, most important first, with the message of the report. -/
def markCodes : List (Mark × Code × Text) :=
  [(.scan .notFound, .constructNotFound, "no matching construct at the cursor"),
   (.scan .unresolvable, .ownerUnresolvable, "construct has no usable name"),
   (.scan .limitExceeded, .scanLimitExceeded, "scan stopped at the line limit"),
   (.notConfigured, .generatorNotConfigured, "doc comment generator is not configured"),
   (.generationFailed, .generationFailed, "doc comment generation failed"),
   (.noParser, .parserUnavailable, "tree-sitter is not available in this build")]

/-- The fault in the form shown to the user. -/
def toReport (f : Fault) : Fault :=
  match f.report? with
  | some found => found
  | none =>
    match markCodes.find? fun entry => f.hasMark entry.1 with
    | some (_, code, message) => ofCode code message (some f)
    | none =>
      match f.settingField? with
      | some field =>
        .report
          { code := .configInvalid, message := "invalid configuration"
            details := some (.object [("field", .string field)])
            fixes := Code.configInvalid.fixes }
          (some f)
      | none =>
        if f.isMissing then ofCode .fileNotFound "file not found" (some f)
        else ofCode .internalError "unexpected error" (some f)

/-- The notice and the cause of a report. -/
def notice? : Fault → Option (Notice × Option Fault)
  | .report notice cause => some (notice, cause)
  | _ => none

end Fault

end DocScribe
