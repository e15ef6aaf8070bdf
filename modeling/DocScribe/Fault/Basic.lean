import DocScribe.FileSystem.Problem
import DocScribe.Json.Basic
import DocScribe.Scan.Failure

/-!
# Faults

A fault is a tree: leaves say what went wrong, and a compound puts faults together under a common
text, as context before a cause (`Fault.wrap`) or as a list (`Fault.join`). A leaf can carry a mark
that callers look for anywhere in the tree (`hasMark`), whatever surrounds it. A report is a fault
in the form shown to the user, with a code, details and suggested fixes.
-/

namespace DocScribe

/-- What callers recognise a fault by. -/
inductive Mark where
  | scan (reason : Scan.Reason)
  | notConfigured
  | generationFailed
  | noParser
  | noManifest
  | file (problem : FileProblem)
deriving DecidableEq, Repr

/-- The wording of a mark. -/
def Mark.message : Mark → Text
  | .scan reason => reason.message
  | .notConfigured => "generator not configured"
  | .generationFailed => "generation failed"
  | .noParser => "symbol extraction requires CGO (tree-sitter)"
  | .noManifest => "no Cargo.toml found"
  | .file problem => problem.message

/-- The stable code of a report. -/
inductive Code where
  | constructNotFound
  | ownerUnresolvable
  | scanLimitExceeded
  | generationFailed
  | generatorNotConfigured
  | parserUnavailable
  | configInvalid
  | fileNotFound
  | invalidArgument
  | internalError
  | custom (name : Text)
deriving DecidableEq, Repr

namespace Code

/-- The codes with a meaning. -/
def standard : List Code :=
  [.constructNotFound, .ownerUnresolvable, .scanLimitExceeded, .generationFailed,
   .generatorNotConfigured, .parserUnavailable, .configInvalid, .fileNotFound, .invalidArgument,
   .internalError]

/-- The name of a code. -/
def name : Code → Text
  | .constructNotFound => "CONSTRUCT_NOT_FOUND"
  | .ownerUnresolvable => "OWNER_UNRESOLVABLE"
  | .scanLimitExceeded => "SCAN_LIMIT_EXCEEDED"
  | .generationFailed => "GENERATION_FAILED"
  | .generatorNotConfigured => "GENERATOR_NOT_CONFIGURED"
  | .parserUnavailable => "PARSER_UNAVAILABLE"
  | .configInvalid => "CONFIG_INVALID"
  | .fileNotFound => "FILE_NOT_FOUND"
  | .invalidArgument => "INVALID_ARGUMENT"
  | .internalError => "INTERNAL_ERROR"
  | .custom name => name

/-- The code with this name. -/
def ofName (name : Text) : Code :=
  (standard.find? fun c => c.name == name).getD (.custom name)

end Code

/-- A suggested way to mend a fault. -/
structure Fix where
  type : Text
  command : Text := []
  safe : Bool := false
  description : Text := []
deriving DecidableEq, Repr

/-- What a report tells the user, its cause apart. -/
structure Notice where
  code : Code
  message : Text
  details : Option Json := none
  fixes : List Fix := []
deriving Repr

/-- Something that went wrong. -/
inductive Fault where
  | plain (text : Text)
  | marked (mark : Mark)
  /-- A setting with a bad value. -/
  | setting (field message : Text)
  | report (notice : Notice) (cause : Option Fault)
  /-- Faults whose texts are joined by `separator`. -/
  | compound (separator : Text) (parts : List Fault)
deriving Repr

instance : Inhabited Fault := ⟨.plain []⟩

namespace Fault

mutual

/-- The text of a fault. -/
def message : Fault → Text
  | .plain text => text
  | .marked mark => mark.message
  | .setting field text =>
    ("config error in field '" : Text) ++ field ++ ("': " : Text) ++ text
  | .report notice none =>
    0x5b :: notice.code.name ++ ("] " : Text) ++ notice.message
  | .report notice (some cause) =>
    0x5b :: notice.code.name ++ ("] " : Text) ++ notice.message ++ (": " : Text) ++ message cause
  | .compound separator parts => messages separator parts

/-- The texts of faults with `separator` between them. -/
def messages (separator : Text) : List Fault → Text
  | [] => []
  | [f] => message f
  | f :: g :: fs => message f ++ separator ++ messages separator (g :: fs)

end

mutual

/-- The nodes of the tree, each before the ones below it, left to right. -/
def nodes : Fault → List Fault
  | .report notice none => [.report notice none]
  | .report notice (some cause) => .report notice (some cause) :: nodes cause
  | .compound separator parts => .compound separator parts :: allNodes parts
  | .plain text => [.plain text]
  | .marked mark => [.marked mark]
  | .setting field text => [.setting field text]

/-- The nodes of several trees, left to right. -/
def allNodes : List Fault → List Fault
  | [] => []
  | f :: fs => nodes f ++ allNodes fs

end

/-- The mark of a leaf. -/
def mark? : Fault → Option Mark
  | .marked mark => some mark
  | _ => none

/-- The marks anywhere in the tree. -/
def marks (f : Fault) : List Mark :=
  f.nodes.filterMap mark?

/-- Whether the mark is anywhere in the tree. -/
def hasMark (f : Fault) (mark : Mark) : Bool :=
  f.marks.contains mark

/-- Whether the fault comes from something that does not exist. -/
def isMissing (f : Fault) : Bool :=
  f.hasMark (.file .missing) || f.hasMark (.file .absent)

/-- The field of the first bad setting in the tree. -/
def settingField? (f : Fault) : Option Text :=
  f.nodes.findSome? fun
    | .setting field _ => some field
    | _ => none

/-- The first report in the tree. -/
def report? (f : Fault) : Option Fault :=
  f.nodes.find? fun
    | .report .. => true
    | _ => false

/-- A fault with context before it. -/
def wrap (context : Text) (cause : Fault) : Fault :=
  .compound ": " [.plain context, cause]

/-- Faults in order, one under the other. -/
def join (faults : List Fault) : Fault :=
  .compound [Text.lf] faults

/-- A refused file operation. -/
def file (operation path : Text) (problem : FileProblem) : Fault :=
  wrap (operation ++ 0x20 :: path) (.marked (.file problem))

/-- A failed scan. -/
def ofScan (failure : Scan.Failure) : Fault :=
  match failure.context? with
  | some context => wrap context (.marked (.scan failure.reason))
  | none => .marked (.scan failure.reason)

end Fault

end DocScribe
