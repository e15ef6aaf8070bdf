import DocScribe.Json.Writer
import DocScribe.Log.Clock
import DocScribe.Log.Event

/-!
# Structured log records

A record as one JSON object on a line: time, level, message, then the attributes, with groups as
nested objects. A group that would hold nothing is left out. `StructuredScope` holds what is bound
before a record comes: the attributes outside any group, then each open group with the attributes
bound while it was the innermost.
-/

namespace DocScribe.Log

/-- The escapes of messages and string values. -/
def recordEscapes : Json.Escapes := ⟨false, false, true⟩

/-- The name of a level: a standard name and the distance from it. -/
def levelName (level : Level) : Text :=
  let named (name : Text) (base : Level) : Text :=
    if level == base then name
    else if level < base then name ++ Number.signed (level - base)
    else name ++ 0x2b :: Number.signed (level - base)
  if level < Level.info then named "DEBUG" Level.debug
  else if level < Level.warn then named "INFO" Level.info
  else if level < Level.error then named "WARN" Level.warn
  else named "ERROR" Level.error

/-- A member of an object. -/
def memberText (key value : Text) : Text :=
  Json.quote recordEscapes key ++ 0x3a :: value

/-- A moment as a string. Readers take a year to have four digits, so another year is announced by a
string before it. -/
def momentText (seconds : Int) : Text :=
  let year := (Date.ofDays (seconds.fdiv 86400)).year
  let warning : Text :=
    if 0 ≤ year && year < 10000 then []
    else Json.quote recordEscapes "!ERROR:time.Time year outside of range [0,9999]"
  warning ++ Json.quote recordEscapes (timestamp seconds)

mutual

/-- The members that an attribute gives rise to. A group without a key lends its attributes to the
object around it, and nothing without a key is left out. -/
def membersOf (key : Text) : Value → List Text
  | .string s => [memberText key (Json.quote recordEscapes s)]
  | .int n => [memberText key (Number.signed n)]
  | .float x => [memberText key (x.render Json.floatLayout)]
  | .bool true => [memberText key "true"]
  | .bool false => [memberText key "false"]
  | .duration n => [memberText key (Number.signed n)]
  | .time seconds => [memberText key (momentText seconds)]
  | .error message => [memberText key (Json.quote recordEscapes message)]
  | .kind n => [memberText key (Json.quote .plain (Kind.label n))]
  | .strings items =>
    [memberText key (0x5b :: Text.join [0x2c] (items.map (Json.quote .plain)) ++ [0x5d])]
  | .nothing => if key.isEmpty then [] else [memberText key "null"]
  | .group attrs =>
    let members := membersOfAll attrs
    if key.isEmpty || members.isEmpty then members
    else [memberText key (0x7b :: Text.join [0x2c] members ++ [0x7d])]

/-- The members that attributes give rise to, in order. -/
def membersOfAll : List (Text × Value) → List Text
  | [] => []
  | (key, value) :: attrs => membersOf key value ++ membersOfAll attrs

end

/-- The members of open groups, outermost first, where `attrs` come last in the innermost. -/
def groupMembers (attrs : List Attr) : List (Text × List Attr) → List Text
  | [] => []
  | [(name, bound)] =>
    let members := membersOfAll (bound ++ attrs)
    if members.isEmpty then [] else [memberText name (0x7b :: Text.join [0x2c] members ++ [0x7d])]
  | (name, bound) :: group :: groups =>
    let members := membersOfAll bound ++ groupMembers attrs (group :: groups)
    if members.isEmpty then [] else [memberText name (0x7b :: Text.join [0x2c] members ++ [0x7d])]

/-- Bound attributes outside any group, and the open groups, outermost first, each with its own. -/
structure StructuredScope where
  attrs : List Attr := []
  groups : List (Text × List Attr) := []
deriving Inhabited

namespace StructuredScope

/-- Binds attributes in the innermost open group. -/
def withAttrs (scope : StructuredScope) (attrs : List Attr) : StructuredScope :=
  match scope.groups.reverse with
  | [] => { scope with attrs := scope.attrs ++ attrs }
  | (name, bound) :: outer =>
    { scope with groups := ((name, bound ++ attrs) :: outer).reverse }

/-- Opens a group. -/
def withGroup (scope : StructuredScope) (name : Text) : StructuredScope :=
  { scope with groups := scope.groups ++ [(name, [])] }

/-- The moment that stands for no time at all, 1 January of year 1. -/
def noTime : Int := -62135596800

/-- The line of a record. -/
def write (scope : StructuredScope) (record : Record) : Text :=
  let time : List Text :=
    if record.time == noTime then [] else [memberText "time" (momentText record.time)]
  let head := time ++
    [memberText "level" (Json.quote recordEscapes (levelName record.level)),
     memberText "msg" (Json.quote recordEscapes record.message)]
  let body :=
    if scope.groups.isEmpty then membersOfAll (scope.attrs ++ record.attrs)
    else membersOfAll scope.attrs ++ groupMembers record.attrs scope.groups
  0x7b :: Text.join [0x2c] (head ++ body) ++ [0x7d, Text.lf]

end StructuredScope

end DocScribe.Log
