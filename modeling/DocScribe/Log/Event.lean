import DocScribe.Number.Shortest
import DocScribe.Source.Kind

/-!
# Log events

An event is a level, a message and named values. A record is an event at a time. What the program
does is narrated as a list of events; how they are written is decided by the sinks.
-/

namespace DocScribe.Log

/-- The severity of an event; larger is more severe. -/
abbrev Level := Int

namespace Level

/-- Details for the developer. -/
def debug : Level := -4
/-- Normal progress. -/
def info : Level := 0
/-- Something unexpected. -/
def warn : Level := 4
/-- A failure. -/
def error : Level := 8
/-- Above every standard level: a sink at this level writes nothing. -/
def silent : Level := 100

/-- The level that a word names, in any case; other words give `info`. -/
def ofText (s : Text) : Level :=
  let word := s.toLower
  if word == "debug" then debug
  else if word == "warn" || word == "warning" then warn
  else if word == "error" then error
  else info

/-- The level for a count of verbosity flags. -/
def ofVerbosity (verbosity : Int) (quiet : Bool) : Level :=
  if quiet then silent
  else if verbosity == 0 then warn
  else if verbosity == 1 then info
  else debug

end Level

/-- A value attached to an event. -/
inductive Value where
  | string (s : Text)
  | int (n : Int)
  | float (x : Number.Binary64)
  | bool (b : Bool)
  /-- A time span in nanoseconds. -/
  | duration (nanoseconds : Int)
  /-- A moment in seconds since 1970, in universal time. -/
  | time (seconds : Int)
  | error (message : Text)
  /-- The kind of a construct by its number. -/
  | kind (number : Int)
  | strings (items : List Text)
  | nothing
  | group (attrs : List (Text × Value))
deriving Repr, Inhabited

/-- A named value. -/
abbrev Attr := Text × Value

/-- The value that stands for a kind. -/
def Value.ofKind (k : Kind) : Value :=
  .kind k.number

/-- Whether a value is a group that holds nothing. -/
def Value.isEmptyGroup : Value → Bool
  | .group [] => true
  | _ => false

/-- The attributes without the groups that hold nothing. -/
def withoutEmptyGroups (attrs : List Attr) : List Attr :=
  attrs.filter fun a => !a.2.isEmptyGroup

/-- The group of these attributes. A group inside it that holds nothing is left out, so a group that
is built from the inside outwards holds none at any depth. -/
def Value.ofAttrs (attrs : List Attr) : Value :=
  .group (withoutEmptyGroups attrs)

/-- Something that happened. -/
structure Event where
  level : Level
  message : Text
  attrs : List Attr := []
deriving Repr, Inhabited

/-- A detail for the developer. -/
def Event.debug (message : Text) (attrs : List Attr) : Event :=
  ⟨Level.debug, message, attrs⟩

/-- Normal progress. -/
def Event.info (message : Text) (attrs : List Attr) : Event :=
  ⟨Level.info, message, attrs⟩

/-- An event and when it happened, in seconds since 1970. -/
structure Record extends Event where
  time : Int
deriving Repr, Inhabited

/-- The record of an event. A group that holds nothing says nothing, so the record does without. -/
def Record.ofEvent (event : Event) (time : Int) : Record :=
  ⟨{ event with attrs := withoutEmptyGroups event.attrs }, time⟩

end DocScribe.Log
