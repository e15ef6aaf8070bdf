import DocScribe.Fault.Basic
import DocScribe.Log.Line
import DocScribe.Log.Structured

/-!
# Sinks

A sink writes the records at or above its level, as lines or as structured records. A tee is a list
of sinks: a record goes to each that is enabled for its level, and what is bound is bound in all.
-/

namespace DocScribe.Log

/-- What is bound in a sink, and so the format it writes. -/
inductive Scope where
  | line (scope : LineScope)
  | structured (scope : StructuredScope)
deriving Inhabited

/-- A format and the least level that is written. -/
structure Sink where
  level : Level := Level.info
  scope : Scope := .line {}
deriving Inhabited

namespace Sink

/-- The sink for a named format: structured for `json` in any case, else lines. -/
def ofFormat (format : Text) (level : Level) : Sink :=
  if Json.foldName format == "json" then ⟨level, .structured {}⟩ else ⟨level, .line {}⟩

/-- Whether records of a level are written. -/
def enabled (sink : Sink) (level : Level) : Bool :=
  sink.level ≤ level

/-- The text of a record, whatever its level. -/
def write (sink : Sink) (record : Record) : Text :=
  match sink.scope with
  | .line scope => scope.write record
  | .structured scope => scope.write record

/-- Binds attributes. -/
def withAttrs (sink : Sink) (attrs : List Attr) : Sink :=
  match sink.scope with
  | .line scope => { sink with scope := .line (scope.withAttrs attrs) }
  | .structured scope => { sink with scope := .structured (scope.withAttrs attrs) }

/-- Opens a group. -/
def withGroup (sink : Sink) (name : Text) : Sink :=
  match sink.scope with
  | .line scope => { sink with scope := .line (scope.withGroup name) }
  | .structured scope => { sink with scope := .structured (scope.withGroup name) }

/-- The text of a record if its level is enabled. -/
def writeEnabled? (sink : Sink) (record : Record) : Option Text :=
  if sink.enabled record.level then some (sink.write record) else none

end Sink

/-- Sinks that receive the same records. -/
abbrev Tee := List Sink

namespace Tee

/-- Whether some sink writes records of a level. -/
def enabled (tee : Tee) (level : Level) : Bool :=
  tee.any fun sink => sink.enabled level

/-- What each sink writes for a record. -/
def write (tee : Tee) (record : Record) : List (Option Text) :=
  tee.map fun sink => sink.writeEnabled? record

/-- The faults of the sinks that a record is written to, joined, where `refusals` says which outlets
refuse every write. -/
def fault? (tee : Tee) (refusals : List (Option Fault)) (record : Record) : Option Fault :=
  let reached := (tee.zip refusals).filter fun p => p.1.enabled record.level
  match reached.filterMap (·.2) with
  | [] => none
  | faults => some (.join faults)

/-- Binds attributes in every sink. -/
def withAttrs (tee : Tee) (attrs : List Attr) : Tee :=
  tee.map fun sink => sink.withAttrs attrs

/-- Opens a group in every sink. -/
def withGroup (tee : Tee) (name : Text) : Tee :=
  tee.map fun sink => sink.withGroup name

end Tee

/-- What a line sink writes for events that all happen at one time. -/
def narrate (level : Level) (time : Int) (events : List Event) : Text :=
  events.flatMap fun e => (Sink.writeEnabled? ⟨level, .line {}⟩ (.ofEvent e time)).getD []

end DocScribe.Log
