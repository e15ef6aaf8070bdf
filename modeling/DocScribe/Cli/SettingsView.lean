import DocScribe.Cli.Response
import DocScribe.Settings.Load

/-!
# Settings for display

Settings are shown as a list of dotted keys in alphabetical order, each with its value and its
default. A key is in the list if the JSON form of the settings has it. On request, only settings
that differ from their defaults are shown.
-/

namespace DocScribe.Cli

mutual

/-- The values without parts in a value that stands at `key`, with their keys. -/
def leavesAt (key : Text) : Json → List (Text × Tree)
  | .object members => leavesBelow (key ++ [0x2e]) members
  | .string s => [(key, .text s.repaired)]
  | v => [(key, .ofJson v)]

/-- The values without parts in members, whose names come after `start`. -/
def leavesBelow (start : Text) : List (Text × Json) → List (Text × Tree)
  | [] => []
  | (name, v) :: members => leavesAt (start ++ name) v ++ leavesBelow start members

end

/-- The settings by dotted key, in alphabetical order. -/
def flatSettings (s : Settings) : List (Text × Tree) :=
  Tree.sortEntries (leavesBelow [] s.toJson.members)

/-- A setting and its default. -/
def shownSetting (entry : Text × Tree) : ShownSetting :=
  { key := entry.1, value := entry.2
    default := .orNull ((flatSettings {}).lookup entry.1) }

/-- The settings to show: all, or those that differ from their defaults. -/
def shownSettings (s : Settings) (diff : Bool) : List ShownSetting :=
  ((flatSettings s).map shownSetting).filter fun shown => !(diff && shown.value.same shown.default)

/-- What is shown of loaded settings, if they have a JSON form. -/
def showSettings (l : Settings.Loaded) (diff : Bool) : Except Fault ShownSettings :=
  match l.settings.encoded with
  | .error f => .error f
  | .ok _ =>
    .ok {
      path := l.path
      usedDefaults := l.usedDefaults
      overrides := l.overrides
      settings := some (shownSettings l.settings diff) }

end DocScribe.Cli
