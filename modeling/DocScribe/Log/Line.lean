import DocScribe.Log.Clock
import DocScribe.Log.Event

/-!
# Log lines

The line format: `TIME [level] message | key=value key=value`. A value is quoted when it is empty or
holds a space, a tab, a line feed, a quote or an equals sign, so a line can be split back into its
pairs. `LineScope` holds what is bound before a record comes: attributes, with the names of the
groups that were open when they were bound already in front of their keys, and the open groups.
-/

namespace DocScribe.Log

/-- The word for a level. -/
def levelWord (level : Level) : Text :=
  if level < Level.info then "debug"
  else if level < Level.warn then "info"
  else if level < Level.error then "warn"
  else "error"

/-- Whether a value must be quoted. -/
def needsQuotes (s : Text) : Bool :=
  s.isEmpty || s.any fun b => b == 0x20 || b == 0x09 || b == 0x0a || b == 0x22 || b == 0x3d

/-- The value, in quotes where it must be. -/
def quoteIfNeeded (s : Text) : Text :=
  if needsQuotes s then s.quoted else s

mutual

/-- A value of a pair. -/
def Value.text : Value → Text
  | .string s => quoteIfNeeded s
  | .int n => Number.signed n
  | .float x => x.render .general
  | .bool true => "true"
  | .bool false => "false"
  | .duration n => span n
  | .time seconds => timestamp seconds
  | .error message => quoteIfNeeded message
  | .kind n => quoteIfNeeded (Kind.label n)
  | .strings items => quoteIfNeeded (0x5b :: Text.join [0x20] items ++ [0x5d])
  | .nothing => "<nil>"
  | .group attrs => 0x7b :: Value.groupText attrs ++ [0x7d]

/-- The pairs of a group with spaces between them. -/
def Value.groupText : List (Text × Value) → Text
  | [] => []
  | [(key, value)] => key ++ 0x3d :: value.text
  | (key, value) :: attr :: attrs =>
    key ++ 0x3d :: value.text ++ 0x20 :: Value.groupText (attr :: attrs)

end

/-- A pair with the space before it. -/
def pairText (attr : Attr) : Text :=
  0x20 :: attr.1 ++ 0x3d :: attr.2.text

/-- The pairs of a line after its bar; those without a key are left out, and without a pair there is
no bar. -/
def pairsText (attrs : List Attr) : Text :=
  let named := attrs.filter fun a => !a.1.isEmpty
  if named.isEmpty then [] else (" |" : Text) ++ named.flatMap pairText

/-- A record with these attributes as a line. -/
def lineText (record : Record) (attrs : List Attr) : Text :=
  timestamp record.time ++ (" [" : Text) ++ levelWord record.level ++ ("] " : Text) ++
    record.message ++ pairsText attrs ++ [Text.lf]

/-- Bound attributes and open groups, oldest first. -/
structure LineScope where
  attrs : List Attr := []
  groups : List Text := []
deriving Inhabited

namespace LineScope

/-- The attribute with the names of the open groups before its key. -/
def resolve (scope : LineScope) (attr : Attr) : Attr :=
  if scope.groups.isEmpty then attr
  else (Text.join [0x2e] scope.groups ++ 0x2e :: attr.1, attr.2)

/-- Binds attributes. -/
def withAttrs (scope : LineScope) (attrs : List Attr) : LineScope :=
  { scope with attrs := scope.attrs ++ attrs.map scope.resolve }

/-- Opens a group; one without a name changes nothing. -/
def withGroup (scope : LineScope) (name : Text) : LineScope :=
  if name.isEmpty then scope else { scope with groups := scope.groups ++ [name] }

/-- The line of a record. -/
def write (scope : LineScope) (record : Record) : Text :=
  lineText record (scope.attrs ++ record.attrs.map scope.resolve)

end LineScope

end DocScribe.Log
