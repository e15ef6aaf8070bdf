import DocScribe.Text.Blank
import DocScribe.Text.Case
import DocScribe.Text.Quoted

/-!
# Kinds of constructs

The seven kinds a line of Rust source can declare, their numbers, their names and the words that
select them.
-/

namespace DocScribe

/-- The construct declared on a line. -/
inductive Kind where
  | unknown
  | macroRules
  | trait
  | struct
  | function
  | traitImpl
  | structImpl
deriving DecidableEq, Repr, Inhabited

namespace Kind

/-- Every kind, in the order of its number. -/
def all : List Kind :=
  [.unknown, .macroRules, .trait, .struct, .function, .traitImpl, .structImpl]

/-- The number of a kind. -/
def number : Kind → Nat
  | .unknown => 0
  | .macroRules => 1
  | .trait => 2
  | .struct => 3
  | .function => 4
  | .traitImpl => 5
  | .structImpl => 6

/-- The name of a kind. -/
def name : Kind → Text
  | .unknown => "Unknown"
  | .macroRules => "Macro"
  | .trait => "Trait"
  | .struct => "Struct"
  | .function => "Function"
  | .traitImpl => "TraitImpl"
  | .structImpl => "StructImpl"

/-- The kind with this number. -/
def ofNumber? (n : Int) : Option Kind :=
  all.find? fun k => (k.number : Int) == n

/-- The name of the kind with this number; a number of no kind is shown in brackets. -/
def label (n : Int) : Text :=
  match ofNumber? n with
  | some k => k.name
  | none => ("Kind(" : Text) ++ Number.signed n ++ (")" : Text)

/-- Whether the kind is an implementation block. -/
def isImpl : Kind → Bool
  | .structImpl => true
  | .traitImpl => true
  | _ => false

/-- The words that select a kind, in lower case. -/
def words : List (Text × Kind) :=
  [("unknown", .unknown), ("macro", .macroRules), ("macro_rules", .macroRules), ("trait", .trait),
   ("struct", .struct), ("function", .function), ("fn", .function), ("traitimpl", .traitImpl),
   ("trait-impl", .traitImpl), ("structimpl", .structImpl), ("struct-impl", .structImpl),
   ("impl", .structImpl)]

/-- The kind that a text selects: one of `words` in any case, with white space around it. -/
def parse? (s : Text) : Option Kind :=
  words.lookup s.trim.toLower

/-- What is said of a text that selects no kind. -/
def parseMessage (s : Text) : Text :=
  ("unknown construct kind: " : Text) ++ s.quoted

end Kind

end DocScribe
