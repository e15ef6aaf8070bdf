import DocScribe.Fault.Report
import DocScribe.Source.Document

/-!
# Locations

A location is a file and a cursor in it, written `file:line:column` with numbers counted from one.
The column may be left out. Numbers are read from the right, two at most, so a file name may hold
colons.
-/

namespace DocScribe.Cli

/-- A file and a cursor. -/
structure Location where
  path : Text
  cursor : Position
deriving DecidableEq, Repr

namespace Location

/-- The number that a part of a location is, if it is one. -/
def number? (part : Text) : Option Int :=
  match Number.readDecimal part with
  | .ok n => some n
  | .error _ => none

/-- At most `count` numbers at the head of `parts`, which are in reverse order and keep one part at
least, and the other parts. The numbers come in the order of the text. -/
def takeNumbers : (count : Nat) → (parts : List Text) → (numbers : List Int) → List Int × List Text
  | 0, parts, numbers => (numbers, parts)
  | count + 1, part :: next :: parts, numbers =>
    match number? part with
    | some n => takeNumbers count (next :: parts) (n :: numbers)
    | none => (numbers, part :: next :: parts)
  | _ + 1, parts, numbers => (numbers, parts)

/-- Why an argument is no location. -/
inductive Problem where
  | shape
  | notPositive
deriving DecidableEq, Repr

/-- The wording of a problem with an argument. -/
def Problem.message (p : Problem) (arg : Text) : Text :=
  ("invalid location " : Text) ++ arg.quoted ++
    match p with
    | .shape => (": want file:line[:column]" : Text)
    | .notPositive => (": line and column start at 1" : Text)

/-- The location that an argument writes. -/
def read (arg : Text) : Except Problem Location :=
  let (numbers, rest) := takeNumbers 2 (arg.splitOnByte 0x3a).reverse []
  let path := Text.join [0x3a] rest.reverse
  if path.isEmpty then .error .shape
  else
    match numbers with
    | [] => .error .shape
    | [line] => if line < 1 then .error .notPositive else .ok ⟨path, ⟨line - 1, 0⟩⟩
    | line :: column :: _ =>
      if line < 1 || column < 1 then .error .notPositive
      else .ok ⟨path, ⟨line - 1, column - 1⟩⟩

end Location

/-- A report of a bad argument. -/
def invalidArgument (cause : Fault) : Fault :=
  .ofCode .invalidArgument "invalid argument" (some cause)

/-- The location that an argument writes, or the report of a bad argument. -/
def parseLocation (arg : Text) : Except Fault Location :=
  match Location.read arg with
  | .ok l => .ok l
  | .error p => .error (invalidArgument (.plain (p.message arg)))

/-- A position counted from one. -/
def positionText (p : Position) : Text :=
  Number.signed (Number.wrap (p.line + 1)) ++ 0x3a :: Number.signed (Number.wrap (p.column + 1))

/-- The location as an argument. -/
def Location.text (l : Location) : Text :=
  l.path ++ 0x3a :: positionText l.cursor

end DocScribe.Cli
