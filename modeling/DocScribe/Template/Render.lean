import DocScribe.Template.Basic
import DocScribe.Text.Quoted

/-!
# Rendering a template

A template is rendered with a record of named texts. An empty text, zero, false and nothing count as
false. A field that the record does not have, a field of a text, and a function with arguments it
cannot take make rendering fail, but only when they are reached.
-/

namespace DocScribe.Template

/-- A value while rendering. -/
inductive Value where
  | record (fields : List (Text × Text))
  | string (s : Text)
  | number (n : Int)
  | bool (b : Bool)
deriving Repr, DecidableEq, Inhabited

namespace Value

/-- Whether a condition holds for the value. -/
def truth : Value → Bool
  | .record _ => true
  | .string s => !s.isEmpty
  | .number n => n != 0
  | .bool b => b

/-- The value as it is printed. -/
def text : Value → Text
  | .record fields => 0x7b :: Text.join [0x20] (fields.map (·.2)) ++ [0x7d]
  | .string s => s
  | .number n => Number.signed n
  | .bool true => "true"
  | .bool false => "false"

/-- The field of a field and so on, in order. -/
def fields? : Value → List Text → Option Value
  | v, [] => some v
  | .record fields, name :: names => (fields.lookup name).bind fun s => fields? (.string s) names
  | _, _ :: _ => none

/-- Whether two values are equal; none if they cannot be compared. -/
def equal? : Value → Value → Option Bool
  | .string s, .string t => some (s == t)
  | .number m, .number n => some (m == n)
  | .bool a, .bool b => some (a == b)
  | _, _ => none

/-- Whether the first value is below the second; none if they have no order. -/
def less? : Value → Value → Option Bool
  | .string s, .string t => some (Text.lt s t)
  | .number m, .number n => some (m < n)
  | _, _ => none

end Value

/-- The text of values printed one after the other, with a space between two that are no texts. -/
def printed : List Value → Text
  | [] => []
  | [v] => v.text
  | v :: w :: vs =>
    let gap : Text :=
      match v, w with
      | .string _, _ => []
      | _, .string _ => []
      | _, _ => [0x20]
    v.text ++ gap ++ printed (w :: vs)

/-- A value under a formatting letter; none for a letter that does not suit it. -/
def formatted? (letter : UInt8) (v : Value) : Option Text :=
  match v with
  | .string s =>
    if letter == 0x73 || letter == 0x76 then some s
    else if letter == 0x71 then some s.quoted
    else none
  | .number n => if letter == 0x64 || letter == 0x76 then some (Number.signed n) else none
  | .bool _ => if letter == 0x74 || letter == 0x76 then some v.text else none
  | .record _ => if letter == 0x73 || letter == 0x76 then some v.text else none

/-- A format with its values put in. -/
def format? : Text → List Value → Option Text
  | [], [] => some []
  | [], _ :: _ => none
  | 0x25 :: 0x25 :: s, vs => (format? s vs).map (0x25 :: ·)
  | 0x25 :: letter :: s, v :: vs =>
    match formatted? letter v with
    | some t => (format? s vs).map (t ++ ·)
    | none => none
  | 0x25 :: _, _ => none
  | b :: s, vs => (format? s vs).map (b :: ·)

/-- Whether the first value equals one of the others; none if one cannot be compared before that. -/
def equalsAny? (v : Value) : List Value → Option Bool
  | [] => some false
  | w :: ws =>
    match v.equal? w with
    | none => none
    | some true => some true
    | some false => equalsAny? v ws

/-- The value of a function that evaluates all its arguments. -/
def call? (name : Text) (args : List Value) : Option Value :=
  if name == ("print" : Text) then some (.string (printed args))
  else if name == ("println" : Text) then
    some (.string (Text.join [0x20] (args.map Value.text) ++ [Text.lf]))
  else if name == ("printf" : Text) then
    match args with
    | .string s :: vs => (format? s vs).map .string
    | _ => none
  else
    match args with
    | [v] =>
      if name == ("not" : Text) then some (.bool !v.truth)
      else if name == ("len" : Text) then
        match v with
        | .string s => some (.number s.length)
        | _ => none
      else none
    | v :: w :: more =>
      if name == ("eq" : Text) then (equalsAny? v (w :: more)).map .bool
      else if !more.isEmpty then none
      else if name == ("ne" : Text) then (v.equal? w).map fun b => .bool !b
      else if name == ("lt" : Text) then (v.less? w).map .bool
      else if name == ("ge" : Text) then (v.less? w).map fun b => .bool !b
      else if name == ("gt" : Text) then (w.less? v).map .bool
      else if name == ("le" : Text) then (w.less? v).map fun b => .bool !b
      else none
    | [] => none

mutual

/-- The value of an operand as an argument. -/
def operandValue? (fuel : Nat) (root dot : Value) (o : Operand) : Option Value :=
  match fuel with
  | 0 => none
  | fuel + 1 =>
    match o with
    | .dot => some dot
    | .field names => dot.fields? names
    | .root names => root.fields? names
    | .string s => some (.string s)
    | .number n => if n ≤ Number.maxInt then some (.number n) else none
    | .bool b => some (.bool b)
    | .nothing => none
    | .function name => commandValue? fuel root dot [.function name] none
    | .group commands names =>
      (pipelineValue? fuel root dot commands none).bind fun v => v.fields? names

/-- The values of operands in order. -/
def operandValues? (fuel : Nat) (root dot : Value) (os : List Operand) : Option (List Value) :=
  match fuel with
  | 0 => none
  | fuel + 1 =>
    match os with
    | [] => some []
    | o :: os =>
      match operandValue? fuel root dot o with
      | none => none
      | some v => (operandValues? fuel root dot os).map (v :: ·)

/-- The first operand whose truth is `stop`, or the last of them or `final`. -/
def decide? (fuel : Nat) (root dot : Value) (stop : Bool) (os : List Operand)
    (final : Option Value) : Option Value :=
  match fuel with
  | 0 => none
  | fuel + 1 =>
    match os with
    | [] => final
    | o :: os =>
      match operandValue? fuel root dot o with
      | none => none
      | some v =>
        if v.truth == stop || (os.isEmpty && final.isNone) then some v
        else decide? fuel root dot stop os final

/-- The value of a command, where `final` comes from the command before it. -/
def commandValue? (fuel : Nat) (root dot : Value) (command : Command) (final : Option Value) :
    Option Value :=
  match fuel with
  | 0 => none
  | fuel + 1 =>
    match command with
    | [] => none
    | .function name :: args =>
      if name == ("and" : Text) then decide? fuel root dot false args final
      else if name == ("or" : Text) then decide? fuel root dot true args final
      else
        (operandValues? fuel root dot args).bind fun vs => call? name (vs ++ final.toList)
    | o :: args =>
      if args.isEmpty && final.isNone then operandValue? fuel root dot o else none

/-- The value of a pipeline, where `final` comes from the command before it. -/
def pipelineValue? (fuel : Nat) (root dot : Value) (commands : Pipeline) (final : Option Value) :
    Option Value :=
  match fuel with
  | 0 => none
  | fuel + 1 =>
    match commands with
    | [] => final
    | command :: later =>
      match commandValue? fuel root dot command final with
      | some v => pipelineValue? fuel root dot later (some v)
      | none => none

end

/-- Steps that are enough to evaluate a template of the given length. -/
def enough (length : Nat) : Nat :=
  8 * length + 16

mutual

/-- The text of a part, none if it fails. -/
def partText? (fuel : Nat) (root dot : Value) : Part → Option Text
  | .literal s => some s
  | .action commands => (pipelineValue? fuel root dot commands none).map Value.text
  | .branch kind condition body otherwise =>
    match pipelineValue? fuel root dot condition none with
    | none => none
    | some v =>
      if v.truth then partsText? fuel root (if kind == .within then v else dot) body
      else partsText? fuel root dot otherwise

/-- The text of parts in order, none if one fails. -/
def partsText? (fuel : Nat) (root dot : Value) : List Part → Option Text
  | [] => some []
  | p :: ps =>
    match partText? fuel root dot p with
    | none => none
    | some s => (partsText? fuel root dot ps).map (s ++ ·)

end

/-- The text of a template with these parts for a record, none if rendering fails. `length` is how
long the template is. -/
def render? (length : Nat) (parts : List Part) (fields : List (Text × Text)) : Option Text :=
  partsText? (enough length) (.record fields) (.record fields) parts

end DocScribe.Template
