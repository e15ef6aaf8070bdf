import DocScribe.Template.Token

/-!
# Templates

The structure of a template: literals, actions that print the value of a pipeline, and branches on
one. A pipeline hands the value of each command to the next as its last argument. `parse?` reads a
template; it refuses unknown functions, unbalanced branches and empty pipelines. Of the template
languages this is a small one, without variables, loops and named templates; numbers are integers.
-/

namespace DocScribe.Template

/-- A value that an action names. A `value` with `fields` is the field of a field and so on. -/
inductive Operand where
  | dot
  | field (names : List Text)
  /-- The data of the whole template, and fields of it. -/
  | root (names : List Text)
  | string (s : Text)
  | number (n : Int)
  | bool (b : Bool)
  | nothing
  | function (name : Text)
  /-- A pipeline in brackets, and fields of its value. -/
  | group (commands : List (List Operand)) (names : List Text)
deriving Repr, Inhabited

/-- A function or value with arguments. -/
abbrev Command := List Operand

/-- Commands that each take the value of the one before. -/
abbrev Pipeline := List Command

/-- Which branch is taken, and what the dot is in it. -/
inductive Branch where
  | when
  | within
deriving DecidableEq, Repr

/-- The word that starts a branch; after `else` it starts another branch of the same kind. -/
def Branch.word : Branch → Text
  | .when => "if"
  | .within => "with"

/-- A part of a template. -/
inductive Part where
  | literal (s : Text)
  | action (pipeline : Pipeline)
  | branch (kind : Branch) (condition : Pipeline) (body otherwise : List Part)
deriving Repr, Inhabited

/-- The functions that a template may call. -/
def functionNames : List Text :=
  ["and", "or", "not", "eq", "ne", "lt", "le", "gt", "ge", "len", "print", "println", "printf"]

/-- The fields that follow an operand. -/
def takeFields : List Token → List Text × List Token
  | .field name :: ts =>
    let (names, rest) := takeFields ts
    (name :: names, rest)
  | ts => ([], ts)

/-- The tokens without spaces at their start. -/
def skipSpaces : List Token → List Token
  | .space :: ts => skipSpaces ts
  | ts => ts

/-- Whether a later command of a pipeline may start with the operand. -/
def isCallable : Operand → Bool
  | .dot => false
  | .string _ => false
  | .number _ => false
  | .bool _ => false
  | .nothing => false
  | _ => true

/-- Whether every command but the first can take a value. -/
def acceptsValues : Pipeline → Bool
  | [] => false
  | _ :: later => later.all fun command => (command.head?.map isCallable).getD false

mutual

/-- An operand at the head of the tokens. -/
def operand? (fuel : Nat) (ts : List Token) : Option (Operand × List Token) :=
  match fuel with
  | 0 => none
  | fuel + 1 =>
    let literal (o : Operand) (ts : List Token) : Option (Operand × List Token) :=
      match ts with
      | .field _ :: _ => none
      | _ => some (o, ts)
    match ts with
    | .dot :: ts => literal .dot ts
    | .string s :: ts => literal (.string s) ts
    | .number n :: ts => literal (.number n) ts
    | .field name :: ts =>
      let (names, ts) := takeFields ts
      some (.field (name :: names), ts)
    | .dollar [] :: ts =>
      let (names, ts) := takeFields ts
      some (.root names, ts)
    | .word name :: ts =>
      if name == ("true" : Text) then literal (.bool true) ts
      else if name == ("false" : Text) then literal (.bool false) ts
      else if name == ("nil" : Text) then literal .nothing ts
      else if functionNames.contains name then
        match ts with
        | .field _ :: _ => none
        | _ => some (.function name, ts)
      else none
    | .opening :: ts =>
      match pipeline? fuel ts with
      | some (commands, .closing :: ts) =>
        let (names, ts) := takeFields ts
        some (.group commands names, ts)
      | _ => none
    | _ => none

/-- A command at the head of the tokens, up to a bar, a closing bracket or the end. -/
def command? (fuel : Nat) (ts : List Token) : Option (Command × List Token) :=
  match fuel with
  | 0 => none
  | fuel + 1 =>
    match operand? fuel (skipSpaces ts) with
    | none => none
    | some (o, ts) =>
      match ts with
      | .space :: rest =>
        match skipSpaces rest with
        | [] => some ([o], [])
        | .bar :: rest => some ([o], .bar :: rest)
        | .closing :: rest => some ([o], .closing :: rest)
        | rest => (command? fuel rest).map fun p => (o :: p.1, p.2)
      | [] => some ([o], [])
      | .bar :: rest => some ([o], .bar :: rest)
      | .closing :: rest => some ([o], .closing :: rest)
      | _ => none

/-- The commands of a pipeline, up to a closing bracket or the end. -/
def commands? (fuel : Nat) (ts : List Token) : Option (Pipeline × List Token) :=
  match fuel with
  | 0 => none
  | fuel + 1 =>
    match command? fuel ts with
    | none => none
    | some (command, .bar :: rest) =>
      match skipSpaces rest with
      | [] => some ([command], [])
      | .closing :: rest => some ([command], .closing :: rest)
      | rest => (commands? fuel rest).map fun p => (command :: p.1, p.2)
    | some (command, rest) => some ([command], rest)

/-- A pipeline up to a closing bracket or the end. -/
def pipeline? (fuel : Nat) (ts : List Token) : Option (Pipeline × List Token) :=
  match fuel with
  | 0 => none
  | fuel + 1 =>
    match commands? fuel (skipSpaces ts) with
    | some (commands, rest) => if acceptsValues commands then some (commands, rest) else none
    | none => none

end

/-- The pipeline that tokens make up. -/
def wholePipeline? (ts : List Token) : Option Pipeline :=
  match pipeline? (6 * ts.length + 6) ts with
  | some (commands, []) => some commands
  | _ => none

/-- The parts up to the `end` or `else` that closes them: which one it was, with the tokens after
its word, and the segments that follow. At the end of the template nothing closes them. -/
structure Parts where
  parts : List Part
  closedBy : Option (Bool × List Token)
  rest : List Segment

mutual

/-- The parts at the head of the segments. -/
def parts? (fuel : Nat) (segments : List Segment) : Option Parts :=
  match fuel with
  | 0 => none
  | fuel + 1 =>
    let before (p : Part) (ps : Parts) : Parts := { ps with parts := p :: ps.parts }
    match segments with
    | [] => some ⟨[], none, []⟩
    | .literal s :: rest => (parts? fuel rest).map (before (.literal s))
    | .action ts :: rest =>
      match skipSpaces ts with
      | .word name :: ts =>
        if name == ("end" : Text) then
          if (skipSpaces ts).isEmpty then some ⟨[], some (false, []), rest⟩ else none
        else if name == ("else" : Text) then some ⟨[], some (true, skipSpaces ts), rest⟩
        else if name == Branch.when.word then
          match branch? fuel .when ts rest with
          | some (part, rest) => (parts? fuel rest).map (before part)
          | none => none
        else if name == Branch.within.word then
          match branch? fuel .within ts rest with
          | some (part, rest) => (parts? fuel rest).map (before part)
          | none => none
        else
          match wholePipeline? (.word name :: ts) with
          | some commands => (parts? fuel rest).map (before (.action commands))
          | none => none
      | ts =>
        match wholePipeline? ts with
        | some commands => (parts? fuel rest).map (before (.action commands))
        | none => none

/-- A branch whose condition is `ts`, and the segments after its end. -/
def branch? (fuel : Nat) (kind : Branch) (ts : List Token) (segments : List Segment) :
    Option (Part × List Segment) :=
  match fuel with
  | 0 => none
  | fuel + 1 =>
    match wholePipeline? ts with
    | none => none
    | some condition =>
      match parts? fuel segments with
      | some ⟨body, some (false, _), rest⟩ => some (.branch kind condition body [], rest)
      | some ⟨body, some (true, []), rest⟩ =>
        match parts? fuel rest with
        | some ⟨otherwise, some (false, _), rest⟩ =>
          some (.branch kind condition body otherwise, rest)
        | _ => none
      | some ⟨body, some (true, .word name :: ts), rest⟩ =>
        if name == kind.word then
          (branch? fuel kind ts rest).map fun p => (.branch kind condition body [p.1], p.2)
        else none
      | _ => none

end

/-- The parts of a template, none if it is malformed. -/
def parse? (s : Text) : Option (List Part) :=
  match segments? s with
  | none => none
  | some segments =>
    match parts? (2 * segments.length + 2) segments with
    | some ⟨parts, none, _⟩ => some parts
    | _ => none

end DocScribe.Template
