import DocScribe.Fault.Basic
import DocScribe.Text.Quoted

/-!
# Flags

The flags of the command line and how they are read from arguments. A flag is written `--name value`
or `--name=value`, and some have a letter. A switch and a counter need no value, and their letters
can be written together. Flags and other arguments may come in any order; `--` ends the flags.
Reading stops at the first fault and keeps what was set before it (`Parsed.options`), because the
fault is reported in the format that was chosen so far.
-/

namespace DocScribe.Cli

/-- A flag. -/
inductive Flag where
  | verbose
  | quiet
  | logFile
  | format
  | root
  | help
  | version
  | text
  | all
  | kind
  | body
  | write
  | strict
  | prompt
  | stdout
  | model
  | diff
  | force
deriving DecidableEq, Repr

/-- What a flag takes. -/
inductive FlagType where
  | count
  | switch
  | word
deriving DecidableEq, Repr

namespace Flag

/-- The name of a flag. -/
def name : Flag → Text
  | .verbose => "verbose"
  | .quiet => "quiet"
  | .logFile => "log-file"
  | .format => "format"
  | .root => "root"
  | .help => "help"
  | .version => "version"
  | .text => "text"
  | .all => "all"
  | .kind => "kind"
  | .body => "body"
  | .write => "write"
  | .strict => "strict"
  | .prompt => "prompt"
  | .stdout => "stdout"
  | .model => "model"
  | .diff => "diff"
  | .force => "force"

/-- The letter of a flag. -/
def letter? : Flag → Option UInt8
  | .verbose => some 0x76
  | .quiet => some 0x71
  | .help => some 0x68
  | .write => some 0x77
  | _ => none

/-- What a flag takes. -/
def type : Flag → FlagType
  | .verbose => .count
  | .logFile | .format | .root | .text | .kind | .model => .word
  | _ => .switch

/-- The value of a flag that is written without one, if it may be. -/
def bareValue? (flag : Flag) : Option Text :=
  match flag.type with
  | .count => some "+1"
  | .switch => some "true"
  | .word => none

/-- The flag in a message. -/
def label (flag : Flag) : Text :=
  match flag.letter? with
  | some letter => 0x2d :: letter :: (", --" : Text) ++ flag.name
  | none => ("--" : Text) ++ flag.name

/-- The flag with this name. -/
def named? (flags : List Flag) (name : Text) : Option Flag :=
  flags.find? fun flag => flag.name == name

/-- The flag with this letter. -/
def lettered? (flags : List Flag) (letter : UInt8) : Option Flag :=
  flags.find? fun flag => flag.letter? == some letter

end Flag

/-- The values of all flags. -/
structure Options where
  verbosity : Int := 0
  quiet : Bool := false
  logFile : Text := []
  format : Text := "human"
  root : Text := []
  help : Bool := false
  version : Bool := false
  text : Text := []
  all : Bool := false
  kind : Text := "auto"
  body : Bool := false
  write : Bool := false
  strict : Bool := false
  prompt : Bool := false
  stdout : Bool := false
  model : Text := []
  diff : Bool := false
  force : Bool := false
deriving DecidableEq, Repr

/-- The truth value that a word names. -/
def readSwitch? (word : Text) : Option Bool :=
  let is (names : List Text) : Bool := names.contains word
  if is ["1", "t", "T", "true", "TRUE", "True"] then some true
  else if is ["0", "f", "F", "false", "FALSE", "False"] then some false
  else none

/-- Why a value is refused. -/
def refusal (reader value reason : Text) : Text :=
  ("strconv." : Text) ++ reader ++ (": parsing " : Text) ++ value.quoted ++ (": " : Text) ++ reason

namespace Options

/-- Sets a switch. -/
def setSwitch (o : Options) (flag : Flag) (on : Bool) : Options :=
  match flag with
  | .quiet => { o with quiet := on }
  | .help => { o with help := on }
  | .version => { o with version := on }
  | .all => { o with all := on }
  | .body => { o with body := on }
  | .write => { o with write := on }
  | .strict => { o with strict := on }
  | .prompt => { o with prompt := on }
  | .stdout => { o with stdout := on }
  | .diff => { o with diff := on }
  | .force => { o with force := on }
  | _ => o

/-- Sets a flag that takes a word. -/
def setWord (o : Options) (flag : Flag) (word : Text) : Options :=
  match flag with
  | .logFile => { o with logFile := word }
  | .format => { o with format := word }
  | .root => { o with root := word }
  | .text => { o with text := word }
  | .kind => { o with kind := word }
  | .model => { o with model := word }
  | _ => o

/-- Sets a flag to the value that a text writes, or says why it cannot be. -/
def set (o : Options) (flag : Flag) (value : Text) : Except Text Options :=
  match flag.type with
  | .word => .ok (o.setWord flag value)
  | .switch =>
    match readSwitch? value with
    | some on => .ok (o.setSwitch flag on)
    | none => .error (refusal "ParseBool" value "invalid syntax")
  | .count =>
    if value == ("+1" : Text) then .ok { o with verbosity := o.verbosity + 1 }
    else
      match Number.readLiteral value with
      | .ok n => .ok { o with verbosity := n }
      | .error e => .error (refusal "ParseInt" value e.message)

end Options

/-- Why arguments cannot be read. -/
inductive FlagProblem where
  | malformed (arg : Text)
  | unknown (name : Text)
  | unknownLetter (letter : UInt8) (letters : Text)
  | valueMissing (flag : Flag)
  | refused (flag : Flag) (value reason : Text)
deriving DecidableEq, Repr

/-- A character in single quotes. -/
def quotedLetter (letter : UInt8) : Text :=
  let inside : Text :=
    if letter == 0x27 then "\\'"
    else if letter == 0x22 then [0x22]
    else (Text.encode letter.toNat).glyphs.flatMap Text.quoteGlyph
  0x27 :: inside ++ [0x27]

/-- The wording of a problem. -/
def FlagProblem.message : FlagProblem → Text
  | .malformed arg => ("bad flag syntax: " : Text) ++ arg
  | .unknown name => ("unknown flag: --" : Text) ++ name
  | .unknownLetter letter letters =>
    ("unknown shorthand flag: " : Text) ++ quotedLetter letter ++ (" in -" : Text) ++ letters
  | .valueMissing flag => ("flag needs an argument: --" : Text) ++ flag.name
  | .refused flag value reason =>
    ("invalid argument " : Text) ++ value.quoted ++ (" for " : Text) ++ flag.label.quoted ++
      (" flag: " : Text) ++ reason

/-- What arguments say. -/
structure Parsed where
  options : Options
  /-- The arguments that are no flags. -/
  args : List Text := []
  problem : Option FlagProblem := none
deriving DecidableEq, Repr

namespace Flag

/-- Sets a flag, or tells the problem with its value. -/
def apply (flag : Flag) (value : Text) (o : Options) : Except FlagProblem Options :=
  match o.set flag value with
  | .ok o => .ok o
  | .error reason => .error (.refused flag value reason)

/-- Sets the flags of letters that are written together. A value may follow the last letter after an
equals sign. -/
def applyLetters (flags : List Flag) (o : Options) : (letters : Text) →
    Options × Option FlagProblem
  | [] => (o, none)
  | letter :: rest =>
    match lettered? flags letter with
    | none => (o, some (.unknownLetter letter (letter :: rest)))
    | some flag =>
      match rest with
      | 0x3d :: v :: value =>
        match flag.apply (v :: value) o with
        | .ok o => (o, none)
        | .error p => (o, some p)
      | _ =>
        match flag.apply (flag.bareValue?.getD []) o with
        | .ok o => applyLetters flags o rest
        | .error p => (o, some p)

/-- A flag that is written by its name, and the value after an equals sign. -/
def readName (flags : List Flag) (arg : Text) : Except FlagProblem (Flag × Option Text) :=
  let body : Text := arg.drop 2
  if body.head? == some 0x2d || body.head? == some 0x3d then .error (.malformed arg)
  else
    let (name, value) : Text × Option Text :=
      match Text.cut? "=" body with
      | some (name, value) => (name, some value)
      | none => (body, none)
    match named? flags name with
    | some flag => .ok (flag, value)
    | none => .error (.unknown name)

/-- Reads arguments on top of options that are already set. -/
def parse (flags : List Flag) (o : Options) : (args : List Text) → Parsed
  | [] => { options := o }
  | arg :: rest =>
    if arg.head? != some 0x2d || arg.length == 1 then
      let parsed := parse flags o rest
      { parsed with args := arg :: parsed.args }
    else if arg == ("--" : Text) then { options := o, args := rest }
    else if Text.startsWith arg "--" then
      match readName flags arg with
      | .error p => { options := o, problem := some p }
      | .ok (flag, value) =>
        match value.or flag.bareValue? with
        | some value =>
          match flag.apply value o with
          | .ok o => parse flags o rest
          | .error p => { options := o, problem := some p }
        | none =>
          match rest with
          | [] => { options := o, problem := some (.valueMissing flag) }
          | value :: rest =>
            match flag.apply value o with
            | .ok o => parse flags o rest
            | .error p => { options := o, problem := some p }
    else
      match applyLetters flags o (arg.drop 1) with
      | (o, none) => parse flags o rest
      | (o, some p) => { options := o, problem := some p }

end Flag

end DocScribe.Cli
