import DocScribe.Cli.Flag

/-!
# Commands

The commands of the program form a tree. `Command.find` walks it along the arguments that are no
flags; what is left over are the arguments of the command that is found. Each command has flags of
its own beside the common ones, and says how many arguments it takes.
-/

namespace DocScribe.Cli

/-- A command. -/
inductive Command where
  | top
  | check
  | classify
  | config
  | configEnv
  | configInit
  | configShow
  | doc
  | hierarchy
  | locate
  | owner
  | scope
  | version
deriving DecidableEq, Repr

namespace Command

/-- The name of a command. -/
def name : Command → Text
  | .top => "rustai"
  | .check => "check"
  | .classify => "classify"
  | .config => "config"
  | .configEnv => "env"
  | .configInit => "init"
  | .configShow => "show"
  | .doc => "doc"
  | .hierarchy => "hierarchy"
  | .locate => "locate"
  | .owner => "owner"
  | .scope => "scope"
  | .version => "version"

/-- The commands below a command. -/
def children : Command → List Command
  | .top => [.check, .classify, .config, .doc, .hierarchy, .locate, .owner, .scope, .version]
  | .config => [.configShow, .configEnv, .configInit]
  | _ => []

/-- The names from the top of the tree. -/
def path : Command → Text
  | .top => Command.top.name
  | .configEnv => "rustai config env"
  | .configInit => "rustai config init"
  | .configShow => "rustai config show"
  | command => Command.top.name ++ 0x20 :: command.name

/-- The flags of all commands. -/
def commonFlags : List Flag :=
  [.verbose, .quiet, .logFile, .format, .root]

/-- The flags of one command. -/
def ownFlags : Command → List Flag
  | .classify => [.text, .all]
  | .configInit => [.force]
  | .configShow => [.diff]
  | .doc => [.write, .strict, .prompt, .stdout, .model]
  | .locate => [.kind, .body]
  | _ => []

/-- The flags that are known while the command is looked for. -/
def searchFlags (command : Command) : List Flag :=
  command.ownFlags ++ commonFlags

/-- The flags that a command reads. -/
def flags (command : Command) : List Flag :=
  let version : List Flag := if command = .top then [.version] else []
  command.searchFlags ++ .help :: version

/-- Whether an argument is a flag whose value is the next argument. -/
def takesNext (flags : List Flag) (arg : Text) : Bool :=
  let needsValue (flag : Option Flag) : Bool := (flag.bind Flag.bareValue?).isNone
  if arg.contains 0x3d then false
  else if Text.startsWith arg "--" then needsValue (Flag.named? flags (arg.drop 2))
  else
    match arg with
    | [0x2d, letter] => needsValue (Flag.lettered? flags letter)
    | _ => false

/-- The arguments that are neither flags nor their values. -/
def words (flags : List Flag) : (args : List Text) → List Text
  | [] => []
  | arg :: rest =>
    if arg == ("--" : Text) then []
    else if takesNext flags arg then
      match rest with
      | _ :: next :: rest => words flags (next :: rest)
      | _ => []
    else if arg.isEmpty || arg.head? == some 0x2d then words flags rest
    else arg :: words flags rest

/-- The arguments without the first that is this word and no value of a flag. -/
def dropWord (flags : List Flag) (word : Text) : (args : List Text) → List Text
  | [] => []
  | arg :: rest =>
    if arg == ("--" : Text) then arg :: rest
    else if takesNext flags arg then
      match rest with
      | value :: rest => arg :: value :: dropWord flags word rest
      | [] => [arg]
    else if arg == word then rest
    else arg :: dropWord flags word rest

/-- The command one step below, if the next word names one, and the arguments without that word. -/
def descend (command : Command) (args : List Text) : Command × List Text :=
  match words command.searchFlags args with
  | [] => (command, args)
  | word :: _ =>
    match command.children.find? fun child => child.name == word with
    | some child => (child, dropWord command.searchFlags word args)
    | none => (command, args)

/-- The wording for a word that is no command. -/
def unknownCommand (command : Command) (word : Text) : Text :=
  ("unknown command " : Text) ++ word.quoted ++ (" for " : Text) ++ command.path.quoted

/-- The command that arguments name, and its own arguments. The tree is two steps deep. -/
def find (args : List Text) : Except Fault (Command × List Text) :=
  let (command, rest) := descend .top args
  let (command, rest) := command.descend rest
  match command, words command.searchFlags rest with
  | .top, word :: _ => .error (.plain (unknownCommand .top word))
  | _, _ => .ok (command, rest)

/-- How many arguments a command takes. -/
inductive Arity where
  | none
  | one
  | some
deriving DecidableEq, Repr

/-- How many arguments a command takes; a line to classify may be given by a flag. -/
def arity (command : Command) (o : Options) : Arity :=
  match command with
  | .check => .some
  | .classify => if o.text.isEmpty then .one else .none
  | .doc | .hierarchy | .locate | .owner | .scope => .one
  | _ => .none

/-- What is wrong with the number of arguments. -/
def arityFault? (command : Command) (o : Options) (args : List Text) : Option Fault :=
  match command.arity o, args with
  | .none, [] => Option.none
  | .none, word :: _ => Option.some (.plain (command.unknownCommand word))
  | .one, [_] => Option.none
  | .one, args =>
    Option.some (.plain (("accepts 1 arg(s), received " : Text) ++ Number.decimal args.length))
  | .some, [] => Option.some (.plain "requires at least 1 arg(s), only received 0")
  | .some, _ :: _ => Option.none

/-- Whether a command does something of its own. -/
def runnable : Command → Bool
  | .top | .config => false
  | _ => true

end Command

end DocScribe.Cli
