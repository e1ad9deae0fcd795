import ModScript.Config

/-!
# Arguments of the command line

Options stand before the command or behind it, each at most once, with their value attached or in the
next word; a value that begins with a dash has to be attached. Behind `--` all words are plain values.
A question for help or for the version is answered where it stands, so that only what stands before it
can be wrong; a value right before the command is looked at when the command has been read.
-/

namespace ModScript

/-- Which patch a script is made for. -/
inductive PatchChoice
  | byDefault
  | key (key : String)
  | binary (path : String)
deriving DecidableEq, Repr

/-- What the program is asked to do. -/
inductive Command
  | list
  | generate (id : String) (choice : PatchChoice) (output : Option String)
  | targets (id : String) (patch : Option String)
  | validate (game : Option String)
  | fingerprint (path : String)
deriving DecidableEq, Repr

/-- The commands by name. -/
inductive CommandName
  | list | generate | targets | validate | fingerprint
deriving DecidableEq, Repr

namespace CommandName

def all : List CommandName := [list, generate, targets, validate, fingerprint]

def text : CommandName → String
  | list => "list"
  | generate => "generate"
  | targets => "targets"
  | validate => "validate"
  | fingerprint => "fingerprint"

/-- The command of that name. -/
def ofText? (s : String) : Option CommandName := all.find? fun name => name.text == s

end CommandName

/-- What help can be asked for on: the program, a command, or asking for help. -/
inductive HelpTopic
  | program
  | command (name : CommandName)
  | help
deriving DecidableEq, Repr

/-- A command and the path of the configuration. -/
structure Arguments where
  config : String
  command : Command
deriving DecidableEq, Repr

namespace Arguments

/-- Why words are no arguments: they ask for help or for the version, or they are used wrongly. -/
inductive Refusal
  | help (topic : HelpTopic)
  | version
  | misuse
deriving DecidableEq, Repr

/-- A question that was answered is no failure. -/
def Refusal.exitCode : Refusal → UInt32
  | help _ => 0
  | version => 0
  | misuse => 2

/-- An option that takes a value, and what it is for. -/
structure OptionSpec where
  name : String
  isPath : Bool
  about : String
deriving DecidableEq, Repr

/-- The plain value of a command, and what it is for. -/
structure ValueSpec where
  name : String
  isPath : Bool
  about : String
deriving DecidableEq, Repr

/-- Whether a value will do; that of a path cannot be empty. -/
def acceptsValue (isPath : Bool) (value : String) : Bool := !(isPath && value.isEmpty)

/-- The letter of an option is the first of its name. -/
def OptionSpec.letter (spec : OptionSpec) : Option Char := spec.name.toList.head?

/-- What is read at one level: before the command, or behind it. -/
structure Level where
  topic : HelpTopic
  options : List OptionSpec
  value : Option ValueSpec
deriving DecidableEq, Repr

namespace Level

def beforeCommand (level : Level) : Bool := level.topic == .program

/-- Options before the command. -/
def program : Level :=
  ⟨.program, [⟨"config", true, "Config file; relative directories in it resolve against its location"⟩],
    none⟩

def patchOption : OptionSpec :=
  ⟨"patch", false, "Patch variant key; defaults to the game's default patch"⟩

def idValue : ValueSpec := ⟨"ID", false, "Mod id (`default` for mod.toml)"⟩

/-- Options and values behind a command. -/
def command (name : CommandName) : Level :=
  match name with
  | .list => ⟨.command name, [], none⟩
  | .generate =>
    ⟨.command name, [patchOption,
      ⟨"binary", true, "Detect the patch variant from this executable"⟩,
      ⟨"output", true, "Write the script here instead of stdout"⟩], some idValue⟩
  | .targets => ⟨.command name, [patchOption], some idValue⟩
  | .validate => ⟨.command name, [⟨"game", false, "Only check this game"⟩], none⟩
  | .fingerprint => ⟨.command name, [], some ⟨"PATH", true, ""⟩⟩

end Level

/-- What a word is taken for. -/
inductive Word
  | value
  | endOfOptions
  | question (about : Refusal)
  | option (spec : OptionSpec) (attached : Option String)
  | unknown
deriving DecidableEq, Repr

/-- A value that is attached with or without an equals sign. -/
def attachedValue : List Char → Option String
  | [] => none
  | '=' :: value => some (String.ofList value)
  | value => some (String.ofList value)

/-- A word that begins with two dashes. -/
def longWord (level : Level) (cs : List Char) : Word :=
  let (name, tail) := cs.span (· != '=')
  let name := String.ofList name
  let attached := attachedValue tail
  if name == "help" then if attached.isSome then .unknown else .question (.help level.topic)
  else if level.beforeCommand && name == "version" then
    if attached.isSome then .unknown else .question .version
  else
    match level.options.find? fun spec => spec.name == name with
    | some spec => .option spec attached
    | none => .unknown

/-- A word that begins with one dash. -/
def shortWord (level : Level) (letter : Char) (tail : List Char) : Word :=
  if letter = 'h' then .question (.help level.topic)
  else if level.beforeCommand && letter = 'V' then .question .version
  else
    match level.options.find? fun spec => spec.letter == some letter with
    | some spec => .option spec (attachedValue tail)
    | none => .unknown

/-- What a word is taken for at a level. -/
def word (level : Level) (s : String) : Word :=
  match s.toList with
  | ['-', '-'] => .endOfOptions
  | '-' :: '-' :: cs => longWord level cs
  | '-' :: letter :: tail => shortWord level letter tail
  | _ => .value

/-- What was given at a level: the values of options by name, and plain values. `waiting` is the value of
an option in a word of its own that has not been looked at yet. -/
structure Given where
  options : List (String × String)
  waiting : Option (OptionSpec × String)
  values : List String
deriving DecidableEq, Repr

namespace Given

def none : Given := ⟨[], .none, []⟩

/-- With an option, which must be new and have a value that it accepts. -/
def add (given : Given) (spec : OptionSpec) (value : String) : Except Refusal Given :=
  if (given.options.lookup spec.name).isSome || !acceptsValue spec.isPath value then .error .misuse
  else .ok { given with options := (spec.name, value) :: given.options }

/-- With the value that waits. -/
def settle (given : Given) : Except Refusal Given :=
  match given.waiting with
  | .none => .ok given
  | some (spec, value) => { given with waiting := .none }.add spec value

/-- With one more plain value, if the level has room for it. -/
def addValue (given : Given) (level : Level) (value : String) : Except Refusal Given :=
  match level.value with
  | .none => .error .misuse
  | some spec =>
    if given.values.isEmpty && acceptsValue spec.isPath value then
      .ok { given with values := [value] }
    else .error .misuse

def option? (given : Given) (name : String) : Option String := given.options.lookup name

end Given

/-- Reads the words of a level; before the command, it stops there and leaves the rest. -/
def readLevel (level : Level) (given : Given) (words : List String) :
    Except Refusal (Given × List String) :=
  match words with
  | [] => do return (← given.settle, [])
  | s :: rest =>
    match word level s with
    | .value =>
      if level.beforeCommand then .ok (given, s :: rest)
      else do
        let given ← given.settle
        readLevel level (← given.addValue level s) rest
    | .endOfOptions => do
      let given ← given.settle
      return (← rest.foldlM (fun given value => given.addValue level value) given, [])
    | .question refusal => do
      let _ ← given.settle
      throw refusal
    | .unknown => .error .misuse
    | .option spec (some value) => do
      let given ← given.settle
      readLevel level (← given.add spec value) rest
    | .option spec none =>
      match rest with
      | [] => .error .misuse
      | value :: later =>
        match word level value with
        | .value => do
          let given ← given.settle
          readLevel level { given with waiting := some (spec, value) } later
        | _ => .error .misuse
termination_by words.length

/-- A question for help on the program or on one command. -/
def helpRefusal : List String → Refusal
  | [] => .help .program
  | ["help"] => .help .help
  | [name] =>
    match CommandName.ofText? name with
    | some name => .help (.command name)
    | none => .misuse
  | _ => .misuse

/-- The patch that options choose; two ways at once are refused. -/
def choice : Option String → Option String → Except Refusal PatchChoice
  | none, none => .ok .byDefault
  | some key, none => .ok (.key key)
  | none, some path => .ok (.binary path)
  | some _, some _ => .error .misuse

/-- The only value of a level. -/
def onlyValue (given : Given) : Except Refusal String :=
  match given.values with
  | [value] => .ok value
  | _ => .error .misuse

/-- Reads the words behind the name of a command. -/
def readCommand (name : CommandName) (words : List String) : Except Refusal Command := do
  let (given, _) ← readLevel (.command name) .none words
  match name with
  | .list => return .list
  | .generate =>
    let choice ← choice (given.option? "patch") (given.option? "binary")
    return .generate (← onlyValue given) choice (given.option? "output")
  | .targets => return .targets (← onlyValue given) (given.option? "patch")
  | .validate => return .validate (given.option? "game")
  | .fingerprint => return .fingerprint (← onlyValue given)

/-- The arguments that words stand for. -/
def read (defaultConfig : String) (words : List String) : Except Refusal Arguments := do
  match ← readLevel .program .none words with
  | (_, []) => throw .misuse
  | (given, name :: rest) =>
    if name == "help" then throw (helpRefusal rest)
    match CommandName.ofText? name with
    | none => throw .misuse
    | some name =>
      let command ← readCommand name rest
      let given ← given.settle
      return { config := (given.option? "config").getD defaultConfig, command }

end Arguments

end ModScript
