import ModScript.CommandLine.Arguments

/-!
# Usage

The texts that answer words which are no arguments. Help on the program, on a command or on asking for
help is laid out alike: what it does, how it is called, and tables of what stands in the call.
-/

namespace ModScript

def CommandName.about : CommandName → String
  | list => "List loadable mods and their target executables"
  | generate => "Synthesize the script of a mod"
  | targets => "Show where each hook of a mod would be installed"
  | validate => "Check address tables for inconsistencies between patch variants"
  | fingerprint => "Print the SHA-256 fingerprint of an executable"

namespace Arguments

def helpAbout : String := "Print this message or the help of the given subcommand(s)"

/-- A titled table: terms, and behind the widest of them what each is for. Without rows there is none. -/
def table (title : String) (rows : List (String × String)) : List String :=
  if rows.isEmpty then []
  else
    let width := rows.foldl (fun width row => max width row.1.length) 0
    ["", title] ++ rows.map fun (term, about) =>
      "  " ++ term ++ String.ofList (List.replicate (width - term.length) ' ') ++ "  " ++ about

/-- An option with its letter and the name of its value. -/
def OptionSpec.term (spec : OptionSpec) : String :=
  "-" ++ String.ofList spec.letter.toList ++ ", --" ++ spec.name ++ " <" ++ spec.name.toUpper ++ ">"

namespace Level

/-- The options of a level. The one before the command can come from the environment too, and it has a
value in any case. -/
def optionRows (environment : Option String) (level : Level) : List (String × String) :=
  let origin :=
    if level.beforeCommand then
      " [env: " ++ Config.environmentName ++ "=" ++ environment.getD "" ++ "] [default: "
        ++ Config.defaultPath ++ "]"
    else ""
  level.options.map (fun spec => (spec.term, spec.about ++ origin)) ++ [("-h, --help", "Print help")]
    ++ if level.beforeCommand then [("-V, --version", "Print version")] else []

/-- The plain value of a level. -/
def valueRows (level : Level) : List (String × String) :=
  level.value.toList.map fun spec => ("<" ++ spec.name ++ ">", spec.about)

/-- What may stand behind the name in a call. -/
def form (level : Level) : String :=
  (if level.options.isEmpty then "" else " [OPTIONS]")
    ++ String.join (level.valueRows.map fun row => " " ++ row.1)

end Level

def usageLine (call : String) : String := "Usage: modweave" ++ call

/-- The lines of help. -/
def helpLines (environment : Option String) : HelpTopic → List String
  | .program =>
    ["Generate instrumentation scripts from declarative game mods", "",
      usageLine (Level.program.form ++ " <COMMAND>")]
    ++ table "Commands:"
      (CommandName.all.map (fun name => (name.text, name.about)) ++ [("help", helpAbout)])
    ++ table "Options:" (Level.program.optionRows environment)
  | .command name =>
    let level := Level.command name
    [name.about, "", usageLine (" " ++ name.text ++ level.form)]
    ++ table "Arguments:" level.valueRows ++ table "Options:" (level.optionRows environment)
  | .help =>
    [helpAbout, "", usageLine " help [COMMAND]..."]
    ++ table "Arguments:" [("[COMMAND]...", "Print help for the subcommand(s)")]

/-- What goes into the output: the answer to a question. `environment` is the path of the configuration
that the environment names. -/
def Refusal.output (environment : Option String) : Refusal → String
  | help topic => String.join ((helpLines environment topic).map (· ++ "\n"))
  | version => "modweave 0.3.0\n"
  | misuse => ""

/-- What is told beside the output. -/
def Refusal.complaint : Refusal → String
  | help _ => ""
  | version => ""
  | misuse =>
    "error: the arguments are used wrongly\n\n" ++ usageLine (Level.program.form ++ " <COMMAND>")
      ++ "\n\nFor more information, try '--help'.\n"

end Arguments

end ModScript
