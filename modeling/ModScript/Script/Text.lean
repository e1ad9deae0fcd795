import ModScript.Script.Basic
import ModScript.Script.Expression
import ModScript.Script.Support

/-!
# Text of scripts

A script is a sequence of blocks with an empty line between two of them; blocks without text are left
out. Every name from outside stands in a string literal, so no name can change the structure of the
script. Every callback stands in a `try` of its own. The last statement starts the script.
-/

namespace ModScript

/-- Lines of text, each but the last one followed by a line break. -/
def joinLines (lines : List String) : String := "\n".intercalate lines

/-- A list of names as data. -/
def namesJson (names : List String) : Json := .array (names.map .string)

/-- A call that reports an error text. -/
def reportLine (text : String) : String := "    error(" ++ Json.quote text ++ ");"

/-- How long a script waits before it looks again for a module, in milliseconds. -/
def modulePollInterval : Nat := 100

namespace Registration

/-- A function is registered on its own; the others go on if it fails. -/
def lines (registration : Registration) : List String :=
  let entry := registration.entry
  [r"    try {",
    "        game.registerFunction(" ++ Json.quote registration.module ++ ", " ++
      Json.quote registration.name ++ ", " ++ Json.quote entry.address.text ++ ", " ++
      Json.quote entry.returns.name ++ ", " ++ (NativeType.listJson entry.params).compact ++ ");",
    r"    } catch (e) { error(" ++ Json.quote ("Failed to register " ++ registration.name ++ ":") ++
      r", e.message); }"]

end Registration

/-! ## Hooks -/

namespace HookTarget

/-- The statement that names the address of the target. -/
def addressLine (target : HookTarget) : String :=
  "        const _hookAddr = __state.moduleBases[" ++ Json.quote target.module ++ "].add(" ++
    target.address.text ++ ");"

/-- Positions of the parameters. -/
def positions (target : HookTarget) : List Nat := List.range target.params.length

/-- The raw arguments as callbacks get them. -/
def presentedArguments (target : HookTarget) : List String :=
  target.params.mapIdx fun i type => type.presented ("args[" ++ toString i ++ "]")

/-- The raw return value as callbacks get it. -/
def presentedReturn (target : HookTarget) : String :=
  if target.returns.isVoid then "null" else target.returns.presented "retval"

end HookTarget

/-- Expressions behind a first argument. -/
def moreArguments (expressions : List String) : String :=
  "".intercalate (expressions.map fun expression => ", " ++ expression)

/-- The end of the `try` around one hook. -/
def hookEndLine (hook : String) : String :=
  r"    } catch (e) { error(" ++ Json.quote ("Hook " ++ hook ++ " install error:") ++
    r", e.stack); }"

/-- The end of the `try` around a callback that observes a hook. -/
def stageEndLine (hook stage : String) : String :=
  r"                } catch (e) { error(" ++
    Json.quote ("Hook " ++ hook ++ " " ++ stage ++ " error:") ++ r", e.stack); }"

/-- A hook that is replaced calls its callback with the arguments of the native function. -/
def replaceLines (hook : String) (target : HookTarget) (callback : Callback) : List String :=
  let names := target.positions.map fun i => "arg" ++ toString i
  let types := target.params.map fun type => "'" ++ type.name ++ "'"
  let fallback := if target.returns.isVoid then "undefined" else "ptr(0x0)"
  [r"    try {",
    target.addressLine,
    "        Interceptor.replace(_hookAddr, new NativeCallback(",
    "            function(" ++ ", ".intercalate names ++ r") {",
    r"                try {",
    "                    return (" ++ callback.expression ++ ").call(null" ++
      moreArguments names ++ ");",
    r"                } catch (e) { error(" ++
      Json.quote ("Hook " ++ hook ++ " replace error:") ++ ", e.stack); return " ++ fallback ++
      r"; }",
    r"            },",
    "            '" ++ target.returns.name ++ "', [" ++ ", ".intercalate types ++ "]",
    "        ));",
    "        __state.replacedFunctions.push(_hookAddr);",
    hookEndLine hook]

/-- The callback on enter; arguments that the callback on leave needs are kept first. -/
def enterLines (hook : String) (target : HookTarget) (enter : Option Callback) (keep : Bool) :
    List String :=
  let presented := target.presentedArguments
  let kept :=
    if keep then ["                this.__args = [" ++ ", ".intercalate presented ++ "];"] else []
  let called :=
    match enter with
    | some callback =>
      [r"                try {",
        "                    (" ++ callback.expression ++ ").call(this" ++
          moreArguments presented ++ ");",
        stageEndLine hook "onEnter"]
    | none => []
  if enter.isSome || keep then
    r"            onEnter: function(args) {" :: kept ++ called ++ [r"            },"]
  else []

/-- The callback on leave; its result replaces the return value, if there is one. -/
def leaveLines (hook : String) (target : HookTarget) : Option Callback → List String
  | some callback =>
    let kept := target.positions.map fun i => "this.__args[" ++ toString i ++ "]"
    [r"            onLeave: function(retval) {",
      r"                try {",
      "                    const _r = (" ++ callback.expression ++ ").call(this, " ++
        target.presentedReturn ++ moreArguments kept ++ ");"] ++
      (if target.returns.isVoid then []
        else ["                    if (_r !== undefined) retval.replace(ptr(_r));"]) ++
      [stageEndLine hook "onLeave", r"            },"]
  | none => []

/-- A hook that is observed. -/
def observeLines (hook : String) (target : HookTarget) (enter leave : Option Callback) :
    List String :=
  let keep := leave.isSome && !target.params.isEmpty
  [r"    try {",
    target.addressLine,
    r"        const _hook = Interceptor.attach(_hookAddr, {"] ++
    enterLines hook target enter keep ++ leaveLines hook target leave ++
    [r"        });",
      "        __state.attachedHooks.push(_hook);",
      hookEndLine hook]

def HookStep.lines : HookStep → List String
  | .notFound hook => [reportLine ("Hook not found in patch data: " ++ hook)]
  | .foreign hook module =>
    [reportLine ("Hook " ++ hook ++ ": module " ++ module ++ " is not a dependency of this mod")]
  | .install hook target (.replace callback) => replaceLines hook target callback
  | .install hook target (.observe enter leave) => observeLines hook target enter leave

/-! ## Loops, nops and receivers -/

namespace Loop

/-- The function of a loop. -/
def functionName (loop : Loop) : String := "_loop_" ++ loop.name

/-- A loop calls its handler while the active module is supported, and then sets its timer again. -/
def lines (loop : Loop) : List String :=
  [r"    {",
    "        const _idx = __state.loopTimers.length;",
    "        __state.loopTimers.push(null);",
    "        function " ++ loop.functionName ++ r"() {",
    r"            try {",
    "                const _module = game.module;",
    r"                if (game.isModuleSupported(_module)) {",
    "                    (" ++ loop.handler.expression ++ ")();",
    r"                }",
    r"            } catch (e) { error(" ++ Json.quote ("Loop " ++ loop.name ++ " error:") ++
      r", e.stack); }",
    "            __state.loopTimers[_idx] = setTimeout(" ++ loop.functionName ++ ", " ++
      toString loop.interval.milliseconds ++ ");",
    r"        }",
    "        " ++ loop.functionName ++ "();",
    r"    }"]

end Loop

def NopStep.lines : NopStep → List String
  | .foreign nop =>
    [reportLine ("Nop " ++ nop.place ++ ": module " ++ nop.module ++
      " is not a dependency of this mod")]
  | .delete nop =>
    [r"    try { game.deleteInstruction(" ++ Json.quote nop.module ++ ", " ++
      Json.quote nop.address.text ++ ", " ++ toString nop.size ++ r"); }",
      r"    catch (e) { error(" ++ Json.quote ("Nop " ++ nop.place ++ " error:") ++ r", e.stack); }"]

/-- The branch of the dispatcher for one command. -/
def receiverLines (name : String) (callback : Callback) : List String :=
  ["    if (msg.name === " ++ Json.quote name ++ r") {",
    r"        try { (" ++ callback.expression ++ r")(msg.data); } catch (e) { error(" ++
      Json.quote ("Receiver " ++ name ++ " error:") ++ r", e.stack); }",
    r"    }"]

/-- The statements that put one variable into the tables. -/
def PlacedVariable.lines (placed : PlacedVariable) : List String :=
  let table := "memoryAddresses[" ++ Json.quote placed.module ++ "]"
  ["if (!" ++ table ++ ") " ++ table ++ r" = { variables: {}, hooks: {} };",
    "if (!" ++ table ++ ".variables) " ++ table ++ r".variables = {};",
    table ++ ".variables[" ++ Json.quote placed.name ++ "] = " ++ placed.entry.toJson.compact ++ ";"]

/-! ## Blocks -/

namespace Script

/-- A function of the script. -/
def functionBlock (name : String) (body : List String) : String :=
  joinLines (("function " ++ name ++ r"() {") :: body ++ [r"}"])

/-- The executable, and the titles of the modules, as data. -/
def manifest (script : Script) : Json :=
  .object [("executable", .string script.executable),
    ("modules", Json.ofMap (script.titles.mapValues .string))]

def manifestBlock (script : Script) : String :=
  "const manifest = " ++ script.manifest.indented ++ ";\nconst _supportedModules = " ++
    (namesJson script.supported).compact ++ ";"

def constantLine (constant : String × Json) : String :=
  "const " ++ constant.1 ++ " = " ++ constantLiteral constant.2 ++ ";"

def constantsBlock (script : Script) : String := joinLines (script.constants.map constantLine)

/-- The tables as data. -/
def addresses (script : Script) : Json :=
  Json.ofMap (script.tables.mapValues ModuleTable.toJson)

def addressesBlock (script : Script) : String :=
  "const memoryAddresses = " ++ script.addresses.indented ++ ";"

def placedBlock (script : Script) : String :=
  joinLines (script.placed.flatMap PlacedVariable.lines)

/-- A wait until the game looks again. -/
def delayLine (indentation : String) : String :=
  indentation ++ "await game.delay(" ++ toString modulePollInterval ++ ");"

/-- The callback at the beginning waits for a supported module. -/
def initLines : Option Callback → List String
  | some callback =>
    ["",
      r"    while (!game.isModuleSupported(game.module)) {",
      delayLine "        ",
      r"    }",
      r"    try {",
      "        (" ++ callback.expression ++ ")();",
      r"    } catch (e) { error('Init error:', e.stack); }"]
  | none => []

/-- All bases are found before anything is installed; then the host is told. -/
def startBlock (script : Script) : String :=
  joinLines (
    [r"async function __init() {",
      "    const modulesToResolve = " ++ (namesJson script.dependencies).compact ++ ";",
      r"    for (const modName of modulesToResolve) {",
      "        let base = Module.findBaseAddress(modName);",
      r"        while (!base) {",
      delayLine "            ",
      "            base = Module.findBaseAddress(modName);",
      r"        }",
      "        __state.moduleBases[modName] = base;",
      r"    }",
      "",
      "    __registerFunctions();",
      "    __installHooks();",
      "    __installLoops();",
      "    __installNops();"] ++
    initLines script.init ++
    ["", r"    send({ event: '__ready' });", r"}"])

def registrationsBlock (script : Script) : String :=
  functionBlock "__registerFunctions" (script.registrations.flatMap Registration.lines)

def hooksBlock (script : Script) : String :=
  functionBlock "__installHooks" (script.hooks.flatMap HookStep.lines)

def loopsBlock (script : Script) : String :=
  functionBlock "__installLoops" (script.loops.flatMap Loop.lines)

def nopsBlock (script : Script) : String :=
  functionBlock "__installNops" (script.nops.flatMap NopStep.lines)

def exitBlock (script : Script) : String :=
  match script.exit with
  | some callback => functionBlock "__modExit" ["    (" ++ callback.expression ++ ")();"]
  | none => ""

/-- One dispatcher for all commands, which listens again before it looks at the name. -/
def receiversBlock (script : Script) : String :=
  if script.receivers.isEmpty then ""
  else
    joinLines (
      [r"recv('command', function _onCommand(msg) {",
        "    recv('command', _onCommand);"] ++
      (script.receivers.entries.flatMap fun entry => receiverLines entry.1 entry.2) ++
      [r"});"])

/-- The blocks of a script in their order. -/
def blocks (script : Script) : List String :=
  [Support.text, script.manifestBlock, script.constantsBlock, script.addressesBlock,
    script.placedBlock, script.startBlock, script.registrationsBlock, script.hooksBlock,
    script.loopsBlock, script.nopsBlock, script.exitBlock, script.receiversBlock, "__init();"]

/-- The text of a script. -/
def text (script : Script) : String :=
  "\n\n".intercalate (script.blocks.filter fun block => !block.isEmpty) ++ "\n"

end Script

/-- The text of the script of a mod for one patch of its game. -/
def Declaration.script (declaration : Declaration) (game : Game) (patch : Patch) : String :=
  (Script.ofMod declaration game patch).text

end ModScript
