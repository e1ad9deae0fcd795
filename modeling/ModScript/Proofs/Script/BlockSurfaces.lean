import ModScript.Proofs.Script.Surface

/-!
# Surfaces of blocks

A script is put together from blocks, and the surface of each of them is known. It has nothing of what the block was
made for, apart from the names and the numbers of constants: all other names and data, and every source that is
called back, stand in literals and inside brackets.

Results:
1. `shown_state`, `shown_typeTable`, `shown_functions`: the support text.
2. `shown_manifest`, `shown_addresses`, `shown_placedLine`: blocks of data.
3. `shown_functionBlock`, `Script.Fits.shown_startBlock`, `Script.Fits.shown_receiversBlock`: blocks of functions.
-/

namespace ModScript

variable {sources : List String}

/-- Every script that is called back is one of the sources, and whatever becomes a binding of the script
is an identifier. -/
structure Script.Fits (sources : List String) (script : Script) : Prop where
  constants : ∀ constant ∈ script.constants, isIdentifier constant.1 = true
  init : ∀ callback, script.init = some callback → callback.Within sources
  hooks : ∀ step ∈ script.hooks, ∀ callback ∈ step.callbacks, callback.Within sources
  loopNames : ∀ loop ∈ script.loops, isIdentifier loop.name = true
  loops : ∀ loop ∈ script.loops, loop.handler.Within sources
  exit : ∀ callback, script.exit = some callback → callback.Within sources
  receivers : ∀ entry ∈ script.receivers.entries, entry.2.Within sources

/-! ## The support text -/

theorem keeps_accessor (kind : VariableType) :
    Keeps sources (Support.accessorExpression ((Support.accessors? kind).map Prod.fst)) ∧
      Keeps sources (Support.accessorExpression ((Support.accessors? kind).map Prod.snd)) := by
  have quoted {name : String} {chars : List Char} (spelled : name = String.ofList chars)
      (reads : ∀ awaited,
        Lexer.read ⟨.literal .single, awaited⟩ chars = some ⟨.literal .single, awaited⟩) :
      Keeps sources ("'" ++ name ++ "'") :=
    fun awaited => spelled ▸ (passes_own rfl |>.own (reads awaited) |>.own rfl)
  cases kind
  case block => exact ⟨fun _ => passes_own rfl, fun _ => passes_own rfl⟩
  all_goals exact ⟨quoted rfl fun _ => rfl, quoted rfl fun _ => rfl⟩

theorem keeps_width (kind : VariableType) : Keeps sources (Support.widthExpression kind) := by
  unfold Support.widthExpression
  split
  · exact fun _ => passes_own rfl
  · exact keeps_toString _

theorem passes_kindName (kind : VariableType) (awaited : List Bracket) :
    Passes sources ⟨.literal .single, awaited⟩ kind.name ⟨.literal .single, awaited⟩ := by
  cases kind <;> (simp only [VariableType.name]; exact passes_own rfl)

theorem keepsLines_typeLine (kind : VariableType) : KeepsLines sources [Support.typeLine kind] := fun _ =>
  .cons (passes_own rfl |>.append (passes_kindName kind _) |>.own rfl |>.put (keeps_accessor kind).1
    |>.own rfl |>.put (keeps_accessor kind).2 |>.own rfl |>.put (keeps_width kind) |>.own rfl) (.nil _)

set_option maxRecDepth 10000 in
theorem shown_state : Shown sources Support.state "\x27\x27;\n\nconst __state = \x7b\x7d;" := by
  refine shown_own ?_
  decide +kernel

theorem shown_typeTable : Shown sources Support.typeTable "const TYPE_MAP = \x7b\x7d;" := by
  have lines : KeepsLines sources (VariableType.all.map Support.typeLine) := by
    rw [List.map_eq_flatMap]
    exact keepsLines_flatMap fun kind _ => keepsLines_typeLine kind
  exact shown_body ⟨rfl, rfl, List.cons_ne_nil _ _, rfl⟩ lines

/-- The surface of the functions that scripts call. -/
def Support.functionsSurface : String := r"function __offset() {}

function __createRuntime() {}

const game = __createRuntime();

function __emitLog() {}

function log() {}

function warn() {}

function error() {}

function __teardown() {}

recv();"

set_option maxRecDepth 100000 in
theorem shown_functions : Shown sources Support.functions Support.functionsSurface := by
  refine shown_own ?_
  decide +kernel

/-! ## Blocks of data -/

theorem shown_manifest (script : Script) :
    Shown sources script.manifestBlock "const manifest = \x7b\x7d;\nconst _supportedModules = [];" := by
  have shown : Shown sources script.manifestBlock
      ("const manifest = " ++ "\x7b\x7d" ++ ";\nconst _supportedModules = " ++ "[]" ++ ";") :=
    shown_own ⟨rfl, rfl⟩ |>.append (shown_indented script.manifest) |>.own ⟨rfl, rfl⟩
      |>.append (shown_compact (namesJson script.supported)) |>.own ⟨rfl, rfl⟩
  exact shown

theorem shown_addresses (script : Script) : Shown sources script.addressesBlock "const memoryAddresses = \x7b\x7d;" := by
  have shown : Shown sources script.addressesBlock ("const memoryAddresses = " ++ "\x7b\x7d" ++ ";") :=
    shown_own ⟨rfl, rfl⟩ |>.append (shown_indented script.addresses) |>.own ⟨rfl, rfl⟩
  exact shown

/-- The surfaces of the statements that put a variable into the tables. -/
def placedSurfaces : List String :=
  ["if () memoryAddresses[] = \x7b\x7d;", "if () memoryAddresses[].variables = \x7b\x7d;",
    "memoryAddresses[].variables[] = \x7b\x7d;"]

theorem shown_placedLine (placed : PlacedVariable) :
    ∀ line ∈ placed.lines, ∃ surface ∈ placedSurfaces, Shown sources line surface := by
  dsimp only [PlacedVariable.lines, placedSurfaces]
  have keeps : Keeps sources ("memoryAddresses[" ++ Json.quote placed.module ++ "]") :=
    fun _ => passes_own rfl |>.put (keeps_quote _) |>.own rfl
  have table : Shown sources ("memoryAddresses[" ++ Json.quote placed.module ++ "]") "memoryAddresses[]" := by
    rw [String.append_assoc]
    exact shown_enclosed ⟨rfl, rfl, List.cons_ne_nil _ _, rfl⟩ (keeps_quote placed.module)
  generalize "memoryAddresses[" ++ Json.quote placed.module ++ "]" = name at keeps table ⊢
  have missing : Shown sources ("if (!" ++ name ++ ") ") "if () " := by
    rw [String.append_assoc]
    exact shown_enclosed ⟨rfl, rfl, List.cons_ne_nil _ _, rfl⟩ keeps
  have empty : Shown sources ("if (!" ++ name ++ ".variables) ") "if () " := by
    rw [String.append_assoc]
    exact shown_enclosed ⟨rfl, rfl, List.cons_ne_nil _ _, rfl⟩ keeps
  have index : Shown sources (".variables[" ++ (Json.quote placed.name ++ "] = ")) ".variables[] = " :=
    shown_enclosed ⟨rfl, rfl, List.cons_ne_nil _ _, rfl⟩ (keeps_quote placed.name)
  have made : Shown sources ("if (!" ++ name ++ ") " ++ name ++ r" = { variables: {}, hooks: {} };")
      ("if () " ++ "memoryAddresses[]" ++ " = \x7b\x7d;") := (missing.append table).own ⟨rfl, rfl⟩
  have filled : Shown sources ("if (!" ++ name ++ ".variables) " ++ name ++ r".variables = {};")
      ("if () " ++ "memoryAddresses[]" ++ ".variables = \x7b\x7d;") := (empty.append table).own ⟨rfl, rfl⟩
  have entered : Shown sources (name ++ ".variables[" ++ Json.quote placed.name ++ "] = " ++
      placed.entry.toJson.compact ++ ";") ("memoryAddresses[]" ++ ".variables[] = " ++ "\x7b\x7d" ++ ";") := by
    have shown : Shown sources (name ++ (".variables[" ++ (Json.quote placed.name ++ "] = ")) ++
        placed.entry.toJson.compact ++ ";") ("memoryAddresses[]" ++ ".variables[] = " ++ "\x7b\x7d" ++ ";") :=
      ((table.append index).append (shown_compact placed.entry.toJson)).own ⟨rfl, rfl⟩
    simpa only [String.append_assoc] using shown
  simp only [List.forall_mem_cons]
  refine ⟨⟨_, ?_, made⟩, ⟨_, ?_, filled⟩, ⟨_, ?_, entered⟩, fun _ none => absurd none List.not_mem_nil⟩
  all_goals decide

/-! ## Functions -/

/-- Lines in a function that has a name of its own. -/
theorem shown_functionBlock {name : String} {header shown : List Char} {lines : List String}
    (spelled : "function " ++ name ++ r"() {" = String.ofList header)
    (own : Lexer.ground.read header = some ⟨.code, [.curly]⟩ ∧ Lexer.ground.surface header ++ ['\x7d'] = shown)
    (keeps : KeepsLines sources lines) : Shown sources (Script.functionBlock name lines) (String.ofList shown) := by
  rw [Script.functionBlock, spelled]
  exact shown_body ⟨own.1, rfl, List.cons_ne_nil _ _, own.2⟩ keeps

theorem shown_registrationsBlock (script : Script) :
    Shown sources script.registrationsBlock "function __registerFunctions() \x7b\x7d" := by
  have spelled : "function " ++ "__registerFunctions" ++ r"() {" = r"function __registerFunctions() {" := rfl
  exact shown_functionBlock spelled ⟨rfl, rfl⟩
    (keepsLines_flatMap fun registration _ => keepsLines_registration registration)

theorem shown_nopsBlock (script : Script) : Shown sources script.nopsBlock "function __installNops() \x7b\x7d" := by
  have spelled : "function " ++ "__installNops" ++ r"() {" = r"function __installNops() {" := rfl
  exact shown_functionBlock spelled ⟨rfl, rfl⟩ (keepsLines_flatMap fun step _ => keepsLines_nopStep step)

namespace Script.Fits

variable {script : Script} (fits : script.Fits sources)
include fits

theorem shown_hooksBlock : Shown sources script.hooksBlock "function __installHooks() \x7b\x7d" := by
  have spelled : "function " ++ "__installHooks" ++ r"() {" = r"function __installHooks() {" := rfl
  exact shown_functionBlock spelled ⟨rfl, rfl⟩
    (keepsLines_flatMap fun step present => keepsLines_hookStep (fits.hooks step present))

theorem shown_loopsBlock : Shown sources script.loopsBlock "function __installLoops() \x7b\x7d" := by
  have spelled : "function " ++ "__installLoops" ++ r"() {" = r"function __installLoops() {" := rfl
  exact shown_functionBlock spelled ⟨rfl, rfl⟩ (keepsLines_flatMap fun loop present =>
    keepsLines_loop (fits.loopNames loop present) (fits.loops loop present))

theorem shown_exitBlock {callback : Callback} (declared : script.exit = some callback) :
    Shown sources script.exitBlock "function __modExit() \x7b\x7d" := by
  have spelled : "function " ++ "__modExit" ++ r"() {" = r"function __modExit() {" := rfl
  rw [Script.exitBlock, declared]
  exact shown_functionBlock spelled ⟨rfl, rfl⟩ fun _ =>
    .cons (passes_own rfl |>.put (keeps_expression (fits.exit callback declared)) |>.own rfl) (.nil _)

theorem shown_receiversBlock (some : script.receivers.isEmpty = false) :
    Shown sources script.receiversBlock "recv();" := by
  have again : KeepsLines sources ["    recv('command', _onCommand);"] :=
    fun _ => .cons (passes_own rfl) (.nil _)
  have branches : KeepsLines sources
      (script.receivers.entries.flatMap fun entry => receiverLines entry.1 entry.2) :=
    keepsLines_flatMap fun entry present => keepsLines_receiver entry.1 (fits.receivers entry present)
  rw [Script.receiversBlock, some]
  exact shown_body ⟨rfl, rfl, List.cons_ne_nil _ _, rfl⟩ (again.append branches)

theorem shown_startBlock : Shown sources script.startBlock "async function __init() \x7b\x7d" := by
  let bases := ["    const modulesToResolve = " ++ (namesJson script.dependencies).compact ++ ";",
    r"    for (const modName of modulesToResolve) {",
    "        let base = Module.findBaseAddress(modName);",
    r"        while (!base) {",
    Script.delayLine "            ",
    "            base = Module.findBaseAddress(modName);",
    r"        }",
    "        __state.moduleBases[modName] = base;",
    r"    }",
    "",
    "    __registerFunctions();",
    "    __installHooks();",
    "    __installLoops();",
    "    __installNops();"]
  let ready := ["", r"    send({ event: '__ready' });"]
  have keepsBases : KeepsLines sources bases := fun _ =>
    .cons (passes_own rfl |>.put (keeps_compact _) |>.own rfl) <|
    .cons (passes_own rfl) <|
    .cons (passes_own rfl) <|
    .cons (passes_own rfl) <|
    .cons (keeps_delayLine (fun _ => passes_own rfl) _) <|
    .cons (passes_own rfl) <|
    .cons (passes_own rfl) <|
    .cons (passes_own rfl) <|
    .cons (passes_own rfl) <|
    .cons (passes_own rfl) <|
    .cons (passes_own rfl) <|
    .cons (passes_own rfl) <|
    .cons (passes_own rfl) <|
    .cons (passes_own rfl) <|
    .nil _
  have keepsReady : KeepsLines sources ready := fun _ =>
    .cons (passes_own rfl) <| .cons (passes_own rfl) <| .nil _
  have shown : Shown sources (joinLines
      (r"async function __init() {" :: (bases ++ Script.initLines script.init ++ ready) ++ [r"}"]))
      "async function __init() \x7b\x7d" :=
    shown_body ⟨rfl, rfl, List.cons_ne_nil _ _, rfl⟩ ((keepsBases.append (keepsLines_init fits.init)).append keepsReady)
  simpa [Script.startBlock, bases, ready] using shown

end Script.Fits

end ModScript
