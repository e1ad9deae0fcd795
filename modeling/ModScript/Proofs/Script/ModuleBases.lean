import Mathlib.Data.List.Forall2
import ModScript.Proofs.OrderedMap
import ModScript.Proofs.Quoting
import ModScript.Proofs.Script.Layout

/-!
# Bases of modules

A script waits for the base of every module that it depends on before it installs anything: its start goes
through the modules in a loop, which stays with each of them until there is a base, and calls the functions that
install behind the loop. The statements that need the base of a module are in these functions; each of them names
a module for which the script has waited. What lies in another module is reported to the host and noted, once
each.

Results:
1. `needsBase_opening_iff`: which module a statement names.
2. `basesIn_body`: the statements of every function that installs.
3. `Hook.handled_steps`, `Nop.handled_step`: what becomes of one hook or one nop.
4. `Script.exists_startBlock_waits`: the start of a script waits and then installs.
5. `Declaration.bases_resolved`: the whole script.
-/

namespace ModScript

/-! ## Statements that need a base -/

/-- The kinds of statements that need the base of a module. -/
inductive BaseUse
  | address | register | delete
deriving DecidableEq

namespace BaseUse

/-- The text of the statement up to the name of the module. -/
def opening : BaseUse → String
  | address => "        const _hookAddr = __state.moduleBases["
  | register => "        game.registerFunction("
  | delete => r"    try { game.deleteInstruction("

/-- As much of the text as it takes to tell it from other lines. -/
def start : BaseUse → List Char
  | address => List.replicate 8 ' ' ++ ['c', 'o', 'n', 's', 't', ' ', '_', 'h', 'o', 'o', 'k', 'A']
  | register => List.replicate 8 ' ' ++ ['g']
  | delete => List.replicate 4 ' ' ++ ['t', 'r', 'y', ' ', '\x7b', ' ', 'g']

def all : List BaseUse := [address, register, delete]

theorem mem_all (use : BaseUse) : use ∈ all := by
  cases use <;> simp [all]

theorem start_begins (use : BaseUse) : use.start <+: use.opening.toList := by
  have begins {chars more : List Char} : chars <+: (String.ofList (chars ++ more)).toList := by
    rw [String.toList_ofList]
    exact List.prefix_append chars more
  cases use with
  | address => exact begins
  | register => exact begins
  | delete => exact begins

/-- The kinds differ from the start. -/
theorem eq_of_start_begins {use use' : BaseUse} (begins : use.start <+: use'.start) : use = use' := by
  cases use <;> cases use' <;> first | rfl | exact absurd begins (by decide)

/-- The openings are told apart whatever stands behind them. -/
theorem opening_append_inj {use use' : BaseUse} {rest rest' : String}
    (same : use.opening ++ rest = use'.opening ++ rest') : use = use' ∧ rest = rest' := by
  have chars : use.opening.toList ++ rest.toList = use'.opening.toList ++ rest'.toList := by
    rw [← String.toList_append, same, String.toList_append]
  have begins := use.start_begins.trans (List.prefix_append _ rest.toList)
  have begins' := use'.start_begins.trans (List.prefix_append _ rest'.toList)
  obtain rfl : use = use' := by
    rcases List.prefix_or_prefix_of_prefix begins (chars ▸ begins') with shorter | shorter
    · exact eq_of_start_begins shorter
    · exact (eq_of_start_begins shorter).symm
  exact ⟨rfl, String.toList_inj.1 (List.append_cancel_left chars)⟩

end BaseUse

/-- The line is a statement that needs the base of the module. The text of a callback stands behind other
text in its line, so it is not such a statement. -/
def NeedsBase (module line : String) : Prop :=
  ∃ use : BaseUse, ∃ rest, line = use.opening ++ Json.quote module ++ rest

/-- A statement names one module. -/
theorem needsBase_opening_iff (use : BaseUse) {module known rest : String} :
    NeedsBase module (use.opening ++ (Json.quote known ++ rest)) ↔ module = known := by
  constructor
  · rintro ⟨use', rest', same⟩
    rw [String.append_assoc] at same
    obtain ⟨-, behind⟩ := BaseUse.opening_append_inj same
    exact (Json.quote_append_inj behind).1.symm
  · rintro rfl
    exact ⟨use, rest, (String.append_assoc).symm⟩

/-- If the line is a statement that needs a base, then that of one of the modules. -/
def Based (modules : List String) (line : String) : Prop :=
  ∀ module, NeedsBase module line → module ∈ modules

def BasesIn (modules lines : List String) : Prop := ∀ line ∈ lines, Based modules line

/-- The text begins no statement that needs a base, whatever stands behind it. -/
def Differs (text : String) : Prop :=
  ∀ use : BaseUse, ¬ use.start <+: text.toList ∧ ¬ text.toList <+: use.start

section

variable {modules : List String}

theorem NeedsBase.exists_start {module line : String} (needs : NeedsBase module line) :
    ∃ use : BaseUse, use.start <+: line.toList := by
  obtain ⟨use, rest, rfl⟩ := needs
  refine ⟨use, use.start_begins.trans ?_⟩
  rw [String.append_assoc, String.toList_append]
  exact List.prefix_append _ _

/-- A line of the script's own, from its beginning to its end. -/
theorem based_own {chars : List Char}
    (differs : (BaseUse.all.all fun use => !use.start.isPrefixOf chars) = true) :
    Based modules (String.ofList chars) := by
  intro module needs
  obtain ⟨use, begins⟩ := needs.exists_start
  rw [String.toList_ofList] at begins
  have different := List.all_eq_true.1 differs use use.mem_all
  rw [List.isPrefixOf_iff_prefix.2 begins] at different
  cases different

theorem differs_own {chars : List Char}
    (differs : (BaseUse.all.all fun use =>
      !use.start.isPrefixOf chars && !chars.isPrefixOf use.start) = true) :
    Differs (String.ofList chars) := by
  intro use
  have different := List.all_eq_true.1 differs use use.mem_all
  rw [Bool.and_eq_true, Bool.not_eq_true', Bool.not_eq_true'] at different
  rw [String.toList_ofList, ← List.isPrefixOf_iff_prefix, ← List.isPrefixOf_iff_prefix]
  exact ⟨Bool.eq_false_iff.1 different.1, Bool.eq_false_iff.1 different.2⟩

theorem Differs.append {text : String} (differs : Differs text) (more : String) :
    Differs (text ++ more) := by
  intro use
  rw [String.toList_append]
  have behind := List.prefix_append text.toList more.toList
  refine ⟨fun begins => ?_, fun shorter => (differs use).2 (behind.trans shorter)⟩
  rcases List.prefix_or_prefix_of_prefix begins behind with shorter | longer
  · exact (differs use).1 shorter
  · exact (differs use).2 longer

theorem Differs.based {text : String} (differs : Differs text) : Based modules text := by
  intro module needs
  obtain ⟨use, begins⟩ := needs.exists_start
  exact absurd begins (differs use).1

theorem basesIn_nil : BasesIn modules [] := fun _ present => absurd present List.not_mem_nil

theorem BasesIn.cons {line : String} {lines : List String} (first : Based modules line)
    (rest : BasesIn modules lines) : BasesIn modules (line :: lines) :=
  List.forall_mem_cons.2 ⟨first, rest⟩

theorem BasesIn.append {lines lines' : List String} (front : BasesIn modules lines)
    (back : BasesIn modules lines') : BasesIn modules (lines ++ lines') :=
  List.forall_mem_append.2 ⟨front, back⟩

theorem basesIn_flatMap {α : Type} {write : α → List String} {items : List α}
    (each : ∀ item ∈ items, BasesIn modules (write item)) : BasesIn modules (items.flatMap write) := by
  intro line present
  obtain ⟨item, inItems, inLines⟩ := List.mem_flatMap.1 present
  exact each item inItems line inLines

/-! ## Lines -/

theorem basesIn_report (text : String) : BasesIn modules [reportLine text] :=
  .cons (differs_own rfl |>.append _ |>.append _ |>.based) basesIn_nil

theorem needsBase_addressLine (target : HookTarget) (module : String) :
    NeedsBase module target.addressLine ↔ module = target.module := by
  unfold HookTarget.addressLine
  simp only [String.append_assoc]
  exact needsBase_opening_iff .address

theorem based_address {target : HookTarget} (present : target.module ∈ modules) :
    Based modules target.addressLine :=
  fun module needs => (needsBase_addressLine target module).1 needs ▸ present

theorem basesIn_registration {registration : Registration} (present : registration.module ∈ modules) :
    BasesIn modules registration.lines := by
  have statement {rest : String} : Based modules ("        game.registerFunction(" ++
      (Json.quote registration.module ++ rest)) :=
    fun module needs => (needsBase_opening_iff .register).1 needs ▸ present
  refine .cons (based_own rfl) (.cons ?_ (.cons (differs_own rfl |>.append _ |>.append _ |>.based) basesIn_nil))
  simp only [String.append_assoc]
  exact statement

theorem basesIn_replace (hook : String) {target : HookTarget} (present : target.module ∈ modules)
    (callback : Callback) : BasesIn modules (replaceLines hook target callback) :=
  .cons (based_own rfl) <|
  .cons (based_address present) <|
  .cons (based_own rfl) <|
  .cons (differs_own rfl |>.append _ |>.append _ |>.based) <|
  .cons (based_own rfl) <|
  .cons (differs_own rfl |>.append _ |>.append _ |>.append _ |>.append _ |>.based) <|
  .cons (differs_own rfl |>.append _ |>.append _ |>.append _ |>.append _ |>.based) <|
  .cons (based_own rfl) <|
  .cons (differs_own rfl |>.append _ |>.append _ |>.append _ |>.append _ |>.based) <|
  .cons (based_own rfl) <|
  .cons (based_own rfl) <|
  .cons (differs_own rfl |>.append _ |>.append _ |>.based) basesIn_nil

theorem basesIn_enter (hook : String) (target : HookTarget) (enter : Option Callback) (keep : Bool) :
    BasesIn modules (enterLines hook target enter keep) := by
  unfold enterLines
  dsimp only
  split
  · refine .append (.append (.cons (based_own rfl) ?_) ?_) (.cons (based_own rfl) basesIn_nil)
    · split
      · exact .cons (differs_own rfl |>.append _ |>.append _ |>.based) basesIn_nil
      · exact basesIn_nil
    · split
      · exact .cons (based_own rfl) <|
          .cons (differs_own rfl |>.append _ |>.append _ |>.append _ |>.append _ |>.based) <|
          .cons (differs_own rfl |>.append _ |>.append _ |>.based) basesIn_nil
      · exact basesIn_nil
  · exact basesIn_nil

theorem basesIn_leave (hook : String) (target : HookTarget) (leave : Option Callback) :
    BasesIn modules (leaveLines hook target leave) := by
  cases leave with
  | none => exact basesIn_nil
  | some callback =>
    refine .append (.append ?_ ?_) ?_
    · exact .cons (based_own rfl) <|
        .cons (based_own rfl) <|
        .cons (differs_own rfl |>.append _ |>.append _ |>.append _ |>.append _ |>.append _ |>.based)
          basesIn_nil
    · split
      · exact basesIn_nil
      · exact .cons (based_own rfl) basesIn_nil
    · exact .cons (differs_own rfl |>.append _ |>.append _ |>.based) <|
        .cons (based_own rfl) basesIn_nil

theorem basesIn_observe (hook : String) {target : HookTarget} (present : target.module ∈ modules)
    (enter leave : Option Callback) : BasesIn modules (observeLines hook target enter leave) := by
  refine .append (.append (.append ?_ (basesIn_enter hook target _ _)) (basesIn_leave hook target leave)) ?_
  · exact .cons (based_own rfl) <|
      .cons (based_address present) <|
      .cons (based_own rfl) basesIn_nil
  · exact .cons (based_own rfl) <|
      .cons (based_own rfl) <|
      .cons (differs_own rfl |>.append _ |>.append _ |>.based) basesIn_nil

theorem basesIn_loop (loop : Loop) : BasesIn modules loop.lines := by
  -- The blanks alone could begin a statement; with `_loop_` behind them they cannot.
  have call : Based modules ("        " ++ loop.functionName ++ "();") := by
    rw [Loop.functionName, ← String.append_assoc]
    exact (differs_own rfl : Differs "        _loop_").append _ |>.append _ |>.based
  exact .cons (based_own rfl) <|
    .cons (based_own rfl) <|
    .cons (based_own rfl) <|
    .cons (differs_own rfl |>.append _ |>.append _ |>.based) <|
    .cons (based_own rfl) <|
    .cons (based_own rfl) <|
    .cons (based_own rfl) <|
    .cons (differs_own rfl |>.append _ |>.append _ |>.based) <|
    .cons (based_own rfl) <|
    .cons (differs_own rfl |>.append _ |>.append _ |>.based) <|
    .cons (differs_own rfl |>.append _ |>.append _ |>.append _ |>.append _ |>.based) <|
    .cons (based_own rfl) <|
    .cons call <|
    .cons (based_own rfl) basesIn_nil

theorem needsBase_deleteLine (nop : Nop) (module : String) :
    NeedsBase module (r"    try { game.deleteInstruction(" ++ Json.quote nop.module ++ ", " ++
      Json.quote nop.address.text ++ ", " ++ toString nop.size ++ r"); }") ↔ module = nop.module := by
  simp only [String.append_assoc]
  exact needsBase_opening_iff .delete

theorem basesIn_delete {nop : Nop} (present : nop.module ∈ modules) :
    BasesIn modules (NopStep.delete nop).lines :=
  .cons (fun module needs => (needsBase_deleteLine nop module).1 needs ▸ present) <|
  .cons (differs_own rfl |>.append _ |>.append _ |>.based) basesIn_nil

theorem basesIn_stepAt (hook : Hook) (target : HookTarget) :
    BasesIn modules (hook.stepAt modules target).lines := by
  unfold Hook.stepAt
  split
  next present =>
    cases hook.action with
    | replace callback => exact basesIn_replace hook.name present callback
    | observe enter leave => exact basesIn_observe hook.name present enter leave
  next => exact basesIn_report _

theorem basesIn_steps (hook : Hook) (targets : List HookTarget) :
    BasesIn modules ((hook.steps modules targets).flatMap HookStep.lines) := by
  cases targets with
  | nil => exact basesIn_report _
  | cons first rest =>
    rw [hook.steps_eq_map modules (List.cons_ne_nil first rest), List.flatMap_map]
    exact basesIn_flatMap fun target _ => basesIn_stepAt hook target

theorem basesIn_nop (nop : Nop) : BasesIn modules (nop.step modules).lines := by
  unfold Nop.step
  split
  next present => exact basesIn_delete present
  next => exact basesIn_report _

end

/-! ## The functions that install -/

theorem module_of_registration {patch : Patch} {modules : List String} {registration : Registration}
    (present : registration ∈ patch.registrations modules) : registration.module ∈ modules := by
  obtain ⟨module, inModules, present⟩ := List.mem_flatMap.1 present
  split at present
  · obtain ⟨hook, -, rfl⟩ := List.mem_map.1 present
    exact inModules
  · exact absurd present List.not_mem_nil

/-- All functions that install need only bases for which the script waits. -/
theorem basesIn_body (declaration : Declaration) (game : Game) (patch : Patch) (installer : Installer) :
    BasesIn (declaration.dependencies game.executable)
      (installer.body (Script.ofMod declaration game patch)) := by
  cases installer with
  | registrations =>
    exact basesIn_flatMap fun registration present =>
      basesIn_registration (module_of_registration present)
  | hooks =>
    rw [Installer.body, Script.ofMod, Declaration.hookSteps, List.flatMap_assoc]
    exact basesIn_flatMap fun entry _ => basesIn_steps entry.1 entry.2
  | loops => exact basesIn_flatMap fun loop _ => basesIn_loop loop
  | nops =>
    rw [Installer.body, Script.ofMod, Declaration.nopSteps, List.flatMap_map]
    exact basesIn_flatMap fun nop _ => basesIn_nop nop

/-! ## The wait -/

/-- The wait for the bases of some modules: each module in its turn is looked for until it has a base, which is
kept under its name. -/
def waitLines (modules : List String) : List String :=
  ["    const modulesToResolve = " ++ (namesJson modules).compact ++ ";",
    r"    for (const modName of modulesToResolve) {",
    "        let base = Module.findBaseAddress(modName);",
    r"        while (!base) {",
    "            await game.delay(100);",
    "            base = Module.findBaseAddress(modName);",
    r"        }",
    "        __state.moduleBases[modName] = base;",
    r"    }"]

/-- The calls of the functions that install. -/
def installerCalls : List String :=
  [Installer.registrations, .hooks, .loops, .nops].map fun installer => "    " ++ installer.name ++ "();"

/-- The start of a script waits before it installs. -/
theorem Script.exists_startBlock_waits (script : Script) : ∃ rest, script.startBlock =
    joinLines (r"async function __init() {" :: waitLines script.dependencies ++ "" :: installerCalls) ++ "\n" ++
      rest := by
  have lines : script.startBlock = joinLines
      ((r"async function __init() {" :: waitLines script.dependencies ++ "" :: installerCalls) ++
        (initLines script.init ++ ["", r"    send({ event: '__ready' });", r"}"])) := rfl
  have ends : Script.initLines script.init ++ ["", r"    send({ event: '__ready' });", r"}"] ≠ [] :=
    List.append_ne_nil_of_right_ne_nil _ (List.cons_ne_nil _ _)
  exact ⟨_, lines.trans (joinLines_append (List.cons_ne_nil _ _) ends)⟩

/-! ## What is left out -/

/-- What becomes of one target of a hook, as lines of the script and as notices. -/
inductive HookTarget.Handled (modules : List String) (mod hook : String) (target : HookTarget) :
    List String × List Notice → Prop
  | installed (lines : List String) : target.module ∈ modules →
    (∃ line ∈ lines, NeedsBase target.module line) → Handled modules mod hook target (lines, [])
  | foreign : target.module ∉ modules →
    Handled modules mod hook target
      ([reportLine ("Hook " ++ hook ++ ": module " ++ target.module ++
          " is not a dependency of this mod")],
        [.hookForeign hook mod target.module])

/-- What becomes of a hook with its targets. -/
inductive Hook.Handled (modules : List String) (mod patch : String) (hook : Hook) :
    List HookTarget → List String × List Notice → Prop
  | notFound : Handled modules mod patch hook []
      ([reportLine ("Hook not found in patch data: " ++ hook.name)], [.hookNotFound hook.name mod patch])
  | targets {targets : List HookTarget} {parts : List (List String × List Notice)} : targets ≠ [] →
    List.Forall₂ (HookTarget.Handled modules mod hook.name) targets parts →
    Handled modules mod patch hook targets (parts.flatMap Prod.fst, parts.flatMap Prod.snd)

/-- What becomes of a nop. -/
inductive Nop.Handled (modules : List String) (mod : String) (nop : Nop) :
    List String × List Notice → Prop
  | deleted (line : String) (rest : List String) : nop.module ∈ modules → NeedsBase nop.module line →
    Handled modules mod nop (line :: rest, [])
  | foreign : nop.module ∉ modules →
    Handled modules mod nop
      ([reportLine ("Nop " ++ nop.place ++ ": module " ++ nop.module ++
          " is not a dependency of this mod")],
        [.nopForeign nop.place mod])

section

variable {modules : List String} {mod patch : String}

theorem addressLine_mem_install (hook : String) (target : HookTarget) (action : HookAction) :
    target.addressLine ∈ (HookStep.install hook target action).lines := by
  cases action with
  | replace callback => simp [HookStep.lines, replaceLines]
  | observe enter leave => simp [HookStep.lines, observeLines]

theorem Hook.handled_stepAt (hook : Hook) (target : HookTarget) :
    target.Handled modules mod hook.name ((hook.stepAt modules target).lines,
      (Script.hookNotice? mod patch (hook.stepAt modules target)).toList) := by
  unfold Hook.stepAt
  split
  next present =>
    have line := addressLine_mem_install hook.name target hook.action
    exact .installed _ present ⟨target.addressLine, line, (needsBase_addressLine target _).2 rfl⟩
  next absent => exact .foreign absent

theorem Hook.handled_steps (hook : Hook) (targets : List HookTarget) :
    hook.Handled modules mod patch targets
      ((hook.steps modules targets).flatMap HookStep.lines,
        (hook.steps modules targets).filterMap (Script.hookNotice? mod patch)) := by
  cases targets with
  | nil => exact .notFound
  | cons first rest =>
    have each : List.Forall₂ (HookTarget.Handled modules mod hook.name) (first :: rest)
        ((first :: rest).map fun target => ((hook.stepAt modules target).lines,
          (Script.hookNotice? mod patch (hook.stepAt modules target)).toList)) := by
      rw [List.forall₂_map_right_iff, List.forall₂_same]
      exact fun target _ => hook.handled_stepAt target
    have handled : hook.Handled modules mod patch _ _ := .targets (List.cons_ne_nil _ _) each
    rw [List.flatMap_map, List.flatMap_map] at handled
    rw [hook.steps_eq_map modules (List.cons_ne_nil first rest), List.filterMap_eq_flatMap_toList,
      List.flatMap_map, List.flatMap_map]
    exact handled

theorem Nop.handled_step (nop : Nop) :
    nop.Handled modules mod ((nop.step modules).lines,
      (Script.nopNotice? mod (nop.step modules)).toList) := by
  unfold Nop.step
  split
  next present => exact .deleted _ _ present ((needsBase_deleteLine nop _).2 rfl)
  next absent => exact .foreign absent

theorem severity_of_hookNotice? {step : HookStep} {notice : Notice}
    (told : Script.hookNotice? mod patch step = some notice) : notice.severity = .warning := by
  cases step with
  | notFound hook => cases told; rfl
  | foreign hook module => cases told; rfl
  | install hook target action => cases told

theorem severity_of_nopNotice? {step : NopStep} {notice : Notice}
    (told : Script.nopNotice? mod step = some notice) : notice.severity = .warning := by
  cases step with
  | foreign nop => cases told; rfl
  | delete nop => cases told

end

/-! ## The whole script -/

namespace Declaration

variable {declaration : Declaration} {executable : String}

theorem mem_dependencies_iff {module : String} :
    module ∈ declaration.dependencies executable ↔
      module = executable ∨ module ∈ declaration.modules := by
  rw [dependencies, List.mem_eraseDups, List.mem_cons]

/-- A hook that is found by name has no target outside the modules of the script. -/
theorem module_of_target {hook : Hook} {patch : Patch} (unlocated : hook.location = none)
    {target : HookTarget} (present : target ∈ hook.targets declaration.modules executable patch) :
    target.module ∈ declaration.dependencies executable := by
  rw [Hook.targets, unlocated] at present
  obtain ⟨module, inPlaces, found⟩ := List.mem_filterMap.1 present
  obtain ⟨entry, -, rfl⟩ := Option.map_eq_some_iff.1 found
  rcases List.mem_append.1 (List.mem_eraseDups.1 inPlaces) with inModules | isExecutable
  · exact mem_dependencies_iff.2 (.inr inModules)
  · exact mem_dependencies_iff.2 (.inl (List.mem_singleton.1 isExecutable))

theorem severity_of_mem_notices {game : Game} {patch : Patch} {notice : Notice}
    (present : notice ∈ Script.notices declaration game patch) : notice.severity = .warning := by
  rcases List.mem_append.1 present with present | ofNops
  · rcases List.mem_append.1 present with ofConstants | ofHooks
    · obtain ⟨name, -, rfl⟩ := List.mem_map.1 ofConstants
      rfl
    · obtain ⟨step, -, told⟩ := List.mem_filterMap.1 ofHooks
      exact severity_of_hookNotice? told
  · obtain ⟨step, -, told⟩ := List.mem_filterMap.1 ofNops
    exact severity_of_nopNotice? told

/-- The script has the wait for its modules, with the calls of the functions that install behind it. -/
theorem exists_waits (declaration : Declaration) (game : Game) (patch : Patch) :
    ∃ before after, declaration.script game patch = before ++
      joinLines (r"async function __init() {" :: waitLines (declaration.dependencies game.executable) ++
        "" :: installerCalls) ++ "\n" ++ after := by
  let script := Script.ofMod declaration game patch
  obtain ⟨rest, split⟩ := script.exists_startBlock_waits
  have filled : script.startBlock.isEmpty = false := by
    rw [split]
    exact isEmpty_append (isEmpty_append (isEmpty_joinLines (by decide) _))
  refine ⟨script.before .start, rest ++ ("\n\n" ++ script.behind .start), ?_⟩
  rw [Declaration.script, script.text_eq_around .start, Script.block, Script.part_of_filled filled, split]
  simp only [String.append_assoc]
  rfl

/-- Hooks and nops are handled one after the other, in the script and in the notices. -/
theorem exists_handled (declaration : Declaration) (game : Game) (patch : Patch) :
    ∃ (hooks nops : List (List String × List Notice)) (skipped : List Notice),
      List.Forall₂ (fun entry part => entry.1.Handled (declaration.dependencies game.executable)
        declaration.name patch.name entry.2 part) (declaration.hookTargets game patch) hooks ∧
      List.Forall₂ (Nop.Handled (declaration.dependencies game.executable) declaration.name)
        declaration.nops nops ∧
      Installer.hooks.body (Script.ofMod declaration game patch) = hooks.flatMap Prod.fst ∧
      Installer.nops.body (Script.ofMod declaration game patch) = nops.flatMap Prod.fst ∧
      Script.notices declaration game patch = skipped ++ hooks.flatMap Prod.snd ++ nops.flatMap Prod.snd ∧
      ∀ notice ∈ skipped, ∃ name, notice = .constantSkipped name game.id := by
  let modules := declaration.dependencies game.executable
  let hooks := (declaration.hookTargets game patch).map fun entry =>
    ((entry.1.steps modules entry.2).flatMap HookStep.lines,
      (entry.1.steps modules entry.2).filterMap (Script.hookNotice? declaration.name patch.name))
  let nops := declaration.nops.map fun nop =>
    ((nop.step modules).lines, (Script.nopNotice? declaration.name (nop.step modules)).toList)
  let skipped := ((game.constantsFor patch).keys.filter fun name => !isFreeName name).map fun name =>
    Notice.constantSkipped name game.id
  refine ⟨hooks, nops, skipped, ?_, ?_, ?_, ?_, ?_, ?_⟩
  · rw [List.forall₂_map_right_iff, List.forall₂_same]
    exact fun entry _ => entry.1.handled_steps entry.2
  · rw [List.forall₂_map_right_iff, List.forall₂_same]
    exact fun nop _ => nop.handled_step
  · simp [Installer.body, Script.ofMod, hookSteps, hooks, modules, List.flatMap_map, List.flatMap_assoc]
  · simp [Installer.body, Script.ofMod, nopSteps, nops, modules, List.flatMap_map]
  · rw [Script.notices, hookSteps, nopSteps, List.filterMap_flatMap, List.filterMap_map,
      List.filterMap_eq_flatMap_toList, List.flatMap_map, List.flatMap_map]
    rfl
  · intro notice present
    obtain ⟨name, -, rfl⟩ := List.mem_map.1 present
    exact ⟨name, rfl⟩

/-- A script uses no base that it has not waited for. It waits for the executable and the modules of the
mod, once each, before it calls the functions that install, and all statements in these functions name one of
these modules. A target of a hook or a
nop elsewhere has one report in the place of the statement, and there is one warning about it; hooks that
are found by name have no such target. -/
theorem bases_resolved (declaration : Declaration) (game : Game) (patch : Patch) :
    ((declaration.dependencies game.executable).Nodup ∧
      (declaration.dependencies game.executable).head? = some game.executable ∧
      ∀ module, module ∈ declaration.dependencies game.executable ↔
        module = game.executable ∨ module ∈ declaration.modules) ∧
    (∃ before after, declaration.script game patch = before ++
      joinLines (r"async function __init() {" :: waitLines (declaration.dependencies game.executable) ++
        "" :: installerCalls) ++ "\n" ++ after) ∧
    (∀ installer : Installer,
      (∃ before after, declaration.script game patch = before ++
        Script.functionBlock installer.name (installer.body (Script.ofMod declaration game patch)) ++
          after) ∧
      ∀ line ∈ installer.body (Script.ofMod declaration game patch), ∀ module,
        NeedsBase module line → module ∈ declaration.dependencies game.executable) ∧
    (∃ (hooks nops : List (List String × List Notice)) (skipped : List Notice),
      List.Forall₂ (fun entry part => entry.1.Handled (declaration.dependencies game.executable)
        declaration.name patch.name entry.2 part) (declaration.hookTargets game patch) hooks ∧
      List.Forall₂ (Nop.Handled (declaration.dependencies game.executable) declaration.name)
        declaration.nops nops ∧
      Installer.hooks.body (Script.ofMod declaration game patch) = hooks.flatMap Prod.fst ∧
      Installer.nops.body (Script.ofMod declaration game patch) = nops.flatMap Prod.fst ∧
      Script.notices declaration game patch = skipped ++ hooks.flatMap Prod.snd ++ nops.flatMap Prod.snd ∧
      ∀ notice ∈ skipped, ∃ name, notice = .constantSkipped name game.id) ∧
    (∀ notice ∈ Script.notices declaration game patch, notice.severity = .warning) ∧
    ∀ hook : Hook, hook.location = none →
      ∀ target ∈ hook.targets declaration.modules game.executable patch,
        target.module ∈ declaration.dependencies game.executable :=
  ⟨⟨nodup_eraseDups _, by rw [dependencies, List.eraseDups_cons]; rfl, fun _ => mem_dependencies_iff⟩,
    declaration.exists_waits game patch,
    fun installer =>
      ⟨⟨_, _, installer.text_eq_around _⟩, basesIn_body declaration game patch installer⟩,
    declaration.exists_handled game patch, fun _ => severity_of_mem_notices,
    fun _ unlocated _ => module_of_target unlocated⟩

end Declaration

end ModScript
