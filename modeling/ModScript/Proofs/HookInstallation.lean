import Mathlib.Data.List.Forall2
import Mathlib.Data.List.Induction
import ModScript.Proofs.Script.Layout

/-!
# Installation of hooks

Which places a hook resolves to, and what a script does about each of them. A hook with a location of its
own has that one place. Any other hook has one place in every module that defines its name, and the
modules come in the order in which they are first named: those of the mod, then the executable. The body
of `__installHooks` goes through the hooks and their targets in order, and every target has one statement
of its own.

Results:
1. `Hook.resolves_iff`: the targets of a hook are the ones to which it resolves.
2. `Hook.covers_stepAt`: the lines for one hook.
3. `Declaration.installs_resolved_targets`: the body of `__installHooks` in the script of a mod.
-/

namespace ModScript

/-! ## Resolution -/

/-- The module comes before the other one where modules are looked at. -/
def Precedes (places : List String) (module module' : String) : Prop :=
  places.idxOf module < places.idxOf module'

/-- The targets of a hook that is found by its name, when the modules are looked at in order. -/
structure Hook.FoundIn (hook : Hook) (places : List String) (patch : Patch)
    (targets : List HookTarget) : Prop where
  /-- No module is used twice. -/
  distinct : (targets.map HookTarget.module).Nodup
  ordered : (targets.map HookTarget.module).Pairwise (Precedes places)
  /-- Exactly the modules whose table defines the name are used. -/
  modules : ∀ module, module ∈ targets.map HookTarget.module ↔
    module ∈ places ∧ ∃ table entry, patch.tables.get? module = some table ∧
      table.hooks.get? hook.name = some entry
  /-- What the hook declares goes before what the table says. -/
  entries : ∀ target ∈ targets, ∃ table entry, patch.tables.get? target.module = some table ∧
    table.hooks.get? hook.name = some entry ∧ target.address = entry.address ∧
    target.params = hook.params.getD entry.params ∧ target.returns = hook.returns.getD entry.returns

/-- The targets to which a hook resolves for a mod of the given modules. -/
inductive Hook.Resolves (hook : Hook) (modules : List String) (executable : String) (patch : Patch) :
    List HookTarget → Prop
  | located (module : String) (address : Address) : hook.location = some (module, address) →
    Resolves hook modules executable patch
      [⟨module, address, hook.params.getD [], hook.returns.getD .void⟩]
  | found (targets : List HookTarget) : hook.location = none →
    hook.FoundIn (modules ++ [executable]) patch targets →
    Resolves hook modules executable patch targets

theorem pairwise_precedes_eraseDups (places : List String) :
    places.eraseDups.Pairwise (Precedes places) := by
  induction places using List.reverseRecOn with
  | nil => exact .nil
  | append_singleton places last ih =>
    rw [List.eraseDups_append]
    have within {module : String} (present : module ∈ places) :
        (places ++ [last]).idxOf module = places.idxOf module := List.idxOf_append_of_mem present
    have front : places.eraseDups.Pairwise (Precedes (places ++ [last])) := by
      refine ih.imp_of_mem fun present present' before => ?_
      rwa [Precedes, within (List.mem_eraseDups.1 present), within (List.mem_eraseDups.1 present')]
    by_cases known : last ∈ places
    · have none : (List.removeAll [last] places).eraseDups = [] := by simp [List.removeAll, known]
      rwa [none, List.append_nil]
    · have added : (List.removeAll [last] places).eraseDups = [last] := by
        simp [List.removeAll, known, List.eraseDups_cons]
      rw [added]
      refine List.pairwise_append.2 ⟨front, List.pairwise_singleton _ _, ?_⟩
      intro module present other isLast
      rw [List.mem_singleton.1 isLast, Precedes, within (List.mem_eraseDups.1 present),
        List.idxOf_append_of_notMem known]
      exact Nat.lt_add_right _ (List.idxOf_lt_length_of_mem (List.mem_eraseDups.1 present))

namespace Hook

variable {hook : Hook} {places modules : List String} {executable : String} {patch : Patch}
  {targets targets' : List HookTarget}

theorem hook?_eq_some_iff {module : String} {entry : FunctionEntry} :
    patch.hook? module hook.name = some entry ↔
      ∃ table, patch.tables.get? module = some table ∧ table.hooks.get? hook.name = some entry :=
  Option.bind_eq_some_iff

/-- A target found by name is the one that the search has for its module. -/
theorem FoundIn.target? (found : hook.FoundIn places patch targets) {target : HookTarget}
    (present : target ∈ targets) : hook.target? patch target.module = some target := by
  obtain ⟨table, entry, has, defined, address, params, returns⟩ := found.entries target present
  have entries : patch.hook? target.module hook.name = some entry :=
    hook?_eq_some_iff.2 ⟨table, has, defined⟩
  simp only [Hook.target?, entries, Option.map_some, targetAt, ← address, ← params, ← returns]

theorem target?_eq_some_iff {module : String} {target : HookTarget} :
    hook.target? patch module = some target ↔
      ∃ table entry, patch.tables.get? module = some table ∧
        table.hooks.get? hook.name = some entry ∧ hook.targetAt module entry = target := by
  simp only [Hook.target?, Option.map_eq_some_iff, hook?_eq_some_iff]
  constructor
  · rintro ⟨entry, ⟨table, has, defined⟩, same⟩
    exact ⟨table, entry, has, defined, same⟩
  · rintro ⟨table, entry, has, defined, same⟩
    exact ⟨entry, ⟨table, has, defined⟩, same⟩

theorem module_of_target? {module : String} {target : HookTarget}
    (found : hook.target? patch module = some target) : target.module = module := by
  obtain ⟨table, entry, -, -, rfl⟩ := target?_eq_some_iff.1 found
  rfl

/-- The search finds what it should. -/
theorem foundIn_filterMap (hook : Hook) (places : List String) (patch : Patch) :
    hook.FoundIn places patch (places.eraseDups.filterMap (hook.target? patch)) := by
  have ordered : ((places.eraseDups.filterMap (hook.target? patch)).map HookTarget.module).Pairwise
      (Precedes places) := by
    rw [List.pairwise_map, List.pairwise_filterMap]
    refine (pairwise_precedes_eraseDups places).imp fun before target found target' found' => ?_
    rwa [module_of_target? found, module_of_target? found']
  refine ⟨ordered.imp fun before same => ?_, ordered, fun module => ?_, fun target present => ?_⟩
  · exact absurd before (same ▸ Nat.lt_irrefl _)
  · simp only [List.mem_map, List.mem_filterMap, List.mem_eraseDups]
    constructor
    · rintro ⟨target, ⟨place, inPlaces, found⟩, rfl⟩
      obtain ⟨table, entry, has, defined, rfl⟩ := target?_eq_some_iff.1 found
      exact ⟨inPlaces, table, entry, has, defined⟩
    · rintro ⟨inPlaces, table, entry, has, defined⟩
      exact ⟨hook.targetAt module entry,
        ⟨module, inPlaces, target?_eq_some_iff.2 ⟨table, entry, has, defined, rfl⟩⟩, rfl⟩
  · obtain ⟨place, -, found⟩ := List.mem_filterMap.1 present
    obtain ⟨table, entry, has, defined, rfl⟩ := target?_eq_some_iff.1 found
    exact ⟨table, entry, has, defined, rfl, rfl, rfl⟩

theorem FoundIn.eq_filterMap (found : hook.FoundIn places patch targets) :
    targets = (targets.map HookTarget.module).filterMap (hook.target? patch) := by
  rw [List.filterMap_map]
  calc targets = targets.filterMap some := (List.filterMap_some).symm
    _ = targets.filterMap (hook.target? patch ∘ HookTarget.module) :=
      List.filterMap_congr fun target present => (found.target? present).symm

/-- There is one answer only. -/
theorem FoundIn.unique (found : hook.FoundIn places patch targets)
    (found' : hook.FoundIn places patch targets') : targets = targets' := by
  have perm : (targets.map HookTarget.module).Perm (targets'.map HookTarget.module) :=
    (List.perm_ext_iff_of_nodup found.distinct found'.distinct).2 fun module =>
      (found.modules module).trans (found'.modules module).symm
  have modules : targets.map HookTarget.module = targets'.map HookTarget.module :=
    perm.eq_of_pairwise (fun _ _ _ _ before after => absurd (Nat.lt_trans before after) (Nat.lt_irrefl _))
      found.ordered found'.ordered
  rw [found.eq_filterMap, found'.eq_filterMap, modules]

/-- The targets of a hook are the ones to which it resolves. -/
theorem resolves_iff : hook.Resolves modules executable patch targets ↔
    targets = hook.targets modules executable patch := by
  constructor
  · rintro (⟨module, address, located⟩ | ⟨targets, unlocated, found⟩)
    · simp only [Hook.targets, located, targetAt]
    · simp only [Hook.targets, unlocated]
      exact found.unique (hook.foundIn_filterMap _ patch)
  · rintro rfl
    cases located : hook.location with
    | some place =>
      obtain ⟨module, address⟩ := place
      simp only [Hook.targets, located, targetAt]
      exact .located module address located
    | none =>
      simp only [Hook.targets, located]
      exact .found _ located (hook.foundIn_filterMap _ patch)

end Hook

/-! ## Lines of a script -/

/-- The line is set in more deeply than a statement of a function. -/
def IsDeep (line : String) : Prop := ∃ rest, line = "        " ++ rest

def Nested (lines : List String) : Prop := ∀ line ∈ lines, IsDeep line

/-- A part of the handlers of an observed function, which is there if it is needed. -/
def Part (needed : Prop) (header : String) (lines : List String) : Prop :=
  (¬ needed → lines = []) ∧
    (needed → ∃ inner, Nested inner ∧ lines = header :: inner ++ [r"            },"])

/-- The line calls the callback with some receiver and arguments. -/
def Calls (callback : Callback) (line : String) : Prop :=
  ∃ before after, line = before ++ "(" ++ callback.expression ++ ").call(" ++ after

/-- The statements that intercept the function at `_hookAddr`. -/
inductive HookAction.Form (target : HookTarget) : HookAction → List String → Prop
  | replace (callback : Callback) (function : List String) : Nested function →
    (∃ line ∈ function, Calls callback line) →
    Form target (.replace callback)
      ("        Interceptor.replace(_hookAddr, new NativeCallback(" :: function ++
        ["            '" ++ target.returns.name ++ "', [" ++
            ", ".intercalate (target.params.map fun type => "'" ++ type.name ++ "'") ++ "]",
          "        ));", "        __state.replacedFunctions.push(_hookAddr);"])
  | observe (enter leave : Option Callback) (onEnter onLeave : List String) :
    Part (enter.isSome ∨ leave.isSome ∧ target.params ≠ []) r"            onEnter: function(args) {"
      onEnter →
    Part leave.isSome r"            onLeave: function(retval) {" onLeave →
    (∀ callback, enter = some callback → ∃ line ∈ onEnter, Calls callback line) →
    (∀ callback, leave = some callback → ∃ line ∈ onLeave, Calls callback line) →
    Form target (.observe enter leave)
      (r"        const _hook = Interceptor.attach(_hookAddr, {" :: onEnter ++ onLeave ++
        [r"        });", "        __state.attachedHooks.push(_hook);"])

/-- The lines for one target: a report if its module is neither the executable nor one of the mod, and
otherwise one `try` of its own, which names the address and intercepts the function there. -/
inductive Hook.Covers (hook : Hook) (modules : List String) (executable : String)
    (target : HookTarget) : List String → Prop
  | foreign : target.module ≠ executable → target.module ∉ modules →
    Covers hook modules executable target
      [reportLine ("Hook " ++ hook.name ++ ": module " ++ target.module ++
        " is not a dependency of this mod")]
  | install (form : List String) : target.module = executable ∨ target.module ∈ modules →
    hook.action.Form target form →
    Covers hook modules executable target
      (r"    try {" ::
        ("        const _hookAddr = __state.moduleBases[" ++ Json.quote target.module ++ "].add(" ++
          target.address.text ++ ");") ::
        form ++
        [r"    } catch (e) { error(" ++ Json.quote ("Hook " ++ hook.name ++ " install error:") ++
          r", e.stack); }"])

/-- The lines for one hook: a report if there is no target, and otherwise those for each target. -/
inductive Hook.CoversAll (hook : Hook) (modules : List String) (executable : String) :
    List HookTarget → List String → Prop
  | notFound : CoversAll hook modules executable []
      [reportLine ("Hook not found in patch data: " ++ hook.name)]
  | targets (targets : List HookTarget) (parts : List (List String)) : targets ≠ [] →
    List.Forall₂ (hook.Covers modules executable) targets parts →
    CoversAll hook modules executable targets parts.flatten

theorem IsDeep.append {line : String} (deep : IsDeep line) (more : String) : IsDeep (line ++ more) := by
  obtain ⟨rest, rfl⟩ := deep
  exact ⟨rest ++ more, String.append_assoc⟩

theorem nested_nil : Nested [] := fun _ present => absurd present List.not_mem_nil

theorem Nested.cons {line : String} {lines : List String} (deep : IsDeep line) (nested : Nested lines) :
    Nested (line :: lines) := List.forall_mem_cons.2 ⟨deep, nested⟩

theorem Nested.append {lines lines' : List String} (nested : Nested lines) (nested' : Nested lines') :
    Nested (lines ++ lines') := List.forall_mem_append.2 ⟨nested, nested'⟩

/-! ## Blocks of hooks -/

section

variable {hook : Hook} {modules : List String} {executable : String} {target : HookTarget}

/-- Any block of the form is the one of the target. -/
theorem Hook.covers_install {form : List String}
    (isDependency : target.module = executable ∨ target.module ∈ modules)
    (isForm : hook.action.Form target form) :
    hook.Covers modules executable target
      (r"    try {" :: target.addressLine :: form ++ [hookEndLine hook.name]) :=
  .install form isDependency isForm

theorem form_replace (name : String) (target : HookTarget) (callback : Callback) :
    ∃ form, replaceLines name target callback =
        r"    try {" :: target.addressLine :: form ++ [hookEndLine name] ∧
      (HookAction.replace callback).Form target form := by
  let names := target.positions.map fun i => "arg" ++ toString i
  let fallback := if target.returns.isVoid then "undefined" else "ptr(0x0)"
  let call := "                    return (" ++ callback.expression ++ ").call(null" ++
    moreArguments names ++ ");"
  let caught := r"                } catch (e) { error(" ++
    Json.quote ("Hook " ++ name ++ " replace error:") ++ ", e.stack); return " ++ fallback ++ r"; }"
  let function := ["            function(" ++ ", ".intercalate names ++ r") {",
    r"                try {", call, caught, r"            },"]
  have nested : Nested function := by
    refine .cons ?_ (.cons ?_ (.cons ?_ (.cons ?_ (.cons ?_ nested_nil))))
    · exact (IsDeep.append ⟨"    function(", rfl⟩ _).append _
    · exact ⟨r"        try {", rfl⟩
    · exact (((IsDeep.append ⟨"            return (", rfl⟩ _).append _).append _).append _
    · exact ((((IsDeep.append ⟨r"        } catch (e) { error(", rfl⟩ _).append _).append _).append _)
    · exact ⟨r"    },", rfl⟩
  have calls : Calls callback call :=
    ⟨"                    return ", "null" ++ moreArguments names ++ ");", by
      simp only [call, String.append_assoc]
      rfl⟩
  exact ⟨_, rfl, .replace callback function nested ⟨call, by simp [function], calls⟩⟩

theorem nested_stageEnd (name stage : String) : Nested [stageEndLine name stage] := by
  refine .cons ?_ nested_nil
  exact (IsDeep.append ⟨r"        } catch (e) { error(", rfl⟩ _).append _

theorem part_enterLines (name : String) (target : HookTarget) (enter : Option Callback) (keep : Bool) :
    Part (enter.isSome ∨ keep = true) r"            onEnter: function(args) {"
      (enterLines name target enter keep) := by
  constructor
  · intro unneeded
    obtain ⟨observes, keeps⟩ := not_or.1 unneeded
    simp [enterLines, observes, keeps]
  · intro needed
    have wanted : (enter.isSome || keep) = true := by simpa using needed
    simp only [enterLines, wanted, if_true]
    refine ⟨_, ?_, rfl⟩
    refine Nested.append ?_ ?_
    · split
      · refine .cons ?_ nested_nil
        exact (IsDeep.append ⟨"        this.__args = [", rfl⟩ _).append _
      · exact nested_nil
    · split
      · refine .cons ⟨r"        try {", rfl⟩ (.cons ?_ (nested_stageEnd name _))
        exact (((IsDeep.append ⟨"            (", rfl⟩ _).append _).append _).append _
      · exact nested_nil

theorem part_leaveLines (name : String) (target : HookTarget) (leave : Option Callback) :
    Part leave.isSome r"            onLeave: function(retval) {" (leaveLines name target leave) := by
  cases leave with
  | none => exact ⟨fun _ => rfl, nofun⟩
  | some callback =>
    refine ⟨fun absent => absurd rfl absent, fun _ => ?_⟩
    let kept := moreArguments (target.positions.map fun i => "this.__args[" ++ toString i ++ "]")
    let call := "                    const _r = (" ++ callback.expression ++ ").call(this, " ++
      target.presentedReturn ++ kept ++ ");"
    let replaced := if target.returns.isVoid then []
      else ["                    if (_r !== undefined) retval.replace(ptr(_r));"]
    have nested : Nested ([r"                try {", call] ++ replaced ++ [stageEndLine name "onLeave"]) := by
      refine Nested.append (.append (.cons ⟨r"        try {", rfl⟩ (.cons ?_ nested_nil)) ?_)
        (nested_stageEnd name _)
      · exact (((((IsDeep.append ⟨"            const _r = (", rfl⟩ _).append _).append _).append _).append _)
      · simp only [replaced]
        split
        · exact nested_nil
        · exact .cons ⟨"            if (_r !== undefined) retval.replace(ptr(_r));", rfl⟩ nested_nil
    exact ⟨_, nested, by simp [leaveLines, call, kept, replaced]⟩

theorem calls_enterLines (name : String) (target : HookTarget) (callback : Callback) (keep : Bool) :
    ∃ line ∈ enterLines name target (some callback) keep, Calls callback line := by
  refine ⟨"                    (" ++ callback.expression ++ ").call(this" ++
    moreArguments target.presentedArguments ++ ");", by simp [enterLines], ?_⟩
  refine ⟨"                    ", "this" ++ moreArguments target.presentedArguments ++ ");", ?_⟩
  simp only [String.append_assoc]
  rfl

theorem calls_leaveLines (name : String) (target : HookTarget) (callback : Callback) :
    ∃ line ∈ leaveLines name target (some callback), Calls callback line := by
  let kept := moreArguments (target.positions.map fun i => "this.__args[" ++ toString i ++ "]")
  refine ⟨"                    const _r = (" ++ callback.expression ++ ").call(this, " ++
    target.presentedReturn ++ kept ++ ");", by simp [leaveLines, kept], ?_⟩
  refine ⟨"                    const _r = ", "this, " ++ target.presentedReturn ++ kept ++ ");", ?_⟩
  simp only [String.append_assoc]
  rfl

theorem form_observe (name : String) (target : HookTarget) (enter leave : Option Callback) :
    ∃ form, observeLines name target enter leave =
        r"    try {" :: target.addressLine :: form ++ [hookEndLine name] ∧
      (HookAction.observe enter leave).Form target form := by
  let keep := leave.isSome && !target.params.isEmpty
  have needed : (enter.isSome ∨ keep = true) =
      (enter.isSome ∨ leave.isSome ∧ target.params ≠ []) := by simp [keep]
  refine ⟨_, ?_, .observe enter leave (enterLines name target enter keep) (leaveLines name target leave)
    (needed ▸ part_enterLines name target enter keep) (part_leaveLines name target leave) ?_ ?_⟩
  · simp [observeLines, keep]
  · rintro callback rfl
    exact calls_enterLines name target callback keep
  · rintro callback rfl
    exact calls_leaveLines name target callback

/-- The step for a target covers it. -/
theorem Hook.covers_stepAt (hook : Hook) (declaration : Declaration) (executable : String)
    (target : HookTarget) :
    hook.Covers declaration.modules executable target
      (hook.stepAt (declaration.dependencies executable) target).lines := by
  have isDependency : target.module ∈ declaration.dependencies executable ↔
      target.module = executable ∨ target.module ∈ declaration.modules := by
    simp [Declaration.dependencies]
  unfold Hook.stepAt
  split
  next present =>
    cases action : hook.action with
    | replace callback =>
      obtain ⟨form, lines, isForm⟩ := form_replace hook.name target callback
      simp only [HookStep.lines, lines]
      exact hook.covers_install (isDependency.1 present) (action ▸ isForm)
    | observe enter leave =>
      obtain ⟨form, lines, isForm⟩ := form_observe hook.name target enter leave
      simp only [HookStep.lines, lines]
      exact hook.covers_install (isDependency.1 present) (action ▸ isForm)
  next absent =>
    obtain ⟨notExecutable, notModule⟩ := not_or.1 (mt isDependency.2 absent)
    exact .foreign notExecutable notModule

theorem Hook.coversAll_steps (hook : Hook) (declaration : Declaration) (executable : String)
    (targets : List HookTarget) :
    hook.CoversAll declaration.modules executable targets
      ((hook.steps (declaration.dependencies executable) targets).flatMap HookStep.lines) := by
  cases targets with
  | nil => exact .notFound
  | cons first rest =>
    have each : List.Forall₂ (hook.Covers declaration.modules executable) (first :: rest)
        ((first :: rest).map fun target =>
          (hook.stepAt (declaration.dependencies executable) target).lines) := by
      rw [List.forall₂_map_right_iff, List.forall₂_same]
      exact fun target _ => hook.covers_stepAt declaration executable target
    have covers := Hook.CoversAll.targets (first :: rest) _ (List.cons_ne_nil _ _) each
    simpa [Hook.steps, List.flatMap_def, Function.comp_def] using covers

end

/-! ## The whole script -/

/-- The block that installs the hooks stands in the script, between other blocks. -/
theorem Script.exists_text_eq (script : Script) :
    ∃ before after, script.text = before ++ "\n\n" ++ script.hooksBlock ++ "\n\n" ++ after := by
  refine ⟨"\n\n".intercalate (filledBlocks (script.blocksBefore .hooks)), script.behind .hooks, ?_⟩
  rw [script.text_eq_around .hooks, before, block, hooksBlock, part_functionBlock]
  simp only [String.append_assoc]

namespace Declaration

/-- The lines for each hook. -/
def hookLines (declaration : Declaration) (game : Game) (patch : Patch) : List (List String) :=
  declaration.hooks.map fun hook =>
    (hook.steps (declaration.dependencies game.executable)
      (hook.targets declaration.modules game.executable patch)).flatMap HookStep.lines

theorem lines_hooks (declaration : Declaration) (game : Game) (patch : Patch) :
    (Script.ofMod declaration game patch).hooks.flatMap HookStep.lines =
      (declaration.hookLines game patch).flatten := by
  simp only [Script.ofMod, hookSteps, hookTargets, hookLines, List.flatMap_map, List.flatMap_assoc]
  rw [← List.flatMap_def]

/-- What a script installs is what its hooks resolve to. The targets that are known of each hook are the
ones to which it resolves, and there are no others. In the script, the body of `__installHooks` has the
lines for each hook in the order of the declaration: one report if the hook resolves to nothing, and
otherwise, target by target, one report if the module is neither the executable nor one of the mod, or one
`try` that intercepts the function at the address, as the action of the hook says. -/
theorem installs_resolved_targets (declaration : Declaration) (game : Game) (patch : Patch) :
    (∀ (hook : Hook) (targets : List HookTarget),
      hook.Resolves declaration.modules game.executable patch targets ↔
        targets = hook.targets declaration.modules game.executable patch) ∧
    List.Forall₂ (fun hook entry => entry.1 = hook ∧
        hook.Resolves declaration.modules game.executable patch entry.2)
      declaration.hooks (declaration.hookTargets game patch) ∧
    ∃ parts before after,
      declaration.script game patch = before ++ "\n\n" ++
        joinLines (r"function __installHooks() {" :: parts.flatten ++ [r"}"]) ++ "\n\n" ++ after ∧
      List.Forall₂ (fun hook lines => ∃ targets,
          hook.Resolves declaration.modules game.executable patch targets ∧
          hook.CoversAll declaration.modules game.executable targets lines)
        declaration.hooks parts := by
  refine ⟨fun hook targets => Hook.resolves_iff, ?_, ?_⟩
  · rw [hookTargets, List.forall₂_map_right_iff, List.forall₂_same]
    exact fun hook _ => ⟨rfl, Hook.resolves_iff.2 rfl⟩
  · obtain ⟨before, after, script⟩ := (Script.ofMod declaration game patch).exists_text_eq
    refine ⟨declaration.hookLines game patch, before, after, ?_, ?_⟩
    · rw [Declaration.script, script, Script.hooksBlock, Script.functionBlock, lines_hooks]
      rfl
    · rw [hookLines, List.forall₂_map_right_iff, List.forall₂_same]
      exact fun hook _ => ⟨_, Hook.resolves_iff.2 rfl, hook.coversAll_steps declaration _ _⟩

end Declaration

end ModScript
