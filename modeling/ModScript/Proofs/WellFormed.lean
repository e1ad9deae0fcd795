import ModScript.Proofs.Acceptance
import ModScript.Proofs.OrderedMap

/-!
# Well-formed declarations

What a mod asks for, as it was given, and which rules it has to keep. The rules are stated of the drafts
alone, without the checks by which a declaration is built. A declaration that was built has kept all of
them, and a step is refused only if the declaration with it would break one.

Results:
1. `HookDraft.of_check`, `HookDraft.exists_check` and their likes: a part is accepted exactly when it
   keeps its rules.
2. `DeclarationDraft.WellFormed.adding_iff`: the rules that one more step has to keep.
3. `Declaration.exists_add_iff`: a step is accepted exactly when the declaration with it keeps all rules.
4. `Declaration.attempts_wellFormed`: all declarations that can be built from the start.
-/

namespace ModScript

/-! ## Rules -/

/-- An ASCII letter, `_` or `$`, and then any number of these and of digits. -/
def IsIdentifier (name : String) : Prop :=
  ∃ first rest, name.toList = first :: rest ∧ (first.isAlpha = true ∨ first = '_' ∨ first = '$') ∧
    ∀ c ∈ rest, c.isAlphanum = true ∨ c = '_' ∨ c = '$'

/-- The callback can do something. -/
def Callback.CanAct : Callback → Prop
  | .script source => Text.trim source ≠ ""
  | .emit event => event ≠ ""
  | .writeVariable name _ => name ≠ ""
  | .noop | .log _ _ | .returnValue _ => True

/-- A variable is left to the tables altogether, or has a place and a type; a block has a size as well. -/
structure VariableDraft.WellFormed (draft : VariableDraft) : Prop where
  named : Text.trim draft.name ≠ ""
  place :
    (draft.location = none ∧ draft.kind = none ∧ draft.pointer = none ∧ draft.size = none) ∨
    ∃ module address kind, draft.location = some (module, address) ∧ module ≠ "" ∧
      draft.kind = some kind ∧ (kind = .block → ∃ size, draft.size = some size ∧ 0 < size)

/-- A hook either replaces a function or observes it. -/
structure HookDraft.WellFormed (draft : HookDraft) : Prop where
  named : Text.trim draft.name ≠ ""
  module : ∀ module address, draft.location = some (module, address) → module ≠ ""
  params : ∀ params, draft.params = some params → .void ∉ params
  action : (draft.replacement.isSome ∧ draft.enter = none ∧ draft.leave = none) ∨
    (draft.replacement = none ∧ (draft.enter.isSome ∨ draft.leave.isSome))
  callbacks : ∀ callback, some callback = draft.replacement ∨ some callback = draft.enter ∨
    some callback = draft.leave → callback.CanAct

structure LoopDraft.WellFormed (draft : LoopDraft) : Prop where
  named : IsIdentifier draft.name
  interval : (Duration.ofMilliseconds 1).nanoseconds ≤ draft.interval.nanoseconds
  handler : ∃ handler, draft.handler = some handler ∧ handler.CanAct

structure Nop.WellFormed (nop : Nop) : Prop where
  module : nop.module ≠ ""
  size : 0 < nop.size

/-- All that a mod asks for, as it was given. -/
structure DeclarationDraft where
  name : String
  game : String
  modules : List String
  vars : List VariableDraft
  hooks : List HookDraft
  loops : List LoopDraft
  nops : List Nop
  receivers : OrderedMap Callback
  events : OrderedMap EventHandler
  init : Option Callback
  exit : Option Callback

structure DeclarationDraft.WellFormed (d : DeclarationDraft) : Prop where
  named : Text.trim d.name ≠ ""
  game : Text.trim d.game ≠ ""
  someModule : d.modules ≠ []
  modules : ∀ module ∈ d.modules, module ≠ ""
  vars : ∀ draft ∈ d.vars, draft.WellFormed
  varNames : (d.vars.map VariableDraft.name).Nodup
  hooks : ∀ draft ∈ d.hooks, draft.WellFormed
  loops : ∀ draft ∈ d.loops, draft.WellFormed
  loopNames : (d.loops.map LoopDraft.name).Nodup
  nops : ∀ nop ∈ d.nops, nop.WellFormed
  receivers : ∀ name callback, d.receivers.get? name = some callback → name ≠ "" ∧ callback.CanAct
  receiverNames : d.receivers.keys.Nodup
  events : ∀ name ∈ d.events.keys, name ≠ ""
  eventNames : d.events.keys.Nodup
  init : ∀ callback, d.init = some callback → callback.CanAct
  exit : ∀ callback, d.exit = some callback → callback.CanAct

namespace DeclarationDraft

/-- What a mod asks for that asks for nothing. -/
def new (name game : String) (modules : List String) : DeclarationDraft where
  name
  game
  modules
  vars := []
  hooks := []
  loops := []
  nops := []
  receivers := .empty
  events := .empty
  init := none
  exit := none

/-- The draft with one more step, whatever the rules are. -/
def adding (d : DeclarationDraft) : Declaration.Step → DeclarationDraft
  | .variable draft => { d with vars := d.vars ++ [draft] }
  | .hook draft => { d with hooks := d.hooks ++ [draft] }
  | .loop draft => { d with loops := d.loops ++ [draft] }
  | .nop nop => { d with nops := d.nops ++ [nop] }
  | .receive name callback => { d with receivers := d.receivers.insert name callback }
  | .on event handler => { d with events := d.events.insert event handler }
  | .init callback => { d with init := some callback }
  | .exit callback => { d with exit := some callback }

end DeclarationDraft

/-! ## Drafts of what was accepted -/

/-- The draft from which the variable was made. -/
def Variable.draft (known : Variable) : VariableDraft :=
  match known.place with
  | none => { name := known.name }
  | some (module, entry) =>
    { name := known.name, location := some (module, entry.address), pointer := entry.pointer,
      kind := some entry.kind, size := entry.size }

def Hook.draft (hook : Hook) : HookDraft :=
  match hook.action with
  | .replace callback =>
    { name := hook.name, location := hook.location, params := hook.params, returns := hook.returns,
      replacement := some callback }
  | .observe enter leave =>
    { name := hook.name, location := hook.location, params := hook.params, returns := hook.returns,
      enter, leave }

def Loop.draft (loop : Loop) : LoopDraft := ⟨loop.name, loop.interval, some loop.handler⟩

/-- The draft from which the declaration was built. -/
def Declaration.draft (d : Declaration) : DeclarationDraft where
  name := d.name
  game := d.game
  modules := d.modules
  vars := d.vars.map Variable.draft
  hooks := d.hooks.map Hook.draft
  loops := d.loops.map Loop.draft
  nops := d.nops
  receivers := d.receivers
  events := d.events
  init := d.init
  exit := d.exit

@[simp]
theorem Variable.draft_name (known : Variable) : known.draft.name = known.name := by
  unfold Variable.draft
  split <;> rfl

/-! ## Parts -/

theorem isBlankText_eq_false_iff {s : String} : Text.isBlankText s = false ↔ Text.trim s ≠ "" := by
  rw [Ne, Text.trim_eq_empty_iff, Bool.not_eq_true]

theorem isIdentifier_iff {name : String} : isIdentifier name = true ↔ IsIdentifier name := by
  unfold isIdentifier IsIdentifier
  cases name.toList with
  | nil => simp [isIdentifierChars]
  | cons first rest =>
    simp [isIdentifierChars, beginsIdentifier, continuesIdentifier, or_assoc]

theorem Callback.fault?_eq_none_iff {callback : Callback} :
    callback.fault? = none ↔ callback.CanAct := by
  cases callback with
  | script source => simp [fault?, CanAct, isBlankText_eq_false_iff]
  | emit event => simp [fault?, CanAct]
  | writeVariable name value => simp [fault?, CanAct]
  | noop => simp [fault?, CanAct]
  | log level message => simp [fault?, CanAct]
  | returnValue value => simp [fault?, CanAct]

theorem CallbackPlace.check_eq_ok_iff {place : CallbackPlace} {callback : Callback} :
    place.check callback = .ok () ↔ callback.CanAct := by
  rw [Declaration.check_eq_ok_iff, Callback.fault?_eq_none_iff]

namespace VariableDraft

variable {draft : VariableDraft}

theorem entry_eq_ok_iff {module : String} {address : Address} {accepted : VariableEntry} :
    draft.entry module address = .ok accepted ↔
      module ≠ "" ∧ ∃ kind, draft.kind = some kind ∧
        (kind = .block → ∃ size, draft.size = some size ∧ 0 < size) ∧
        accepted = ⟨address, kind, draft.pointer, draft.size⟩ := by
  have unsized (kind : VariableType) :
      (kind.requiresSize && draft.size.all (· == 0)) = true ↔
        ¬ (kind = .block → ∃ size, draft.size = some size ∧ 0 < size) := by
    cases draft.size <;> simp [VariableType.requiresSize, UInt64.pos_iff_ne_zero]
  unfold entry
  split
  next empty => simp_all
  next filled =>
    cases typed : draft.kind with
    | none => simp
    | some kind =>
      dsimp only
      split
      next refused => simpa using fun _ sized => absurd sized ((unsized kind).1 refused)
      next taken =>
        have sized := not_not.1 (mt (unsized kind).2 taken)
        simpa [show module ≠ "" by simpa using filled, eq_comm] using fun _ => sized

theorem of_check {known : Variable} (checked : draft.check = .ok known) :
    draft.WellFormed ∧ known.draft = draft := by
  unfold check at checked
  split at checked
  · cases checked
  next shown =>
    have named : Text.trim draft.name ≠ "" := isBlankText_eq_false_iff.1 (by simpa using shown)
    split at checked
    next module address located =>
      cases placed : draft.entry module address with
      | error fault =>
        rw [placed] at checked
        cases checked
      | ok entry =>
        rw [placed] at checked
        cases checked
        obtain ⟨filled, kind, typed, sized, rfl⟩ := entry_eq_ok_iff.1 placed
        refine ⟨⟨named, .inr ⟨module, address, kind, located, filled, typed, sized⟩⟩, ?_⟩
        simp only [Variable.draft, ← typed, ← located]
    next unlocated =>
      split at checked
      · cases checked
      next nothing =>
        cases checked
        obtain ⟨⟨untyped, unpointed⟩, unsized⟩ : (draft.kind = none ∧ draft.pointer = none) ∧
          draft.size = none := by simpa using nothing
        refine ⟨⟨named, .inl ⟨unlocated, untyped, unpointed, unsized⟩⟩, ?_⟩
        rw [Variable.draft, ← unlocated, ← untyped, ← unpointed, ← unsized]

theorem exists_check (wellFormed : draft.WellFormed) : ∃ known, draft.check = .ok known := by
  have named := isBlankText_eq_false_iff.2 wellFormed.named
  rcases wellFormed.place with ⟨unlocated, untyped, unpointed, unsized⟩ |
    ⟨module, address, kind, located, filled, typed, sized⟩
  · exact ⟨⟨draft.name, none⟩, by simp [check, named, unlocated, untyped, unpointed, unsized]⟩
  · have placed : draft.entry module address = .ok ⟨address, kind, draft.pointer, draft.size⟩ :=
      entry_eq_ok_iff.2 ⟨filled, kind, typed, sized, rfl⟩
    exact ⟨_, by simp only [check, named, located, placed]; rfl⟩

end VariableDraft

theorem forM_check_eq_ok_iff {place : CallbackPlace} {callbacks : List Callback} :
    callbacks.forM place.check = .ok () ↔ ∀ callback ∈ callbacks, callback.CanAct := by
  induction callbacks with
  | nil => simp [pure, Except.pure]
  | cons callback rest ih =>
    have first : (callback :: rest).forM place.check =
        (place.check callback >>= fun _ => rest.forM place.check) := rfl
    rw [first, bind_eq_ok_iff, List.forall_mem_cons, ← ih, ← @CallbackPlace.check_eq_ok_iff place]
    exact ⟨fun ⟨_, sound⟩ => sound, fun sound => ⟨(), sound⟩⟩

namespace HookDraft

variable {draft : HookDraft}

theorem action_eq_ok {action : HookAction} (taken : draft.action = .ok action) :
    ((draft.replacement.isSome ∧ draft.enter = none ∧ draft.leave = none) ∨
      (draft.replacement = none ∧ (draft.enter.isSome ∨ draft.leave.isSome))) ∧
    (∀ callback, some callback = draft.replacement ∨ some callback = draft.enter ∨
      some callback = draft.leave ↔ callback ∈ action.callbacks) ∧
    (Hook.mk draft.name draft.location draft.params draft.returns action).draft = draft := by
  obtain ⟨name, location, params, returns, enter, leave, replacement⟩ := draft
  cases replacement <;> cases enter <;> cases leave <;> cases taken <;>
    simp [HookAction.callbacks, Hook.draft]

theorem of_check {hook : Hook} (checked : draft.check = .ok hook) :
    draft.WellFormed ∧ hook.draft = draft := by
  dsimp only [check] at checked
  split at checked
  · cases checked
  next shown =>
    split at checked
    · cases checked
    next filled =>
      split at checked
      · cases checked
      next parameters =>
        obtain ⟨action, taken, checked⟩ := bind_eq_ok_iff.1 checked
        obtain ⟨_, sound, checked⟩ := bind_eq_ok_iff.1 checked
        cases checked
        obtain ⟨form, callbacks, same⟩ := action_eq_ok taken
        refine ⟨⟨isBlankText_eq_false_iff.1 (by simpa using shown), ?_, ?_, form, ?_⟩, same⟩
        · rintro module address located rfl
          simp [located] at filled
        · intro params declared void
          simp only [declared, Option.any_some, List.any_eq_true, not_exists, not_and] at parameters
          exact parameters .void void rfl
        · exact fun callback present => forM_check_eq_ok_iff.1 sound callback ((callbacks callback).1 present)

theorem exists_action (wellFormed : draft.WellFormed) : ∃ action, draft.action = .ok action := by
  obtain ⟨-, -, -, form, -⟩ := wellFormed
  obtain ⟨name, location, params, returns, enter, leave, replacement⟩ := draft
  cases replacement <;> cases enter <;> cases leave <;> simp [action] at form ⊢

theorem exists_check (wellFormed : draft.WellFormed) : ∃ hook, draft.check = .ok hook := by
  have named := isBlankText_eq_false_iff.2 wellFormed.named
  have filled : (draft.location.any fun place => place.1.isEmpty) = false := by
    cases located : draft.location with
    | none => rfl
    | some place => simpa using wellFormed.module place.1 place.2 located
  have parameters : (draft.params.any fun params => params.any NativeType.isVoid) = false := by
    cases declared : draft.params with
    | none => rfl
    | some params =>
      refine List.any_eq_false.2 fun type present void => wellFormed.params params declared ?_
      exact eq_of_beq void ▸ present
  obtain ⟨action, taken⟩ := exists_action wellFormed
  have sound : action.callbacks.forM (CallbackPlace.hook draft.name).check = .ok () :=
    forM_check_eq_ok_iff.2 fun callback present =>
      wellFormed.callbacks callback (((action_eq_ok taken).2.1 callback).2 present)
  refine ⟨⟨draft.name, draft.location, draft.params, draft.returns, action⟩, ?_⟩
  unfold check
  rw [named, filled, parameters, taken]
  exact bind_eq_ok_iff.2 ⟨action, rfl, bind_eq_ok_iff.2 ⟨(), sound, rfl⟩⟩

end HookDraft

namespace LoopDraft

variable {draft : LoopDraft}

theorem of_check {loop : Loop} (checked : draft.check = .ok loop) :
    draft.WellFormed ∧ loop.draft = draft := by
  obtain ⟨named, long, handler, given, sound, rfl⟩ := check_eq_ok checked
  refine ⟨⟨isIdentifier_iff.1 named, long, handler, given, Callback.fault?_eq_none_iff.1 sound⟩, ?_⟩
  rw [Loop.draft, ← given]

theorem exists_check (wellFormed : draft.WellFormed) : ∃ loop, draft.check = .ok loop := by
  have named := isIdentifier_iff.2 wellFormed.named
  have long := Nat.not_lt.2 wellFormed.interval
  obtain ⟨handler, given, acts⟩ := wellFormed.handler
  have sound : (CallbackPlace.loop draft.name).check handler = .ok () :=
    CallbackPlace.check_eq_ok_iff.2 acts
  exact ⟨⟨draft.name, draft.interval, handler⟩, by simp [check, named, long, given, sound]⟩

end LoopDraft

theorem Nop.check_eq_ok_iff {nop accepted : Nop} :
    nop.check = .ok accepted ↔ nop.WellFormed ∧ accepted = nop := by
  have wellFormed : nop.WellFormed ↔ nop.module ≠ "" ∧ 0 < nop.size :=
    ⟨fun kept => ⟨kept.module, kept.size⟩, fun ⟨module, size⟩ => ⟨module, size⟩⟩
  rw [wellFormed]
  unfold Nop.check
  split
  next empty => simp_all
  next filled =>
    split
    next none => simp [none]
    next some =>
      have kept : nop.module ≠ "" ∧ 0 < nop.size := ⟨by simpa using filled, Nat.pos_of_ne_zero some⟩
      simp [kept, eq_comm]

/-! ## Steps -/

/-- What a step has to keep in view of what is already asked for. -/
def DeclarationDraft.Allows (d : DeclarationDraft) : Declaration.Step → Prop
  | .variable draft => draft.WellFormed ∧ draft.name ∉ d.vars.map VariableDraft.name
  | .hook draft => draft.WellFormed
  | .loop draft => draft.WellFormed ∧ draft.name ∉ d.loops.map LoopDraft.name
  | .nop nop => nop.WellFormed
  | .receive name callback => name ≠ "" ∧ callback.CanAct
  | .on event _ => event ≠ ""
  | .init callback => callback.CanAct
  | .exit callback => callback.CanAct

theorem forall_mem_append_singleton {α : Type} {P : α → Prop} {l : List α} {a : α} :
    (∀ b ∈ l ++ [a], P b) ↔ (∀ b ∈ l, P b) ∧ P a := by
  simp [or_imp, forall_and]

theorem nodup_append_singleton {l : List String} {a : String} : (l ++ [a]).Nodup ↔ l.Nodup ∧ a ∉ l := by
  rw [List.nodup_append]
  grind

/-- The rules of a declaration with one more step are those of the step. -/
theorem DeclarationDraft.WellFormed.adding_iff {d : DeclarationDraft} (kept : d.WellFormed)
    (step : Declaration.Step) : (d.adding step).WellFormed ↔ d.Allows step := by
  -- A step touches one field, with its names if it has any; all other rules are kept as they were.
  constructor
  · intro after
    cases step with
    | «variable» draft =>
      refine ⟨(forall_mem_append_singleton.1 after.vars).2, ?_⟩
      have names := after.varNames
      rw [adding, List.map_append] at names
      exact (nodup_append_singleton.1 names).2
    | hook draft => exact (forall_mem_append_singleton.1 after.hooks).2
    | loop draft =>
      refine ⟨(forall_mem_append_singleton.1 after.loops).2, ?_⟩
      have names := after.loopNames
      rw [adding, List.map_append] at names
      exact (nodup_append_singleton.1 names).2
    | nop nop => exact (forall_mem_append_singleton.1 after.nops).2
    | receive name callback =>
      exact after.receivers name callback (by rw [adding, OrderedMap.get?_insert, if_pos rfl])
    | on event handler =>
      refine after.events event (OrderedMap.mem_keys_iff.2 ⟨handler, ?_⟩)
      rw [adding, OrderedMap.get?_insert, if_pos rfl]
    | init callback => exact after.init callback rfl
    | exit callback => exact after.exit callback rfl
  · intro allowed
    cases step with
    | «variable» draft =>
      refine { kept with vars := forall_mem_append_singleton.2 ⟨kept.vars, allowed.1⟩, varNames := ?_ }
      rw [adding, List.map_append]
      exact nodup_append_singleton.2 ⟨kept.varNames, allowed.2⟩
    | hook draft => exact { kept with hooks := forall_mem_append_singleton.2 ⟨kept.hooks, allowed⟩ }
    | loop draft =>
      refine { kept with loops := forall_mem_append_singleton.2 ⟨kept.loops, allowed.1⟩, loopNames := ?_ }
      rw [adding, List.map_append]
      exact nodup_append_singleton.2 ⟨kept.loopNames, allowed.2⟩
    | nop nop => exact { kept with nops := forall_mem_append_singleton.2 ⟨kept.nops, allowed⟩ }
    | receive name callback =>
      refine { kept with receivers := fun known value found => ?_, receiverNames := OrderedMap.nodup_keys _ }
      rw [adding, OrderedMap.get?_insert] at found
      split at found
      next same =>
        cases found
        exact same ▸ allowed
      next => exact kept.receivers known value found
    | on event handler =>
      refine { kept with events := fun known present => ?_, eventNames := OrderedMap.nodup_keys _ }
      rw [adding, OrderedMap.keys_insert] at present
      split at present
      next => exact kept.events known present
      next =>
        rcases List.mem_append.1 present with known | new
        · exact kept.events _ known
        · exact List.mem_singleton.1 new ▸ allowed
    | init callback =>
      refine { kept with init := fun given same => ?_ }
      cases same
      exact allowed
    | exit callback =>
      refine { kept with exit := fun given same => ?_ }
      cases same
      exact allowed

namespace Declaration

variable {d d' : Declaration} {step : Step}

theorem map_draft_name (vars : List Variable) :
    (vars.map Variable.draft).map VariableDraft.name = vars.map Variable.name := by
  rw [List.map_map]
  exact List.map_congr_left fun known _ => Variable.draft_name known

/-- An accepted step is allowed, and its draft is kept as it is. -/
theorem allows_of_add (added : d.add step = .ok d') :
    d.draft.Allows step ∧ d'.draft = d.draft.adding step := by
  cases adds_of_add added with
  | @«variable» draft accepted checked fresh =>
    obtain ⟨kept, same⟩ := VariableDraft.of_check checked
    refine ⟨⟨kept, ?_⟩, ?_⟩
    · rw [← same, Variable.draft_name, Declaration.draft, map_draft_name]
      simpa using fresh
    · simp [Declaration.draft, DeclarationDraft.adding, same]
  | hook checked =>
    obtain ⟨kept, same⟩ := HookDraft.of_check checked
    exact ⟨kept, by simp [draft, DeclarationDraft.adding, same]⟩
  | @loop draft accepted checked fresh =>
    obtain ⟨kept, same⟩ := LoopDraft.of_check checked
    refine ⟨⟨kept, ?_⟩, ?_⟩
    · simpa [← same, Declaration.draft, Loop.draft] using fresh
    · simp [Declaration.draft, DeclarationDraft.adding, same]
  | nop checked =>
    obtain ⟨kept, rfl⟩ := Nop.check_eq_ok_iff.1 checked
    exact ⟨kept, rfl⟩
  | receive named sound => exact ⟨⟨named, Callback.fault?_eq_none_iff.1 sound⟩, rfl⟩
  | on named => exact ⟨named, rfl⟩
  | init sound => exact ⟨Callback.fault?_eq_none_iff.1 sound, rfl⟩
  | exit sound => exact ⟨Callback.fault?_eq_none_iff.1 sound, rfl⟩

theorem exists_add_of_allows (allowed : d.draft.Allows step) : ∃ d', d.add step = .ok d' := by
  suffices ∃ d', d.Adds step d' from this.imp fun _ => add_of_adds
  cases step with
  | «variable» draft =>
    obtain ⟨kept, fresh⟩ := allowed
    obtain ⟨accepted, checked⟩ := VariableDraft.exists_check kept
    refine ⟨_, .variable checked ?_⟩
    rw [← (VariableDraft.of_check checked).2, Variable.draft_name, Declaration.draft,
      map_draft_name] at fresh
    simpa using fresh
  | hook draft =>
    obtain ⟨accepted, checked⟩ := HookDraft.exists_check allowed
    exact ⟨_, .hook checked⟩
  | loop draft =>
    obtain ⟨kept, fresh⟩ := allowed
    obtain ⟨accepted, checked⟩ := LoopDraft.exists_check kept
    refine ⟨_, .loop checked ?_⟩
    simpa [← (LoopDraft.of_check checked).2, Declaration.draft, Loop.draft] using fresh
  | nop nop => exact ⟨_, .nop (Nop.check_eq_ok_iff.2 ⟨allowed, rfl⟩)⟩
  | receive name callback => exact ⟨_, .receive allowed.1 (Callback.fault?_eq_none_iff.2 allowed.2)⟩
  | on event handler => exact ⟨_, .on allowed⟩
  | init callback => exact ⟨_, .init (Callback.fault?_eq_none_iff.2 allowed)⟩
  | exit callback => exact ⟨_, .exit (Callback.fault?_eq_none_iff.2 allowed)⟩

/-- A step is accepted exactly when the declaration with it keeps the rules. -/
theorem exists_add_iff (kept : d.draft.WellFormed) :
    (∃ d', d.add step = .ok d') ↔ (d.draft.adding step).WellFormed := by
  rw [kept.adding_iff]
  exact ⟨fun ⟨_, added⟩ => (allows_of_add added).1, exists_add_of_allows⟩

theorem draft_wellFormed_of_add (kept : d.draft.WellFormed) (added : d.add step = .ok d') :
    d'.draft.WellFormed := by
  rw [(allows_of_add added).2]
  exact (exists_add_iff kept).1 ⟨d', added⟩

/-! ## Built declarations -/

variable {name game : String} {modules : List String}

theorem draft_of_start (started : start name game modules = .ok d) :
    d.draft = .new name game modules ∧ d.draft.WellFormed := by
  obtain ⟨named, forGame, some, filled, rfl⟩ := start_eq_ok started
  refine ⟨rfl, ⟨isBlankText_eq_false_iff.1 named, isBlankText_eq_false_iff.1 forGame, some, ?_, ?_, ?_, ?_,
    ?_, ?_, ?_, ?_, ?_, ?_, ?_, ?_, ?_⟩⟩
  case refine_1 => exact fun module present empty => filled (empty ▸ present)
  all_goals simp [draft, OrderedMap.keys, OrderedMap.get?, OrderedMap.empty]

/-- Every accepted declaration keeps the rules. -/
theorem Accepted.draft_wellFormed (accepted : d.Accepted) : d.draft.WellFormed := by
  induction accepted with
  | start started => exact (draft_of_start started).2
  | add _ added kept => exact draft_wellFormed_of_add kept added

theorem Accepted.nodup_vars (accepted : d.Accepted) : (d.vars.map Variable.name).Nodup := by
  rw [← map_draft_name]
  exact accepted.draft_wellFormed.varNames

theorem exists_start (kept : (DeclarationDraft.new name game modules).WellFormed) :
    ∃ d, start name game modules = .ok d := by
  have named := isBlankText_eq_false_iff.2 kept.named
  have forGame := isBlankText_eq_false_iff.2 kept.game
  have some : modules.isEmpty = false := List.isEmpty_eq_false_iff.2 kept.someModule
  have filled : modules.findIdx? String.isEmpty = none :=
    List.findIdx?_eq_none_iff.2 fun module present => by simpa using kept.modules module present
  dsimp only [DeclarationDraft.new] at named forGame
  simp [start, named, forGame, some, filled]

end Declaration

end ModScript
