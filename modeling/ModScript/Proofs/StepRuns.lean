import ModScript.Proofs.WellFormed

/-!
# Runs of steps

A declaration is built by a run of steps from its start. Whether the run is accepted can be told from the
draft that it leads to, except for one thing: of what is received under one name, and of what is done at the
beginning and at the end, only the last callback stays. Each callback on the way has to be one that can act.

Results:
1. `DeclarationDraft.allows_of_within`: a step that leads towards a well-formed draft keeps its rules.
2. `DeclarationDraft.allowsAll_iff`: which runs keep the rules.
3. `Declaration.exists_built_iff`, `Declaration.draft_of_built`: which runs from a start are accepted, and what
   they lead to.
4. `Declaration.start_eq_error_iff`: the first of the name, the game and the modules that is refused.
-/

namespace ModScript

/-! ## Drafts -/

/-- What the step leaves to a callback can be done. -/
def Declaration.Step.CanAct : Declaration.Step → Prop
  | .receive _ callback | .init callback | .exit callback => callback.CanAct
  | .variable _ | .hook _ | .loop _ | .nop _ | .on _ _ => True

namespace DeclarationDraft

variable {d e : DeclarationDraft} {step : Declaration.Step} {steps : List Declaration.Step}

/-- Each step keeps its rules in view of the steps before it. -/
def AllowsAll (d : DeclarationDraft) : List Declaration.Step → Prop
  | [] => True
  | step :: rest => d.Allows step ∧ (d.adding step).AllowsAll rest

/-- Whatever `d` asks for is asked for in `e`, with the later parts behind. -/
structure Within (d e : DeclarationDraft) : Prop where
  name : d.name = e.name
  game : d.game = e.game
  modules : d.modules = e.modules
  vars : d.vars <+: e.vars
  hooks : d.hooks <+: e.hooks
  loops : d.loops <+: e.loops
  nops : d.nops <+: e.nops
  receivers : d.receivers.keys ⊆ e.receivers.keys
  events : d.events.keys ⊆ e.events.keys

theorem Within.refl (d : DeclarationDraft) : d.Within d :=
  ⟨rfl, rfl, rfl, List.prefix_rfl, List.prefix_rfl, List.prefix_rfl, List.prefix_rfl, List.Subset.refl _,
    List.Subset.refl _⟩

theorem Within.trans {f : DeclarationDraft} (first : d.Within e) (second : e.Within f) : d.Within f where
  name := first.name.trans second.name
  game := first.game.trans second.game
  modules := first.modules.trans second.modules
  vars := first.vars.trans second.vars
  hooks := first.hooks.trans second.hooks
  loops := first.loops.trans second.loops
  nops := first.nops.trans second.nops
  receivers := List.Subset.trans first.receivers second.receivers
  events := List.Subset.trans first.events second.events

theorem within_adding (d : DeclarationDraft) (step : Declaration.Step) : d.Within (d.adding step) := by
  cases step with
  | «variable» draft => exact { Within.refl d with vars := List.prefix_append _ _ }
  | hook draft => exact { Within.refl d with hooks := List.prefix_append _ _ }
  | loop draft => exact { Within.refl d with loops := List.prefix_append _ _ }
  | nop nop => exact { Within.refl d with nops := List.prefix_append _ _ }
  | receive name callback => exact { Within.refl d with receivers := OrderedMap.keys_subset_insert _ _ _ }
  | on event handler => exact { Within.refl d with events := OrderedMap.keys_subset_insert _ _ _ }
  | init callback => exact { Within.refl d with }
  | exit callback => exact { Within.refl d with }

theorem within_foldl (d : DeclarationDraft) (steps : List Declaration.Step) :
    d.Within (steps.foldl adding d) := by
  induction steps generalizing d with
  | nil => exact .refl d
  | cons step rest ih => exact (d.within_adding step).trans (ih (d.adding step))

section

variable {α : Type} {l l' : List α} {a : α}

theorem mem_of_extended (grown : l ++ [a] <+: l') : a ∈ l' :=
  grown.subset (List.mem_append_right l (List.mem_singleton_self a))

theorem fresh_of_extended {name : α → String} (distinct : (l'.map name).Nodup)
    (grown : l ++ [a] <+: l') : name a ∉ l.map name := by
  have names : ((l ++ [a]).map name).Nodup := distinct.sublist (grown.sublist.map name)
  rw [List.map_append] at names
  exact (nodup_append_singleton.1 names).2

end

/-- A step that leads towards a well-formed draft keeps its rules, if its callback can act. -/
theorem allows_of_within (kept : e.WellFormed) (acts : step.CanAct) (within : (d.adding step).Within e) :
    d.Allows step := by
  -- What the step adds stays to the end; only a callback may be gone by then.
  cases step with
  | «variable» draft =>
    have fresh := fresh_of_extended kept.varNames within.vars
    exact ⟨kept.vars draft (mem_of_extended within.vars), fresh⟩
  | hook draft => exact kept.hooks draft (mem_of_extended within.hooks)
  | loop draft =>
    have fresh := fresh_of_extended kept.loopNames within.loops
    exact ⟨kept.loops draft (mem_of_extended within.loops), fresh⟩
  | nop nop => exact kept.nops nop (mem_of_extended within.nops)
  | receive name callback =>
    have known : name ∈ e.receivers.keys := within.receivers (OrderedMap.mem_keys_insert _ name callback)
    obtain ⟨last, found⟩ := OrderedMap.mem_keys_iff.1 known
    exact ⟨(kept.receivers name last found).1, acts⟩
  | on event handler => exact kept.events event (within.events (OrderedMap.mem_keys_insert _ event handler))
  | init callback => exact acts
  | exit callback => exact acts

theorem canAct_of_allows (allowed : d.Allows step) : step.CanAct := by
  cases step with
  | receive name callback => exact allowed.2
  | init callback => exact allowed
  | exit callback => exact allowed
  | «variable» _ | hook _ | loop _ | nop _ | on _ _ => trivial

/-- A run keeps its rules on the way if it leads to a well-formed draft by callbacks that can act. -/
theorem allowsAll_iff (kept : d.WellFormed) :
    d.AllowsAll steps ↔ (∀ step ∈ steps, step.CanAct) ∧ (steps.foldl adding d).WellFormed := by
  induction steps generalizing d with
  | nil => exact ⟨fun _ => ⟨fun _ present => absurd present List.not_mem_nil, kept⟩, fun _ => trivial⟩
  | cons step rest ih =>
    rw [List.forall_mem_cons, List.foldl_cons]
    constructor
    · rintro ⟨allowed, later⟩
      obtain ⟨acts, final⟩ := (ih ((kept.adding_iff step).2 allowed)).1 later
      exact ⟨⟨canAct_of_allows allowed, acts⟩, final⟩
    · rintro ⟨⟨acts, actsLater⟩, final⟩
      have allowed : d.Allows step := allows_of_within final acts (within_foldl _ rest)
      exact ⟨allowed, (ih ((kept.adding_iff step).2 allowed)).2 ⟨actsLater, final⟩⟩

theorem new_wellFormed {name game : String} {modules : List String} (kept : e.WellFormed)
    (within : (new name game modules).Within e) : (new name game modules).WellFormed := by
  obtain ⟨rfl, rfl, rfl, -⟩ := within
  refine ⟨kept.named, kept.game, kept.someModule, kept.modules, ?_, ?_, ?_, ?_, ?_, ?_, ?_, ?_, ?_, ?_, ?_, ?_⟩
  all_goals simp [new, OrderedMap.keys, OrderedMap.get?, OrderedMap.empty]

end DeclarationDraft

/-! ## Declarations -/

namespace Declaration

variable {d d' start : Declaration} {steps : List Step} {fault : DeclarationFault} {name game : String}
  {modules : List String}

/-- A run of steps that is accepted keeps the rules on the way, and its draft is kept as it is. -/
theorem allowsAll_of_addAll (added : d.addAll steps = .ok d') :
    d.draft.AllowsAll steps ∧ d'.draft = steps.foldl DeclarationDraft.adding d.draft := by
  induction steps generalizing d with
  | nil =>
    cases added
    exact ⟨trivial, rfl⟩
  | cons step rest ih =>
    rw [addAll, List.foldlM_cons] at added
    obtain ⟨next, added, later⟩ := bind_eq_ok_iff.1 added
    obtain ⟨allowed, same⟩ := allows_of_add added
    obtain ⟨allowedLater, final⟩ := ih later
    rw [same] at allowedLater final
    exact ⟨⟨allowed, allowedLater⟩, final⟩

theorem exists_addAll_of_allowsAll (allowed : d.draft.AllowsAll steps) : ∃ d', d.addAll steps = .ok d' := by
  induction steps generalizing d with
  | nil => exact ⟨d, rfl⟩
  | cons step rest ih =>
    obtain ⟨next, added⟩ := exists_add_of_allows allowed.1
    obtain ⟨d', later⟩ := ih ((allows_of_add added).2 ▸ allowed.2)
    refine ⟨d', ?_⟩
    rw [addAll, List.foldlM_cons]
    exact bind_eq_ok_iff.2 ⟨next, added, later⟩

theorem draft_of_built (started : Declaration.start name game modules = .ok start)
    (added : start.addAll steps = .ok d) :
    d.draft = steps.foldl DeclarationDraft.adding (.new name game modules) := by
  rw [(allowsAll_of_addAll added).2, (draft_of_start started).1]

/-- A run from a start is accepted if its callbacks can act and it leads to a well-formed draft. -/
theorem exists_built_iff :
    (∃ start, Declaration.start name game modules = .ok start ∧ ∃ d, start.addAll steps = .ok d) ↔
      (∀ step ∈ steps, step.CanAct) ∧
      (steps.foldl DeclarationDraft.adding (.new name game modules)).WellFormed := by
  constructor
  · rintro ⟨start, started, d, added⟩
    obtain ⟨same, kept⟩ := draft_of_start started
    exact same ▸ (DeclarationDraft.allowsAll_iff kept).1 (allowsAll_of_addAll added).1
  · rintro ⟨acts, final⟩
    have new := DeclarationDraft.new_wellFormed final (DeclarationDraft.within_foldl _ steps)
    obtain ⟨start, started⟩ := exists_start new
    have allowed := (DeclarationDraft.allowsAll_iff new).2 ⟨acts, final⟩
    rw [← (draft_of_start started).1] at allowed
    exact ⟨start, started, exists_addAll_of_allowsAll allowed⟩

/-- What is wrong with a name, a game and modules. The name is looked at first, then the game, and then
the modules in their order. -/
inductive StartFault (name game : String) (modules : List String) : DeclarationFault → Prop
  | blankName : Text.trim name = "" → StartFault name game modules .blankName
  | blankGame : Text.trim name ≠ "" → Text.trim game = "" → StartFault name game modules (.blankGame name)
  | noModules : Text.trim name ≠ "" → Text.trim game ≠ "" → modules = [] →
    StartFault name game modules (.noModules name)
  | emptyModule {index : Nat} : Text.trim name ≠ "" → Text.trim game ≠ "" → modules[index]? = some "" →
    (∀ earlier < index, modules[earlier]? ≠ some "") → StartFault name game modules (.emptyModule name index)

theorem findIdx?_isEmpty_eq_some_iff {index : Nat} : modules.findIdx? String.isEmpty = some index ↔
    modules[index]? = some "" ∧ ∀ earlier < index, modules[earlier]? ≠ some "" := by
  rw [List.findIdx?_eq_some_iff_getElem]
  constructor
  · rintro ⟨inside, empty, filled⟩
    refine ⟨by simpa [inside] using empty, fun earlier before => ?_⟩
    simpa [Nat.lt_trans before inside] using filled earlier before
  · rintro ⟨empty, filled⟩
    obtain ⟨inside, empty⟩ := List.getElem?_eq_some_iff.1 empty
    refine ⟨inside, by simpa using empty, fun earlier before => ?_⟩
    simpa [Nat.lt_trans before inside] using filled earlier before

theorem start_eq_error_iff :
    Declaration.start name game modules = .error fault ↔ StartFault name game modules fault := by
  constructor
  · intro refused
    unfold Declaration.start at refused
    split at refused
    next blank =>
      cases refused
      exact .blankName ((Text.trim_eq_empty_iff name).2 blank)
    next shown =>
      have named : Text.trim name ≠ "" := isBlankText_eq_false_iff.1 (by simpa using shown)
      split at refused
      next blank =>
        cases refused
        exact .blankGame named ((Text.trim_eq_empty_iff game).2 blank)
      next shown =>
        have forGame : Text.trim game ≠ "" := isBlankText_eq_false_iff.1 (by simpa using shown)
        split at refused
        next none =>
          cases refused
          exact .noModules named forGame (List.isEmpty_iff.1 none)
        next some =>
          split at refused
          next index found =>
            cases refused
            obtain ⟨empty, filled⟩ := findIdx?_isEmpty_eq_some_iff.1 found
            exact .emptyModule named forGame empty filled
          next => cases refused
  · rintro (named | ⟨named, forGame⟩ | ⟨named, forGame, rfl⟩ | ⟨named, forGame, empty, filled⟩)
    · rw [Declaration.start, if_pos ((Text.trim_eq_empty_iff name).1 named)]
    · simp [Declaration.start, isBlankText_eq_false_iff.2 named, (Text.trim_eq_empty_iff game).1 forGame]
    · simp [Declaration.start, isBlankText_eq_false_iff.2 named, isBlankText_eq_false_iff.2 forGame]
    · have found := findIdx?_isEmpty_eq_some_iff.2 ⟨empty, filled⟩
      have some : modules ≠ [] := fun none => by simp [none] at empty
      simp [Declaration.start, isBlankText_eq_false_iff.2 named, isBlankText_eq_false_iff.2 forGame, found, some]

end Declaration

end ModScript
