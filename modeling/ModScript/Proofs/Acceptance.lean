import ModScript.Declaration.File

/-!
# Accepted declarations

A declaration is accepted if it was started and every step since then was. Whatever is asked of single
parts holds of all parts of such a declaration.

Results:
1. `foldlM_keeps`, `foldlM_eq_error_iff`: what a fold keeps as far as it gets, and where it stops.
2. `Declaration.adds_of_add`: what an accepted step adds.
3. `Declaration.accepted_of_addAll`: declarations made of steps.
4. `Declaration.Accepted.loop_isIdentifier`: loops are named by identifiers.
-/

namespace ModScript

variable {ε α β : Type}

theorem bind_eq_ok_iff {x : Except ε α} {f : α → Except ε β} {b : β} :
    x >>= f = .ok b ↔ ∃ a, x = .ok a ∧ f a = .ok b := by
  cases x with
  | error e => simp [bind, Except.bind]
  | ok a => simp [bind, Except.bind]

theorem bind_eq_error_iff {x : Except ε α} {f : α → Except ε β} {e : ε} :
    x >>= f = .error e ↔ x = .error e ∨ ∃ a, x = .ok a ∧ f a = .error e := by
  cases x with
  | error e' => simp [bind, Except.bind]
  | ok a => simp [bind, Except.bind]

/-- What every step of a fold keeps holds at its end. -/
theorem foldlM_keeps {step : β → α → Except ε β} {P : β → Prop}
    (keeps : ∀ {b : β} {a : α} {b' : β}, P b → step b a = .ok b' → P b') {items : List α} {b b' : β}
    (holds : P b) (folded : items.foldlM step b = .ok b') : P b' := by
  induction items generalizing b with
  | nil =>
    cases folded
    exact holds
  | cons item rest ih =>
    rw [List.foldlM_cons] at folded
    obtain ⟨next, stepped, folded⟩ := bind_eq_ok_iff.1 folded
    exact ih (keeps holds stepped) folded

/-- A fold fails with the first step that does. -/
theorem foldlM_eq_error_iff {step : β → α → Except ε β} {items : List α} {b : β} {e : ε} :
    items.foldlM step b = .error e ↔ ∃ before item behind b', items = before ++ item :: behind ∧
      before.foldlM step b = .ok b' ∧ step b' item = .error e := by
  constructor
  · intro failed
    induction items generalizing b with
    | nil => cases failed
    | cons item rest ih =>
      rw [List.foldlM_cons] at failed
      rcases bind_eq_error_iff.1 failed with here | ⟨next, stepped, later⟩
      · exact ⟨[], item, rest, b, rfl, rfl, here⟩
      · obtain ⟨before, refused, behind, b', rfl, passed, fails⟩ := ih later
        refine ⟨item :: before, refused, behind, b', rfl, ?_, fails⟩
        rw [List.foldlM_cons]
        exact bind_eq_ok_iff.2 ⟨next, stepped, passed⟩
  · rintro ⟨before, item, behind, b', rfl, passed, fails⟩
    rw [List.foldlM_append, passed]
    show (item :: behind).foldlM step b' = .error e
    rw [List.foldlM_cons, fails]
    rfl

/-! ## Steps -/

namespace Declaration

/-- What a declaration becomes by a step that is accepted. -/
inductive Adds (d : Declaration) : Step → Declaration → Prop
  | variable {draft : VariableDraft} {accepted : Variable} : draft.check = .ok accepted →
    (∀ known ∈ d.vars, known.name ≠ accepted.name) →
    Adds d (.variable draft) { d with vars := d.vars ++ [accepted] }
  | hook {draft : HookDraft} {accepted : Hook} : draft.check = .ok accepted →
    Adds d (.hook draft) { d with hooks := d.hooks ++ [accepted] }
  | loop {draft : LoopDraft} {accepted : Loop} : draft.check = .ok accepted →
    (∀ known ∈ d.loops, known.name ≠ accepted.name) →
    Adds d (.loop draft) { d with loops := d.loops ++ [accepted] }
  | nop {nop accepted : Nop} : nop.check = .ok accepted →
    Adds d (.nop nop) { d with nops := d.nops ++ [accepted] }
  | receive {name : String} {callback : Callback} : name ≠ "" → callback.fault? = none →
    Adds d (.receive name callback) { d with receivers := d.receivers.insert name callback }
  | on {event : String} {handler : EventHandler} : event ≠ "" →
    Adds d (.on event handler) { d with events := d.events.insert event handler }
  | init {callback : Callback} : callback.fault? = none →
    Adds d (.init callback) { d with init := some callback }
  | exit {callback : Callback} : callback.fault? = none →
    Adds d (.exit callback) { d with exit := some callback }

variable {d d' : Declaration} {step : Step}

theorem check_eq_ok_iff {place : CallbackPlace} {callback : Callback} {u : Unit} :
    place.check callback = .ok u ↔ callback.fault? = none := by
  unfold CallbackPlace.check
  split <;> simp_all

/-- An accepted step adds its part, and nothing else changes. -/
theorem adds_of_add (added : d.add step = .ok d') : d.Adds step d' := by
  cases step with
  | «variable» draft =>
    obtain ⟨accepted, checked, added⟩ := bind_eq_ok_iff.1 added
    dsimp only at added
    split at added
    · cases added
    next fresh =>
      cases added
      exact .variable checked (by simpa using fresh)
  | hook draft =>
    obtain ⟨accepted, checked, added⟩ := bind_eq_ok_iff.1 added
    cases added
    exact .hook checked
  | loop draft =>
    obtain ⟨accepted, checked, added⟩ := bind_eq_ok_iff.1 added
    dsimp only at added
    split at added
    · cases added
    next fresh =>
      cases added
      exact .loop checked (by simpa using fresh)
  | nop nop =>
    obtain ⟨accepted, checked, added⟩ := bind_eq_ok_iff.1 added
    cases added
    exact .nop checked
  | receive name callback =>
    dsimp only [add] at added
    split at added
    · cases added
    next named =>
      obtain ⟨_, sound, added⟩ := bind_eq_ok_iff.1 added
      cases added
      exact .receive (by simpa using named) (check_eq_ok_iff.1 sound)
  | on event handler =>
    dsimp only [add] at added
    split at added
    · cases added
    next named =>
      cases added
      exact .on (by simpa using named)
  | init callback =>
    obtain ⟨_, sound, added⟩ := bind_eq_ok_iff.1 added
    cases added
    exact .init (check_eq_ok_iff.1 sound)
  | exit callback =>
    obtain ⟨_, sound, added⟩ := bind_eq_ok_iff.1 added
    cases added
    exact .exit (check_eq_ok_iff.1 sound)

theorem add_of_adds (adds : d.Adds step d') : d.add step = .ok d' := by
  cases adds with
  | @«variable» draft accepted checked fresh =>
    have unknown : (d.vars.any fun known => known.name == accepted.name) = false := by
      simpa using fresh
    exact bind_eq_ok_iff.2 ⟨accepted, checked, by simp only [unknown]; rfl⟩
  | hook checked => exact bind_eq_ok_iff.2 ⟨_, checked, rfl⟩
  | @loop draft accepted checked fresh =>
    have unknown : (d.loops.any fun known => known.name == accepted.name) = false := by
      simpa using fresh
    exact bind_eq_ok_iff.2 ⟨accepted, checked, by simp only [unknown]; rfl⟩
  | nop checked => exact bind_eq_ok_iff.2 ⟨_, checked, rfl⟩
  | @receive name callback named sound =>
    have filled : name.isEmpty = false := by simpa using named
    simp only [add, filled]
    exact bind_eq_ok_iff.2 ⟨(), check_eq_ok_iff.2 sound, rfl⟩
  | @on event handler named =>
    have filled : event.isEmpty = false := by simpa using named
    simp only [add, filled]
    rfl
  | init sound => exact bind_eq_ok_iff.2 ⟨(), check_eq_ok_iff.2 sound, rfl⟩
  | exit sound => exact bind_eq_ok_iff.2 ⟨(), check_eq_ok_iff.2 sound, rfl⟩

/-- A declaration that was started has a name, a game and modules, and nothing else. -/
theorem start_eq_ok {name game : String} {modules : List String} (started : start name game modules = .ok d) :
    Text.isBlankText name = false ∧ Text.isBlankText game = false ∧ modules ≠ [] ∧ "" ∉ modules ∧
      d = { name, game, modules, vars := [], hooks := [], loops := [], nops := [],
            receivers := .empty, events := .empty, init := none, exit := none } := by
  dsimp only [start] at started
  split at started
  · cases started
  next named =>
    split at started
    · cases started
    next forGame =>
      split at started
      · cases started
      next some =>
        split at started
        · cases started
        next filled =>
          cases started
          refine ⟨by simpa using named, by simpa using forGame, by simpa using some, fun empty => ?_, rfl⟩
          exact absurd (List.findIdx?_eq_none_iff.1 filled "" empty) (by decide)

/-- The declaration was started, and every step since then was accepted. -/
inductive Accepted : Declaration → Prop
  | start {name game : String} {modules : List String} {d : Declaration} :
    Declaration.start name game modules = .ok d → Accepted d
  | add {d d' : Declaration} {step : Step} : Accepted d → d.add step = .ok d' → Accepted d'

theorem accepted_of_addAll (accepted : d.Accepted) {steps : List Step}
    (added : d.addAll steps = .ok d') : d'.Accepted := foldlM_keeps .add accepted added

end Declaration

/-! ## Parts -/

theorem LoopDraft.check_eq_ok {draft : LoopDraft} {loop : Loop} (checked : draft.check = .ok loop) :
    isIdentifier draft.name = true ∧
      (Duration.ofMilliseconds 1).nanoseconds ≤ draft.interval.nanoseconds ∧
      ∃ handler, draft.handler = some handler ∧ handler.fault? = none ∧
        loop = ⟨draft.name, draft.interval, handler⟩ := by
  dsimp only [LoopDraft.check] at checked
  split at checked
  · cases checked
  next named =>
    split at checked
    · cases checked
    next long =>
      split at checked
      · cases checked
      next handler given =>
        obtain ⟨_, sound, checked⟩ := bind_eq_ok_iff.1 checked
        cases checked
        exact ⟨by simpa using named, Nat.le_of_not_lt long, handler, given,
          Declaration.check_eq_ok_iff.1 sound, rfl⟩

/-- Loops of a mod are named by identifiers. -/
theorem Declaration.Accepted.loop_isIdentifier {d : Declaration} (accepted : d.Accepted) :
    ∀ loop ∈ d.loops, isIdentifier loop.name = true := by
  induction accepted with
  | start started =>
    obtain ⟨-, -, -, -, rfl⟩ := start_eq_ok started
    exact fun _ present => absurd present List.not_mem_nil
  | add _ added ih =>
    cases adds_of_add added with
    | loop checked _ =>
      obtain ⟨named, -, handler, -, -, rfl⟩ := LoopDraft.check_eq_ok checked
      intro loop present
      rcases List.mem_append.1 present with known | new
      · exact ih loop known
      · rw [List.mem_singleton.1 new]
        exact named
    | _ => exact ih

end ModScript
