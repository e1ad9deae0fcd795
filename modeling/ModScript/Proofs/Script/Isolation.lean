import ModScript.Proofs.Script.Layout
import ModScript.Proofs.WellFormed

/-!
# Steps in the text of a script

A declaration that gets one more part has the script that it had, with one piece of text inserted. Nothing
that stood in the script is moved apart, changed or dropped, whether the new part is of use or not. What a
hook, a loop or a nop inserts is the end of the body of one function, and it is determined by the part, by
the modules of the mod and by the game; the other parts of the mod have no influence on it.

Results:
1. `Inserted.scriptText`, `inserted_part`: a block that grows, and one that appears.
2. `Declaration.script_installs`: what a hook, a loop or a nop adds to its function.
3. `Declaration.script_add`: all steps.
-/

namespace ModScript

/-! ## Insertion -/

/-- The second text is the first one with the piece inserted at one place. -/
def Inserted (piece text text' : String) : Prop :=
  ∃ before after, text = before ++ after ∧ text' = before ++ piece ++ after

section

variable {piece text text' : String}

theorem inserted_empty (text : String) : Inserted "" text text :=
  ⟨text, "", by simp, by simp⟩

theorem Inserted.between (inserted : Inserted piece text text') (front back : String) :
    Inserted piece (front ++ text ++ back) (front ++ text' ++ back) := by
  obtain ⟨before, after, rfl, rfl⟩ := inserted
  exact ⟨front ++ before, after ++ back, by simp only [String.append_assoc],
    by simp only [String.append_assoc]⟩

/-- Lines behind the first one are inserted with the line break before them. -/
theorem inserted_joinLines {front more : List String} (some : front ≠ []) (new : more ≠ [])
    (back : List String) :
    Inserted ("\n" ++ joinLines more) (joinLines (front ++ back)) (joinLines (front ++ more ++ back)) := by
  cases back with
  | nil =>
    refine ⟨joinLines front, "", by simp, ?_⟩
    rw [List.append_nil, joinLines_append some new]
    simp only [String.append_assoc, String.append_empty]
  | cons next rest =>
    have behind : next :: rest ≠ [] := List.cons_ne_nil _ _
    refine ⟨joinLines front, "\n" ++ joinLines (next :: rest), ?_, ?_⟩
    · rw [joinLines_append some behind, String.append_assoc]
    · rw [joinLines_append (List.append_ne_nil_of_left_ne_nil some _) behind, joinLines_append some new]
      simp only [String.append_assoc]

variable {place : Script.Place} {script script' : Script}

/-- The scripts are the same around one block. -/
structure Script.SameAround (place : Script.Place) (script script' : Script) : Prop where
  before : script'.before place = script.before place
  behind : script'.behind place = script.behind place

/-- What is inserted into a block is inserted into the script. -/
theorem Inserted.scriptText (same : script.SameAround place script')
    (inserted : Inserted piece (script.block place) (script'.block place))
    (filled : (script.block place).isEmpty = false) (filled' : (script'.block place).isEmpty = false) :
    Inserted piece script.text script'.text := by
  rw [script.text_eq_around place, script'.text_eq_around place, same.before, same.behind,
    Script.part_of_filled filled, Script.part_of_filled filled']
  have within := inserted.between (script.before place) ("\n\n" ++ script.behind place)
  simpa only [String.append_assoc] using within

/-- A block that was empty appears with the empty line behind it. -/
theorem inserted_part (same : script.SameAround place script')
    (empty : (script.block place).isEmpty = true) :
    Inserted (Script.part (script'.block place)) script.text script'.text := by
  rw [script.text_eq_around place, script'.text_eq_around place, same.before, same.behind]
  refine ⟨script.before place, script.behind place, ?_, rfl⟩
  rw [Script.part, if_pos empty, String.append_empty]

/-- Lines that come into a block behind its first line are inserted with the line break before them. -/
theorem inserted_lines (same : script.SameAround place script') {line : String} {rest more back : List String}
    (filled : line.isEmpty = false) (block : script.block place = joinLines (line :: rest ++ back))
    (block' : script'.block place = joinLines (line :: rest ++ more ++ back)) (new : more ≠ []) :
    Inserted ("\n" ++ joinLines more) script.text script'.text := by
  refine Inserted.scriptText same ?_ ?_ ?_
  · rw [block, block']
    exact inserted_joinLines (List.cons_ne_nil _ _) new back
  · rw [block]
    exact isEmpty_joinLines filled _
  · rw [block']
    exact isEmpty_joinLines filled _

/-! ## Blocks that grow -/

theorem exists_lines (placed : PlacedVariable) :
    ∃ line rest, placed.lines = line :: rest ∧ line.isEmpty = false :=
  ⟨_, _, rfl, by simp⟩

/-- A variable is put into the tables behind those that were put there before. -/
theorem inserted_placed (same : script.SameAround .placed script') {placed : PlacedVariable}
    (grown : script'.placed = script.placed ++ [placed]) :
    ∃ piece, Inserted piece script.text script'.text := by
  cases known : script.placed with
  | nil => exact ⟨_, inserted_part same (by simp [Script.block, Script.placedBlock, known, joinLines])⟩
  | cons first rest =>
    obtain ⟨line, lines, split, filled⟩ := exists_lines first
    have block : script.block .placed =
        joinLines (line :: (lines ++ rest.flatMap PlacedVariable.lines) ++ []) := by
      simp [Script.block, Script.placedBlock, known, split]
    have block' : script'.block .placed =
        joinLines (line :: (lines ++ rest.flatMap PlacedVariable.lines) ++ placed.lines ++ []) := by
      simp [Script.block, Script.placedBlock, grown, known, split]
    exact ⟨_, inserted_lines same filled block block' (List.cons_ne_nil _ _)⟩

/-- A command is looked at behind those that were declared before. -/
theorem inserted_receivers (same : script.SameAround .receivers script') {entry : String × Callback}
    (grown : script'.receivers.entries = script.receivers.entries ++ [entry]) :
    ∃ piece, Inserted piece script.text script'.text := by
  cases known : script.receivers.isEmpty with
  | true => exact ⟨_, inserted_part same (by simp [Script.block, Script.receiversBlock, known])⟩
  | false =>
    have known' : script'.receivers.isEmpty = false := by simp [OrderedMap.isEmpty, grown]
    let header := r"recv('command', function _onCommand(msg) {"
    let branches := "    recv('command', _onCommand);" ::
      script.receivers.entries.flatMap fun entry => receiverLines entry.1 entry.2
    have block : script.block .receivers = joinLines (header :: branches ++ [r"});"]) := by
      simp [Script.block, Script.receiversBlock, known, header, branches]
    have block' : script'.block .receivers =
        joinLines (header :: branches ++ receiverLines entry.1 entry.2 ++ [r"});"]) := by
      simp [Script.block, Script.receiversBlock, known', grown, header, branches]
    exact ⟨_, inserted_lines same (by decide) block block' (List.cons_ne_nil _ _)⟩

/-- The callback at the beginning stands between the installation and the message to the host. -/
theorem inserted_init (same : script.SameAround .start script')
    (dependencies : script'.dependencies = script.dependencies) {callback : Callback}
    (none : script.init = none) (some : script'.init = some callback) :
    ∃ piece, Inserted piece script.text script'.text := by
  obtain ⟨next, rest, back, lines⟩ := Script.exists_startBlock_eq
  have block : script.block .start = _ := lines script
  have block' : script'.block .start = _ := lines script'
  rw [none, Script.initLines, List.append_nil] at block
  rw [some, dependencies] at block'
  exact ⟨_, inserted_lines same (by decide) block block' (List.cons_ne_nil _ _)⟩

theorem inserted_exit (same : script.SameAround .exit script') (none : script.exit = none) :
    ∃ piece, Inserted piece script.text script'.text :=
  ⟨_, inserted_part same (by simp [Script.block, Script.exitBlock, none])⟩

end

/-! ## Steps -/

theorem HookStep.lines_ne_nil (step : HookStep) : step.lines ≠ [] := by
  cases step with
  | notFound hook => exact List.cons_ne_nil _ _
  | foreign hook module => exact List.cons_ne_nil _ _
  | install hook target action =>
    cases action with
    | replace callback => exact List.cons_ne_nil _ _
    | observe enter leave => simp [HookStep.lines, observeLines]

/-- Every hook has a line, also one that is not found. -/
theorem Hook.lines_steps_ne_nil (hook : Hook) (dependencies : List String) (targets : List HookTarget) :
    (hook.steps dependencies targets).flatMap HookStep.lines ≠ [] := by
  cases targets with
  | nil => exact List.cons_ne_nil _ _
  | cons first rest =>
    rw [hook.steps_eq_map dependencies (List.cons_ne_nil first rest), List.map_cons, List.flatMap_cons]
    exact List.append_ne_nil_of_left_ne_nil (HookStep.lines_ne_nil _) _

namespace Declaration

namespace Step

/-- The function to which the step contributes. -/
def installer? : Step → Option Installer
  | .hook _ => some .hooks
  | .loop _ => some .loops
  | .nop _ => some .nops
  | _ => none

/-- The block that the step may change. -/
def place? : Step → Option Script.Place
  | .variable _ => some .placed
  | .hook _ => some .hooks
  | .loop _ => some .loops
  | .nop _ => some .nops
  | .receive _ _ => some .receivers
  | .on _ _ => none
  | .init _ => some .start
  | .exit _ => some .exit

/-- The lines that a hook, a loop or a nop contributes in a mod of the given modules. -/
def lines (modules : List String) (game : Game) (patch : Patch) : Step → List String
  | .hook draft =>
    match draft.check with
    | .ok accepted =>
      (accepted.steps (game.executable :: modules).eraseDups
        (accepted.targets modules game.executable patch)).flatMap HookStep.lines
    | .error _ => []
  | .loop draft =>
    match draft.check with
    | .ok accepted => accepted.lines
    | .error _ => []
  | .nop accepted => (accepted.step (game.executable :: modules).eraseDups).lines
  | _ => []

/-- The step leaves scripts as they are: it is about the host only, or the tables have it already. -/
def Silent : Step → Prop
  | .on _ _ => True
  | .variable draft => draft.location = none
  | _ => False

end Step

/-- The step gives a new value for something that is already declared. -/
def Replaces (d : Declaration) : Step → Prop
  | .receive name _ => name ∈ d.receivers.keys
  | .init _ => d.init ≠ none
  | .exit _ => d.exit ≠ none
  | _ => False

variable {d d' : Declaration} {step : Step}

/-- What a hook, a loop or a nop adds to its function is determined by the modules of the mod. -/
theorem body_add (added : d.add step = .ok d') (game : Game) (patch : Patch) {installer : Installer}
    (contributes : step.installer? = some installer) :
    step.lines d.modules game patch ≠ [] ∧
    installer.body (Script.ofMod d' game patch) =
      installer.body (Script.ofMod d game patch) ++ step.lines d.modules game patch := by
  cases adds_of_add added with
  | @hook draft accepted checked =>
    cases contributes
    simp only [Step.lines, checked]
    refine ⟨accepted.lines_steps_ne_nil _ _, ?_⟩
    simp [Installer.body, Script.ofMod, hookSteps, hookTargets, dependencies]
  | @loop draft accepted checked _ =>
    cases contributes
    simp only [Step.lines, checked]
    refine ⟨List.cons_ne_nil _ _, ?_⟩
    simp [Installer.body, Script.ofMod]
  | @nop nop accepted checked =>
    cases contributes
    obtain ⟨-, rfl⟩ := Nop.check_eq_ok_iff.1 checked
    refine ⟨?_, ?_⟩
    · simp only [Step.lines]
      unfold Nop.step
      split <;> exact List.cons_ne_nil _ _
    · simp [Installer.body, Script.ofMod, nopSteps, dependencies, Step.lines]
  | _ => cases contributes

/-- A step leaves all blocks but its own as they are. -/
theorem sameAround_add (added : d.add step = .ok d') (game : Game) (patch : Patch) {place : Script.Place}
    (stands : step.place? = some place) :
    (Script.ofMod d game patch).SameAround place (Script.ofMod d' game patch) := by
  cases adds_of_add added with
  | on => cases stands
  | _ =>
    cases stands
    -- Once the lists are taken apart, the block that differs is not among the ones compared.
    constructor <;>
      simp only [Script.before, Script.behind, Script.blocksBefore, Script.blocksBehind, Script.blocks,
        Script.Place.index, List.take_succ_cons, List.take_zero, List.drop_succ_cons, List.drop_zero] <;>
      rfl

/-- A hook, a loop or a nop adds its lines at the end of the body of its function. -/
theorem script_installs (added : d.add step = .ok d') (game : Game) (patch : Patch)
    {installer : Installer} (contributes : step.installer? = some installer) :
    ∃ front back,
      d.script game patch = front ++ joinLines (("function " ++ installer.name ++ r"() {") ::
        installer.body (Script.ofMod d game patch)) ++ ("\n\x7d" ++ back) ∧
      d'.script game patch = front ++ joinLines (("function " ++ installer.name ++ r"() {") ::
        installer.body (Script.ofMod d game patch)) ++
        ("\n" ++ joinLines (step.lines d.modules game patch)) ++ ("\n\x7d" ++ back) := by
  obtain ⟨new, body⟩ := body_add added game patch contributes
  have stands : step.place? = some installer.place := by
    cases step <;> cases contributes <;> rfl
  have same := sameAround_add added game patch stands
  refine ⟨(Script.ofMod d game patch).before installer.place,
    "\n\n" ++ (Script.ofMod d game patch).behind installer.place, ?_, ?_⟩
  · rw [script, installer.text_eq_around, Script.functionBlock_eq]
    simp only [String.append_assoc]
  · rw [script, installer.text_eq_around, Script.functionBlock_eq, same.before, same.behind, body,
      ← List.cons_append, joinLines_append (List.cons_ne_nil _ _) new]
    simp only [String.append_assoc]

/-- What a step that is not about hooks, loops or nops changes in a script. -/
theorem exists_inserted (added : d.add step = .ok d') (fresh : ¬ d.Replaces step)
    (apart : step.installer? = none) (game : Game) (patch : Patch) :
    ∃ piece, Inserted piece (d.script game patch) (d'.script game patch) ∧
      (step.Silent → piece = "") := by
  cases adds_of_add added with
  | @«variable» draft accepted checked =>
    have kept := (VariableDraft.of_check checked).2
    cases place : accepted.place with
    | none =>
      -- Known to the tables: not even the block of variables has changed.
      have same : (Script.ofMod { d with vars := d.vars ++ [accepted] } game patch) =
          Script.ofMod d game patch := by
        simp [Script.ofMod, placed, place, dependencies, hookSteps, hookTargets, nopSteps]
      exact ⟨"", by rw [script, script, same]; exact inserted_empty _, fun _ => rfl⟩
    | some location =>
      have grown : (Script.ofMod { d with vars := d.vars ++ [accepted] } game patch).placed =
          (Script.ofMod d game patch).placed ++ [⟨location.1, accepted.name, location.2⟩] := by
        simp [Script.ofMod, placed, place]
      obtain ⟨piece, inserted⟩ := inserted_placed (sameAround_add added game patch rfl) grown
      refine ⟨piece, inserted, fun unlocated => ?_⟩
      rw [Step.Silent, ← kept, Variable.draft, place] at unlocated
      cases unlocated
  | @receive name callback =>
    obtain ⟨piece, inserted⟩ := inserted_receivers (sameAround_add added game patch rfl)
      (d.receivers.entries_insert_of_fresh fresh callback)
    exact ⟨piece, inserted, False.elim⟩
  | on =>
    refine ⟨"", ?_, fun _ => rfl⟩
    rw [script, script]
    exact inserted_empty _
  | @init callback =>
    obtain ⟨piece, inserted⟩ := inserted_init (sameAround_add added game patch rfl) rfl
      (Decidable.not_not.1 fresh) rfl
    exact ⟨piece, inserted, False.elim⟩
  | @exit callback =>
    obtain ⟨piece, inserted⟩ := inserted_exit (sameAround_add added game patch rfl)
      (Decidable.not_not.1 fresh)
    exact ⟨piece, inserted, False.elim⟩
  | hook | loop | nop => cases apart

/-- A step that replaces nothing inserts one piece of text into the script of a declaration, or none. A
hook, a loop or a nop inserts its own lines behind the body that its function has. -/
theorem script_add (added : d.add step = .ok d') (fresh : ¬ d.Replaces step) (game : Game)
    (patch : Patch) :
    ∃ before piece after,
      d.script game patch = before ++ after ∧ d'.script game patch = before ++ piece ++ after ∧
      (step.Silent → piece = "") ∧
      ∀ installer, step.installer? = some installer →
        piece ≠ "" ∧ piece = "\n" ++ joinLines (step.lines d.modules game patch) ∧
        ∃ front back,
          before = front ++ joinLines (("function " ++ installer.name ++ r"() {") ::
            installer.body (Script.ofMod d game patch)) ∧
          after = "\n\x7d" ++ back := by
  cases contributes : step.installer? with
  | none =>
    obtain ⟨piece, ⟨before, after, text, text'⟩, silent⟩ :=
      exists_inserted added fresh contributes game patch
    exact ⟨before, piece, after, text, text', silent, nofun⟩
  | some installer =>
    obtain ⟨front, back, text, text'⟩ := script_installs added game patch contributes
    refine ⟨_, _, _, text, text', ?_, ?_⟩
    · intro silent
      cases step with
      | hook | loop | nop => exact silent.elim
      | _ => cases contributes
    · intro other same
      obtain rfl : installer = other := Option.some.inj same
      exact ⟨by simp, rfl, front, back, rfl, rfl⟩

/-- A nop on a foreign module inserts a report. -/
theorem script_add_foreign : ∃ d d', start "speed" "game" ["lib.dll"] = .ok d ∧
    d.add (.nop ⟨"other.dll", ⟨16⟩, 2⟩) = .ok d' ∧
    ∃ before after,
      d.script ⟨"game", "Game", "game.exe", .empty, .empty, .empty, ""⟩ ⟨"p", "", .empty⟩ =
        before ++ after ∧
      d'.script ⟨"game", "Game", "game.exe", .empty, .empty, .empty, ""⟩ ⟨"p", "", .empty⟩ =
        before ++ "\n    error(\"Nop other.dll+0x10: module other.dll is not a dependency of this mod\");" ++
          after := by
  refine ⟨_, _, rfl, rfl, ?_⟩
  obtain ⟨before, piece, after, text, text', -, inserts⟩ :=
    @script_add _ _ (.nop ⟨"other.dll", ⟨16⟩, 2⟩) rfl id
      ⟨"game", "Game", "game.exe", .empty, .empty, .empty, ""⟩ ⟨"p", "", .empty⟩
  obtain ⟨-, lines, -⟩ := inserts .nops rfl
  refine ⟨before, after, text, ?_⟩
  rw [text', lines]
  congr 2

end Declaration

end ModScript
