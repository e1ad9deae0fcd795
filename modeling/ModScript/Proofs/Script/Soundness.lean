import ModScript.Proofs.Acceptance
import ModScript.Proofs.HookInstallation
import ModScript.Proofs.Script.BlockSurfaces
import ModScript.Proofs.Script.Blocks

/-!
# Soundness of generated scripts

Whatever the names and the data of a mod and its game are, they cannot end a literal early, open a bracket
or add a statement: a script is balanced if the scripts that it calls back are. Every block is read on its
own, and the call that starts the script is the only one outside all brackets, since the surface of a block
has none.

Results:
1. `isBlock_support`, `isBlock_constants`, `isBlock_placed`: blocks of a script.
2. `Script.Fits.text_eq`: a script is a block and the call that starts it.
3. `startCall_last`: no other call of that kind stands outside all brackets.
4. `Declaration.script_is_sound`: the script of every mod that was accepted.
-/

namespace ModScript

section

variable {sources : List String}

/-! ## Blocks -/

theorem isBlock_constantLine {constant : String × Json} (identifier : isIdentifier constant.1 = true) :
    IsBlock sources (Script.constantLine constant) :=
  .of_calm <| (calm_literal (by decide)).text (calm_identifier identifier)
    |>.text (calm_literal (by decide)) |>.text (calm_constantLiteral _) |>.text (calm_literal (by decide))

variable (balanced : ∀ text ∈ sources, Balanced text)
include balanced

set_option maxRecDepth 10000 in
theorem isBlock_support : IsBlock sources Support.text := by
  have state : IsBlock sources Support.state := .of_shown balanced shown_state (by decide)
  have types : IsBlock sources Support.typeTable := .of_shown balanced shown_typeTable (by decide)
  have functions : IsBlock sources Support.functions := .of_shown balanced shown_functions (by decide +kernel)
  exact isBlock_gaps balanced (by simp [state, types, functions])

theorem isBlock_manifest (script : Script) : IsBlock sources script.manifestBlock :=
  .of_shown balanced (shown_manifest script) (by decide)

theorem isBlock_constants {script : Script}
    (identifiers : ∀ constant ∈ script.constants, isIdentifier constant.1 = true) :
    IsBlock sources script.constantsBlock := by
  refine isBlock_joinLines balanced fun line present => ?_
  obtain ⟨constant, known, rfl⟩ := List.mem_map.1 present
  exact isBlock_constantLine (identifiers constant known)

theorem isBlock_placed (script : Script) : IsBlock sources script.placedBlock := by
  have clear : ∀ surface ∈ placedSurfaces, ¬ startCall <:+: surface.toList := by decide +kernel
  refine isBlock_joinLines balanced fun line present => ?_
  obtain ⟨placed, -, inLines⟩ := List.mem_flatMap.1 present
  obtain ⟨surface, known, shown⟩ := shown_placedLine placed line inLines
  rw [← String.ofList_toList (s := surface)] at shown
  exact .of_shown balanced shown (clear surface known)

namespace Script.Fits

variable {script : Script} (fits : script.Fits sources)
include fits

theorem isBlock_exitBlock : IsBlock sources script.exitBlock := by
  cases declared : script.exit with
  | some callback => exact .of_shown balanced (fits.shown_exitBlock declared) (by decide)
  | none =>
    rw [Script.exitBlock, declared]
    exact .of_calm calm_nil

theorem isBlock_receiversBlock : IsBlock sources script.receiversBlock := by
  cases empty : script.receivers.isEmpty with
  | true =>
    rw [Script.receiversBlock, empty]
    exact .of_calm calm_nil
  | false => exact .of_shown balanced (fits.shown_receiversBlock empty) (by decide)

/-- Behind all other blocks stands the call that starts the script. -/
theorem text_eq : ∃ front, IsBlock sources front ∧
    script.text = front ++ "\n\n" ++ "__init();" ++ "\n" := by
  let front := [Support.text, script.manifestBlock, script.constantsBlock, script.addressesBlock,
    script.placedBlock, script.startBlock, script.registrationsBlock, script.hooksBlock,
    script.loopsBlock, script.nopsBlock, script.exitBlock, script.receiversBlock]
  have blocks : ∀ block ∈ front, IsBlock sources block := by
    simp only [front, List.forall_mem_cons]
    exact ⟨isBlock_support balanced, isBlock_manifest balanced script, isBlock_constants balanced fits.constants,
      .of_shown balanced (shown_addresses script) (by decide), isBlock_placed balanced script,
      .of_shown balanced fits.shown_startBlock (by decide),
      .of_shown balanced (shown_registrationsBlock script) (by decide),
      .of_shown balanced fits.shown_hooksBlock (by decide), .of_shown balanced fits.shown_loopsBlock (by decide),
      .of_shown balanced (shown_nopsBlock script) (by decide), fits.isBlock_exitBlock balanced,
      fits.isBlock_receiversBlock balanced, nofun⟩
  have last : filledBlocks ["__init();"] = ["__init();"] := by decide
  have text : script.text = "\n\n".intercalate (filledBlocks front) ++ "\n\n" ++
      "\n\n".intercalate (filledBlocks ["__init();"]) ++ "\n" :=
    Script.text_split rfl (by simp [front]) List.mem_cons_self
  refine ⟨"\n\n".intercalate (filledBlocks front), ?_, ?_⟩
  · exact isBlock_gaps balanced fun block present => blocks block (List.mem_of_mem_filter present)
  · rw [text, last, String.intercalate_singleton]

end Script.Fits

/-! ## The call that starts a script -/

omit balanced in
/-- A call outside all brackets is on the surface. -/
theorem surface_startCall (after : List Char) :
    Lexer.ground.surface (startCall ++ after) = startCall ++ Lexer.ground.surface after := rfl

omit balanced in
theorem eq_lineBreak_of_surface {chars : List Char} {lexer : Lexer}
    (passes : Lexer.ground.run chars = some lexer) (surface : Lexer.ground.surface chars = ['\n']) :
    chars = ['\n'] := by
  cases chars with
  | nil => cases surface
  | cons c rest =>
    obtain ⟨next, first, stepped, passes⟩ := Lexer.surface_ground passes
    obtain ⟨rfl, others⟩ := List.cons.inj (first.symm.trans surface)
    cases stepped
    cases rest with
    | nil => rfl
    | cons c' rest =>
      obtain ⟨next, second, -, -⟩ := Lexer.surface_ground passes
      exact absurd (second.symm.trans others) (List.cons_ne_nil _ _)

/-- The call behind a block is the only one outside all brackets. -/
theorem startCall_last {front : String} (block : IsBlock sources front) {before after : String}
    (split : front ++ "\n\n" ++ "__init();" ++ "\n" = before ++ "__init();" ++ after)
    (atGround : Balanced before) : before = front ++ "\n\n" ∧ after = "\n" := by
  have call : "__init();".toList = startCall := rfl
  have chars : front.toList ++ '\n' :: '\n' :: (startCall ++ ['\n']) =
      before.toList ++ (startCall ++ after.toList) := by
    have same := congrArg String.toList split
    simpa [call] using same
  have overFront : Lexer.ground.run front.toList = some .ground := Reads.run balanced block.passes
  have overAfter : Lexer.ground.run after.toList = some .ground := by
    have whole := congrArg Lexer.ground.run chars
    rw [Lexer.run_append, overFront, Lexer.run_append, atGround] at whole
    exact whole.symm
  have surfaces : Lexer.ground.surface front.toList ++ '\n' :: '\n' :: (startCall ++ ['\n']) =
      Lexer.ground.surface before.toList ++ startCall ++ Lexer.ground.surface after.toList := by
    have whole := congrArg Lexer.ground.surface chars
    rw [Lexer.surface_append overFront, Lexer.surface_append atGround, surface_startCall,
      ← List.append_assoc] at whole
    exact whole
  have unbroken : '\n' ∉ startCall := by decide
  have filled : startCall ≠ [] := by decide
  obtain ⟨rest, onLines, behind⟩ : ∃ rest,
      Lexer.ground.surface front.toList ++ '\n' :: '\n' :: startCall =
        Lexer.ground.surface before.toList ++ startCall ++ rest ∧
      Lexer.ground.surface after.toList = rest ++ ['\n'] :=
    split_at_last_break unbroken filled (by simpa using surfaces)
  have atEnd : rest = [] := split_at_last_line unbroken filled block.clear onLines
  have lineBreak : after = "\n" :=
    String.toList_inj.1 (eq_lineBreak_of_surface overAfter (by rw [behind, atEnd]; rfl))
  refine ⟨?_, lineBreak⟩
  rw [lineBreak, String.append_left_inj, String.append_left_inj] at split
  exact split.symm

end

/-! ## Scripts of accepted mods -/

/-- The source of a callback that is a script. -/
def Callback.source? : Callback → Option String
  | .script source => some source
  | _ => none

/-- A free name is an identifier that no script and no engine has, and no keyword. -/
theorem isFreeName_iff {name : String} : isFreeName name = true ↔
    isIdentifier name = true ∧ name ∉ ownBindings ∧ name ∉ engineNames ∧ name ∉ keywords := by
  simp [isFreeName, and_assoc]

namespace Declaration

/-- All callbacks that the script of a mod can hold. -/
def callbacks (declaration : Declaration) : List Callback :=
  (declaration.hooks.flatMap fun hook => hook.action.callbacks) ++ declaration.loops.map Loop.handler ++
    declaration.receivers.entries.map Prod.snd ++ declaration.init.toList ++ declaration.exit.toList

/-- The sources of all callbacks that are scripts. -/
def sources (declaration : Declaration) : List String := declaration.callbacks.filterMap Callback.source?

variable {declaration : Declaration} {game : Game} {patch : Patch}

theorem within_sources {callback : Callback} (present : callback ∈ declaration.callbacks) :
    callback.Within (declaration.sources.map Text.trim) := by
  rintro source rfl
  exact List.mem_map_of_mem (List.mem_filterMap.2 ⟨_, present, rfl⟩)

theorem callbacks_of_step {hook : Hook} {dependencies : List String} {targets : List HookTarget}
    {step : HookStep} (present : step ∈ hook.steps dependencies targets) :
    ∀ callback ∈ step.callbacks, callback ∈ hook.action.callbacks := by
  cases targets with
  | nil =>
    obtain rfl := List.mem_singleton.1 present
    exact fun _ none => absurd none List.not_mem_nil
  | cons first rest =>
    obtain ⟨target, -, rfl⟩ := List.mem_map.1 present
    unfold Hook.stepAt
    split
    · exact fun _ same => same
    · exact fun _ none => absurd none List.not_mem_nil

theorem isFreeName_constant {constant : String × Json}
    (present : constant ∈ (Script.ofMod declaration game patch).constants) : isFreeName constant.1 = true :=
  (List.mem_filter.1 present).2

theorem isIdentifier_of_constants :
    ∀ constant ∈ (Script.ofMod declaration game patch).constants, isIdentifier constant.1 = true :=
  fun _ present => (isFreeName_iff.1 (isFreeName_constant present)).1

theorem Accepted.fits (accepted : declaration.Accepted) (game : Game) (patch : Patch) :
    (Script.ofMod declaration game patch).Fits (declaration.sources.map Text.trim) where
  constants := isIdentifier_of_constants
  init callback declared := within_sources (by
    have known : declaration.init = some callback := declared
    simp [callbacks, known])
  hooks step present callback called := by
    obtain ⟨⟨hook, targets⟩, known, inSteps⟩ := List.mem_flatMap.1 present
    obtain ⟨hook', inHooks, same⟩ := List.mem_map.1 known
    cases same
    have calls := callbacks_of_step inSteps callback called
    exact within_sources (by
      simp only [callbacks, List.mem_append, List.mem_flatMap]
      exact .inl (.inl (.inl (.inl ⟨hook, inHooks, calls⟩))))
  loopNames := accepted.loop_isIdentifier
  loops loop present := within_sources (by
    simp only [callbacks, List.mem_append]
    exact .inl (.inl (.inl (.inr (List.mem_map_of_mem present)))))
  exit callback declared := within_sources (by
    have known : declaration.exit = some callback := declared
    simp [callbacks, known])
  receivers entry present := within_sources (by
    simp only [callbacks, List.mem_append]
    exact .inl (.inl (.inr (List.mem_map_of_mem present))))

/-- The script of a mod is sound, if the scripts that it calls back are. It is balanced; outside of the
scripts that are called back every literal closes on its line; and the call that starts it stands outside
all literals and brackets once, as the last text before the final line break. -/
theorem script_is_sound (accepted : declaration.Accepted)
    (balanced : ∀ source ∈ declaration.sources, Balanced source) (game : Game) (patch : Patch) :
    Balanced (declaration.script game patch) ∧
    Reads (declaration.sources.map Text.trim) .ground (declaration.script game patch).toList .ground ∧
    ∃ front, declaration.script game patch = front ++ "__init();" ++ "\n" ∧ Balanced front ∧
      ∀ before after, declaration.script game patch = before ++ "__init();" ++ after → Balanced before →
        before = front ∧ after = "\n" := by
  have trimmed : ∀ text ∈ declaration.sources.map Text.trim, Balanced text := by
    intro text present
    obtain ⟨source, known, rfl⟩ := List.mem_map.1 present
    exact balanced_trim (balanced source known)
  obtain ⟨front, block, text⟩ := (accepted.fits game patch).text_eq trimmed
  have gap : Passes (declaration.sources.map Text.trim) .ground (front ++ "\n\n") .ground :=
    block.passes.own rfl
  have whole : Passes (declaration.sources.map Text.trim) .ground
      (front ++ "\n\n" ++ "__init();" ++ "\n") .ground := (gap.own rfl).own rfl
  rw [Declaration.script, text]
  exact ⟨Reads.run trimmed whole, whole, front ++ "\n\n", rfl, Reads.run trimmed gap,
    fun before after split atGround => startCall_last trimmed block split atGround⟩

/-- A game with quotes and brackets in its names. -/
def quotingGame : Game where
  id := "g"
  name := "G"
  executable := "g\".exe"
  modules := .empty
  constants := .ofList [("LIMIT", .string "'); __init(); (\"")]
  patches := .empty
  defaultPatch := ""

/-- A mod whose names would end their literals if they could. -/
def quotingMod : Declaration where
  name := "m"
  game := "g"
  modules := ["a']\n.dll"]
  vars := []
  hooks := [⟨"\");\n__init();", some ("a']\n.dll", ⟨0x10⟩), none, none,
    .observe (some (.script r" () => { return ')'; } ")) (some (.log .info "'\"\\"))⟩]
  loops := []
  nops := []
  receivers := .empty
  events := .empty
  init := none
  exit := none

theorem accepted_quotingMod : quotingMod.Accepted := by
  have started : Declaration.start "m" "g" ["a']\n.dll"] = .ok { quotingMod with hooks := [] } := rfl
  have added : { quotingMod with hooks := [] }.add (.hook {
    name := "\");\n__init();"
    location := some ("a']\n.dll", ⟨0x10⟩)
    enter := some (.script r" () => { return ')'; } ")
    leave := some (.log .info "'\"\\") }) = .ok quotingMod := rfl
  exact .add (.start started) added

theorem script_is_sound_quoted :
    quotingMod.Accepted ∧ quotingMod.sources = [r" () => { return ')'; } "] ∧
    (∀ source ∈ quotingMod.sources, Balanced source) ∧
    Balanced (quotingMod.script quotingGame ⟨"p", "", .empty⟩) := by
  have balanced : ∀ source ∈ quotingMod.sources, Balanced source := by decide
  exact ⟨accepted_quotingMod, rfl, balanced,
    (script_is_sound accepted_quotingMod balanced quotingGame _).1⟩

end Declaration

end ModScript
