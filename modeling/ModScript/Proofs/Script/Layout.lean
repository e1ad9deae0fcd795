import ModScript.Script.Text

/-!
# Layout of scripts

A script is its blocks that have a text, with an empty line between two of them. What stands before a block
and what stands behind it does not depend on the block.

Results:
1. `Script.text_split`: a script can be cut anywhere behind its manifest.
2. `Script.text_eq_between`: a script around one of its blocks.
3. `Script.text_eq_around`, `Installer.text_eq_around`: the blocks and functions that depend on the mod.
-/

namespace ModScript

/-! ## Lines -/

theorem isEmpty_append {front back : String} (filled : front.isEmpty = false) :
    (front ++ back).isEmpty = false := by simp_all

theorem ne_empty_of_isEmpty {text : String} (filled : text.isEmpty = false) : text ≠ "" := by
  rintro rfl
  exact absurd filled (by decide)

theorem joinLines_append {front back : List String} (some : front ≠ []) (more : back ≠ []) :
    joinLines (front ++ back) = joinLines front ++ "\n" ++ joinLines back :=
  String.intercalate_append_of_ne_nil some more

theorem isEmpty_joinLines {line : String} (filled : line.isEmpty = false) (lines : List String) :
    (joinLines (line :: lines)).isEmpty = false := by
  cases lines with
  | nil => simpa [joinLines] using filled
  | cons next rest =>
    rw [joinLines, String.intercalate_cons_cons]
    exact isEmpty_append (isEmpty_append filled)

/-- A hook with targets has one step for each of them. -/
theorem Hook.steps_eq_map (hook : Hook) (dependencies : List String) {targets : List HookTarget}
    (some : targets ≠ []) :
    hook.steps dependencies targets = targets.map (hook.stepAt dependencies) := by
  cases targets with
  | nil => exact absurd rfl some
  | cons first rest => rfl

namespace Script

/-- A function is its header with its body, and a closing brace on a line of its own. -/
theorem functionBlock_eq (name : String) (body : List String) :
    functionBlock name body = joinLines (("function " ++ name ++ r"() {") :: body) ++ "\n\x7d" := by
  rw [functionBlock, joinLines_append (List.cons_ne_nil _ _) (List.cons_ne_nil _ _)]
  simp only [joinLines, String.intercalate_singleton, String.append_assoc]
  rfl

theorem isEmpty_functionBlock (name : String) (body : List String) :
    (functionBlock name body).isEmpty = false :=
  isEmpty_joinLines (isEmpty_append (isEmpty_append (by decide))) _

/-- Of all that is known of a mod, the start of a script has its modules and what it does first. -/
theorem exists_startBlock_eq : ∃ (next : String) (rest back : List String), ∀ script : Script,
    script.startBlock = joinLines (r"async function __init() {" ::
      ("    const modulesToResolve = " ++ (namesJson script.dependencies).compact ++ ";") ::
      next :: rest ++ initLines script.init ++ back) :=
  ⟨_, _, _, fun _ => rfl⟩

end Script

/-! ## Blocks -/

/-- The blocks that have a text. -/
def filledBlocks (blocks : List String) : List String := blocks.filter fun block => !block.isEmpty

theorem filledBlocks_ne_nil {blocks : List String} {block : String} (present : block ∈ blocks)
    (filled : block.isEmpty = false) : filledBlocks blocks ≠ [] :=
  List.ne_nil_of_mem (List.mem_filter.2 ⟨present, by simp [filled]⟩)

namespace Script

/-- A script can be cut anywhere behind its manifest. -/
theorem text_split {script : Script} {front back : List String}
    (blocks : script.blocks = front ++ back) (manifest : script.manifestBlock ∈ front)
    (last : "__init();" ∈ back) :
    script.text = "\n\n".intercalate (filledBlocks front) ++ "\n\n" ++
      "\n\n".intercalate (filledBlocks back) ++ "\n" := by
  have filled : script.manifestBlock.isEmpty = false := by
    unfold manifestBlock
    exact isEmpty_append (isEmpty_append (isEmpty_append (isEmpty_append (by decide))))
  show "\n\n".intercalate (filledBlocks script.blocks) ++ "\n" = _
  rw [blocks, filledBlocks, List.filter_append, ← filledBlocks, ← filledBlocks,
    String.intercalate_append_of_ne_nil (filledBlocks_ne_nil manifest filled)
      (filledBlocks_ne_nil last (by decide))]

/-- A block with the empty line behind it, or nothing. -/
def part (block : String) : String := if block.isEmpty then "" else block ++ "\n\n"

/-- A block behind the manifest stands between the text of the blocks before it and the text of those behind it. -/
theorem text_eq_between {script : Script} {front back : List String} {block : String}
    (blocks : script.blocks = front ++ block :: back) (manifest : script.manifestBlock ∈ front)
    (last : "__init();" ∈ back) :
    script.text = "\n\n".intercalate (filledBlocks front) ++ "\n\n" ++ part block ++
      ("\n\n".intercalate (filledBlocks back) ++ "\n") := by
  rw [text_split blocks manifest (List.mem_cons_of_mem _ last), part]
  cases empty : block.isEmpty with
  | true =>
    have same : filledBlocks (block :: back) = filledBlocks back := by simp [filledBlocks, empty]
    simp only [same, if_true, String.append_empty, String.append_assoc]
  | false =>
    have split : filledBlocks (block :: back) = block :: filledBlocks back := by simp [filledBlocks, empty]
    rw [split, String.intercalate_cons_of_ne_nil (filledBlocks_ne_nil last (by decide))]
    simp only [Bool.false_eq_true, if_false, String.append_assoc]

/-- The blocks that depend on the mod. -/
inductive Place
  | placed | start | registrations | hooks | loops | nops | exit | receivers

/-- How many blocks stand before. -/
def Place.index : Place → Nat
  | placed => 4
  | start => 5
  | registrations => 6
  | hooks => 7
  | loops => 8
  | nops => 9
  | exit => 10
  | receivers => 11

def block (script : Script) : Place → String
  | .placed => script.placedBlock
  | .start => script.startBlock
  | .registrations => script.registrationsBlock
  | .hooks => script.hooksBlock
  | .loops => script.loopsBlock
  | .nops => script.nopsBlock
  | .exit => script.exitBlock
  | .receivers => script.receiversBlock

def blocksBefore (script : Script) (place : Place) : List String := script.blocks.take place.index

def blocksBehind (script : Script) (place : Place) : List String := script.blocks.drop (place.index + 1)

/-- The text before a block. -/
def before (script : Script) (place : Place) : String :=
  "\n\n".intercalate (filledBlocks (script.blocksBefore place)) ++ "\n\n"

/-- The text behind a block. -/
def behind (script : Script) (place : Place) : String :=
  "\n\n".intercalate (filledBlocks (script.blocksBehind place)) ++ "\n"

theorem part_of_filled {block : String} (filled : block.isEmpty = false) :
    part block = block ++ "\n\n" := by
  simp [part, filled]

theorem part_functionBlock (name : String) (body : List String) :
    part (functionBlock name body) = functionBlock name body ++ "\n\n" :=
  part_of_filled (isEmpty_functionBlock name body)

/-- Every block stands between the text of the blocks before it and the text of those behind it. -/
theorem text_eq_around (script : Script) (place : Place) :
    script.text = script.before place ++ part (script.block place) ++ script.behind place := by
  have blocks : script.blocks =
      script.blocksBefore place ++ script.block place :: script.blocksBehind place := by
    cases place <;> rfl
  have manifest : script.manifestBlock ∈ script.blocksBefore place := by
    cases place <;> simp [blocksBefore, Script.blocks, Place.index]
  have last : "__init();" ∈ script.blocksBehind place := by
    cases place <;> simp [blocksBehind, Script.blocks, Place.index]
  exact text_eq_between blocks manifest last

end Script

/-! ## Functions that install -/

/-- The functions that are called when all modules of a mod are there. -/
inductive Installer
  | registrations | hooks | loops | nops

namespace Installer

def name : Installer → String
  | registrations => "__registerFunctions"
  | hooks => "__installHooks"
  | loops => "__installLoops"
  | nops => "__installNops"

def place : Installer → Script.Place
  | registrations => .registrations
  | hooks => .hooks
  | loops => .loops
  | nops => .nops

/-- The lines of the body. -/
def body (script : Script) : Installer → List String
  | registrations => script.registrations.flatMap Registration.lines
  | hooks => script.hooks.flatMap HookStep.lines
  | loops => script.loops.flatMap Loop.lines
  | nops => script.nops.flatMap NopStep.lines

theorem block_place (script : Script) (installer : Installer) :
    script.block installer.place = Script.functionBlock installer.name (installer.body script) := by
  cases installer <;> rfl

/-- The function stands in the script with all its lines. -/
theorem text_eq_around (script : Script) (installer : Installer) :
    script.text = script.before installer.place ++
      Script.functionBlock installer.name (installer.body script) ++
      ("\n\n" ++ script.behind installer.place) := by
  rw [script.text_eq_around installer.place, block_place, Script.part_functionBlock]
  simp only [String.append_assoc]

end Installer

end ModScript
