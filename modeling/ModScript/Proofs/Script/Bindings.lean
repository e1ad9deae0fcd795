import ModScript.Proofs.Json.Games
import ModScript.Proofs.Script.Soundness

/-!
# Data that scripts carry

A script binds three data texts at its top level: what the game consists of, which modules the mod works for,
and the tables of the modules that it depends on. Each of them reads back as the data from which the script was
made.

Results:
1. `Script.binds_manifest_supported`, `Script.binds_addresses`, `Script.binds_constant`: where the data and the
   constants stand.
2. `Script.storable_manifest`, `storable_namesJson`, `Script.readable_addresses`: that it can be read back.
3. `Patch.keys_tablesOf`, `Patch.get?_tablesOf`: which tables a script gets.
4. `Declaration.script_data_reads_back`: what the data of the script of a mod says.
-/

namespace ModScript

/-! ## Bindings -/

/-- Outside all literals and brackets, the script gives a name to what the text says. -/
def Binds (script name text : String) : Prop :=
  ∃ front back, script = front ++ "\nconst " ++ name ++ " = " ++ text ++ ";" ++ back ∧
    Balanced front ∧ Balanced text

theorem Balanced.append {text text' : String} (balanced : Balanced text) (balanced' : Balanced text') :
    Balanced (text ++ text') := by
  rw [Balanced, String.toList_append, Lexer.run_append, balanced]
  exact balanced'

theorem Calm.balanced {text : String} (calm : Calm text.toList) : Balanced text :=
  Lexer.run_of_read (calm []).1

theorem noSource : ∀ text ∈ ([] : List String), Balanced text :=
  fun _ none => absurd none List.not_mem_nil

theorem IsBlock.balanced {text : String} (block : IsBlock [] text) : Balanced text :=
  Reads.run noSource block.passes

namespace Script

variable {script : Script}

theorem isEmpty_support : Support.text.isEmpty = false := by
  rw [Support.text, String.intercalate_cons_cons]
  exact isEmpty_append (isEmpty_append (by decide +kernel))

theorem isEmpty_manifestBlock (script : Script) : script.manifestBlock.isEmpty = false := by
  unfold manifestBlock
  exact isEmpty_append (isEmpty_append (isEmpty_append (isEmpty_append (by decide))))

theorem isEmpty_addressesBlock (script : Script) : script.addressesBlock.isEmpty = false := by
  unfold addressesBlock
  exact isEmpty_append (isEmpty_append (by decide))

theorem filledBlocks_singleton {block : String} (filled : block.isEmpty = false) :
    filledBlocks [block] = [block] := by
  simp [filledBlocks, filled]

/-- Every block with a text stands behind the blocks before it. -/
theorem text_eq_behind {front back : List String} {block : String}
    (blocks : script.blocks = front ++ block :: back) (support : Support.text ∈ front)
    (filled : block.isEmpty = false) :
    ∃ rest, script.text = "\n\n".intercalate (filledBlocks front) ++ "\n\n" ++ block ++ rest := by
  have split : filledBlocks script.blocks = filledBlocks front ++ block :: filledBlocks back := by
    simp [blocks, filledBlocks, filled]
  obtain ⟨rest, behind⟩ : ∃ rest, "\n\n".intercalate (block :: filledBlocks back) = block ++ rest := by
    cases filledBlocks back with
    | nil => exact ⟨"", by simp⟩
    | cons next more => exact ⟨_, String.intercalate_cons_cons.trans String.append_assoc⟩
  refine ⟨rest ++ "\n", ?_⟩
  show "\n\n".intercalate (filledBlocks script.blocks) ++ "\n" = _
  rw [split, String.intercalate_append_of_ne_nil (filledBlocks_ne_nil support isEmpty_support)
    (List.cons_ne_nil _ _), behind]
  simp only [String.append_assoc]

theorem balanced_front {front : List String} (own : ∀ block ∈ front, IsBlock [] block) :
    Balanced ("\n\n".intercalate (filledBlocks front)) :=
  (isBlock_gaps noSource fun block present => own block (List.mem_of_mem_filter present)).balanced

/-- The first two bindings stand in one block. -/
theorem binds_manifest_supported (script : Script) :
    Binds script.text "manifest" script.manifest.indented ∧
      Binds script.text "_supportedModules" (namesJson script.supported).compact := by
  have blocks : script.blocks = [Support.text] ++ script.manifestBlock :: script.blocks.drop 2 := by
    simp [Script.blocks]
  have only : filledBlocks [Support.text] = [Support.text] := filledBlocks_singleton isEmpty_support
  obtain ⟨rest, text⟩ := text_eq_behind blocks List.mem_cons_self script.isEmpty_manifestBlock
  rw [only, String.intercalate_singleton] at text
  unfold manifestBlock at text
  have support : Balanced Support.text := (isBlock_support noSource).balanced
  have manifest : Balanced script.manifest.indented := (calm_indented _).balanced
  constructor
  · refine ⟨Support.text ++ "\n", "\nconst _supportedModules = " ++ (namesJson script.supported).compact ++
      ";" ++ rest, text.trans ?_, support.append (by decide), manifest⟩
    simp [← String.toList_inj]
  · refine ⟨Support.text ++ "\n\nconst manifest = " ++ script.manifest.indented ++ ";", rest,
      text.trans ?_, ?_, (calm_compact _).balanced⟩
    · simp [← String.toList_inj]
    · exact ((support.append (by decide)).append manifest).append (by decide)

/-- The tables stand right before what the mod changes in them. -/
theorem exists_before_placed (identifiers : ∀ constant ∈ script.constants, isIdentifier constant.1 = true) :
    ∃ front, script.before .placed = front ++ "\nconst memoryAddresses = " ++ script.addresses.indented ++
      ";\n\n" ∧ Balanced front := by
  have own : ∀ block ∈ [Support.text, script.manifestBlock, script.constantsBlock], IsBlock [] block := by
    simp only [List.forall_mem_cons]
    exact ⟨isBlock_support noSource, isBlock_manifest noSource script, isBlock_constants noSource identifiers,
      fun _ none => absurd none List.not_mem_nil⟩
  have blocks : script.blocksBefore .placed =
      [Support.text, script.manifestBlock, script.constantsBlock] ++ [script.addressesBlock] := by
    simp [blocksBefore, Script.blocks, Place.index]
  have only : filledBlocks [script.addressesBlock] = [script.addressesBlock] :=
    filledBlocks_singleton script.isEmpty_addressesBlock
  have some : filledBlocks [Support.text, script.manifestBlock, script.constantsBlock] ≠ [] :=
    filledBlocks_ne_nil List.mem_cons_self isEmpty_support
  have gap : Balanced "\n" := by decide
  have split : script.before .placed =
      "\n\n".intercalate (filledBlocks [Support.text, script.manifestBlock, script.constantsBlock]) ++
        "\n\n" ++ script.addressesBlock ++ "\n\n" := by
    rw [before, blocks, filledBlocks, List.filter_append, ← filledBlocks, ← filledBlocks, only,
      String.intercalate_append_of_ne_nil some (List.cons_ne_nil _ _), String.intercalate_singleton]
  have start := balanced_front own
  generalize "\n\n".intercalate (filledBlocks [Support.text, script.manifestBlock, script.constantsBlock]) =
    front at split start
  unfold addressesBlock at split
  refine ⟨front ++ "\n", split.trans ?_, start.append gap⟩
  simp [← String.toList_inj]

theorem binds_addresses (identifiers : ∀ constant ∈ script.constants, isIdentifier constant.1 = true) :
    Binds script.text "memoryAddresses" script.addresses.indented := by
  obtain ⟨front, before, balanced⟩ := exists_before_placed identifiers
  refine ⟨front, "\n\n" ++ part (script.block .placed) ++ script.behind .placed, ?_, balanced,
    (calm_indented _).balanced⟩
  rw [script.text_eq_around .placed, before]
  simp [← String.toList_inj]

end Script

/-! ## Data -/

section

open Json

theorem storable_namesJson (names : List String) : (namesJson names).Storable 1 := by
  refine ⟨readable_array fun item present => ?_, ?_⟩
  · obtain ⟨name, -, rfl⟩ := List.mem_map.1 present
    exact readable_string _
  · show ItemsHaveDistinctKeys (names.map string)
    induction names with
    | nil => trivial
    | cons name rest ih => exact ⟨trivial, ih⟩

theorem Script.storable_manifest (script : Script) : script.manifest.Storable 2 := by
  have titles : (ofMap (script.titles.mapValues string)).Readable 1 :=
    readable_ofMap fun title _ => readable_string title
  refine ⟨readable_object fun member present => ?_, by simp, trivial, ⟨?_, ?_⟩, trivial⟩
  · rcases List.mem_pair.1 present with rfl | rfl
    · exact readable_string _
    · exact titles
  · exact (script.titles.mapValues string).distinct
  · refine membersHaveDistinctKeys_iff.2 fun member present => ?_
    obtain ⟨entry, -, rfl⟩ := List.mem_map.1 present
    trivial

/-- The tables are three levels deeper than their constants. -/
theorem Script.readable_addresses {script : Script} {room : Nat} (roomy : 2 ≤ room)
    (constants : ∀ table ∈ script.tables.values, ∀ value ∈ table.constants.values, value.Readable room) :
    script.addresses.Readable (room + 3) :=
  readable_ofMap fun table present => ModuleTable.readable_toJson roomy (constants table present)

end

/-! ## Tables -/

namespace Patch

variable {patch : Patch} {modules : List String}

/-- Of the given modules, those that have a table, in the given order. -/
theorem keys_tablesOf (distinct : modules.Nodup) :
    (patch.tablesOf modules).keys = modules.filter patch.tables.contains := by
  have names : (modules.filterMap fun module =>
      (patch.tables.get? module).map fun table => (module, table)).map Prod.fst =
      modules.filter patch.tables.contains := by
    clear distinct
    induction modules with
    | nil => rfl
    | cons module rest ih =>
      cases found : patch.tables.get? module <;>
        simp [OrderedMap.contains, found, ih]
  have fresh : ((modules.filterMap fun module =>
      (patch.tables.get? module).map fun table => (module, table)).map Prod.fst).Nodup :=
    names ▸ distinct.filter _
  rw [OrderedMap.keys, tablesOf, OrderedMap.entries_ofList fresh, names]

/-- Each of them has the table of the patch. -/
theorem get?_tablesOf {module : String} (present : module ∈ (patch.tablesOf modules).keys) :
    (patch.tablesOf modules).get? module = patch.tables.get? module := by
  obtain ⟨table, found⟩ := OrderedMap.mem_keys_iff.1 present
  obtain ⟨module', -, known⟩ := List.mem_filterMap.1 (OrderedMap.mem_of_get?_ofList found)
  obtain ⟨table', inPatch, same⟩ := Option.map_eq_some_iff.1 known
  cases same
  rw [found, inPatch]

end Patch

namespace Declaration

variable {declaration : Declaration} {game : Game} {patch : Patch}

/-- Every table of the script is one of the patch. -/
theorem constants_of_script : ∀ table ∈ (Script.ofMod declaration game patch).tables.values,
    ∀ value ∈ table.constants.values, value ∈ patch.constantValues := by
  intro table present value inTable
  obtain ⟨module, found⟩ := OrderedMap.mem_values_iff.1 present
  have inPatch : patch.tables.get? module = some table :=
    (Patch.get?_tablesOf (OrderedMap.mem_keys_of_get? found)).symm.trans found
  exact List.mem_flatMap.2 ⟨table, OrderedMap.mem_values_of_get? inPatch, inTable⟩

theorem read_addresses (storable : ∀ value ∈ patch.constantValues, value.Storable 100) :
    readDocument (Tree.mapOf? ModuleTable.ofTree?) (Script.ofMod declaration game patch).addresses.indented =
      .ok (Script.ofMod declaration game patch).tables := by
  have each : ∀ table ∈ (Script.ofMod declaration game patch).tables.values,
      ∀ value ∈ table.constants.values, value.Storable 100 := fun table present value inTable =>
    storable value (constants_of_script table present value inTable)
  have readable : (Script.ofMod declaration game patch).addresses.Readable Json.depthLimit :=
    (Script.readable_addresses (by decide) fun table present value inTable =>
      (each table present value inTable).toReadable).mono (by decide)
  have tables : Tree.mapOf? ModuleTable.ofTree?
      (.ofJson (Script.ofMod declaration game patch).addresses) =
        some (Script.ofMod declaration game patch).tables :=
    Tree.mapOf?_ofMap_self fun table present =>
      ModuleTable.ofTree?_toJson fun value inTable => (each table present value inTable).distinct
  simp [readDocument, Json.read?_indented readable, tables]

/-- What the data of a script says. The manifest has the executable and the title of every module file, in the
order of the version numbers; the supported modules are those of the mod; and the tables are those of the
executable and the modules of the mod, each once, as far as the patch has one. The constants of the patch are
at most 100 levels deep and read back. -/
theorem script_data_reads_back (declaration : Declaration) (game : Game) (patch : Patch)
    (storable : ∀ value ∈ patch.constantValues, value.Storable 100) :
    (∃ (text : String) (titles : OrderedMap String),
      Binds (declaration.script game patch) "manifest" text ∧
      Json.parse? text = some (.object [("executable", .string game.executable),
        ("modules", .ofMap (titles.mapValues .string))]) ∧
      (∀ version, titles.keys[version]? = game.moduleAt? version) ∧
      ∀ file, titles.get? file = (game.modules.get? file).map ModuleInfo.name) ∧
    (∃ text : String, Binds (declaration.script game patch) "_supportedModules" text ∧
      Json.parse? text = some (.array (declaration.modules.map .string))) ∧
    ∃ (text : String) (tables : OrderedMap ModuleTable),
      Binds (declaration.script game patch) "memoryAddresses" text ∧
      readDocument (Tree.mapOf? ModuleTable.ofTree?) text = .ok tables ∧
      tables.keys = (game.executable :: declaration.modules).eraseDups.filter patch.tables.contains ∧
      ∀ module ∈ tables.keys, tables.get? module = patch.tables.get? module := by
  obtain ⟨manifest, supported⟩ := (Script.ofMod declaration game patch).binds_manifest_supported
  refine ⟨⟨_, game.modules.mapValues ModuleInfo.name, manifest, ?_, ?_, ?_⟩, ⟨_, supported, ?_⟩,
    ⟨_, _, Script.binds_addresses isIdentifier_of_constants, read_addresses storable, ?_, ?_⟩⟩
  · exact Json.parse?_indented ((Script.storable_manifest _).mono (by decide))
  · intro version
    rw [OrderedMap.keys_mapValues, Game.moduleAt?]
  · exact fun file => OrderedMap.get?_mapValues _ _ file
  · exact Json.parse?_compact ((storable_namesJson _).mono (by decide))
  · exact Patch.keys_tablesOf (nodup_eraseDups _)
  · exact fun module present => Patch.get?_tablesOf present

/-- A mod that names the executable again, and a module without a table. -/
def dependentMod : Declaration where
  name := "m"
  game := "g"
  modules := ["b\".dll", "e"]
  vars := []
  hooks := []
  loops := []
  nops := []
  receivers := .empty
  events := .empty
  init := none
  exit := none

theorem script_data_reads_back_dependent :
    (∀ value ∈ Game.storedPatch.constantValues, value.Storable 100) ∧
    ∃ (text : String) (tables : OrderedMap ModuleTable),
      Binds (dependentMod.script Game.stored Game.storedPatch) "memoryAddresses" text ∧
      readDocument (Tree.mapOf? ModuleTable.ofTree?) text = .ok tables ∧ tables.keys = ["e"] ∧
      tables.get? "e" = Game.storedPatch.tables.get? "e" := by
  have storable : ∀ value ∈ Game.storedPatch.constantValues, value.Storable 100 := by
    intro value present
    obtain rfl : value = .number Game.threeHalves := List.mem_singleton.1 present
    exact ⟨⟨by decide, Game.readsBack_threeHalves⟩, trivial⟩
  obtain ⟨-, -, text, tables, binds, read, keys, values⟩ :=
    script_data_reads_back dependentMod Game.stored Game.storedPatch storable
  have only : tables.keys = ["e"] := by
    rw [keys]
    decide
  exact ⟨storable, text, tables, binds, read, only, values "e" (by simp [only])⟩

end Declaration

end ModScript
