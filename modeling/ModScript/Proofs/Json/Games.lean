import ModScript.Proofs.Catalog
import ModScript.Proofs.Json.Tables

/-!
# Games as data

A game is written with all its tables in place and without parents. Two readers know this form: the one of
whole games, and the one of game files, which then resolves inheritance and checks the game. Both get the same
game back.

Results:
1. `Game.ofTree?_toJson`: the reader of games gives the game back.
2. `Game.sources_written`, `Game.assemble_written`: the reader of game files finds every table in place, and
   assembles the game from them.
3. `Game.distinct_of_load`: a loaded game is checked, and its constants repeat no name in an object.
4. `Game.survives_writing`: checked and loaded games survive being written back.
-/

namespace ModScript

/-! ## Whole games -/

theorem ModuleInfo.ofTree?_toJson (info : ModuleInfo) :
    ModuleInfo.ofTree? (.ofJson info.toJson) = some info := by
  simp [toJson, ofTree?, Tree.ofJson, Tree.ofMembers, Tree.record?, Tree.tableFields?,
    Tree.onlyMember?, Field.required, Tree.text?]

namespace Patch

/-- The values of all constants in the tables of the patch. -/
def constantValues (patch : Patch) : List Json :=
  patch.tables.values.flatMap fun table => table.constants.values

/-- The fields of a written patch. One of the readers takes a patch without tables, too. -/
theorem record?_toJson (patch : Patch) (memory : Field) (named : memory.name = "memory") :
    Tree.record? [.required "name", .required "patch", memory] (.ofJson patch.toJson) =
      some [some (.text patch.name), some (.text patch.fingerprint),
        some (.ofJson (.ofMap (patch.tables.mapValues ModuleTable.toJson)))] := by
  simp [toJson, Tree.ofJson, Tree.ofMembers, Tree.record?, Tree.tableFields?, Tree.onlyMember?, Field.required,
    named]

/-- The patch as a game file writes it: every table in place, none with a parent. -/
def draft (patch : Patch) : PatchDraft where
  name := patch.name
  fingerprint := patch.fingerprint
  tables := patch.tables.mapValues fun table => .inline ⟨none, table⟩

section

variable {patch : Patch} (distinct : ∀ value ∈ patch.constantValues, value.HasDistinctKeys)
include distinct

theorem distinct_table {table : ModuleTable} (present : table ∈ patch.tables.values) :
    ∀ value ∈ table.constants.values, value.HasDistinctKeys :=
  fun value inTable => distinct value (List.mem_flatMap.2 ⟨table, present, inTable⟩)

theorem ofTree?_toJson : ofTree? (.ofJson patch.toJson) = some patch := by
  have tables := Tree.mapOf?_ofMap_self (m := patch.tables) fun table present =>
    ModuleTable.ofTree?_toJson (distinct_table distinct present)
  simp [ofTree?, patch.record?_toJson (.required "memory") rfl, Tree.text?, tables]

theorem draft_ofTree?_toJson : PatchDraft.ofTree? (.ofJson patch.toJson) = some patch.draft := by
  have tables := Tree.mapOf?_ofMap (m := patch.tables) fun table present =>
    TableSource.ofTree?_toJson (distinct_table distinct present)
  simp [PatchDraft.ofTree?, patch.record?_toJson (.defaulted "memory") rfl, Tree.fieldOr?, Tree.text?,
    tables, draft]

end

end Patch

namespace Game

/-- The values of all constants of the game, those in its tables included. -/
def constantValues (game : Game) : List Json :=
  game.constants.values ++ game.patches.values.flatMap Patch.constantValues

/-- The game as a game file writes it. -/
def draft (game : Game) : GameDraft where
  id := game.id
  name := game.name
  executable := game.executable
  modules := game.modules
  constants := game.constants
  patches := game.patches.mapValues Patch.draft
  defaultPatch := game.defaultPatch

/-- The fields of a written game. Both readers ask for the same. -/
theorem record?_toJson (game : Game) :
    Tree.record? [.required "id", .required "name", .required "executable", .required "modules",
        .defaulted "constants", .required "patches", .required "defaultPatch"] (.ofJson game.toJson) =
      some [some (.text game.id), some (.text game.name), some (.text game.executable),
        some (.ofJson (.ofMap (game.modules.mapValues ModuleInfo.toJson))),
        some (.ofJson (.ofMap game.constants)),
        some (.ofJson (.ofMap (game.patches.mapValues Patch.toJson))), some (.text game.defaultPatch)] := by
  simp [toJson, Tree.ofJson, Tree.ofMembers, Tree.record?, Tree.tableFields?, Tree.onlyMember?, Field.required,
    Field.defaulted]

theorem read_modules (game : Game) :
    Tree.mapOf? ModuleInfo.ofTree? (.ofJson (.ofMap (game.modules.mapValues ModuleInfo.toJson))) =
      some game.modules :=
  Tree.mapOf?_ofMap_self fun info _ => info.ofTree?_toJson

section

variable {game : Game} (distinct : ∀ value ∈ game.constantValues, value.HasDistinctKeys)
include distinct

theorem distinct_constants : ∀ value ∈ game.constants.values, value.HasDistinctKeys :=
  fun value present => distinct value (List.mem_append_left _ present)

theorem distinct_patch {patch : Patch} (inGame : patch ∈ game.patches.values) :
    ∀ value ∈ patch.constantValues, value.HasDistinctKeys :=
  fun value present =>
    distinct value (List.mem_append_right _ (List.mem_flatMap.2 ⟨patch, inGame, present⟩))

/-- The reader of games gives the game back. -/
theorem ofTree?_toJson : ofTree? (.ofJson game.toJson) = some game := by
  have constants := Tree.mapOf?_constants (distinct_constants distinct)
  have patches := Tree.mapOf?_ofMap_self (m := game.patches) fun patch inGame =>
    Patch.ofTree?_toJson (distinct_patch distinct inGame)
  simp [ofTree?, game.record?_toJson, Tree.fieldOr?, Tree.text?, game.read_modules, constants, patches]

/-- The reader of game files finds every table in place. -/
theorem draft_ofTree?_toJson : GameDraft.ofTree? (.ofJson game.toJson) = some game.draft := by
  have constants := Tree.mapOf?_constants (distinct_constants distinct)
  have patches := Tree.mapOf?_ofMap (m := game.patches) fun patch inGame =>
    Patch.draft_ofTree?_toJson (distinct_patch distinct inGame)
  simp [GameDraft.ofTree?, game.record?_toJson, Tree.fieldOr?, Tree.text?, game.read_modules, constants, patches,
    draft]

end

end Game

/-! ## Depth -/

section

open Json

variable {room : Nat}

theorem ModuleInfo.readable_toJson (info : ModuleInfo) : info.toJson.Readable 1 := by
  refine readable_object fun member present => ?_
  rcases List.mem_pair.1 present with rfl | rfl <;> exact readable_string _

/-- A patch is four levels deeper than its constants. -/
theorem Patch.readable_toJson {patch : Patch} (roomy : 2 ≤ room)
    (constants : ∀ value ∈ patch.constantValues, value.Readable room) :
    patch.toJson.Readable (room + 4) := by
  have tables := readable_ofMap (m := patch.tables) fun table present =>
    ModuleTable.readable_toJson roomy fun value inTable =>
      constants value (List.mem_flatMap.2 ⟨table, present, inTable⟩)
  refine readable_object fun member present => ?_
  simp only [List.mem_cons, List.not_mem_nil, or_false] at present
  rcases present with rfl | rfl | rfl
  · exact readable_string _
  · exact readable_string _
  · exact tables

/-- A game is six levels deeper than its constants. -/
theorem Game.readable_toJson {game : Game} (roomy : 2 ≤ room)
    (constants : ∀ value ∈ game.constantValues, value.Readable room) :
    game.toJson.Readable (room + 6) := by
  have modules := readable_ofMap (m := game.modules) fun info _ => info.readable_toJson
  have own : (ofMap game.constants).Readable (room + 1) := readable_constants fun value present =>
    constants value (List.mem_append_left _ present)
  have patches := readable_ofMap (m := game.patches) fun patch inGame =>
    Patch.readable_toJson roomy fun value present =>
      constants value (List.mem_append_right _ (List.mem_flatMap.2 ⟨patch, inGame, present⟩))
  refine readable_object fun member present => ?_
  simp only [List.mem_cons, List.not_mem_nil, or_false] at present
  rcases present with rfl | rfl | rfl | rfl | rfl | rfl | rfl
  · exact readable_string _
  · exact readable_string _
  · exact readable_string _
  · exact modules.mono (by omega)
  · exact own.mono (by omega)
  · exact patches
  · exact readable_string _

end

/-! ## Assembly -/

namespace Game

variable {game : Game}

/-- The tables of the game, none with a parent. -/
def drafts (game : Game) : TableDrafts :=
  game.patches.mapValues fun patch => patch.tables.mapValues fun table => ⟨none, table⟩

theorem draft?_drafts {key module : String} {patch : Patch} {table : ModuleTable}
    (inGame : game.patches.get? key = some patch) (inPatch : patch.tables.get? module = some table) :
    game.drafts.draft? key module = some ⟨none, table⟩ := by
  simp [TableDrafts.draft?, drafts, OrderedMap.get?_mapValues, inGame, inPatch]

section

open TableDrafts GameDraft

theorem eq_of_flattened {key module : String} {patch : Patch} {own table : ModuleTable}
    {chain : List String} (inGame : game.patches.get? key = some patch)
    (inPatch : patch.tables.get? module = some own) (ends : Chain game.drafts module key chain)
    (flat : Flattened game.drafts module chain table) : table = own := by
  have found := draft?_drafts inGame inPatch
  obtain rfl := ends.unique (.root found rfl)
  have same : game.drafts.own key module = own := by simp [TableDrafts.own, found]
  obtain ⟨constants, vars, hooks⟩ := flat
  simp only [List.map_cons, List.map_nil, same] at constants vars hooks
  cases table
  cases own
  simp only [ModuleTable.mk.injEq]
  exact ⟨constants.eq_of_single, vars.eq_of_single, hooks.eq_of_single⟩

theorem eq_of_flatPatch {key : String} {patch flat : Patch} (inGame : game.patches.get? key = some patch)
    (flattened : FlatPatch game.drafts key patch.draft flat) : flat = patch := by
  have tables : flat.tables = patch.tables := by
    refine flattened.tables.eq_of_values (OrderedMap.keys_mapValues _ _) ?_
    rintro module source table found ⟨chain, ends, whole⟩
    simp only [Patch.draft, OrderedMap.get?_mapValues, Option.map_eq_some_iff] at found
    obtain ⟨own, inPatch, -⟩ := found
    rw [eq_of_flattened inGame inPatch ends whole, inPatch]
  have name := flattened.name
  have fingerprint := flattened.fingerprint
  cases flat
  cases patch
  simp_all [Patch.draft]

/-- Without parents every table is the one that is written. -/
theorem flatPatches_written (game : Game) : game.draft.flatPatches game.drafts = .ok game.patches := by
  rcases flatPatches_cases game.draft game.drafts with ⟨patches, flat, related⟩ | ⟨e, -, broken⟩
  · rw [flat]
    refine congrArg Except.ok (related.eq_of_values (OrderedMap.keys_mapValues _ _) ?_)
    rintro key written patch found flattened
    simp only [draft, OrderedMap.get?_mapValues, Option.map_eq_some_iff] at found
    obtain ⟨own, inGame, rfl⟩ := found
    rw [eq_of_flatPatch inGame flattened, inGame]
  · -- The chain of a table without a parent is the table itself, so none is broken.
    refine absurd (fun key module declared => ?_) broken.not_allEnd
    obtain ⟨written, found, inKeys⟩ := mem_declared_iff.1 declared
    simp only [draft, OrderedMap.get?_mapValues, Option.map_eq_some_iff] at found
    obtain ⟨patch, inGame, rfl⟩ := found
    simp only [Patch.draft, OrderedMap.keys_mapValues] at inKeys
    obtain ⟨table, inPatch⟩ := OrderedMap.mem_keys_iff.1 inKeys
    exact ⟨[key], .root (draft?_drafts inGame inPatch) rfl⟩

end

/-- The game is assembled from its tables. -/
theorem assemble_written (accepted : game.check = .ok ()) :
    game.draft.assemble game.drafts = .ok game := by
  have whole : game.draft.withPatches game.patches = game := rfl
  rw [GameDraft.assemble, flatPatches_written]
  show (game.draft.withPatches game.patches).checked = .ok game
  rw [whole, checked, accepted]

/-! ## Files -/

section

variable {σ : Type} {files : Files (StateM σ)} {path text : String} {s s' : σ}

/-- The reader of game files finds a written game and all its tables in the one file. -/
theorem sources_written (document : readDocument GameDraft.ofTree? text = .ok game.draft)
    (stored : (files.read path).run s = (.ok text.toUTF8, s')) :
    (sources files path).run.run s = (.ok (game.draft, game.drafts), s') := by
  have inPlace (directory : String) (table : ModuleTable) :
      (TableSource.inline ⟨none, table⟩).load files directory =
        (pure ⟨none, table⟩ : ExceptT Error (StateM σ) TableDraft) := rfl
  have tables (directory : String) (patch : Patch) :
      patch.draft.tables.mapValuesM (fun _ source => source.load files directory) =
        (pure (patch.tables.mapValues fun table => ⟨none, table⟩) : ExceptT Error (StateM σ) _) :=
    OrderedMap.mapValuesM_mapValues (fun _ => inPlace directory) patch.tables
  have patches (directory : String) :
      game.draft.patches.mapValuesM (fun _ patch => patch.tables.mapValuesM fun _ source =>
        source.load files directory) = (pure game.drafts : ExceptT Error (StateM σ) _) :=
    OrderedMap.mapValuesM_mapValues (g := Patch.draft) (fun _ => tables directory) game.patches
  have drafted : (MonadExcept.ofExcept (.ok game.draft) : ExceptT Error (StateM σ) GameDraft) =
      pure game.draft := rfl
  rw [sources, OrderedMap.run_bind_of_ok (Files.text_of_stored stored), document, drafted]
  simp only [pure_bind, patches]
  rfl

theorem load_written (accepted : game.check = .ok ())
    (document : readDocument GameDraft.ofTree? text = .ok game.draft)
    (stored : (files.read path).run s = (.ok text.toUTF8, s')) :
    (load files path).run.run s = (.ok game, s') := by
  rw [GameDraft.load_eq_assemble (sources_written document stored), assemble_written accepted]

end

end Game

/-! ## Loaded games -/

section

variable {α : Type} {read : Tree → Option α} {t : Tree}

theorem Tree.exists_read_of_mapM {members : List (String × Tree)} {entries : List (String × α)}
    (found : (members.mapM fun member => (read member.2).map fun value => (member.1, value)) =
      some entries) : ∀ entry ∈ entries, ∃ t, read t = some entry.2 := by
  induction members generalizing entries with
  | nil =>
    cases found
    exact fun _ none => absurd none List.not_mem_nil
  | cons member rest ih =>
    simp only [List.mapM_cons, Option.bind_eq_bind, Option.bind_eq_some_iff, Option.map_eq_some_iff,
      Option.pure_def, Option.some.injEq] at found
    obtain ⟨first, ⟨value, readFirst, rfl⟩, others, readOthers, rfl⟩ := found
    intro entry present
    rcases List.mem_cons.1 present with rfl | inOthers
    · exact ⟨member.2, readFirst⟩
    · exact ih readOthers entry inOthers

/-- Every value of a map that was read was read from something. -/
theorem Tree.exists_read_of_mapOf? {m : OrderedMap α} (found : Tree.mapOf? read t = some m) :
    ∀ value ∈ m.values, ∃ t, read t = some value := by
  unfold Tree.mapOf? at found
  split at found
  next members =>
    obtain ⟨entries, readEntries, rfl⟩ := Option.map_eq_some_iff.1 found
    intro value present
    obtain ⟨entry, inMap, rfl⟩ := List.mem_map.1 present
    exact Tree.exists_read_of_mapM readEntries entry
      (OrderedMap.mem_of_get?_ofList (OrderedMap.get?_eq_some_iff.2 inMap))
  next => cases found

theorem Tree.distinct_of_constants {field : Option Tree} {constants : OrderedMap Json}
    (found : Tree.fieldOr? .empty (Tree.mapOf? Tree.toJson?) field = some constants) :
    ∀ value ∈ constants.values, value.HasDistinctKeys := by
  cases field with
  | none =>
    cases found
    exact fun _ none => absurd none List.not_mem_nil
  | some field =>
    intro value present
    obtain ⟨t, readValue⟩ := Tree.exists_read_of_mapOf? found value present
    exact Json.hasDistinctKeys_of_toJson? t readValue

/-- No object in the constants that a table gives itself repeats a name. -/
def TableDraft.Distinct (draft : TableDraft) : Prop :=
  ∀ value ∈ draft.own.constants.values, value.HasDistinctKeys

theorem TableDraft.distinct_of_ofTree? {draft : TableDraft} (found : TableDraft.ofTree? t = some draft) :
    draft.Distinct := by
  unfold TableDraft.ofTree? at found
  split at found
  · simp only [Option.bind_eq_bind, Option.bind_eq_some_iff] at found
    obtain ⟨_, -, constants, readConstants, _, -, _, -, same⟩ := found
    cases same
    exact Tree.distinct_of_constants readConstants
  · cases found

theorem TableSource.distinct_of_ofTree? {draft : TableDraft}
    (found : TableSource.ofTree? t = some (.inline draft)) : draft.Distinct := by
  unfold TableSource.ofTree? at found
  split at found
  · cases found
  · split at found
    · obtain ⟨own, readOwn, same⟩ := Option.map_eq_some_iff.1 found
      cases same
      exact TableDraft.distinct_of_ofTree? readOwn
    · cases found

/-- The same for all tables in place of a patch. -/
def PatchDraft.Distinct (patch : PatchDraft) : Prop :=
  ∀ draft, .inline draft ∈ patch.tables.values → draft.Distinct

theorem PatchDraft.distinct_of_ofTree? {patch : PatchDraft} (found : PatchDraft.ofTree? t = some patch) :
    patch.Distinct := by
  unfold PatchDraft.ofTree? at found
  split at found
  next name fingerprint memory _ =>
    simp only [Option.bind_eq_bind, Option.bind_eq_some_iff] at found
    obtain ⟨_, -, _, -, tables, readTables, same⟩ := found
    cases same
    intro draft present
    cases memory with
    | none =>
      cases readTables
      exact absurd present List.not_mem_nil
    | some memory =>
      obtain ⟨t, readDraft⟩ := Tree.exists_read_of_mapOf? readTables _ present
      exact TableSource.distinct_of_ofTree? readDraft
  next => cases found

theorem GameDraft.distinct_of_ofTree? {draft : GameDraft} (found : GameDraft.ofTree? t = some draft) :
    (∀ value ∈ draft.constants.values, value.HasDistinctKeys) ∧
      ∀ patch ∈ draft.patches.values, patch.Distinct := by
  unfold GameDraft.ofTree? at found
  split at found
  · simp only [Option.bind_eq_bind, Option.bind_eq_some_iff] at found
    obtain ⟨_, -, _, -, _, -, _, -, constants, readConstants, patches, readPatches, _, -, same⟩ := found
    cases same
    refine ⟨Tree.distinct_of_constants readConstants, fun patch present => ?_⟩
    obtain ⟨t, readPatch⟩ := Tree.exists_read_of_mapOf? readPatches patch present
    exact PatchDraft.distinct_of_ofTree? readPatch
  · cases found

end

section

variable {σ : Type} {files : Files (StateM σ)} {path : String} {s s' : σ} {draft : GameDraft}
  {drafts : TableDrafts} {game : Game}

theorem exists_tree_of_readDocument {α : Type} {read : Tree → Option α} {text : String} {a : α}
    (found : readDocument read text = .ok a) : ∃ t, read t = some a := by
  unfold readDocument at found
  split at found
  next value readValue =>
    cases found
    obtain ⟨t, -, readTree⟩ := Option.bind_eq_some_iff.1 readValue
    exact ⟨t, readTree⟩
  next => cases found

theorem TableSource.distinct_of_load {source : TableSource} {directory : String} {table : TableDraft}
    (inPlace : ∀ own, source = .inline own → own.Distinct)
    (ran : (source.load files directory).run.run s = (.ok table, s')) : table.Distinct := by
  cases source with
  | inline own =>
    cases ran
    exact inPlace table rfl
  | file path =>
    obtain ⟨text, t, -, ran⟩ := OrderedMap.run_bind_eq_ok ran
    obtain ⟨tree, readTree⟩ := exists_tree_of_readDocument (ofExcept_run_eq_ok ran).1
    exact TableDraft.distinct_of_ofTree? readTree

/-- Wherever a table of a game stands, no object in its constants repeats a name. -/
theorem GameDraft.distinct_of_sources
    (read : (Game.sources files path).run.run s = (.ok (draft, drafts), s')) :
    (∀ value ∈ draft.constants.values, value.HasDistinctKeys) ∧
      ∀ key module table, drafts.draft? key module = some table → table.Distinct := by
  obtain ⟨text, _, -, read⟩ := OrderedMap.run_bind_eq_ok read
  obtain ⟨draft', _, document, read⟩ := OrderedMap.run_bind_eq_ok read
  obtain ⟨drafts', _, ran, read⟩ := OrderedMap.run_bind_eq_ok read
  cases read
  obtain ⟨tree, readTree⟩ := exists_tree_of_readDocument (ofExcept_run_eq_ok document).1
  obtain ⟨constants, patches⟩ := GameDraft.distinct_of_ofTree? readTree
  refine ⟨constants, fun key module table found => ?_⟩
  obtain ⟨tables, foundTables, foundTable⟩ := Option.bind_eq_some_iff.1 found
  obtain ⟨patch, inDraft, t, t', ranTables⟩ :=
    (OrderedMap.related_of_mapValuesM_run ran).get?_left foundTables
  obtain ⟨source, inPatch, u, u', ranTable⟩ :=
    (OrderedMap.related_of_mapValuesM_run ranTables).get?_left foundTable
  refine TableSource.distinct_of_load (fun own same => ?_) ranTable
  exact patches patch (OrderedMap.mem_values_of_get? inDraft) own
    (same ▸ OrderedMap.mem_values_of_get? inPatch)

/-- A constant of a full table is one of the tables on its chain. -/
theorem TableDrafts.Flattened.distinct {module : String} {chain : List String} {table : ModuleTable}
    (flat : TableDrafts.Flattened drafts module chain table)
    (distinct : ∀ key module table, drafts.draft? key module = some table → table.Distinct) :
    ∀ value ∈ table.constants.values, value.HasDistinctKeys := by
  intro value present
  obtain ⟨name, found⟩ := OrderedMap.mem_values_iff.1 present
  rw [flat.constants.get?_eq] at found
  obtain ⟨layer, inChain, inLayer⟩ := List.exists_of_findSome?_eq_some found
  obtain ⟨patch, -, rfl⟩ := List.mem_map.1 inChain
  cases written : drafts.draft? patch module with
  | none => simp [TableDrafts.own, written, ModuleTable.empty, OrderedMap.empty, OrderedMap.get?] at inLayer
  | some own =>
    simp only [TableDrafts.own, written, Option.map_some, Option.getD_some] at inLayer
    exact distinct patch module own written value (OrderedMap.mem_values_of_get? inLayer)

/-- A loaded game is checked, and its constants repeat no name in an object. -/
theorem Game.distinct_of_load (loaded : (Game.load files path).run.run s = (.ok game, s')) :
    game.check = .ok () ∧ ∀ value ∈ game.constantValues, value.HasDistinctKeys := by
  obtain ⟨draft, drafts, patches, sources, related, accepted, rfl⟩ := exists_sources_of_load loaded
  obtain ⟨constants, tables⟩ := GameDraft.distinct_of_sources sources
  refine ⟨accepted, fun value present => ?_⟩
  -- A constant in a table comes from a table that was read somewhere on the chain.
  rcases List.mem_append.1 present with own | inPatches
  · exact constants value own
  · obtain ⟨patch, inGame, inPatch⟩ := List.mem_flatMap.1 inPatches
    obtain ⟨table, inTables, inTable⟩ := List.mem_flatMap.1 inPatch
    obtain ⟨key, foundPatch⟩ := OrderedMap.mem_values_iff.1 inGame
    obtain ⟨written, -, flatPatch⟩ := related.get?_left foundPatch
    obtain ⟨module, foundTable⟩ := OrderedMap.mem_values_iff.1 inTables
    obtain ⟨_, -, chain, -, flatTable⟩ := flatPatch.tables.get?_left foundTable
    exact flatTable.distinct tables value inTable

end

/-! ## Writing back -/

namespace Game

/-- What was written of the game is read as the game, by the reader of games and, from a file that holds the
text in any world, by the reader of game files. -/
structure SurvivesWriting (game : Game) : Prop where
  reads : readDocument ofTree? game.toJson.compact = .ok game
  loads : ∀ {σ : Type} (files : Files (StateM σ)) (path : String) (s s' : σ),
    (files.read path).run s = (.ok game.toJson.compact.toUTF8, s') →
      (load files path).run.run s = (.ok game, s')

theorem survives_of_distinct {game : Game} (readable : ∀ value ∈ game.constantValues, value.Readable 100)
    (accepted : game.check = .ok ()) (distinct : ∀ value ∈ game.constantValues, value.HasDistinctKeys) :
    game.SurvivesWriting := by
  have written : game.toJson.Readable Json.depthLimit :=
    (readable_toJson (by decide) readable).mono (by decide)
  have read := Json.read?_compact written
  have document : readDocument GameDraft.ofTree? game.toJson.compact = .ok game.draft := by
    simp [readDocument, read, draft_ofTree?_toJson distinct]
  refine ⟨?_, fun files path s s' stored => load_written accepted document stored⟩
  simp [readDocument, read, ofTree?_toJson distinct]

/-- A game whose constants are at most 100 levels deep survives being written back if it passes its check;
every loaded game of this depth does. Of the numbers in the constants it is taken for granted that they read
back; that no object of a constant repeats a name is what every loaded constant has. -/
theorem survives_writing (game : Game) (readable : ∀ value ∈ game.constantValues, value.Readable 100) :
    (game.check = .ok () → (∀ value ∈ game.constantValues, value.HasDistinctKeys) →
      game.SurvivesWriting) ∧
    ∀ {σ : Type} (files : Files (StateM σ)) (path : String) (s s' : σ),
      (load files path).run.run s = (.ok game, s') → game.SurvivesWriting := by
  refine ⟨survives_of_distinct readable, fun files path s s' loaded => ?_⟩
  obtain ⟨accepted, distinct⟩ := distinct_of_load loaded
  exact survives_of_distinct readable accepted distinct

/-- Three halves. -/
def threeHalves : Number := .real ⟨0x3FF8000000000000⟩ (by decide)

/-- A patch with the highest address and size, and an entry without its optional fields. -/
def storedPatch : Patch where
  name := "P"
  fingerprint := "f"
  tables := ⟨[("e", {
    constants := ⟨[("rate", .number threeHalves)], by decide⟩
    vars := ⟨[("health", ⟨⟨0xFFFFFFFFFFFFFFFF⟩, .block, some ⟨0⟩, some 0xFFFFFFFFFFFFFFFF⟩),
      ("gold", ⟨⟨0x1A⟩, .int32, none, none⟩)], by decide⟩
    hooks := ⟨[("hit", ⟨⟨0x40⟩, [.int, .pointer], .void⟩)], by decide⟩ })], by decide⟩

/-- A game with nested constants and names that need escapes. -/
def stored : Game where
  id := "g"
  name := "G \"1\""
  executable := "e"
  modules := ⟨[("e", ⟨"0", "Main\n"⟩)], by decide⟩
  constants := ⟨[("a\\b", .array [.number threeHalves, .object [("k", .null), ("", .bool true)]])], by decide⟩
  patches := ⟨[("p", storedPatch)], by decide⟩
  defaultPatch := "p"

theorem readsBack_threeHalves : threeHalves.ReadsBack := by
  have number : Json.numberText? (Json.numberChars threeHalves) = some (⟨false, ['1'], ['5'], none⟩, []) := by
    decide +kernel
  have meaning : Json.NumberText.number? ⟨false, ['1'], ['5'], none⟩ = some threeHalves := by decide +kernel
  exact Number.readsBack_of_numberText? number meaning

theorem survives_writing_stored :
    (∀ value ∈ stored.constantValues, value.Readable 100) ∧ stored.check = .ok () ∧
    (∀ value ∈ stored.constantValues, value.HasDistinctKeys) ∧
    readDocument ofTree? stored.toJson.compact = .ok stored ∧
    (load (GameDraft.oneText stored.toJson.compact) "g.json").run.run () = (.ok stored, ()) ∧
    stored.SurvivesWriting := by
  have values : stored.constantValues =
      [.array [.number threeHalves, .object [("k", .null), ("", .bool true)]], .number threeHalves] := rfl
  have readable : ∀ value ∈ stored.constantValues, value.Readable 100 := by
    rw [values]
    intro value present
    simp only [List.mem_cons, List.not_mem_nil, or_false] at present
    rcases present with rfl | rfl
    · exact ⟨by decide, readsBack_threeHalves, ⟨trivial, trivial, trivial⟩, trivial⟩
    · exact ⟨by decide, readsBack_threeHalves⟩
  have distinct : ∀ value ∈ stored.constantValues, value.HasDistinctKeys := by
    rw [values]
    simp [Json.HasDistinctKeys, Json.ItemsHaveDistinctKeys, Json.MembersHaveDistinctKeys]
  have accepted : stored.check = .ok () := by decide
  have survives := (survives_writing stored readable).1 accepted distinct
  have loaded := survives.loads (GameDraft.oneText stored.toJson.compact) "g.json" () () rfl
  exact ⟨readable, accepted, distinct, survives.reads, loaded,
    (survives_writing stored readable).2 _ _ _ _ loaded⟩

end Game

end ModScript
