import ModScript.Game.Catalog
import ModScript.Proofs.Loading

/-!
# Catalogs that were loaded

Every game of a catalog that comes from a directory has passed its check, so its default patch exists.
Therefore the choice of a patch for a known game does not fail, whatever is known of the build.

Results:
1. `Game.exists_sources_of_load`: where the tables of a loaded game come from.
2. `GameCatalog.Loaded.exists_file`: a game of a loaded catalog is the game of one of the files.
3. `GameCatalog.Loaded.resolve_ok`, `GameCatalog.Loaded.resolveContent_ok`: there is a patch for every
   build of a known game.
-/

namespace ModScript

/-- Checking leaves a game as it is. -/
theorem Game.checked_eq_ok_iff {game game' : Game} :
    game.checked = .ok game' ↔ game'.check = .ok () ∧ game = game' := by
  unfold checked
  split
  · next passed =>
    simp only [Except.ok.injEq]
    exact ⟨fun same => ⟨same ▸ passed, same⟩, And.right⟩
  · next failed =>
    refine ⟨nofun, ?_⟩
    rintro ⟨passed, rfl⟩
    exact absurd (failed.symm.trans passed) nofun

/-- What a game has that passed its check. -/
theorem Game.checked_eq_ok {game game' : Game} (h : game.checked = .ok game') :
    game' = game ∧ ∃ patch, game.patches.get? game.defaultPatch = some patch := by
  obtain ⟨passed, rfl⟩ := checked_eq_ok_iff.1 h
  refine ⟨rfl, ?_⟩
  unfold check at passed
  split at passed
  · cases passed
  · split at passed
    · cases passed
    · split at passed
      · cases passed
      · next contained =>
        have known : game.patches.contains game.defaultPatch = true := by simpa using contained
        exact Option.isSome_iff_exists.1 known

theorem ofExcept_run_eq_ok {σ α : Type} {x : Except Error α} {a : α} {s s' : σ}
    (ran : (MonadExcept.ofExcept x : ExceptT Error (StateM σ) α).run.run s = (.ok a, s')) :
    x = .ok a ∧ s = s' := by
  cases x with
  | error e => cases ran
  | ok b =>
    cases ran
    exact ⟨rfl, rfl⟩

/-- A loaded game has the tables of its sources, each with all that it inherits, and has passed its check. -/
theorem Game.exists_sources_of_load {σ : Type} {files : Files (StateM σ)} {path : String} {s s' : σ}
    {game : Game} (loaded : (load files path).run.run s = (.ok game, s')) :
    ∃ draft drafts patches, (sources files path).run.run s = (.ok (draft, drafts), s') ∧
      OrderedMap.Related (GameDraft.FlatPatch drafts) draft.patches patches ∧ game.check = .ok () ∧
      game = draft.withPatches patches := by
  obtain ⟨⟨draft, drafts⟩, t, read, ran⟩ := OrderedMap.run_bind_eq_ok loaded
  obtain ⟨assembled, rfl⟩ := ofExcept_run_eq_ok ran
  unfold GameDraft.assemble at assembled
  rcases GameDraft.flatPatches_cases draft drafts with ⟨patches, flat, related⟩ | ⟨e, failed, -⟩
  · rw [flat] at assembled
    obtain ⟨accepted, rfl⟩ := checked_eq_ok_iff.1 assembled
    exact ⟨draft, drafts, patches, read, related, accepted, rfl⟩
  · rw [failed] at assembled
    cases assembled

namespace GameCatalog

variable {σ : Type} {files : Files (StateM σ)} {directory : String} {s s' : σ} {notices : List Notice}
  {catalog : GameCatalog}

/-- Loading some directory, in some world of files, has led to the catalog. -/
def Loaded (catalog : GameCatalog) : Prop :=
  ∃ (σ : Type) (files : Files (StateM σ)) (directory : String) (s s' : σ) (notices : List Notice),
    (load files directory).run s = ((.ok catalog, notices), s')

/-! ## Games of a loaded catalog -/

theorem run_bind_eq {α β : Type} {x : StateM σ α} {f : α → StateM σ β} {b : β}
    (h : (x >>= f).run s = (b, s')) : ∃ a t, x.run s = (a, t) ∧ (f a).run t = (b, s') :=
  ⟨_, _, rfl, h⟩

theorem run_bind_of_eq {α β : Type} {x : StateM σ α} {f : α → StateM σ β} {a : α}
    (ran : x.run s = (a, s')) : (x >>= f).run s = (f a).run s' := by
  rw [StateT.run_bind, ran]
  rfl

theorem get_eq_ok_iff {id : String} {game : Game} :
    catalog.get id = .ok game ↔ catalog.games.get? id = some game := by
  unfold get
  cases catalog.games.get? id <;> simp

theorem get_eq_error_iff {id : String} {e : Error} :
    catalog.get id = .error e ↔ catalog.games.get? id = none ∧ e = .unknownGame id := by
  unfold get
  cases catalog.games.get? id <;> simp [eq_comm]

theorem exists_file_of_loadEach {names : List String} {games : List Game}
    (h : (loadEach files directory names).run s = ((.ok games, notices), s')) :
    ∀ game ∈ games, ∃ path t t', (Game.load files path).run.run t = (.ok game, t') := by
  induction names generalizing s games notices with
  | nil =>
    cases h
    exact fun _ present => absurd present List.not_mem_nil
  | cons name rest ih =>
    unfold loadEach at h
    obtain ⟨isFile, t, -, h⟩ := run_bind_eq h
    split at h
    · obtain ⟨outcome, t', loaded, h⟩ := run_bind_eq h
      cases outcome with
      | error e => cases h
      | ok first =>
        obtain ⟨⟨others, more⟩, t'', loadedRest, h⟩ := run_bind_eq h
        cases others with
        | error e => cases h
        | ok others =>
          cases h
          intro game present
          rcases List.mem_cons.1 present with rfl | inOthers
          · exact ⟨_, t, t', loaded⟩
          · exact ih loadedRest game inOthers
    · obtain ⟨⟨others, more⟩, t'', loadedRest, h⟩ := run_bind_eq h
      cases h
      exact ih loadedRest

theorem mem_of_get {games : List Game} {id : String} {game : Game}
    (found : (ofGames games).get id = .ok game) : game ∈ games := by
  obtain ⟨known, inGames, same⟩ := List.mem_map.1
    (OrderedMap.mem_of_get?_ofList (get_eq_ok_iff.1 found))
  cases same
  exact inGames

/-- A game of a loaded catalog is the game of one of the files. -/
theorem Loaded.exists_file (loaded : catalog.Loaded) {id : String} {game : Game}
    (found : catalog.get id = .ok game) :
    ∃ (σ : Type) (files : Files (StateM σ)) (path : String) (s s' : σ),
      (Game.load files path).run.run s = (.ok game, s') := by
  obtain ⟨σ, files, directory, s, s', notices, loaded⟩ := loaded
  unfold load at loaded
  obtain ⟨names, t, -, loaded⟩ := run_bind_eq loaded
  cases names with
  | error e => cases loaded
  | ok names =>
    obtain ⟨⟨games, more⟩, t', loadedEach, loaded⟩ := run_bind_eq loaded
    cases games with
    | error e => cases loaded
    | ok games =>
      cases loaded
      exact ⟨σ, files, exists_file_of_loadEach loadedEach game (mem_of_get found)⟩

/-- The default patch of every game of a loaded catalog exists. -/
theorem Loaded.defaultPatch (loaded : catalog.Loaded) {id : String} {game : Game}
    (found : catalog.get id = .ok game) :
    ∃ patch, game.patches.get? game.defaultPatch = some patch := by
  obtain ⟨σ, files, path, s, s', read⟩ := loaded.exists_file found
  obtain ⟨⟨draft, drafts⟩, t, sources, -⟩ := OrderedMap.run_bind_eq_ok read
  have assembled : draft.assemble drafts = .ok game :=
    (Prod.mk.inj ((GameDraft.load_eq_assemble sources).symm.trans read)).1
  unfold GameDraft.assemble at assembled
  cases flat : draft.flatPatches drafts with
  | error e =>
    rw [flat] at assembled
    cases assembled
  | ok patches =>
    rw [flat] at assembled
    obtain ⟨rfl, known⟩ := Game.checked_eq_ok assembled
    exact known

/-! ## Choice of a patch -/

theorem Loaded.resolve_ok (loaded : catalog.Loaded) {id : String} {game : Game}
    (found : catalog.get id = .ok game) (fingerprint : Option String) :
    ∃ resolution, (catalog.resolve id fingerprint).1 = .ok resolution := by
  obtain ⟨patch, known⟩ := loaded.defaultPatch found
  have default : resolveDefault game = .ok ⟨game, game.defaultPatch, patch, false⟩ := by
    simp [resolveDefault, Game.patch, known, Except.map]
  simp only [resolve, found]
  cases fingerprint with
  | none => exact ⟨_, default⟩
  | some fingerprint =>
    cases matching : game.findByFingerprint? fingerprint with
    | none => exact ⟨_, by simp only [resolveIn, matching]; exact default⟩
    | some entry => exact ⟨_, by simp only [resolveIn, matching]; rfl⟩

theorem Loaded.resolveContent_ok (loaded : catalog.Loaded) {id : String} {game : Game}
    (found : catalog.get id = .ok game) (path : String) (content : Except Error ByteArray) :
    ∃ resolution, (catalog.resolveContent id path content).1 = .ok resolution := by
  cases content with
  | ok content => exact loaded.resolve_ok found _
  | error e => exact loaded.resolve_ok found none

/-- A world in which every directory holds one directory `g`, with one text in all its files. -/
def oneGame (text : String) : Files (StateM Unit) where
  read _ := return .ok text.toUTF8
  list _ := return .ok ["g"]
  kind path := return some (if path.endsWith ".json" then .file else .directory)
  write _ _ := return .error .unusable

/-- A game with one patch and no tables, written with lists for records. -/
def gameText : String := "[\"g\",\"G\",\"e\",\x7b\x7d,\x7b\x7d,\x7b\"a\":[\"A\",\"1\"]\x7d,\"a\"]"

/-- There are catalogs that were loaded and know a game. -/
theorem exists_loaded : ∃ catalog game, Loaded catalog ∧ catalog.get "g" = .ok game := by
  have readable : (((load (oneGame gameText) "games").run ()).1.1.bind fun catalog =>
      catalog.get "g").isOk = true := by decide +kernel
  rcases loading : (load (oneGame gameText) "games").run () with ⟨⟨e | catalog, notices⟩, _⟩
  · rw [loading] at readable
    cases readable
  · rw [loading] at readable
    cases known : catalog.get "g" with
    | error e => simp [Except.bind, known, Except.isOk, Except.toBool] at readable
    | ok game => exact ⟨catalog, game, ⟨Unit, _, _, _, _, _, loading⟩, known⟩

end GameCatalog

end ModScript
