import ModScript.Proofs.Catalog
import ModScript.Proofs.Directories

/-!
# Directories of games

A directory of games has a directory of its own for every game, with a game file of the same name. The catalog
knows each game by the id that its file tells, and of two games that tell one id it knows the later one. So a game
is found under the name of its directory when every file tells the name of its directory; a file that tells another
name is not found there, and takes the place of the game that has this name.

Results:
1. `GameCatalog.exists_gamesOf`: the games that a catalog is made of.
2. `GameCatalog.get_ofGames_iff`, `GameCatalog.size_ofGames`: of the games with one id the last is known.
3. `GameCatalog.load_keeps_last`: what a catalog keeps of a directory.
4. `GameCatalog.load_loses_game`: two directories of which one is lost.
-/

namespace ModScript

namespace GameCatalog

variable {σ : Type} {files : Files (StateM σ)} {directory : String} {names : List String} {s s' : σ}
  {catalog : GameCatalog} {notices : List Notice}

/-- The game file of a directory of that name. -/
def gamePath (directory name : String) : String := Path.join (Path.join directory name) (name ++ ".json")

/-- The games of the directories that have a game file of their name, in the order of these names. -/
structure GamesOf (files : Files (StateM σ)) (s : σ) (directory : String) (names : List String)
    (games : List (String × Game)) : Prop where
  sorted : (games.map Prod.fst).Pairwise (· < ·)
  mem_iff : ∀ name, name ∈ games.map Prod.fst ↔ name ∈ names ∧
    files.kindAt s (Path.join directory name) = some .directory ∧
    files.kindAt s (gamePath directory name) = some .file
  loads : ∀ entry ∈ games, (Game.load files (gamePath directory entry.1)).run.run s = (.ok entry.2, s)

/-- Every game is known under the name of its directory, and there are no others. -/
def KeepsEvery (catalog : GameCatalog) (games : List (String × Game)) : Prop :=
  (∀ entry ∈ games, catalog.get entry.1 = .ok entry.2) ∧ catalog.size = games.length

/-! ## Reading -/

/-- The names of a directory in their order are read one after another, as far as they have a game file. -/
theorem games_of_loadEach (steady : files.Steady) {games : List Game}
    (loaded : (loadEach files directory names).run s = ((.ok games, notices), s')) :
    ∃ entries : List (String × Game), entries.map Prod.snd = games ∧
      entries.map Prod.fst = names.filter (fun name => files.kindAt s (gamePath directory name) == some .file) ∧
      ∀ entry ∈ entries, (Game.load files (gamePath directory entry.1)).run.run s = (.ok entry.2, s) := by
  induction names generalizing games notices s' with
  | nil =>
    cases loaded
    exact ⟨[], rfl, rfl, fun _ none => absurd none List.not_mem_nil⟩
  | cons name rest ih =>
    unfold loadEach at loaded
    rw [run_bind_of_eq (steady.run_has .file _)] at loaded
    split at loaded
    · next isFile =>
      have found : (files.kindAt s (gamePath directory name) == some .file) = true := isFile
      obtain ⟨outcome, t, read, loaded⟩ := run_bind_eq loaded
      -- The world behind the game file is the one before it.
      obtain rfl : t = s := (congrArg Prod.snd read).symm.trans (Game.still_load steady _ s)
      cases outcome with
      | error e => cases loaded
      | ok game =>
        obtain ⟨⟨others, more⟩, t', loadedRest, loaded⟩ := run_bind_eq loaded
        cases others with
        | error e => cases loaded
        | ok others =>
          cases loaded
          obtain ⟨entries, rfl, fileNames, loads⟩ := ih loadedRest
          refine ⟨(name, game) :: entries, rfl, ?_, List.forall_mem_cons.2 ⟨read, loads⟩⟩
          simp only [List.map_cons, List.filter_cons, found, if_true, fileNames]
    · next noFile =>
      have missed : ¬(files.kindAt s (gamePath directory name) == some .file) = true := noFile
      obtain ⟨⟨others, more⟩, t', loadedRest, loaded⟩ := run_bind_eq loaded
      cases loaded
      obtain ⟨entries, games, fileNames, loads⟩ := ih loadedRest
      exact ⟨entries, games, by simp only [List.filter_cons, missed, Bool.false_eq_true, if_false, fileNames], loads⟩

/-- The games that a catalog is made of. -/
theorem exists_gamesOf (steady : files.Steady) (listed : files.Lists s directory names)
    (loaded : (load files directory).run s = ((.ok catalog, notices), s')) :
    ∃ games, GamesOf files s directory names games ∧ catalog = ofGames (games.map Prod.snd) := by
  unfold load at loaded
  rw [run_bind_of_eq (steady.run_names .directory listed)] at loaded
  obtain ⟨⟨outcome, more⟩, t, each, loaded⟩ := run_bind_eq loaded
  cases outcome with
  | error e => cases loaded
  | ok games =>
    cases loaded
    obtain ⟨entries, rfl, fileNames, loads⟩ := games_of_loadEach steady each
    refine ⟨entries, ⟨?_, fun name => ?_, loads⟩, rfl⟩
    · rw [fileNames]
      exact (sorted_sortedNames _).filter _
    · simp [fileNames, mem_sortedNames, Files.ofKind, and_assoc]

/-- Where every game can be read, the catalog is made of these games. -/
theorem load_of_loadEach (steady : files.Steady) (listed : files.Lists s directory names) {games : List Game}
    (each : (loadEach files directory (sortedNames (files.ofKind s .directory directory names))).run s =
      ((.ok games, notices), s')) :
    (load files directory).run s =
      ((.ok (ofGames games), notices ++ [.gamesLoaded (ofGames games).size directory]), s') := by
  unfold load
  rw [run_bind_of_eq (steady.run_names .directory listed)]
  exact run_bind_of_eq each

/-! ## Games by their ids -/

/-- Of the games with one id the last is known. -/
theorem get_ofGames_iff {games : List (String × Game)} {id : String} {game : Game} :
    (ofGames (games.map Prod.snd)).get id = .ok game ↔ ∃ before name behind,
      games = before ++ (name, game) :: behind ∧ game.id = id ∧ ∀ later ∈ behind, later.2.id ≠ id := by
  rw [get_eq_ok_iff, ofGames, OrderedMap.get?_ofList_eq_some_iff, List.map_map]
  constructor
  · rintro ⟨front, back, split, last⟩
    obtain ⟨before, rest, rfl, -, onward⟩ := List.map_eq_append_iff.1 split
    obtain ⟨⟨name, game'⟩, behind, rfl, same, rfl⟩ := List.map_eq_cons_iff.1 onward
    cases same
    refine ⟨before, name, behind, rfl, rfl, fun later present sameId => last ?_⟩
    exact List.mem_map.2 ⟨_, List.mem_map_of_mem present, sameId⟩
  · rintro ⟨before, name, behind, rfl, rfl, last⟩
    refine ⟨_, _, List.map_append.trans (congrArg _ List.map_cons), ?_⟩
    intro present
    obtain ⟨_, inBehind, same⟩ := List.mem_map.1 present
    obtain ⟨later, known, rfl⟩ := List.mem_map.1 inBehind
    exact last later known same

theorem size_ofGames (games : List (String × Game)) :
    (ofGames (games.map Prod.snd)).size = (games.map fun entry => entry.2.id).eraseDups.length := by
  show (OrderedMap.ofList _).entries.length = _
  rw [← List.length_map Prod.fst, ← OrderedMap.keys, OrderedMap.keys_ofList, List.map_map, List.map_map]
  rfl

/-! ## Two directories -/

/-- A game with one patch and no tables, written with lists for records. -/
def gameFileText (id name : String) : String :=
  "[\"" ++ id ++ "\",\"" ++ name ++ "\",\"e\",\x7b\x7d,\x7b\x7d,\x7b\"p\":[\"P\",\"1\"]\x7d,\"p\"]"

/-- Two directories of games, `a` and `b`, whose files tell the given ids. -/
def twoGames (first second : String) : Files (StateM Unit) :=
  .ofTexts [("games", ["a", "b"]), ("games/a", ["a.json"]), ("games/b", ["b.json"])]
    [("games/a/a.json", gameFileText first "First"), ("games/b/b.json", gameFileText second "Second")]

theorem steady_twoGames (first second : String) : (twoGames first second).Steady :=
  Files.steady_ofTexts _ _

theorem lists_twoGames (first second : String) : (twoGames first second).Lists () "games" ["a", "b"] := rfl

theorem exists_load_twoGames (first second : String)
    (readable : ((loadEach (twoGames first second) "games" ["a", "b"]).run ()).1.1.isOk = true) :
    ∃ catalog notices, (load (twoGames first second) "games").run () = ((.ok catalog, notices), ()) := by
  rcases each : (loadEach (twoGames first second) "games" ["a", "b"]).run () with ⟨⟨e | games, notices⟩, _⟩
  · rw [each] at readable
    cases readable
  · have inOrder : sortedNames ["a", "b"] = ["a", "b"] := sortedNames_of_ascending (by decide)
    rw [← inOrder] at each
    exact ⟨_, _, load_of_loadEach (steady_twoGames first second) (lists_twoGames first second) each⟩

theorem GamesOf.exists_twoGames {first second : String} {games : List (String × Game)}
    (ofFiles : GamesOf (twoGames first second) () "games" ["a", "b"] games) :
    ∃ inA inB, games = [("a", inA), ("b", inB)] ∧
      (Game.load (twoGames first second) (gamePath "games" "a")).run.run () = (.ok inA, ()) ∧
      (Game.load (twoGames first second) (gamePath "games" "b")).run.run () = (.ok inB, ()) := by
  have names : games.map Prod.fst = ["a", "b"] := by
    refine ascending_ext ofFiles.sorted (by decide) fun name => ?_
    refine (ofFiles.mem_iff name).trans ⟨And.left, fun present => ⟨present, ?_⟩⟩
    rcases List.mem_pair.1 present with rfl | rfl <;> exact ⟨rfl, rfl⟩
  obtain ⟨⟨a, inA⟩, rest, rfl, rfl, more⟩ := List.map_eq_cons_iff.1 names
  obtain ⟨⟨b, inB⟩, none, rfl, rfl, empty⟩ := List.map_eq_cons_iff.1 more
  obtain rfl : none = [] := List.map_eq_nil_iff.1 empty
  have readA := ofFiles.loads ("a", inA) List.mem_cons_self
  have readB := ofFiles.loads ("b", inB) (List.mem_cons_of_mem _ List.mem_cons_self)
  exact ⟨inA, inB, rfl, readA, readB⟩

theorem told_of_load {α : Type} {tell : Game → α} {a : α} {path : String} {game : Game}
    (read : (Game.load files path).run.run s = (.ok game, s'))
    (told : ((Game.load files path).run.run s).1.toOption.map tell = some a) : tell game = a := by
  rw [read] at told
  exact Option.some.inj told

/-! ## What is kept -/

/-- No game takes the place of another if and only if every file tells the name of its directory. -/
theorem keepsEvery_ofGames_iff {games : List (String × Game)} (sorted : (games.map Prod.fst).Pairwise (· < ·)) :
    (ofGames (games.map Prod.snd)).KeepsEvery games ↔ ∀ entry ∈ games, entry.2.id = entry.1 := by
  refine ⟨fun kept entry present => ?_, fun named => ?_⟩
  · obtain ⟨-, -, -, -, told, -⟩ := get_ofGames_iff.1 (kept.1 entry present)
    exact told
  have ids : (games.map fun entry => entry.2.id) = games.map Prod.fst := List.map_congr_left named
  have distinct : (games.map Prod.fst).Nodup := sorted.imp fun less => Std.ne_of_lt less
  refine ⟨fun entry present => get_ofGames_iff.2 ?_, ?_⟩
  · obtain ⟨before, behind, rfl⟩ := List.append_of_mem present
    refine ⟨before, entry.1, behind, rfl, named entry present, fun later inBehind same => ?_⟩
    have laterNamed : later.2.id = later.1 :=
      named later (List.mem_append_right _ (List.mem_cons_of_mem _ inBehind))
    have ascends : entry.1 < later.1 := by
      rw [List.map_append, List.map_cons, List.pairwise_append, List.pairwise_cons] at sorted
      exact sorted.2.1.1 _ (List.mem_map_of_mem inBehind)
    exact Std.ne_of_lt ascends (same.symm.trans laterNamed)
  · rw [size_ofGames, ids, eraseDups_of_nodup distinct, List.length_map]

/-- What a catalog keeps of a directory. Every directory with a game file of its name gives one game; of the games
with one id the last is known, and there are as many games as ids. If every file tells the name of its directory,
every game is known under this name, and only then. -/
theorem load_keeps_last (steady : files.Steady) (listed : files.Lists s directory names)
    (loaded : (load files directory).run s = ((.ok catalog, notices), s')) :
    ∃ games, GamesOf files s directory names games ∧
      (∀ id game, catalog.get id = .ok game ↔ ∃ before name behind,
        games = before ++ (name, game) :: behind ∧ game.id = id ∧ ∀ later ∈ behind, later.2.id ≠ id) ∧
      catalog.size = (games.map fun entry => entry.2.id).eraseDups.length ∧
      (catalog.KeepsEvery games ↔ ∀ entry ∈ games, entry.2.id = entry.1) := by
  obtain ⟨games, ofFiles, rfl⟩ := exists_gamesOf steady listed loaded
  exact ⟨games, ofFiles, fun id game => get_ofGames_iff, size_ofGames games, keepsEvery_ofGames_iff ofFiles.sorted⟩

/-- A directory of games that is kept whole. -/
theorem load_keeps_last_twoGames : (twoGames "a" "b").Steady ∧ (twoGames "a" "b").Lists () "games" ["a", "b"] ∧
    ∃ (catalog : GameCatalog) (notices : List Notice) (inA inB : Game),
      (load (twoGames "a" "b") "games").run () = ((.ok catalog, notices), ()) ∧
        catalog.KeepsEvery [("a", inA), ("b", inB)] := by
  obtain ⟨catalog, notices, loaded⟩ := exists_load_twoGames "a" "b" (by decide +kernel)
  obtain ⟨games, ofFiles, -, -, kept⟩ := load_keeps_last (steady_twoGames _ _) (lists_twoGames _ _) loaded
  obtain ⟨inA, inB, rfl, readA, readB⟩ := ofFiles.exists_twoGames
  refine ⟨steady_twoGames _ _, lists_twoGames _ _, catalog, notices, inA, inB, loaded, kept.2 ?_⟩
  have idA : inA.id = "a" := told_of_load readA (by decide +kernel)
  have idB : inB.id = "b" := told_of_load readB (by decide +kernel)
  exact List.forall_mem_cons.2 ⟨idA, List.forall_mem_singleton.2 idB⟩

/-- The files of both directories tell the id of the first one. Loading succeeds, and the game of the second
directory is known under the name of the first one, whose own game is lost. -/
theorem load_loses_game : ∃ (catalog : GameCatalog) (notices : List Notice) (inA inB : Game),
    (load (twoGames "a" "a") "games").run () = ((.ok catalog, notices), ()) ∧
      GamesOf (twoGames "a" "a") () "games" ["a", "b"] [("a", inA), ("b", inB)] ∧ catalog.size = 1 ∧
      inA.name = "First" ∧ inB.name = "Second" ∧
      catalog.get "a" = .ok inB ∧ catalog.get "b" = .error (.unknownGame "b") ∧
      ¬ catalog.KeepsEvery [("a", inA), ("b", inB)] := by
  obtain ⟨catalog, notices, loaded⟩ := exists_load_twoGames "a" "a" (by decide +kernel)
  obtain ⟨games, ofFiles, rfl⟩ := exists_gamesOf (steady_twoGames _ _) (lists_twoGames _ _) loaded
  obtain ⟨inA, inB, rfl, readA, readB⟩ := ofFiles.exists_twoGames
  have idA : inA.id = "a" := told_of_load readA (by decide +kernel)
  have idB : inB.id = "a" := told_of_load readB (by decide +kernel)
  have size : (ofGames [inA, inB]).size = 1 := by
    refine (size_ofGames [("a", inA), ("b", inB)]).trans ?_
    rw [List.map_cons, List.map_cons, idA, idB]
    rfl
  refine ⟨_, notices, inA, inB, loaded, ofFiles, size, told_of_load readA (by decide +kernel),
    told_of_load readB (by decide +kernel), ?_, ?_, ?_⟩
  · exact get_ofGames_iff.2 ⟨[("a", inA)], "b", [], rfl, idB, fun _ none => absurd none List.not_mem_nil⟩
  · refine get_eq_error_iff.2 ⟨?_, rfl⟩
    show (OrderedMap.ofList [(inA.id, inA), (inB.id, inB)]).get? "b" = none
    rw [idA, idB]
    rfl
  · intro kept
    cases size.symm.trans kept.2

end GameCatalog

end ModScript
