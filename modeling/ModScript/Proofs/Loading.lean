import ModScript.Game.Loading
import ModScript.Proofs.Inheritance

/-!
# Loading of games

What loading a game file makes of the inheritance in it, for every file system that may even change while
it is read. The tables are resolved patch by patch and module by module in the order of the file, so the
fault of a game is that of the first table whose chain does not end.

Results:
1. `flatPatches_cases`: all patches get full tables, or the first broken chain is the fault.
2. `load_resolves_inheritance`: what `Game.load` gives for a game file whose tables can all be read.
-/

namespace ModScript

open TableDrafts

/-! ## Files that hold a text -/

namespace Files

variable {σ : Type} {files : Files (StateM σ)} {path text : String} {s s' : σ}

theorem fromUTF8?_toUTF8 (text : String) : String.fromUTF8? text.toUTF8 = some text := by
  have valid : text.toUTF8.IsValidUTF8 := text.isValidUTF8
  rw [String.fromUTF8?, dif_pos valid]
  rfl

/-- A file that holds a text is read as that text. -/
theorem text_of_stored (stored : (files.read path).run s = (.ok text.toUTF8, s')) :
    (files.text path).run.run s = (.ok text, s') := by
  have bytes : (files.bytes path).run.run s = (.ok text.toUTF8, s') := by
    show (do return (← files.read path).mapError Error.file : StateM σ _).run s = _
    rw [StateT.run_bind, stored]
    rfl
  rw [Files.text, OrderedMap.run_bind_of_ok bytes, fromUTF8?_toUTF8]
  rfl

end Files

namespace GameDraft

/-- The patches and modules of all tables in the order of the file. -/
def declared (draft : GameDraft) : List (String × String) :=
  draft.patches.entries.flatMap fun entry => entry.2.tables.keys.map fun module => (entry.1, module)

/-- The chain of every table in the list ends. -/
def AllEnd (drafts : TableDrafts) (tables : List (String × String)) : Prop :=
  ∀ patch module, (patch, module) ∈ tables → ∃ chain, Chain drafts module patch chain

/-- `e` is the fault of the first table in the list whose chain is broken. -/
def FirstBroken (drafts : TableDrafts) (tables : List (String × String)) (e : Error) : Prop :=
  ∃ before patch module after, tables = before ++ (patch, module) :: after ∧
    AllEnd drafts before ∧ Broken drafts module patch e

/-- `patch` is the written patch under `key`, with the full table of every module in order. -/
structure FlatPatch (drafts : TableDrafts) (key : String) (written : PatchDraft) (patch : Patch) :
    Prop where
  name : patch.name = written.name
  fingerprint : patch.fingerprint = written.fingerprint
  tables : OrderedMap.Related
    (fun module _ table => ∃ chain, Chain drafts module key chain ∧
      Flattened drafts module chain table)
    written.tables patch.tables

/-! ## The order of resolution -/

theorem flatten_cases {drafts : TableDrafts} (patch module : String) (known : KnownTables)
    (sound : KnownSound drafts known) :
    (∃ table known', (drafts.flatten patch module).run known = .ok (table, known') ∧
      KnownSound drafts known' ∧
      ∃ chain, Chain drafts module patch chain ∧ Flattened drafts module chain table) ∨
    ∃ e, (drafts.flatten patch module).run known = .error e ∧ Broken drafts module patch e := by
  rcases resolve_cases [] patch known .here List.nodup_nil sound with
    ⟨chain, known', ends, resolved, sound'⟩ | failed
  · exact .inl ⟨_, known', resolved, sound', chain, ends, flattened_fullTable drafts module chain⟩
  · exact .inr failed

theorem flatPatch_cases {drafts : TableDrafts} (key : String) (written : PatchDraft)
    (known : KnownTables) (sound : KnownSound drafts known) :
    (∃ patch known', (flatPatch drafts key written).run known = .ok (patch, known') ∧
      KnownSound drafts known' ∧ FlatPatch drafts key written patch) ∨
    ∃ e, (flatPatch drafts key written).run known = .error e ∧
      FirstBroken drafts (written.tables.keys.map fun module => (key, module)) e := by
  unfold flatPatch
  rw [StateT.run_bind]
  rcases OrderedMap.mapValuesM_cases
      (fun module (_ : TableSource) known sound => flatten_cases key module known sound)
      written.tables sound with
    ⟨tables, known', ran, sound', related⟩ | ⟨before, entry, after, e, split, ended, broken, failed⟩
  · refine .inl ⟨{ name := written.name, fingerprint := written.fingerprint, tables }, known', ?_,
      sound', rfl, rfl, related⟩
    rw [ran]
    rfl
  · refine .inr ⟨e, by rw [failed]; rfl, before.map fun entry => (key, entry.1), key, entry.1,
      after.map fun entry => (key, entry.1), ?_, ?_, broken⟩
    · simp [OrderedMap.keys, split, Function.comp_def]
    · intro patch module present
      obtain ⟨earlier, inBefore, same⟩ := List.mem_map.1 present
      cases same
      obtain ⟨_, chain, ends, -⟩ := ended earlier inBefore
      exact ⟨chain, ends⟩

theorem FlatPatch.allEnd {drafts : TableDrafts} {key : String} {written : PatchDraft} {patch : Patch}
    (flat : FlatPatch drafts key written patch) :
    AllEnd drafts (written.tables.keys.map fun module => (key, module)) := by
  intro patch' module present
  obtain ⟨module', inKeys, same⟩ := List.mem_map.1 present
  cases same
  obtain ⟨source, found⟩ := OrderedMap.mem_keys_iff.1 inKeys
  obtain ⟨_, -, chain, ends, -⟩ := flat.tables.get?_right found
  exact ⟨chain, ends⟩

/-- All patches get full tables, or the fault is that of the first table whose chain is broken. -/
theorem flatPatches_cases (draft : GameDraft) (drafts : TableDrafts) :
    (∃ patches, draft.flatPatches drafts = .ok patches ∧
      OrderedMap.Related (FlatPatch drafts) draft.patches patches) ∨
    ∃ e, draft.flatPatches drafts = .error e ∧ FirstBroken drafts draft.declared e := by
  unfold flatPatches
  rcases OrderedMap.mapValuesM_cases
      (fun key written known sound => flatPatch_cases key written known sound)
      draft.patches (knownSound_nil drafts) with
    ⟨patches, known', ran, -, related⟩ | ⟨before, entry, after, e, split, flat, broken, failed⟩
  · refine .inl ⟨patches, ?_, related⟩
    show Prod.fst <$> (draft.patches.mapValuesM (flatPatch drafts)).run [] = _
    rw [ran]
    rfl
  · obtain ⟨front, patch, module, back, splitEntry, ended, broken⟩ := broken
    refine .inr ⟨e, ?_, (before.flatMap fun entry => entry.2.tables.keys.map fun module =>
      (entry.1, module)) ++ front, patch, module, back ++ after.flatMap fun entry =>
        entry.2.tables.keys.map fun module => (entry.1, module), ?_, ?_, broken⟩
    · show Prod.fst <$> (draft.patches.mapValuesM (flatPatch drafts)).run [] = _
      rw [failed]
      rfl
    · simp [declared, split, splitEntry]
    · -- All tables of the patches before have chains, and so has the front of this one.
      intro patch' module' present
      rcases List.mem_append.1 present with earlier | inFront
      · obtain ⟨entry', inBefore, inEntry⟩ := List.mem_flatMap.1 earlier
        obtain ⟨_, flatEntry⟩ := flat entry' inBefore
        exact flatEntry.allEnd patch' module' inEntry
      · exact ended patch' module' inFront

theorem allEnd_of_related {draft : GameDraft} {drafts : TableDrafts} {patches : OrderedMap Patch}
    (related : OrderedMap.Related (FlatPatch drafts) draft.patches patches) :
    AllEnd drafts draft.declared := by
  intro patch module present
  obtain ⟨entry, inEntries, inEntry⟩ := List.mem_flatMap.1 present
  obtain ⟨_, -, flat⟩ := related.get?_right (OrderedMap.get?_eq_some_iff.2 inEntries)
  exact flat.allEnd patch module inEntry

theorem FirstBroken.not_allEnd {drafts : TableDrafts} {tables : List (String × String)} {e : Error}
    (h : FirstBroken drafts tables e) : ¬ AllEnd drafts tables := by
  obtain ⟨before, patch, module, after, rfl, -, broken⟩ := h
  intro ended
  obtain ⟨chain, ends⟩ := ended patch module (by simp)
  exact ends.not_broken broken

/-- Of two places in a list one comes before the other, or they are the same. -/
theorem same_or_before {α : Type} {front back front' back' : List α} {x x' : α}
    (h : front ++ x :: back = front' ++ x' :: back') : x = x' ∨ x ∈ front' ∨ x' ∈ front := by
  rcases List.append_eq_append_iff.1 h with ⟨more, rfl, rest⟩ | ⟨more, rfl, rest⟩
  · cases more with
    | nil => exact .inl (List.cons.inj rest).1
    | cons first more =>
      obtain ⟨rfl, -⟩ := List.cons.inj rest
      exact .inr (.inl (by simp))
  · cases more with
    | nil => exact .inl (List.cons.inj rest).1.symm
    | cons first more =>
      obtain ⟨rfl, -⟩ := List.cons.inj rest
      exact .inr (.inr (by simp))

/-- The first broken chain of a list has one fault. -/
theorem FirstBroken.unique {drafts : TableDrafts} {tables : List (String × String)} {e e' : Error}
    (h : FirstBroken drafts tables e) (h' : FirstBroken drafts tables e') : e = e' := by
  obtain ⟨before, patch, module, after, rfl, ended, broken⟩ := h
  obtain ⟨before', patch', module', after', split, ended', broken'⟩ := h'
  rcases same_or_before split with same | earlier | earlier
  · cases same
    exact broken.unique broken'
  · obtain ⟨chain, ends⟩ := ended' patch module earlier
    exact absurd broken ends.not_broken
  · obtain ⟨chain, ends⟩ := ended patch' module' earlier
    exact absurd broken' ends.not_broken

/-! ## Sources -/

section

variable {σ : Type} {files : Files (StateM σ)} {path : String} {s s' : σ} {draft : GameDraft}
  {drafts : TableDrafts}

/-- The sources of a game give one written table for every table that the game file names. -/
theorem sources_related (read : (Game.sources files path).run.run s = (.ok (draft, drafts), s')) :
    OrderedMap.Related (fun _ written tables => tables.keys = written.tables.keys)
      draft.patches drafts := by
  obtain ⟨text, _, -, read⟩ := OrderedMap.run_bind_eq_ok read
  obtain ⟨draft', _, -, read⟩ := OrderedMap.run_bind_eq_ok read
  obtain ⟨drafts', _, ran, read⟩ := OrderedMap.run_bind_eq_ok read
  cases read
  refine (OrderedMap.related_of_mapValuesM_run ran).imp ?_
  rintro entry entry' ⟨same, t, t', ranTables⟩
  exact ⟨same, (OrderedMap.related_of_mapValuesM_run ranTables).keys_eq⟩

theorem mem_declared_iff {patch module : String} :
    (patch, module) ∈ draft.declared ↔
      ∃ written, draft.patches.get? patch = some written ∧ module ∈ written.tables.keys := by
  simp only [declared, List.mem_flatMap, List.mem_map, Prod.mk.injEq]
  constructor
  · rintro ⟨entry, inEntries, module', inKeys, rfl, rfl⟩
    exact ⟨entry.2, OrderedMap.get?_eq_some_iff.2 inEntries, inKeys⟩
  · rintro ⟨written, found, inKeys⟩
    exact ⟨(patch, written), OrderedMap.get?_eq_some_iff.1 found, module, inKeys, rfl, rfl⟩

theorem mem_declared_iff_draft?
    (read : (Game.sources files path).run.run s = (.ok (draft, drafts), s')) (patch module : String) :
    (patch, module) ∈ draft.declared ↔ (drafts.draft? patch module).isSome := by
  have related := sources_related read
  rw [mem_declared_iff]
  constructor
  · rintro ⟨written, found, inKeys⟩
    obtain ⟨tables, foundTables, sameKeys⟩ := related.get?_right found
    obtain ⟨table, foundTable⟩ := OrderedMap.mem_keys_iff.1 (sameKeys ▸ inKeys)
    simp [draft?, foundTables, foundTable]
  · intro present
    obtain ⟨table, foundTable⟩ := Option.isSome_iff_exists.1 present
    obtain ⟨tables, foundTables, foundTable⟩ := Option.bind_eq_some_iff.1 foundTable
    obtain ⟨written, found, sameKeys⟩ := related.get?_left foundTables
    exact ⟨written, found, sameKeys ▸ OrderedMap.mem_keys_of_get? foundTable⟩

theorem load_eq_assemble (read : (Game.sources files path).run.run s = (.ok (draft, drafts), s')) :
    (Game.load files path).run.run s = (draft.assemble drafts, s') := by
  unfold Game.load
  rw [ExceptT.run_bind, StateT.run_bind, read]
  cases h : draft.assemble drafts with
  | error e =>
    show (MonadExcept.ofExcept (draft.assemble drafts) : ExceptT Error (StateM σ) Game).run.run s' = _
    rw [h]
    rfl
  | ok game =>
    show (MonadExcept.ofExcept (draft.assemble drafts) : ExceptT Error (StateM σ) Game).run.run s' = _
    rw [h]
    rfl

/-- Loading a game file whose tables can all be read. The declared tables are those that were read.
Loading gets past inheritance exactly when the chain of every declared table ends. Then every patch has
its declared modules in order, each with the table of its chain, and the game is checked. Otherwise a
declared table has the first broken chain, and loading ends with the fault of that chain. -/
theorem load_resolves_inheritance
    (read : (Game.sources files path).run.run s = (.ok (draft, drafts), s')) :
    (∀ patch module, (patch, module) ∈ draft.declared ↔ (drafts.draft? patch module).isSome) ∧
    ((∃ patches, draft.flatPatches drafts = .ok patches) ↔ AllEnd drafts draft.declared) ∧
    (∀ patches, draft.flatPatches drafts = .ok patches →
      OrderedMap.Related (FlatPatch drafts) draft.patches patches ∧
      (Game.load files path).run.run s = ((draft.withPatches patches).checked, s')) ∧
    (∀ e, FirstBroken drafts draft.declared e →
      (Game.load files path).run.run s = (.error e, s')) ∧
    (AllEnd drafts draft.declared ∨ ∃ e, FirstBroken drafts draft.declared e) := by
  have loaded := load_eq_assemble read
  unfold assemble at loaded
  refine ⟨mem_declared_iff_draft? read, ?_⟩
  rcases flatPatches_cases draft drafts with ⟨patches, flat, related⟩ | ⟨e, failed, broken⟩
  · have ended := allEnd_of_related related
    rw [flat] at loaded ⊢
    refine ⟨⟨fun _ => ended, fun _ => ⟨patches, rfl⟩⟩, ?_, ?_, .inl ended⟩
    · intro patches' same
      cases same
      exact ⟨related, loaded⟩
    · intro e broken
      exact absurd ended broken.not_allEnd
  · rw [failed] at loaded ⊢
    refine ⟨⟨nofun, fun ended => absurd ended broken.not_allEnd⟩,
      nofun, ?_, .inr ⟨e, broken⟩⟩
    intro e' broken'
    obtain rfl := broken.unique broken'
    exact loaded

end

/-- A game, written with lists for records, whose two patches inherit the table of the executable from
each other. -/
def mutualText : String :=
  "[\"g\",\"G\",\"e\",\x7b\x7d,\x7b\x7d,\x7b\"a\":[\"A\",\"1\",\x7b\"e\":[\"b\"]\x7d]," ++
    "\"b\":[\"B\",\"2\",\x7b\"e\":[\"a\"]\x7d]\x7d,\"a\"]"

/-- A world in which the same text stands at every path. -/
def oneText (text : String) : Files (StateM Unit) where
  read _ := return .ok text.toUTF8
  list _ := return .error .missing
  kind _ := return some .file
  write _ _ := return .error .unusable

/-- The error of a result, if it is one. -/
def fault? {α : Type} : Except Error α → Option Error
  | .error e => some e
  | .ok _ => none

theorem load_resolves_inheritance_mutual :
    ∃ draft drafts,
      (Game.sources (oneText mutualText) "g.json").run.run () = (.ok (draft, drafts), ()) ∧
      FirstBroken drafts draft.declared (.inheritanceCycle ["a", "b", "a"] "e") ∧
      (Game.load (oneText mutualText) "g.json").run.run () =
        (.error (.inheritanceCycle ["a", "b", "a"] "e"), ()) := by
  have readable : fault? ((Game.sources (oneText mutualText) "g.json").run.run ()).1 = none := by
    decide +kernel
  have cyclic : fault? ((Game.load (oneText mutualText) "g.json").run.run ()).1 =
      some (.inheritanceCycle ["a", "b", "a"] "e") := by decide +kernel
  rcases read : (Game.sources (oneText mutualText) "g.json").run.run () with ⟨e | ⟨draft, drafts⟩, _⟩
  · rw [read] at readable
    cases readable
  · obtain ⟨-, past, flat, first, total⟩ := load_resolves_inheritance read
    rcases total with ended | ⟨e, broken⟩
    · obtain ⟨patches, whole⟩ := past.2 ended
      rw [(flat patches whole).2] at cyclic
      unfold Game.checked at cyclic
      split at cyclic <;> cases cyclic
    · have loaded := first e broken
      rw [loaded] at cyclic
      cases cyclic
      exact ⟨draft, drafts, rfl, broken, loaded⟩

end GameDraft

end ModScript
