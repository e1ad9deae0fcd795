import ModScript.Proofs.Json.Tables
import ModScript.Proofs.PatchChoice

/-!
# Resolution of builds

A catalog that was loaded finds a patch for every build of a game that it knows, whatever is sought; the only
error is that the game is not known. A patch is matched by the text of its fingerprint, and what is sought for a file
is the digest of its content. So a patch whose fingerprint does not read like a digest is never matched by a file.

Results:
1. `Sha256.isDigest_hexDigest`: how digests read.
2. `GameCatalog.exists_chooses`: a patch is chosen for every build of a game that is known.
3. `GameCatalog.Loaded.resolve_fails_only_unknown`: resolution for any catalog that was loaded.
-/

namespace ModScript

/-! ## Digests -/

namespace Sha256

/-- Sixty-four lowercase hexadecimal digits. -/
def IsDigest (text : String) : Prop :=
  text.length = 64 ∧ ∀ c ∈ text.toList, c ∈ "0123456789abcdef".toList

theorem length_wordChars (word : UInt32) : (wordChars word).length = 8 := by
  have short : (Nat.toDigits 16 word.toNat).length ≤ 8 :=
    (Nat.length_toDigits_le_iff (by decide) (by decide)).2 word.toNat_lt
  rw [wordChars, List.length_append, List.length_replicate]
  omega

theorem mem_wordChars {word : UInt32} {c : Char} (present : c ∈ wordChars word) : c ∈ "0123456789abcdef".toList := by
  have digits : ∀ k < 16, Nat.digitChar k ∈ "0123456789abcdef".toList := by decide
  rcases List.mem_append.1 present with padding | digit
  · rw [List.eq_of_mem_replicate padding]
    exact digits 0 (by decide)
  · obtain ⟨k, small, rfl⟩ := Address.mem_toDigits_sixteen digit
    exact digits k small

theorem isDigest_hexDigest (message : ByteArray) : IsDigest (hexDigest message) := by
  unfold hexDigest
  constructor
  · simp [length_wordChars]
  · intro c present
    rw [String.toList_ofList] at present
    obtain ⟨word, -, inWord⟩ := List.mem_flatMap.1 present
    exact mem_wordChars inWord

end Sha256

/-! ## What is chosen -/

/-- The resolution of what is sought among the patches of a game: the first patch with the sought fingerprint, or
the default patch if nothing is sought or no patch has it. -/
structure Game.Chooses (game : Game) (sought : Option String) (resolution : Resolution) : Prop where
  ofGame : resolution.game = game
  stored : game.patches.get? resolution.key = some resolution.patch
  matched_iff : resolution.matched = true ↔
    ∃ fingerprint, sought = some fingerprint ∧ ∃ entry ∈ game.patches.entries, entry.2.fingerprint = fingerprint
  first : resolution.matched = true → sought = some resolution.patch.fingerprint ∧ ∃ before behind,
    game.patches.entries = before ++ (resolution.key, resolution.patch) :: behind ∧
      ∀ entry ∈ before, entry.2.fingerprint ≠ resolution.patch.fingerprint
  default : resolution.matched = false → resolution.key = game.defaultPatch

namespace Game

variable {game : Game} {sought : Option String} {key : String} {patch : Patch}

theorem chooses_default (known : game.patches.get? game.defaultPatch = some patch)
    (missed : ∀ fingerprint, sought = some fingerprint →
      ∀ entry ∈ game.patches.entries, entry.2.fingerprint ≠ fingerprint) :
    game.Chooses sought ⟨game, game.defaultPatch, patch, false⟩ where
  ofGame := rfl
  stored := known
  matched_iff := by
    refine ⟨fun same => absurd same Bool.false_ne_true, ?_⟩
    rintro ⟨fingerprint, same, entry, present, own⟩
    exact absurd own (missed fingerprint same entry present)
  first := fun same => absurd same Bool.false_ne_true
  default := fun _ => rfl

theorem chooses_matching {before behind : List (String × Patch)}
    (split : game.patches.entries = before ++ (key, patch) :: behind)
    (others : ∀ entry ∈ before, entry.2.fingerprint ≠ patch.fingerprint) :
    game.Chooses (some patch.fingerprint) ⟨game, key, patch, true⟩ where
  ofGame := rfl
  stored := OrderedMap.get?_eq_some_iff.2 (by simp [split])
  matched_iff := ⟨fun _ => ⟨_, rfl, (key, patch), by simp [split], rfl⟩, fun _ => rfl⟩
  first := fun _ => ⟨rfl, before, behind, split, others⟩
  default := fun same => absurd same.symm Bool.false_ne_true

end Game

namespace GameCatalog

variable {catalog : GameCatalog} {id : String} {game : Game} {patch : Patch}

/-- A game with a default patch has a patch for everything that is sought. -/
theorem exists_chooses (default : game.patches.get? game.defaultPatch = some patch) (sought : Option String) :
    ∃ resolution, (resolveIn game sought).1 = .ok resolution ∧ game.Chooses sought resolution := by
  have fallback := resolveDefault_eq_ok_iff.2 ⟨patch, default, rfl⟩
  cases sought with
  | none =>
    refine ⟨_, fallback, Game.chooses_default default fun fingerprint same => ?_⟩
    cases same
  | some fingerprint =>
    cases found : game.findByFingerprint? fingerprint with
    | none =>
      refine ⟨_, by simp only [resolveIn, found]; exact fallback, Game.chooses_default default fun other same => ?_⟩
      cases same
      exact Game.findByFingerprint?_eq_none_iff.1 found
    | some entry =>
      obtain ⟨rfl, before, behind, split, others⟩ := Game.findByFingerprint?_eq_some_iff.1 found
      refine ⟨⟨game, entry.1, entry.2, true⟩, ?_, Game.chooses_matching split others⟩
      simp only [resolveIn, found]

theorem contains_eq_false_iff : catalog.contains id = false ↔ catalog.get id = .error (.unknownGame id) := by
  rw [get_eq_error_iff, contains, OrderedMap.contains, Option.isSome_eq_false_iff, Option.isNone_iff_eq_none]
  exact ⟨fun none => ⟨none, rfl⟩, And.left⟩

theorem resolve_eq (known : catalog.get id = .ok game) (sought : Option String) :
    catalog.resolve id sought = resolveIn game sought := by
  simp only [resolve, known]

/-- What is sought for a file is the digest of its content, and nothing if it cannot be read. -/
theorem run_resolveBinary {σ : Type} (files : Files (StateM σ)) (catalog : GameCatalog) (id path : String) (s : σ) :
    ((resolveBinary files catalog id path).run s).1.1 =
      (catalog.resolve id (((files.read path).run s).1.toOption.map Sha256.hexDigest)).1 := by
  show (catalog.resolveContent id path (((files.read path).run s).1.mapError Error.file)).1 = _
  cases ((files.read path).run s).1 <;> rfl

/-- Resolution in a catalog that was loaded. It fails if and only if the game is not known, and then with that error;
otherwise the patch of the game is chosen for what is sought. A file is resolved by the digest of its content, and no
patch is matched by a file whose fingerprint does not read like a digest. -/
theorem Loaded.resolve_fails_only_unknown (loaded : catalog.Loaded) (id : String) :
    (∀ sought e, (catalog.resolve id sought).1 = .error e ↔ catalog.contains id = false ∧ e = .unknownGame id) ∧
      (∀ sought, catalog.contains id = true → ∃ game resolution, catalog.get id = .ok game ∧
        (catalog.resolve id sought).1 = .ok resolution ∧ game.Chooses sought resolution) ∧
      ∀ (σ : Type) (files : Files (StateM σ)) (path : String) (s : σ),
        ((resolveBinary files catalog id path).run s).1.1 =
            (catalog.resolve id (((files.read path).run s).1.toOption.map Sha256.hexDigest)).1 ∧
          ∀ resolution, ((resolveBinary files catalog id path).run s).1.1 = .ok resolution →
            resolution.matched = true → Sha256.IsDigest resolution.patch.fingerprint := by
  have chosen : ∀ game, catalog.get id = .ok game → ∀ sought, ∃ resolution,
      (catalog.resolve id sought).1 = .ok resolution ∧ game.Chooses sought resolution := by
    intro game known sought
    obtain ⟨patch, default⟩ := loaded.defaultPatch known
    rw [resolve_eq known]
    exact exists_chooses default sought
  refine ⟨fun sought e => ?_, fun sought contained => ?_, fun σ files path s => ?_⟩
  · cases known : catalog.get id with
    | ok game =>
      obtain ⟨resolution, resolved, -⟩ := chosen game known sought
      rw [contains_eq_false_iff, resolved, known]
      simp
    | error e' =>
      obtain ⟨-, rfl⟩ := get_eq_error_iff.1 known
      rw [contains_eq_false_iff, resolve, known]
      simp [eq_comm]
  · cases known : catalog.get id with
    | ok game =>
      obtain ⟨resolution, resolved, chooses⟩ := chosen game known sought
      exact ⟨game, resolution, rfl, resolved, chooses⟩
    | error e =>
      obtain ⟨-, rfl⟩ := get_eq_error_iff.1 known
      cases contained.symm.trans (contains_eq_false_iff.2 known)
  · refine ⟨run_resolveBinary files catalog id path s, fun resolution resolved matched => ?_⟩
    rw [run_resolveBinary] at resolved
    cases known : catalog.get id with
    | ok game =>
      obtain ⟨other, resolved', chooses⟩ := chosen game known _
      obtain rfl := Except.ok.inj (resolved.symm.trans resolved')
      obtain ⟨same, -⟩ := chooses.first matched
      obtain ⟨content, -, told⟩ := Option.map_eq_some_iff.1 same
      exact told ▸ Sha256.isDigest_hexDigest content
    | error e =>
      rw [resolve, known] at resolved
      cases resolved

/-- In a catalog with the game `g` a fingerprint of the game is matched, and no other game is found. -/
theorem resolve_fails_only_unknown_other : ∃ (catalog : GameCatalog) (game : Game) (resolution : Resolution),
    catalog.Loaded ∧ catalog.get "g" = .ok game ∧ (catalog.resolve "g" (some "1")).1 = .ok resolution ∧
      game.Chooses (some "1") resolution ∧ resolution.matched = true ∧
      (catalog.resolve "h" (some "1")).1 = .error (.unknownGame "h") := by
  have told : ((load (oneGame gameText) "games").run ()).1.1.toOption.map (fun catalog =>
      (catalog.contains "g", catalog.contains "h",
        (catalog.resolve "g" (some "1")).1.toOption.map Resolution.matched)) = some (true, false, some true) := by
    decide +kernel
  rcases loading : (load (oneGame gameText) "games").run () with ⟨⟨e | catalog, notices⟩, _⟩
  · rw [loading] at told
    cases told
  · rw [loading] at told
    have loaded : catalog.Loaded := ⟨Unit, _, _, _, _, _, loading⟩
    obtain ⟨here, there, matched⟩ : catalog.contains "g" = true ∧ catalog.contains "h" = false ∧
        (catalog.resolve "g" (some "1")).1.toOption.map Resolution.matched = some true := by
      simpa using Option.some.inj told
    obtain ⟨game, resolution, known, resolved, chooses⟩ := (loaded.resolve_fails_only_unknown "g").2.1 (some "1") here
    rw [resolved] at matched
    exact ⟨catalog, game, resolution, loaded, known, resolved, chooses, Option.some.inj matched,
      ((loaded.resolve_fails_only_unknown "h").1 (some "1") _).2 ⟨there, rfl⟩⟩

end GameCatalog

end ModScript
