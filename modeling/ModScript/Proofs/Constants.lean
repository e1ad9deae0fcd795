import Mathlib.Data.List.Nodup
import ModScript.Proofs.ConstantNames
import ModScript.Proofs.Script.TopLevel

/-!
# Constants of scripts

A script binds the constants of its game, and those that the patch has for the executable, as far as their names are
free. A name that both have is bound once, where the game has it, to the value of the patch. A script has a fixed list
of names for itself, and it leaves out each constant that has one of them; so every name at the top level of a script
is bound once, whatever the mod, the game and the patch are.

Results:
1. `readHexLiteral?_hexLiteral`: whole numbers read back.
2. `Game.keys_constantsFor`, `Game.get?_constantsFor`: the constants of a game for a patch.
3. `Game.mergesTo_constants`: those of them that a script has.
4. `Script.nodup_bindings`: no name at the top level is bound twice.
5. `Declaration.constants_bound_once`: the constants in the text of a script.
-/

namespace ModScript

/-! ## Whole numbers -/

/-- The number that hexadecimal digits stand for. -/
def readHexDigits? (digits : List Char) : Option Nat :=
  if digits.isEmpty then none
  else digits.foldlM (fun n c => (Json.hexValue? c).map fun k => 16 * n + k) 0

/-- The whole number that a literal with the mark of hexadecimal digits stands for, or such a literal with a minus. -/
def readHexLiteral? (text : String) : Option Int :=
  match text.toList with
  | '-' :: '0' :: 'x' :: digits => (readHexDigits? digits).map fun k : Nat => -(k : Int)
  | '0' :: 'x' :: digits => (readHexDigits? digits).map fun k : Nat => (k : Int)
  | _ => none

theorem foldlM_toDigits (n : Nat) :
    (Nat.toDigits 16 n).foldlM (fun n c => (Json.hexValue? c).map fun k => 16 * n + k) 0 = some n := by
  induction n using Nat.strongRecOn with
  | ind n ih =>
    rw [Nat.toDigits_eq_if (by decide)]
    split
    next small => simp [Address.hexValue?_digitChar small]
    next large =>
      have last : n % 16 < 16 := Nat.mod_lt _ (by decide)
      rw [List.foldlM_append, ih (n / 16) (by omega)]
      simp [Address.hexValue?_digitChar last, Nat.div_add_mod n 16]

theorem readHexDigits?_toDigits (n : Nat) : readHexDigits? (Nat.toDigits 16 n) = some n := by
  have some : (Nat.toDigits 16 n).isEmpty = false := by simp
  rw [readHexDigits?, some, if_neg Bool.false_ne_true, foldlM_toDigits]

/-- A whole number reads back. -/
theorem readHexLiteral?_hexLiteral (n : Int) : readHexLiteral? (hexLiteral n) = some n := by
  have digits := readHexDigits?_toDigits n.natAbs
  by_cases negative : n < 0
  · have chars : (hexLiteral n).toList = '-' :: '0' :: 'x' :: Nat.toDigits 16 n.natAbs := by
      simp [hexLiteral, negative]
    have below : -(n.natAbs : Int) = n := by omega
    rw [readHexLiteral?, chars]
    show (readHexDigits? (Nat.toDigits 16 n.natAbs)).map (fun k : Nat => -(k : Int)) = some n
    rw [digits, Option.map_some, below]
  · have chars : (hexLiteral n).toList = '0' :: 'x' :: Nat.toDigits 16 n.natAbs := by
      simp [hexLiteral, negative]
    have above : (n.natAbs : Int) = n := by omega
    rw [readHexLiteral?, chars]
    show (readHexDigits? (Nat.toDigits 16 n.natAbs)).map (fun k : Nat => (k : Int)) = some n
    rw [digits, Option.map_some, above]

/-! ## The constants of a game for a patch -/

namespace Game

/-- The constants that a patch has for the executable. -/
def patchConstants (game : Game) (patch : Patch) : OrderedMap Json :=
  ((patch.tables.get? game.executable).map ModuleTable.constants).getD .empty

theorem constantsFor_eq (game : Game) (patch : Patch) :
    game.constantsFor patch = game.constants.extend (game.patchConstants patch) := by
  unfold constantsFor patchConstants
  cases patch.tables.get? game.executable <;> rfl

/-- The names of the game stand first, then those that only the patch has. -/
theorem keys_constantsFor (game : Game) (patch : Patch) : (game.constantsFor patch).keys =
    game.constants.keys ++ (game.patchConstants patch).keys.filter (· ∉ game.constants.keys) := by
  have others : (game.patchConstants patch).keys.removeAll game.constants.keys =
      (game.patchConstants patch).keys.filter (· ∉ game.constants.keys) :=
    List.filter_congr fun name _ => by simp
  have distinct := ((game.patchConstants patch).nodup_keys.filter (· ∉ game.constants.keys))
  rw [constantsFor_eq, OrderedMap.keys_extend, List.eraseDups_append, eraseDups_of_nodup game.constants.nodup_keys,
    others, eraseDups_of_nodup distinct]

/-- The value of the patch goes before that of the game. -/
theorem get?_constantsFor (game : Game) (patch : Patch) (name : String) : (game.constantsFor patch).get? name =
    ((game.patchConstants patch).get? name).or (game.constants.get? name) := by
  rw [constantsFor_eq, OrderedMap.get?_extend]

/-- The constants are those of the game and of the patch that have free names, each of them once. Those of the game
stand in its order, and behind them those that only the patch has. -/
structure MergesTo (game : Game) (patch : Patch) (constants : List (String × Json)) : Prop where
  names : constants.map Prod.fst = (game.constants.keys ++
    (game.patchConstants patch).keys.filter (· ∉ game.constants.keys)).filter isFreeName
  distinct : (constants.map Prod.fst).Nodup
  values : ∀ constant ∈ constants,
    ((game.patchConstants patch).get? constant.1).or (game.constants.get? constant.1) = some constant.2

theorem mergesTo_constants (declaration : Declaration) (game : Game) (patch : Patch) :
    game.MergesTo patch (Script.ofMod declaration game patch).constants := by
  have names : (Script.ofMod declaration game patch).constants.map Prod.fst =
      (game.constantsFor patch).keys.filter isFreeName := by
    show ((game.constantsFor patch).entries.filter fun entry => isFreeName entry.1).map Prod.fst = _
    rw [OrderedMap.keys, List.filter_map]
    rfl
  refine ⟨names.trans (by rw [keys_constantsFor]), names ▸ (game.constantsFor patch).nodup_keys.filter _, ?_⟩
  intro constant present
  rw [← get?_constantsFor]
  exact (mem_constants_iff.1 present).1

end Game

/-! ## Names at the top level -/

namespace Script

/-- What a script binds besides the constants, before them and behind them. -/
theorem exists_bindings_eq (script : Script) : ∃ front back,
    script.bindings = front ++ script.constants.map Prod.fst ++ back ∧
      (front ++ back).Nodup ∧ ∀ name ∈ front ++ back, name ∈ ownBindings := by
  refine ⟨Support.bindings ++ ["manifest", "_supportedModules"], ["memoryAddresses", "__init", "__registerFunctions",
    "__installHooks", "__installLoops", "__installNops"] ++ (if script.exit.isSome then ["__modExit"] else []), ?_, ?_⟩
  · simp [bindings]
  · cases script.exit.isSome <;> decide

/-- No name is bound twice at the top level of a script. -/
theorem nodup_bindings (declaration : Declaration) (game : Game) (patch : Patch) :
    (Script.ofMod declaration game patch).bindings.Nodup := by
  obtain ⟨front, back, bindings, distinct, own⟩ := exists_bindings_eq (Script.ofMod declaration game patch)
  have names := (game.mergesTo_constants declaration patch).distinct
  have apart : ∀ name ∈ (Script.ofMod declaration game patch).constants.map Prod.fst, name ∉ front ++ back := by
    intro name bound inRest
    obtain ⟨constant, present, rfl⟩ := List.mem_map.1 bound
    exact (isFreeName_iff.1 (Declaration.isFreeName_constant present)).2.1 (own _ inRest)
  rw [bindings, List.append_assoc, List.nodup_append_comm, List.append_assoc, List.nodup_append']
  exact ⟨names, List.nodup_append_comm.1 distinct, fun name bound inRest =>
    apart name bound (List.perm_append_comm.mem_iff.1 inRest)⟩

/-- The constants stand in the script, each on a line of its own. -/
theorem exists_text_eq_constants (script : Script) : ∃ before behind,
    script.text = before ++ part (joinLines (script.constants.map constantLine)) ++ behind := by
  have blocks : script.blocks = [Support.text, script.manifestBlock] ++ script.constantsBlock :: script.blocks.drop 3 :=
    rfl
  exact ⟨_, _, text_eq_between blocks (by simp) (by simp [Script.blocks])⟩

end Script

/-! ## The constants of a script -/

namespace Declaration

variable {declaration : Declaration}

/-- The constants of a script stand in one block, and they are those of the game and the patch that have free names,
each once. Whole numbers stand in hexadecimal and read back, and any other value stands as data. Their names are
identifiers and no keywords; and of all names that the script binds outside all brackets, whatever sources it calls
back, no two are the same. If the sources are balanced, these names can be read off the script. -/
theorem constants_bound_once (accepted : declaration.Accepted) (game : Game) (patch : Patch) :
    ∃ constants : List (String × Json), game.MergesTo patch constants ∧
      (∃ before behind, declaration.script game patch = before ++ Script.part (joinLines (constants.map fun constant =>
        "const " ++ constant.1 ++ " = " ++ constantLiteral constant.2 ++ ";")) ++ behind) ∧
      (∀ (n : Int) (fits : FitsWord n), readHexLiteral? (constantLiteral (.number (.whole n fits))) = some n) ∧
      (∀ value, (∀ n fits, value ≠ .number (.whole n fits)) → constantLiteral value = value.compact) ∧
      (∀ constant ∈ constants, isIdentifier constant.1 = true ∧ constant.1 ∉ keywords) ∧
      constants.map Prod.fst <:+: (Script.ofMod declaration game patch).bindings ∧
      (Script.ofMod declaration game patch).bindings.Nodup ∧
      Declares (declaration.sources.map Text.trim) (declaration.script game patch)
        (Script.ofMod declaration game patch).bindings ∧
      ((∀ source ∈ declaration.sources, Balanced source) →
        topLevelNames? (declaration.script game patch) = some (Script.ofMod declaration game patch).bindings) := by
  have declares : Declares (declaration.sources.map Text.trim) (declaration.script game patch)
      (Script.ofMod declaration game patch).bindings := (accepted.fits game patch).declares_text
  obtain ⟨front, back, bindings, -, -⟩ := Script.exists_bindings_eq (Script.ofMod declaration game patch)
  refine ⟨_, game.mergesTo_constants declaration patch, Script.exists_text_eq_constants _,
    fun n _ => readHexLiteral?_hexLiteral n, fun value other => ?_, fun constant present => ?_,
    ⟨front, back, bindings.symm⟩, Script.nodup_bindings declaration game patch, declares, fun balanced => ?_⟩
  · unfold constantLiteral
    split
    · exact absurd rfl (other _ _)
    · rfl
  · obtain ⟨identifier, -, -, noKeyword⟩ := isFreeName_iff.1 (isFreeName_constant present)
    exact ⟨identifier, noKeyword⟩
  · refine declares.topLevelNames? fun text present => ?_
    obtain ⟨source, known, rfl⟩ := List.mem_map.1 present
    exact balanced_trim (balanced source known)

/-- A patch that changes a constant of its game and has one of its own. -/
def mergingPatch : Patch where
  name := "A"
  fingerprint := "1"
  tables := ⟨[("e", {
    constants := ⟨[("C", .number (.whole (-1) (by decide))), ("A", .number (.ofUInt64 255))], by decide⟩
    vars := .empty
    hooks := .empty })], by decide⟩

/-- A game with a constant that scripts have for themselves. -/
def mergingGame : Game where
  id := "g"
  name := "G"
  executable := "e"
  modules := .empty
  constants := ⟨[("A", .number (.ofUInt64 1)), ("game", .number (.ofUInt64 2)), ("B", .string "x")], by decide⟩
  patches := ⟨[("a", mergingPatch)], by decide⟩
  defaultPatch := "a"

theorem constants_bound_once_merging :
    quotingMod.Accepted ∧ (∀ source ∈ quotingMod.sources, Balanced source) ∧
    (∃ constants : List (String × Json), mergingGame.MergesTo mergingPatch constants ∧
      constants.map Prod.fst = ["A", "B", "C"]) ∧
    topLevelNames? (quotingMod.script mergingGame mergingPatch) = some ["__state", "TYPE_MAP", "__offset",
      "__createRuntime", "game", "__emitLog", "log", "warn", "error", "__teardown", "manifest", "_supportedModules",
      "A", "B", "C", "memoryAddresses", "__init", "__registerFunctions", "__installHooks", "__installLoops",
      "__installNops"] := by
  have balanced : ∀ source ∈ quotingMod.sources, Balanced source := by decide
  obtain ⟨constants, merges, -, -, -, -, -, -, -, readable⟩ :=
    constants_bound_once accepted_quotingMod mergingGame mergingPatch
  have names : constants.map Prod.fst = ["A", "B", "C"] := by
    rw [merges.names]
    decide
  exact ⟨accepted_quotingMod, balanced, ⟨constants, merges, names⟩, readable balanced⟩

example : (Script.ofMod quotingMod mergingGame mergingPatch).constantsBlock =
    joinLines ["const A = 0xff;", "const B = \"x\";", "const C = -0x1;"] := by decide +kernel

end Declaration

end ModScript
