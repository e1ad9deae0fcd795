import ModScript.Game.Basic

/-!
# Inherited tables

A table may name another patch of the game: it then starts from that patch's table of the same module
and adds its own entries. Full tables are remembered, so each is put together once. On the way to a full
table no patch may come twice, which also bounds the way by the number of patches.
-/

namespace ModScript

/-- A table as it is written: its own entries, and the patch from which the rest is taken. -/
structure TableDraft where
  parent : Option String
  own : ModuleTable

/-- The written tables of all patches, per patch and module. -/
abbrev TableDrafts := OrderedMap (OrderedMap TableDraft)

/-- The full tables put together so far, by patch and module, the last one first. -/
abbrev KnownTables := List ((String × String) × ModuleTable)

namespace TableDrafts

/-- The patches that are not on the way. -/
def unmet (drafts : TableDrafts) (way : List String) : List String :=
  drafts.keys.filter fun key => !way.contains key

/-- Meeting a patch for the first time leaves fewer to be met. -/
theorem unmet_append_lt {drafts : TableDrafts} {way : List String} {patch : String}
    (known : patch ∈ drafts.keys) (fresh : patch ∉ way) :
    (drafts.unmet (way ++ [patch])).length < (drafts.unmet way).length := by
  have h : drafts.unmet (way ++ [patch]) = (drafts.unmet way).filter fun key => key != patch := by
    simp only [unmet, List.filter_filter]
    congr 1
    funext key
    by_cases hk : key = patch <;> simp [hk, bne]
  rw [h]
  refine List.length_filter_lt_length_iff_exists.2 ⟨patch, ?_, by simp⟩
  simp [unmet, known, fresh]

/-- Adds the own entries of a table to what it inherits, and remembers the result. -/
def remember (patch module : String) (own : ModuleTable) (inherited : ModuleTable × KnownTables) :
    ModuleTable × KnownTables :=
  let table := inherited.1.extend own
  (table, ((patch, module), table) :: inherited.2)

/-- The full table of `module` in `patch`, and the tables known afterwards. `way` are the patches whose
tables wait for this one. -/
def resolve (drafts : TableDrafts) (module : String) (way : List String) (patch : String)
    (known : KnownTables) : Except Error (ModuleTable × KnownTables) :=
  match known.lookup (patch, module) with
  | some table => .ok (table, known)
  | none =>
    if repeated : patch ∈ way then .error (.inheritanceCycle (way ++ [patch]) module)
    else
      match found : drafts.get? patch with
      | none => .error (.invalidGame (.unknownParent patch))
      | some tables =>
        match tables.get? module with
        | none => .error (.invalidGame (.noTable patch module))
        | some draft =>
          match draft.parent with
          | none => .ok (remember patch module draft.own (.empty, known))
          | some parent =>
            have := unmet_append_lt (OrderedMap.mem_keys_of_get? found) repeated
            (resolve drafts module (way ++ [patch]) parent known).map
              (remember patch module draft.own)
termination_by (drafts.unmet way).length

/-- The full table of `module` in `patch`, with the tables known so far as state. -/
def flatten (drafts : TableDrafts) (patch module : String) :
    StateT KnownTables (Except Error) ModuleTable := fun known =>
  resolve drafts module [] patch known

end TableDrafts

end ModScript
