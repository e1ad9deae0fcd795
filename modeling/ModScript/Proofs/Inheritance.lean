import ModScript.Game.Inheritance
import ModScript.Proofs.OrderedMap

/-!
# Inheritance of tables

A full table is described here without the order of work: `Chain` lists the patches that are met by
following the parents of a table to the end, and `Broken` says why following them does not come to an
end. `TableDrafts.resolve` remembers tables and keeps a way of waiting patches; both are tied to the
chains by `KnownSound` and `Leads`.

Results:
1. `resolve_cases`: `resolve` gives the table of the chain, or the fault of the parents.
2. `flattened_fullTable`: in the table of a chain every name has its nearest definition, and the names
   stand in the order of their first definition from the root on.
3. `Chain.not_broken`, `Broken.unique`: the two descriptions exclude each other, and a fault is unique.
-/

namespace ModScript

namespace TableDrafts

/-! ## Chains -/

/-- The table of `module` as `patch` writes it. -/
def draft? (drafts : TableDrafts) (patch module : String) : Option TableDraft :=
  (drafts.get? patch).bind fun tables => tables.get? module

/-- The entries that `patch` itself gives for `module`. -/
def own (drafts : TableDrafts) (patch module : String) : ModuleTable :=
  ((drafts.draft? patch module).map TableDraft.own).getD .empty

/-- `Chain drafts module patch chain`: following the parents of the table of `module` in `patch` comes to
an end, every patch on the way has a table of `module`, and `chain` lists these patches, `patch` first. -/
inductive Chain (drafts : TableDrafts) (module : String) : String → List String → Prop
  | root {patch : String} {draft : TableDraft} :
      drafts.draft? patch module = some draft → draft.parent = none →
      Chain drafts module patch [patch]
  | step {patch parent : String} {draft : TableDraft} {rest : List String} :
      drafts.draft? patch module = some draft → draft.parent = some parent →
      Chain drafts module parent rest → Chain drafts module patch (patch :: rest)

/-- `Leads drafts module start way patch`: following the parents of the table of `module` in `start` leads
over the patches `way`, `start` first, to `patch`. -/
inductive Leads (drafts : TableDrafts) (module start : String) : List String → String → Prop
  | here : Leads drafts module start [] start
  | next {way : List String} {patch parent : String} {draft : TableDraft} :
      Leads drafts module start way patch → drafts.draft? patch module = some draft →
      draft.parent = some parent → Leads drafts module start (way ++ [patch]) parent

/-- Why following the parents of the table of `module` in `start` does not come to an end: after patches
that are all different, a patch comes again, is not known, or has no table of `module`. -/
inductive Broken (drafts : TableDrafts) (module start : String) : Error → Prop
  | cycle {way : List String} {patch : String} :
      Leads drafts module start way patch → way.Nodup → patch ∈ way →
      Broken drafts module start (.inheritanceCycle (way ++ [patch]) module)
  | unknown {way : List String} {patch : String} :
      Leads drafts module start way patch → way.Nodup → drafts.get? patch = none →
      Broken drafts module start (.invalidGame (.unknownParent patch))
  | noTable {way : List String} {patch : String} {tables : OrderedMap TableDraft} :
      Leads drafts module start way patch → way.Nodup → drafts.get? patch = some tables →
      tables.get? module = none →
      Broken drafts module start (.invalidGame (.noTable patch module))

variable {drafts : TableDrafts} {module start patch : String}

/-- A walk passes every patch on its way. -/
theorem Leads.passes {way front back : List String} {middle : String}
    (h : Leads drafts module start way patch) (split : way = front ++ middle :: back) :
    Leads drafts module start front middle := by
  induction h generalizing back with
  | here => simp at split
  | @next way patch parent draft hway found hparent ih =>
    rcases List.eq_nil_or_concat back with rfl | ⟨back, last, rfl⟩
    · obtain ⟨rfl, last⟩ := List.append_inj' split rfl
      obtain rfl : patch = middle := by simpa using last
      exact hway
    · have shorter : way ++ [patch] = (front ++ middle :: back) ++ [last] := by simpa using split
      exact ih (List.append_inj' shorter rfl).1

theorem Chain.unique {chain chain' : List String} (h : Chain drafts module patch chain)
    (h' : Chain drafts module patch chain') : chain = chain' := by
  induction h generalizing chain' with
  | root found ends =>
    cases h' with
    | root => rfl
    | step found' goesOn _ =>
      cases found.symm.trans found'
      exact absurd (ends.symm.trans goesOn) (by simp)
  | step found goesOn _ ih =>
    cases h' with
    | root found' ends =>
      cases found.symm.trans found'
      exact absurd (ends.symm.trans goesOn) (by simp)
    | step found' goesOn' rest' =>
      cases found.symm.trans found'
      cases goesOn.symm.trans goesOn'
      rw [ih rest']

/-- A walk stays on the chain. -/
theorem Chain.along {way chain : List String} (h : Chain drafts module start chain)
    (walk : Leads drafts module start way patch) :
    ∃ rest, Chain drafts module patch rest ∧ chain = way ++ rest := by
  induction walk with
  | here => exact ⟨chain, h, rfl⟩
  | next _ found goesOn ih =>
    obtain ⟨rest, onward, rfl⟩ := ih
    cases onward with
    | root found' ends =>
      cases found.symm.trans found'
      exact absurd (ends.symm.trans goesOn) (by simp)
    | step found' goesOn' onward =>
      cases found.symm.trans found'
      cases goesOn.symm.trans goesOn'
      exact ⟨_, onward, by simp⟩

theorem Chain.draft?_ne_none {chain : List String} (h : Chain drafts module patch chain) :
    drafts.draft? patch module ≠ none := by
  cases h with
  | root found _ => simp [found]
  | step found _ _ => simp [found]

/-- A chain that ends is not broken. -/
theorem Chain.not_broken {chain : List String} {e : Error} (h : Chain drafts module start chain) :
    ¬ Broken drafts module start e := by
  rintro (⟨walk, -, again⟩ | ⟨walk, -, missing⟩ | ⟨walk, -, known, missing⟩)
  · -- The patch that comes again has one chain, so both its places are at one distance from the end.
    obtain ⟨front, back, split⟩ := List.append_of_mem again
    obtain ⟨rest, onward, whole⟩ := h.along walk
    obtain ⟨rest', onward', whole'⟩ := h.along (walk.passes split)
    obtain rfl : rest = rest' := onward.unique onward'
    have lengths := congrArg List.length (whole.symm.trans whole')
    rw [split] at lengths
    simp only [List.length_append, List.length_cons] at lengths
    omega
  · obtain ⟨rest, onward, -⟩ := h.along walk
    exact onward.draft?_ne_none (by simp [draft?, missing])
  · obtain ⟨rest, onward, -⟩ := h.along walk
    exact onward.draft?_ne_none (by simp [draft?, known, missing])

theorem Leads.draft?_of_mem {way : List String} {passed : String}
    (h : Leads drafts module start way patch) (present : passed ∈ way) :
    drafts.draft? passed module ≠ none := by
  induction h with
  | here => exact absurd present List.not_mem_nil
  | next _ found _ ih =>
    rcases List.mem_append.1 present with inFront | last
    · exact ih inFront
    · obtain rfl := List.mem_singleton.1 last
      simp [found]

/-- Of two walks from one start the longer one passes where the shorter one ends. -/
theorem Leads.isPrefix {way way' : List String} {patch' : String}
    (h : Leads drafts module start way patch) (h' : Leads drafts module start way' patch')
    (shorter : way.length ≤ way'.length) : way ++ [patch] <+: way' ++ [patch'] := by
  induction h' generalizing way patch with
  | here =>
    cases h with
    | here => exact List.prefix_refl _
    | next => simp at shorter
  | @next before last parent draft walk found goesOn ih =>
    rcases Nat.lt_or_ge before.length way.length with longer | notLonger
    · cases h with
      | here => simp at longer
      | @next before' last' parent' draft' walk' found' goesOn' =>
        simp only [List.length_append, List.length_singleton] at shorter
        simp only [List.length_append, List.length_singleton] at longer
        have sameWay : before' ++ [last'] = before ++ [last] :=
          (ih walk' (by omega)).eq_of_length_le (by simp; omega)
        obtain ⟨-, sameLast⟩ := List.append_inj' sameWay rfl
        cases sameLast
        cases found.symm.trans found'
        cases goesOn.symm.trans goesOn'
        exact sameWay ▸ List.prefix_refl _
    · exact (ih h notLonger).trans (List.prefix_append _ _)

/-- Where a walk over different patches is stuck or comes back, no longer one goes on. -/
theorem Broken.ends {way way' : List String} {patch' : String}
    (h : Leads drafts module start way patch) (h' : Leads drafts module start way' patch')
    (distinct' : way'.Nodup) (bad : patch ∈ way ∨ drafts.draft? patch module = none) :
    way'.length ≤ way.length := by
  by_contra longer
  have inFront : way ++ [patch] <+: way' ++ [patch'] := h.isPrefix h' (by omega)
  have within : way ++ [patch] <+: way' :=
    List.prefix_of_prefix_length_le inFront (List.prefix_append way' [patch']) (by simp; omega)
  rcases bad with again | stuck
  · have distinct := distinct'.sublist within.sublist
    exact (List.nodup_append.1 distinct).2.2 patch again patch (by simp) rfl
  · exact h'.draft?_of_mem (within.subset (by simp)) stuck

/-- The end of a broken chain. -/
theorem Broken.exists_walk {e : Error} (h : Broken drafts module start e) :
    ∃ way patch, Leads drafts module start way patch ∧ way.Nodup ∧
      (patch ∈ way ∨ drafts.draft? patch module = none) ∧
      e = if patch ∈ way then .inheritanceCycle (way ++ [patch]) module
        else if (drafts.get? patch).isNone then .invalidGame (.unknownParent patch)
        else .invalidGame (.noTable patch module) := by
  cases h with
  | cycle walk distinct again => exact ⟨_, _, walk, distinct, .inl again, by simp [again]⟩
  | @unknown way patch walk distinct missing =>
    have stuck : drafts.draft? patch module = none := by simp [draft?, missing]
    have fresh : patch ∉ way := fun again => walk.draft?_of_mem again stuck
    exact ⟨way, patch, walk, distinct, .inr stuck, by simp [fresh, missing]⟩
  | @noTable way patch tables walk distinct known missing =>
    have stuck : drafts.draft? patch module = none := by simp [draft?, known, missing]
    have fresh : patch ∉ way := fun again => walk.draft?_of_mem again stuck
    exact ⟨way, patch, walk, distinct, .inr stuck, by simp [fresh, known]⟩

/-- A broken chain has one fault. -/
theorem Broken.unique {e e' : Error} (h : Broken drafts module start e)
    (h' : Broken drafts module start e') : e = e' := by
  obtain ⟨way, patch, walk, distinct, bad, rfl⟩ := h.exists_walk
  obtain ⟨way', patch', walk', distinct', bad', rfl⟩ := h'.exists_walk
  have lengths : way.length = way'.length :=
    Nat.le_antisymm (ends walk' walk distinct bad') (ends walk walk' distinct' bad)
  obtain ⟨rfl, samePatch⟩ := List.append_inj'
    ((walk.isPrefix walk' (by omega)).eq_of_length (by simp [lengths])) rfl
  obtain rfl : patch = patch' := List.singleton_inj.1 samePatch
  rfl

/-! ## The table of a chain -/

/-- The table that a chain amounts to: the entries of its root, extended by those of nearer patches. -/
def fullTable (drafts : TableDrafts) (module : String) (chain : List String) : ModuleTable :=
  chain.foldr (fun patch inherited => inherited.extend (drafts.own patch module)) .empty

/-- In `table` every name has its nearest definition on the chain, and the names stand in the order of
their first definition from the root of the chain on. -/
structure Flattened (drafts : TableDrafts) (module : String) (chain : List String)
    (table : ModuleTable) : Prop where
  constants : OrderedMap.Layers (chain.map fun patch => (drafts.own patch module).constants)
    table.constants
  vars : OrderedMap.Layers (chain.map fun patch => (drafts.own patch module).vars) table.vars
  hooks : OrderedMap.Layers (chain.map fun patch => (drafts.own patch module).hooks) table.hooks

theorem fullTable_eq (drafts : TableDrafts) (module : String) (chain : List String) :
    drafts.fullTable module chain =
      { constants := .layered (chain.map fun patch => (drafts.own patch module).constants)
        vars := .layered (chain.map fun patch => (drafts.own patch module).vars)
        hooks := .layered (chain.map fun patch => (drafts.own patch module).hooks) } := by
  induction chain with
  | nil => rfl
  | cons patch rest ih =>
    show (drafts.fullTable module rest).extend (drafts.own patch module) = _
    rw [ih]
    rfl

theorem flattened_fullTable (drafts : TableDrafts) (module : String) (chain : List String) :
    Flattened drafts module chain (drafts.fullTable module chain) := by
  rw [fullTable_eq]
  exact ⟨OrderedMap.layers_layered _, OrderedMap.layers_layered _, OrderedMap.layers_layered _⟩

/-! ## Resolution -/

/-- Everything that is remembered is the table of a chain. -/
def KnownSound (drafts : TableDrafts) (known : KnownTables) : Prop :=
  ∀ patch module table, known.lookup (patch, module) = some table →
    ∃ chain, Chain drafts module patch chain ∧ table = drafts.fullTable module chain

theorem knownSound_nil (drafts : TableDrafts) : KnownSound drafts [] := by
  intro patch module table found
  simp at found

theorem KnownSound.remember {known : KnownTables} (h : KnownSound drafts known)
    {inherited : ModuleTable} {chain : List String} (hchain : Chain drafts module patch chain)
    {draft : TableDraft}
    (table : inherited.extend draft.own = drafts.fullTable module chain) :
    KnownSound drafts (remember patch module draft.own (inherited, known)).2 := by
  intro patch' module' table' found
  unfold TableDrafts.remember at found
  rw [List.lookup_cons] at found
  by_cases same : (patch', module') = (patch, module)
  · cases same
    simp only [BEq.rfl] at found
    cases found
    exact ⟨chain, hchain, table⟩
  · have different : ((patch', module') == (patch, module)) = false := by simpa using same
    rw [different] at found
    exact h patch' module' table' found

theorem fullTable_cons {draft : TableDraft} (found : drafts.draft? patch module = some draft)
    (rest : List String) :
    drafts.fullTable module (patch :: rest) = (drafts.fullTable module rest).extend draft.own := by
  show (drafts.fullTable module rest).extend (drafts.own patch module) = _
  rw [own, found]
  rfl

/-- The full table of `module` in `patch`, on a way that started at `start`: it is the table of the chain
of `patch`, or the chain of `start` is broken and the fault says how. -/
theorem resolve_cases (way : List String) (patch : String) (known : KnownTables)
    (walk : Leads drafts module start way patch) (distinct : way.Nodup)
    (sound : KnownSound drafts known) :
    (∃ chain known', Chain drafts module patch chain ∧
      resolve drafts module way patch known = .ok (drafts.fullTable module chain, known') ∧
      KnownSound drafts known') ∨
    ∃ e, resolve drafts module way patch known = .error e ∧ Broken drafts module start e := by
  fun_induction resolve drafts module way patch known with
  | case1 way patch table remembered =>
    obtain ⟨chain, ends, rfl⟩ := sound patch module table remembered
    exact .inl ⟨chain, known, ends, rfl, sound⟩
  | case2 way patch _ again => exact .inr ⟨_, rfl, .cycle walk distinct again⟩
  | case3 way patch _ _ missing => exact .inr ⟨_, rfl, .unknown walk distinct missing⟩
  | case4 way patch _ _ tables found missing =>
    exact .inr ⟨_, rfl, .noTable walk distinct found missing⟩
  | case5 way patch _ _ tables found draft foundDraft ends =>
    have here : drafts.draft? patch module = some draft := by simp [draft?, found, foundDraft]
    have table := fullTable_cons here []
    exact .inl ⟨[patch], _, .root here ends, by rw [table]; rfl,
      sound.remember (.root here ends) table.symm⟩
  | case6 way patch _ fresh tables found draft foundDraft parent goesOn _ ih =>
    have here : drafts.draft? patch module = some draft := by simp [draft?, found, foundDraft]
    have distinctNext : (way ++ [patch]).Nodup :=
      List.nodup_append.2 ⟨distinct, by simp, by grind⟩
    rcases ih (.next walk here goesOn) distinctNext with
      ⟨chain, known', ends, resolved, sound'⟩ | ⟨e, failed, broken⟩
    · have table := fullTable_cons here chain
      refine .inl ⟨patch :: chain, _, .step here goesOn ends, ?_,
        sound'.remember (.step here goesOn ends) table.symm⟩
      rw [resolved, table]
      rfl
    · exact .inr ⟨e, by rw [failed]; rfl, broken⟩

end TableDrafts

end ModScript
