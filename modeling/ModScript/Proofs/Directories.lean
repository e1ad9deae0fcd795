import ModScript.Game.Loading
import ModScript.Proofs.OrderedMap
import ModScript.Text.Sorted

/-!
# Directories

Where looking at files changes nothing, everything that is read comes from one and the same world: a directory has
its names, something stands at each of them, and a game file says what it says.

Results:
1. `Game.still_load`: to read a game changes nothing.
2. `Files.Steady.run_names`: the names of a directory that stand for something of one kind.
3. `sorted_sortedNames`: names in their order.
4. `Files.steady_ofTexts`: a world that is given by its names and its texts.
-/

namespace ModScript

/-! ## Actions that change nothing -/

/-- The action leaves the world as it was. -/
def Still {ε σ α : Type} (action : ExceptT ε (StateM σ) α) : Prop := ∀ s, (action.run.run s).2 = s

section

variable {ε σ α β : Type}

theorem still_pure (a : α) : Still (pure a : ExceptT ε (StateM σ) α) := fun _ => rfl

theorem still_ofExcept (result : Except ε α) :
    Still (MonadExcept.ofExcept result : ExceptT ε (StateM σ) α) := by
  intro s
  cases result <;> rfl

theorem Still.bind {x : ExceptT ε (StateM σ) α} {f : α → ExceptT ε (StateM σ) β} (still : Still x)
    (stillRest : ∀ a, Still (f a)) : Still (x >>= f) := by
  intro s
  have same := still s
  rw [ExceptT.run_bind, StateT.run_bind]
  rcases ran : x.run.run s with ⟨e | a, t⟩
  · rw [ran] at same
    exact same
  · rw [ran] at same
    cases same
    exact stillRest a _

theorem still_mapM {f : α → ExceptT ε (StateM σ) β} (each : ∀ a, Still (f a)) (l : List α) :
    Still (l.mapM f) := by
  induction l with
  | nil =>
    rw [List.mapM_nil]
    exact still_pure []
  | cons a rest ih =>
    rw [List.mapM_cons]
    exact (each a).bind fun b => ih.bind fun bs => still_pure (b :: bs)

theorem still_mapValuesM {f : String → α → ExceptT ε (StateM σ) β} (each : ∀ key a, Still (f key a))
    (map : OrderedMap α) : Still (map.mapValuesM f) := by
  unfold OrderedMap.mapValuesM
  refine (still_mapM (fun entry => ?_) map.entries).bind fun entries => still_pure _
  exact (each entry.1 entry.2).bind fun value => still_pure _

end

namespace Files

variable {σ : Type} {files : Files (StateM σ)} {s : σ} {directory path : String} {names : List String}

/-- Looking at files changes nothing. -/
structure Steady (files : Files (StateM σ)) : Prop where
  read : ∀ path s, ((files.read path).run s).2 = s
  list : ∀ path s, ((files.list path).run s).2 = s
  kind : ∀ path s, ((files.kind path).run s).2 = s

/-- What stands at a path. -/
def kindAt (files : Files (StateM σ)) (s : σ) (path : String) : Option FileKind :=
  ((files.kind path).run s).1

/-- The names of a directory. -/
def Lists (files : Files (StateM σ)) (s : σ) (directory : String) (names : List String) : Prop :=
  ((files.list directory).run s).1 = .ok names

/-- Of the names of a directory, those that stand for something of the given kind. -/
def ofKind (files : Files (StateM σ)) (s : σ) (kind : FileKind) (directory : String)
    (names : List String) : List String :=
  names.filter fun name => files.kindAt s (Path.join directory name) == some kind

theorem still_raise {α : Type} {action : StateM σ (Except FileFault α)}
    (still : ∀ s, (action.run s).2 = s) : Still (raise action) := fun s => still s

namespace Steady

variable (steady : files.Steady)
include steady

theorem still_text : Still (files.text path) := by
  unfold Files.text
  refine (still_raise (steady.read path)).bind fun bytes => ?_
  split
  · exact still_pure _
  · exact fun _ => rfl

theorem run_has (kind : FileKind) (path : String) :
    (files.has kind path).run s = (files.kindAt s path == some kind, s) :=
  Prod.ext rfl (steady.kind path s)

theorem run_names (kind : FileKind) (listed : files.Lists s directory names) :
    (files.names kind directory).run.run s = (.ok (files.ofKind s kind directory names), s) := by
  have filtered (kept names : List String) :
      (List.filterAuxM (fun name => (files.has kind (Path.join directory name) : ExceptT Error (StateM σ) Bool))
        names kept).run.run s = (.ok ((files.ofKind s kind directory names).reverse ++ kept), s) := by
    induction names generalizing kept with
    | nil => rfl
    | cons name rest ih =>
      have looked : (liftM (files.has kind (Path.join directory name)) : ExceptT Error (StateM σ) Bool).run.run s =
          (.ok (files.kindAt s (Path.join directory name) == some kind), s) :=
        Prod.ext rfl (steady.kind _ s)
      rw [List.filterAuxM, OrderedMap.run_bind_of_ok looked, ih]
      unfold ofKind
      cases present : files.kindAt s (Path.join directory name) == some kind <;>
        simp [present]
  have list : (raise (files.list directory) : ExceptT Error (StateM σ) _).run.run s = (.ok names, s) := by
    refine Prod.ext ?_ (steady.list directory s)
    show Except.mapError Error.file ((files.list directory).run s).1 = _
    rw [listed]
    rfl
  rw [Files.names, OrderedMap.run_bind_of_ok list, List.filterM, OrderedMap.run_bind_of_ok (filtered [] names)]
  simp
  rfl

end Steady

end Files

/-! ## Games -/

section

variable {σ : Type} {files : Files (StateM σ)} (steady : files.Steady)
include steady

theorem TableSource.still_load (directory : String) (source : TableSource) :
    Still (source.load files directory) := by
  cases source with
  | inline draft => exact still_pure draft
  | file path => exact steady.still_text.bind fun _ => still_ofExcept _

/-- To read a game changes nothing. -/
theorem Game.still_load (path : String) : Still (Game.load files path) := by
  have sources : Still (Game.sources files path) := by
    unfold Game.sources
    refine steady.still_text.bind fun text => (still_ofExcept _).bind fun draft => ?_
    refine (still_mapValuesM (fun key patch => ?_) draft.patches).bind fun drafts => still_pure _
    exact still_mapValuesM (fun module source => source.still_load steady _) patch.tables
  exact sources.bind fun _ => still_ofExcept _

end

/-! ## Names -/

/-- Different names have different paths. -/
theorem Path.join_inj {base name other : String} (relative : isRelative name = true)
    (relative' : isRelative other = true) (same : join base name = join base other) : name = other := by
  unfold join at same
  rw [relative, relative'] at same
  split at same
  · exact same
  · split at same
    · exact (String.append_right_inj _).1 same
    · exact (String.append_right_inj _).1 same

/-- What is in order, and has nothing twice, ascends. -/
theorem ascending_eraseDups {names : List String} (inOrder : names.Pairwise (· ≤ ·)) :
    names.eraseDups.Pairwise (· < ·) := by
  have kept : names.eraseDups.Pairwise (· ≤ ·) := inOrder.sublist (eraseDups_sublist names)
  exact (kept.and (nodup_eraseDups names)).imp fun both => Std.lt_of_le_of_ne both.1 both.2

theorem sorted_sortedNames (names : List String) : (sortedNames names).Pairwise (· < ·) := by
  have inOrder : (sortedNames names).Pairwise fun a b => decide (a ≤ b) = true :=
    List.pairwise_mergeSort (fun a b c => by simpa using String.le_trans)
      (fun a b => by simpa using String.le_total a b) _
  have distinct : (sortedNames names).Nodup :=
    (List.mergeSort_perm _ _).nodup_iff.2 (nodup_eraseDups names)
  exact (inOrder.and distinct).imp fun both => Std.lt_of_le_of_ne (of_decide_eq_true both.1) both.2

/-- Ascending lists with the same names are the same. -/
theorem ascending_ext {names others : List String} (ascending : names.Pairwise (· < ·))
    (ascending' : others.Pairwise (· < ·)) (same : ∀ name, name ∈ names ↔ name ∈ others) : names = others := by
  have perm : names.Perm others :=
    (List.perm_ext_iff_of_nodup (ascending.imp Std.ne_of_lt) (ascending'.imp Std.ne_of_lt)).2 same
  refine perm.eq_of_pairwise (fun a b _ _ less more => ?_) ascending ascending'
  exact absurd (Std.lt_trans less more) Std.lt_irrefl

/-- Names that ascend are in order. -/
theorem sortedNames_of_ascending {names : List String} (ascending : names.Pairwise (· < ·)) :
    sortedNames names = names := by
  unfold sortedNames
  rw [eraseDups_of_nodup (ascending.imp Std.ne_of_lt)]
  exact List.mergeSort_of_pairwise (ascending.imp fun less => decide_eq_true (Std.le_of_lt less))

/-! ## Worlds -/

/-- The world with the given names in its directories and the given texts in its files. Nothing can be written. -/
def Files.ofTexts (directories : List (String × List String)) (texts : List (String × String)) :
    Files (StateM Unit) where
  read path := return (texts.lookup path).elim (.error .missing) fun text => .ok text.toUTF8
  list path := return (directories.lookup path).elim (.error .missing) .ok
  kind path := return (texts.lookup path).elim ((directories.lookup path).map fun _ => .directory) fun _ => some .file
  write _ _ := return .error .unusable

theorem Files.steady_ofTexts (directories : List (String × List String)) (texts : List (String × String)) :
    (ofTexts directories texts).Steady :=
  ⟨fun _ _ => rfl, fun _ _ => rfl, fun _ _ => rfl⟩

end ModScript
