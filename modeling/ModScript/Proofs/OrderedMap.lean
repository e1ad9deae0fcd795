import Mathlib.Data.List.Forall2
import ModScript.OrderedMap

/-!
# Laws of ordered maps

An ordered map is told by two views: `keys`, its names in order, and `get?`, the value of a name. This
file gives both views of the operations that put maps together.

Results:
1. `get?_eq_some_iff`, `mem_keys_iff`: what a map holds and what its views say is the same.
2. `keys_extend`, `get?_extend`: the second map wins, the order of the first one stays.
3. `get?_ofList_eq_some_iff`: of the entries with one name the last is kept.
4. `layers_layered`: the same for any number of maps on top of each other.
5. `ext_views`, `Related.eq_of_values`: two maps with the same views are the same.
6. `related_of_mapValuesM_run`, `mapValuesM_cases`: an action on every value keeps the names; where it
   stops, it stops at the first entry on which it fails.
-/

namespace ModScript

/-! ## Lists without repeats -/

section

variable {α : Type} [BEq α] [LawfulBEq α]

theorem eraseDups_of_nodup {l : List α} (h : l.Nodup) : l.eraseDups = l := by
  induction l with
  | nil => rfl
  | cons a l ih =>
    obtain ⟨fresh, rest⟩ := List.nodup_cons.1 h
    have untouched : l.filter (fun b => !b == a) = l := by
      refine List.filter_eq_self.2 fun b hb => ?_
      have different : b ≠ a := fun e => fresh (e ▸ hb)
      simp [different]
    rw [List.eraseDups_cons, untouched, ih rest]

theorem nodup_eraseDups (l : List α) : l.eraseDups.Nodup := by
  cases l with
  | nil => exact List.nodup_nil
  | cons a l =>
    rw [List.eraseDups_cons, List.nodup_cons]
    refine ⟨?_, nodup_eraseDups _⟩
    rw [List.mem_eraseDups]
    simp
termination_by l.length
decreasing_by exact Nat.lt_succ_of_le (List.length_filter_le _ _)

omit [LawfulBEq α] in
theorem eraseDups_sublist (l : List α) : l.eraseDups.Sublist l := by
  cases l with
  | nil => exact .slnil
  | cons a l =>
    rw [List.eraseDups_cons]
    exact ((eraseDups_sublist _).trans List.filter_sublist).cons_cons a
termination_by l.length
decreasing_by exact Nat.lt_succ_of_le (List.length_filter_le _ _)

theorem removeAll_eraseDups (l kept : List α) : l.removeAll kept.eraseDups = l.removeAll kept := by
  unfold List.removeAll
  refine List.filter_congr fun a _ => ?_
  rw [Bool.eq_iff_iff]
  simp

/-- Repeats that lie within the front part may be erased early. -/
theorem eraseDups_eraseDups_append (front back : List α) :
    (front.eraseDups ++ back).eraseDups = (front ++ back).eraseDups := by
  rw [List.eraseDups_append, List.eraseDups_append, eraseDups_of_nodup (nodup_eraseDups front),
    removeAll_eraseDups]

end

namespace OrderedMap

variable {α β : Type}

/-! ## What a map holds -/

theorem nodup_keys (m : OrderedMap α) : m.keys.Nodup := m.distinct

theorem lookup_eq_some_of_mem {entries : List (String × α)}
    (distinct : (entries.map Prod.fst).Nodup) {key : String} {value : α}
    (h : (key, value) ∈ entries) : entries.lookup key = some value := by
  induction entries with
  | nil => exact absurd h List.not_mem_nil
  | cons entry rest ih =>
    obtain ⟨fresh, distinctRest⟩ := List.nodup_cons.1 distinct
    rw [List.lookup_cons]
    rcases List.mem_cons.1 h with rfl | inRest
    · simp
    · have different : (key == entry.1) = false := by
        have inKeys : key ∈ rest.map Prod.fst := List.mem_map_of_mem (f := Prod.fst) inRest
        simp only [beq_eq_false_iff_ne, ne_eq]
        exact fun e => fresh (e ▸ inKeys)
      simp [different, ih distinctRest inRest]

theorem get?_eq_some_iff {m : OrderedMap α} {key : String} {value : α} :
    m.get? key = some value ↔ (key, value) ∈ m.entries :=
  ⟨mem_of_lookup_eq_some, lookup_eq_some_of_mem m.distinct⟩

theorem mem_keys_iff {m : OrderedMap α} {key : String} :
    key ∈ m.keys ↔ ∃ value, m.get? key = some value := by
  constructor
  · intro h
    obtain ⟨entry, inEntries, rfl⟩ := List.mem_map.1 h
    exact ⟨entry.2, get?_eq_some_iff.2 inEntries⟩
  · rintro ⟨value, h⟩
    exact mem_keys_of_get? h

theorem mem_keys_insert (m : OrderedMap α) (key : String) (value : α) : key ∈ (m.insert key value).keys :=
  mem_keys_iff.2 ⟨value, by rw [get?_insert, if_pos rfl]⟩

theorem keys_subset_insert (m : OrderedMap α) (key : String) (value : α) :
    m.keys ⊆ (m.insert key value).keys := by
  intro known present
  rw [keys_insert]
  split
  · exact present
  · exact List.mem_append_left _ present

theorem get?_eq_none_iff {m : OrderedMap α} {key : String} : m.get? key = none ↔ key ∉ m.keys := by
  rw [mem_keys_iff, Option.eq_none_iff_forall_ne_some]
  exact not_exists.symm

theorem contains_iff_mem_keys {m : OrderedMap α} {key : String} :
    m.contains key = true ↔ key ∈ m.keys := by
  rw [mem_keys_iff, contains, Option.isSome_iff_exists]

theorem mem_values_iff {m : OrderedMap α} {value : α} :
    value ∈ m.values ↔ ∃ key, m.get? key = some value := by
  constructor
  · intro present
    obtain ⟨entry, inEntries, rfl⟩ := List.mem_map.1 present
    exact ⟨entry.1, get?_eq_some_iff.2 inEntries⟩
  · rintro ⟨key, found⟩
    exact List.mem_map.2 ⟨(key, value), get?_eq_some_iff.1 found, rfl⟩

theorem mem_values_of_get? {m : OrderedMap α} {key : String} {value : α}
    (found : m.get? key = some value) : value ∈ m.values := mem_values_iff.2 ⟨key, found⟩

/-- No more than one entry has a given name. -/
theorem filter_entries (m : OrderedMap α) (key : String) :
    m.entries.filter (fun entry => entry.1 == key) = ((m.get? key).map fun value => (key, value)).toList := by
  suffices each : ∀ entries : List (String × α), (entries.map Prod.fst).Nodup →
      entries.filter (fun entry => entry.1 == key) =
        ((entries.lookup key).map fun value => (key, value)).toList from each m.entries m.distinct
  intro entries distinct
  induction entries with
  | nil => rfl
  | cons entry rest ih =>
    obtain ⟨name, value⟩ := entry
    obtain ⟨fresh, distinct⟩ := List.nodup_cons.1 distinct
    by_cases same : name = key
    · subst same
      have others : rest.filter (fun entry => entry.1 == name) = [] := by
        refine List.filter_eq_nil_iff.2 fun entry present named => fresh ?_
        exact List.mem_map.2 ⟨entry, present, eq_of_beq named⟩
      simp [others]
    · have other : (key == name) = false := by simpa using Ne.symm same
      simp [List.lookup_cons, same, other, ih distinct]

/-- The two views tell a map. -/
theorem ext_views {m m' : OrderedMap α} (keys : m.keys = m'.keys)
    (values : ∀ key, m.get? key = m'.get? key) : m = m' := by
  have told (m : OrderedMap α) : m.entries.map some =
      m.keys.map fun key => (m.get? key).map fun value => (key, value) := by
    unfold OrderedMap.keys
    rw [List.map_map]
    refine List.map_congr_left fun entry present => ?_
    simp [get?_eq_some_iff.2 present]
  have same : m.entries.map some = m'.entries.map some := by
    rw [told, told, keys]
    exact List.map_congr_left fun key _ => by rw [values]
  exact ext (List.map_injective_iff.2 (fun _ _ => Option.some.inj) same)

/-! ## Maps with other values -/

theorem mapValues_id (m : OrderedMap α) : m.mapValues id = m := ext (List.map_id m.entries)

theorem keys_mapValues (f : α → β) (m : OrderedMap α) : (m.mapValues f).keys = m.keys := by
  simp [keys, mapValues]

theorem get?_mapValues (f : α → β) (m : OrderedMap α) (key : String) :
    (m.mapValues f).get? key = (m.get? key).map f := by
  show (m.entries.map fun entry => (entry.1, f entry.2)).lookup key = (m.entries.lookup key).map f
  induction m.entries with
  | nil => rfl
  | cons entry rest ih =>
    rw [List.map_cons, List.lookup_cons, List.lookup_cons, ih]
    cases key == entry.1 <;> rfl

/-! ## Maps on top of each other -/

theorem keys_insert_eq_eraseDups (m : OrderedMap α) (key : String) (value : α) :
    (m.insert key value).keys = (m.keys ++ [key]).eraseDups := by
  rw [keys_insert, List.eraseDups_append, eraseDups_of_nodup m.nodup_keys]
  by_cases h : key ∈ m.keys <;> simp [h, List.removeAll, List.eraseDups_cons]

theorem keys_insertAll (m : OrderedMap α) (entries : List (String × α)) :
    (m.insertAll entries).keys = (m.keys ++ entries.map Prod.fst).eraseDups := by
  induction entries generalizing m with
  | nil => simp [insertAll, eraseDups_of_nodup m.nodup_keys]
  | cons entry rest ih =>
    calc ((m.insert entry.1 entry.2).insertAll rest).keys
        = ((m.insert entry.1 entry.2).keys ++ rest.map Prod.fst).eraseDups := ih _
      _ = ((m.keys ++ [entry.1]) ++ rest.map Prod.fst).eraseDups := by
        rw [keys_insert_eq_eraseDups, eraseDups_eraseDups_append]
      _ = (m.keys ++ (entry :: rest).map Prod.fst).eraseDups := by simp

theorem get?_insertAll (m : OrderedMap α) {entries : List (String × α)}
    (distinct : (entries.map Prod.fst).Nodup) (key : String) :
    (m.insertAll entries).get? key = (entries.lookup key).or (m.get? key) := by
  induction entries generalizing m with
  | nil => rfl
  | cons entry rest ih =>
    obtain ⟨fresh, distinctRest⟩ := List.nodup_cons.1 distinct
    have step : (m.insertAll (entry :: rest)).get? key =
        (rest.lookup key).or ((m.insert entry.1 entry.2).get? key) := ih _ distinctRest
    rw [step, get?_insert, List.lookup_cons]
    by_cases h : key = entry.1
    · subst h
      have absent : rest.lookup entry.1 = none := by
        rw [Option.eq_none_iff_forall_ne_some]
        intro value found
        exact fresh (List.mem_map.2 ⟨(entry.1, value), mem_of_lookup_eq_some found, rfl⟩)
      simp [absent]
    · have different : (key == entry.1) = false := by simp [h]
      simp [h, different]

theorem keys_extend (m other : OrderedMap α) :
    (m.extend other).keys = (m.keys ++ other.keys).eraseDups :=
  keys_insertAll m other.entries

theorem get?_extend (m other : OrderedMap α) (key : String) :
    (m.extend other).get? key = (other.get? key).or (m.get? key) :=
  get?_insertAll m other.distinct key

/-- An entry with a new name goes to the end. -/
theorem entries_insert_of_fresh (m : OrderedMap α) {key : String} (fresh : key ∉ m.keys) (value : α) :
    (m.insert key value).entries = m.entries ++ [(key, value)] := by
  have put_fresh : ∀ l : List (String × α), key ∉ l.map Prod.fst →
      put key value l = l ++ [(key, value)] := by
    intro l fresh
    induction l with
    | nil => rfl
    | cons first l ih =>
      have different : first.1 ≠ key := fun e => fresh (by simp [e])
      have inRest : key ∉ l.map Prod.fst := fun e => fresh (List.mem_cons_of_mem _ e)
      simp [put, different, ih inRest]
  exact put_fresh m.entries fresh

theorem entries_insertAll_of_fresh (m : OrderedMap α) {entries : List (String × α)}
    (distinct : ((m.entries ++ entries).map Prod.fst).Nodup) :
    (m.insertAll entries).entries = m.entries ++ entries := by
  induction entries generalizing m with
  | nil => simp [insertAll]
  | cons entry rest ih =>
    have fresh : entry.1 ∉ m.keys := by
      rw [List.map_append, List.nodup_append] at distinct
      exact fun e => distinct.2.2 _ e _ (by simp) rfl
    have inserted : (m.insert entry.1 entry.2).entries = m.entries ++ [entry] :=
      m.entries_insert_of_fresh fresh entry.2
    have step := ih (m.insert entry.1 entry.2) (by rw [inserted]; simpa using distinct)
    rw [inserted] at step
    simpa [insertAll] using step

/-- A list without repeated names is the list of entries of its map. -/
theorem entries_ofList {entries : List (String × α)} (distinct : (entries.map Prod.fst).Nodup) :
    (ofList entries).entries = entries :=
  entries_insertAll_of_fresh empty distinct

/-- Of a name that is inserted more than once the last value stays. -/
theorem get?_insertAll_eq_some_iff {entries : List (String × α)} {m : OrderedMap α} {key : String} {value : α} :
    (m.insertAll entries).get? key = some value ↔
      (∃ before behind, entries = before ++ (key, value) :: behind ∧ key ∉ behind.map Prod.fst) ∨
      key ∉ entries.map Prod.fst ∧ m.get? key = some value := by
  induction entries generalizing m with
  | nil => simp [insertAll]
  | cons entry rest ih =>
    obtain ⟨first, own⟩ := entry
    have step : (m.insertAll ((first, own) :: rest)).get? key = ((m.insert first own).insertAll rest).get? key := rfl
    rw [step, ih, get?_insert]
    constructor
    · rintro (⟨before, behind, rfl, last⟩ | ⟨fresh, found⟩)
      · exact .inl ⟨(first, own) :: before, behind, rfl, last⟩
      · split at found
        · next same =>
          cases found
          exact .inl ⟨[], rest, by simp [same], fresh⟩
        · next other => exact .inr ⟨by simp [other, fresh], found⟩
    · rintro (⟨before, behind, split, last⟩ | ⟨fresh, found⟩)
      · cases before with
        | nil =>
          cases split
          exact .inr ⟨last, if_pos rfl⟩
        | cons front before =>
          obtain ⟨-, split⟩ := List.cons.inj split
          exact .inl ⟨before, behind, split, last⟩
      · obtain ⟨other, freshRest⟩ := not_or.1 (mt List.mem_cons.2 fresh)
        exact .inr ⟨freshRest, (if_neg other).trans found⟩

/-- The map of a list holds the last value of each name. -/
theorem get?_ofList_eq_some_iff {entries : List (String × α)} {key : String} {value : α} :
    (ofList entries).get? key = some value ↔
      ∃ before behind, entries = before ++ (key, value) :: behind ∧ key ∉ behind.map Prod.fst := by
  have unknown : (empty : OrderedMap α).get? key = none := rfl
  rw [ofList, get?_insertAll_eq_some_iff]
  simp [unknown]

/-- What the map of a list holds is in the list. -/
theorem mem_of_get?_ofList {entries : List (String × α)} {key : String} {value : α}
    (found : (ofList entries).get? key = some value) : (key, value) ∈ entries := by
  obtain ⟨before, behind, rfl, -⟩ := get?_ofList_eq_some_iff.1 found
  simp

theorem keys_ofList (entries : List (String × α)) : (ofList entries).keys = (entries.map Prod.fst).eraseDups :=
  keys_insertAll empty entries

/-- Maps on top of each other, the topmost first: of one name the topmost value counts. -/
def layered (maps : List (OrderedMap α)) : OrderedMap α :=
  maps.foldr (fun top below => below.extend top) empty

theorem get?_layered (maps : List (OrderedMap α)) (key : String) :
    (layered maps).get? key = maps.findSome? fun m => m.get? key := by
  induction maps with
  | nil => rfl
  | cons top below ih =>
    have step : (layered (top :: below)).get? key = (top.get? key).or ((layered below).get? key) :=
      get?_extend _ _ _
    rw [step, ih, List.findSome?_cons]
    cases top.get? key <;> rfl

theorem keys_layered (maps : List (OrderedMap α)) :
    (layered maps).keys = (maps.reverse.flatMap keys).eraseDups := by
  induction maps with
  | nil => rfl
  | cons top below ih =>
    have step : (layered (top :: below)).keys = ((layered below).keys ++ top.keys).eraseDups :=
      keys_extend _ _
    rw [step, ih, eraseDups_eraseDups_append]
    simp

/-- `m` amounts to `maps` on top of each other, the topmost first: every name has its topmost value, and
the names stand in the order in which they come up from the bottom. -/
structure Layers (maps : List (OrderedMap α)) (m : OrderedMap α) : Prop where
  get?_eq : ∀ name, m.get? name = maps.findSome? fun layer => layer.get? name
  keys_eq : m.keys = (maps.reverse.flatMap keys).eraseDups

theorem layers_layered (maps : List (OrderedMap α)) : Layers maps (layered maps) :=
  ⟨get?_layered maps, keys_layered maps⟩

/-- One map on its own amounts to itself. -/
theorem Layers.eq_of_single {layer m : OrderedMap α} (layers : Layers [layer] m) : m = layer := by
  refine ext_views ?_ fun key => ?_
  · rw [layers.keys_eq]
    simp [eraseDups_of_nodup layer.nodup_keys]
  · rw [layers.get?_eq]
    cases h : layer.get? key <;> simp [List.findSome?, h]

/-! ## Maps of related values -/

/-- Two maps have the same names in the same order, and related values. -/
def Related (R : String → α → β → Prop) (m : OrderedMap α) (m' : OrderedMap β) : Prop :=
  List.Forall₂ (fun entry entry' => entry'.1 = entry.1 ∧ R entry.1 entry.2 entry'.2)
    m.entries m'.entries

section

variable {R : String → α → β → Prop} {m : OrderedMap α} {m' : OrderedMap β}

theorem map_fst_eq_of_forall₂ {l : List (String × α)} {l' : List (String × β)}
    (h : List.Forall₂ (fun entry entry' => entry'.1 = entry.1 ∧ R entry.1 entry.2 entry'.2) l l') :
    l'.map Prod.fst = l.map Prod.fst := by
  induction h with
  | nil => rfl
  | cons first _ ih => simp [first.1, ih]

theorem exists_of_mem_left {S : α → β → Prop} {l : List α} {l' : List β} (h : List.Forall₂ S l l')
    {a : α} (present : a ∈ l) : ∃ b ∈ l', S a b := by
  induction h with
  | nil => exact absurd present List.not_mem_nil
  | @cons first first' rest rest' related _ ih =>
    rcases List.mem_cons.1 present with rfl | inRest
    · exact ⟨first', List.mem_cons_self, related⟩
    · obtain ⟨b, inRight, relatedRest⟩ := ih inRest
      exact ⟨b, List.mem_cons_of_mem _ inRight, relatedRest⟩

theorem Related.keys_eq (h : Related R m m') : m'.keys = m.keys := map_fst_eq_of_forall₂ h

theorem related_ofList {l : List (String × β)}
    (h : List.Forall₂ (fun entry entry' => entry'.1 = entry.1 ∧ R entry.1 entry.2 entry'.2)
      m.entries l) : Related R m (ofList l) := by
  have distinct : (l.map Prod.fst).Nodup := map_fst_eq_of_forall₂ h ▸ m.distinct
  unfold Related
  rw [entries_ofList distinct]
  exact h

theorem Related.get?_right (h : Related R m m') {key : String} {a : α}
    (found : m.get? key = some a) : ∃ b, m'.get? key = some b ∧ R key a b := by
  obtain ⟨⟨key', b⟩, inRight, same, related⟩ := exists_of_mem_left h (get?_eq_some_iff.1 found)
  obtain rfl : key' = key := same
  exact ⟨b, get?_eq_some_iff.2 inRight, related⟩

theorem Related.get?_left (h : Related R m m') {key : String} {b : β}
    (found : m'.get? key = some b) : ∃ a, m.get? key = some a ∧ R key a b := by
  have inKeys : key ∈ m.keys := h.keys_eq ▸ mem_keys_of_get? found
  obtain ⟨a, foundLeft⟩ := mem_keys_iff.1 inKeys
  obtain ⟨b', foundRight, related⟩ := h.get?_right foundLeft
  obtain rfl : b = b' := Option.some.inj (found.symm.trans foundRight)
  exact ⟨a, foundLeft, related⟩

/-- A map is told by what its values are related to, if this leaves one value for each name. -/
theorem Related.eq_of_values {known : OrderedMap β} (related : Related R m m') (keys : m.keys = known.keys)
    (values : ∀ key a b, m.get? key = some a → R key a b → known.get? key = some b) : m' = known := by
  refine ext_views (related.keys_eq.trans keys) fun key => ?_
  cases found : m'.get? key with
  | none =>
    refine (get?_eq_none_iff.2 fun inKnown => ?_).symm
    exact get?_eq_none_iff.1 found (related.keys_eq.trans keys ▸ inKnown)
  | some b =>
    obtain ⟨a, source, rel⟩ := related.get?_left found
    exact (values key a b source rel).symm

end

/-- Maps with the same names have related values everywhere, if the values of one name are related. -/
theorem rel_get? {R : α → β → Prop} {m : OrderedMap α} {m' : OrderedMap β}
    (keys : ∀ name, name ∈ m.keys ↔ name ∈ m'.keys)
    (values : ∀ name a b, m.get? name = some a → m'.get? name = some b → R a b) (name : String) :
    Option.Rel R (m.get? name) (m'.get? name) := by
  cases found : m.get? name with
  | none =>
    have absent : m'.get? name = none := get?_eq_none_iff.2 fun inRight =>
      get?_eq_none_iff.1 found ((keys name).2 inRight)
    rw [absent]
    exact .none
  | some a =>
    obtain ⟨b, found'⟩ := mem_keys_iff.1 ((keys name).1 (mem_keys_of_get? found))
    rw [found']
    exact .some (values name a b found found')

/-! ## Actions on every value -/

/-- An action that has a plain result on every value has one on the map. -/
theorem mapValuesM_mapValues {γ : Type} {m : Type → Type} [Monad m] [LawfulMonad m] {f : String → β → m γ}
    {g : α → β} {h : α → γ} (each : ∀ key value, f key (g value) = pure (h value))
    (map : OrderedMap α) : (map.mapValues g).mapValuesM f = pure (map.mapValues h) := by
  have entries : (map.mapValues g).entries.mapM (fun entry => do return (entry.1, ← f entry.1 entry.2)) =
      (pure (map.mapValues h).entries : m _) := by
    simp only [mapValues]
    induction map.entries with
    | nil => simp
    | cons entry rest ih =>
      rw [List.map_cons, List.mapM_cons, ih]
      simp [each]
  have whole : ofList (map.mapValues h).entries = map.mapValues h :=
    ext (entries_ofList (map.mapValues h).distinct)
  rw [mapValuesM, entries, pure_bind, whole]

section

variable {σ ε : Type}

theorem run_bind_eq_ok {x : ExceptT ε (StateM σ) α} {f : α → ExceptT ε (StateM σ) β} {b : β}
    {s s' : σ} (h : (x >>= f).run.run s = (.ok b, s')) :
    ∃ a t, x.run.run s = (.ok a, t) ∧ (f a).run.run t = (.ok b, s') := by
  rw [ExceptT.run_bind, StateT.run_bind] at h
  cases result : x.run.run s with
  | mk outcome t =>
    rw [result] at h
    cases outcome with
    | error e => cases h
    | ok a => exact ⟨a, t, rfl, h⟩

theorem run_bind_of_ok {x : ExceptT ε (StateM σ) α} {f : α → ExceptT ε (StateM σ) β} {a : α} {s s' : σ}
    (ran : x.run.run s = (.ok a, s')) : (x >>= f).run.run s = (f a).run.run s' := by
  rw [ExceptT.run_bind, StateT.run_bind, ran]
  rfl

theorem forall₂_of_mapM_run {f : α → ExceptT ε (StateM σ) β} {l : List α} {l' : List β} {s s' : σ}
    (h : (l.mapM f).run.run s = (.ok l', s')) :
    List.Forall₂ (fun a b => ∃ t t', (f a).run.run t = (.ok b, t')) l l' := by
  induction l generalizing l' s with
  | nil =>
    rw [List.mapM_nil] at h
    cases h
    exact .nil
  | cons a l ih =>
    rw [List.mapM_cons] at h
    obtain ⟨b, t, ran, h⟩ := run_bind_eq_ok h
    obtain ⟨bs, t', ranRest, h⟩ := run_bind_eq_ok h
    cases h
    exact .cons ⟨s, t, ran⟩ (ih ranRest)

/-- What a successful action on every value leaves behind, in a world that may change. -/
theorem related_of_mapValuesM_run {f : String → α → ExceptT ε (StateM σ) β} {m : OrderedMap α}
    {m' : OrderedMap β} {s s' : σ} (h : (m.mapValuesM f).run.run s = (.ok m', s')) :
    Related (fun key a b => ∃ t t', (f key a).run.run t = (.ok b, t')) m m' := by
  obtain ⟨entries, t, ran, h⟩ := run_bind_eq_ok h
  cases h
  refine related_ofList ((forall₂_of_mapM_run ran).imp ?_)
  rintro entry entry' ⟨t, t', ranEntry⟩
  obtain ⟨b, u, ranValue, h⟩ := run_bind_eq_ok ranEntry
  cases h
  exact ⟨rfl, t, t', ranValue⟩

/-- An action on every value of a list, under an invariant of the state: it succeeds on all of them, or
it stops at the first on which it fails. -/
theorem mapM_cases {f : α → StateT σ (Except ε) β} {Inv : σ → Prop} {Good : α → β → Prop}
    {Bad : α → ε → Prop}
    (step : ∀ a s, Inv s → (∃ b s', (f a).run s = .ok (b, s') ∧ Inv s' ∧ Good a b) ∨
      ∃ e, (f a).run s = .error e ∧ Bad a e)
    (l : List α) {s : σ} (hs : Inv s) :
    (∃ bs s', (l.mapM f).run s = .ok (bs, s') ∧ Inv s' ∧ List.Forall₂ Good l bs) ∨
    ∃ before a after e, l = before ++ a :: after ∧ (∀ x ∈ before, ∃ b, Good x b) ∧ Bad a e ∧
      (l.mapM f).run s = .error e := by
  induction l generalizing s with
  | nil => exact .inl ⟨[], s, rfl, hs, .nil⟩
  | cons a l ih =>
    rw [List.mapM_cons, StateT.run_bind]
    -- Where the head succeeds the rest decides; where it fails, nothing stands before it.
    rcases step a s hs with ⟨b, t, ran, ht, good⟩ | ⟨e, failed, bad⟩
    · rcases ih ht with ⟨bs, u, ranRest, hu, goods⟩ | ⟨before, x, after, e, rfl, goods, bad, failed⟩
      · refine .inl ⟨b :: bs, u, ?_, hu, .cons good goods⟩
        rw [ran]
        show ((l.mapM f >>= fun bs => pure (b :: bs)).run t) = _
        rw [StateT.run_bind, ranRest]
        rfl
      · refine .inr ⟨a :: before, x, after, e, rfl, ?_, bad, ?_⟩
        · intro y hy
          rcases List.mem_cons.1 hy with rfl | inBefore
          · exact ⟨b, good⟩
          · exact goods y inBefore
        · rw [ran]
          show (((before ++ x :: after).mapM f >>= fun bs => pure (b :: bs)).run t) = _
          rw [StateT.run_bind, failed]
          rfl
    · refine .inr ⟨[], a, l, e, rfl, fun _ h => absurd h List.not_mem_nil, bad, ?_⟩
      rw [failed]
      rfl

/-- An action on every value of a map, under an invariant of the state: it succeeds on all of them, or
it stops at the first on which it fails. -/
theorem mapValuesM_cases {f : String → α → StateT σ (Except ε) β} {Inv : σ → Prop}
    {Good : String → α → β → Prop} {Bad : String → α → ε → Prop}
    (step : ∀ key a s, Inv s →
      (∃ b s', (f key a).run s = .ok (b, s') ∧ Inv s' ∧ Good key a b) ∨
      ∃ e, (f key a).run s = .error e ∧ Bad key a e)
    (m : OrderedMap α) {s : σ} (hs : Inv s) :
    (∃ m' s', (m.mapValuesM f).run s = .ok (m', s') ∧ Inv s' ∧ Related Good m m') ∨
    ∃ before entry after e, m.entries = before ++ entry :: after ∧
      (∀ x ∈ before, ∃ b, Good x.1 x.2 b) ∧ Bad entry.1 entry.2 e ∧
      (m.mapValuesM f).run s = .error e := by
  have stepEntry : ∀ (entry : String × α) s, Inv s →
      (∃ entry' s', (do return (entry.1, ← f entry.1 entry.2) : StateT σ (Except ε) _).run s =
        .ok (entry', s') ∧ Inv s' ∧ (entry'.1 = entry.1 ∧ Good entry.1 entry.2 entry'.2)) ∨
      ∃ e, (do return (entry.1, ← f entry.1 entry.2) : StateT σ (Except ε) _).run s = .error e ∧
        Bad entry.1 entry.2 e := by
    intro entry s hs
    rcases step entry.1 entry.2 s hs with ⟨b, t, ran, ht, good⟩ | ⟨e, failed, bad⟩
    · refine .inl ⟨(entry.1, b), t, ?_, ht, rfl, good⟩
      rw [StateT.run_bind, ran]
      rfl
    · refine .inr ⟨e, ?_, bad⟩
      rw [StateT.run_bind, failed]
      rfl
  unfold mapValuesM
  rw [StateT.run_bind]
  rcases mapM_cases stepEntry m.entries hs with
    ⟨entries, t, ran, ht, goods⟩ | ⟨before, entry, after, e, split, goods, bad, failed⟩
  · refine .inl ⟨ofList entries, t, ?_, ht, related_ofList goods⟩
    rw [ran]
    rfl
  · refine .inr ⟨before, entry, after, e, split, ?_, bad, ?_⟩
    · intro x hx
      obtain ⟨entry', -, good⟩ := goods x hx
      exact ⟨entry'.2, good⟩
    · rw [failed]
      rfl

end

end OrderedMap

end ModScript
