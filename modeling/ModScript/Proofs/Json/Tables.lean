import ModScript.Game.Loading
import ModScript.Proofs.Json.Reading

/-!
# Tables as data

Everything that is written of a module in a patch is read back as it was: addresses of any size, the names of
types, entries with and without their optional fields, and maps in their order. The form in which game files
give tables is read from the same text; a table that was written inherits nothing.

Results:
1. `Address.ofTree?_toJson`: every address reads back.
2. `Tree.mapOf?_ofMap`: a map reads back if its values do, names and order unchanged.
3. `ModuleTable.ofTree?_toJson`: a table reads back.
4. `TableSource.ofTree?_toJson`: in a game file it is a table in place without a parent.
5. `ModuleTable.readable_toJson`: a table is two levels deeper than its constants.
-/

namespace ModScript

/-! ## Addresses -/

namespace Address

theorem mem_toDigits_sixteen {c : Char} {n : Nat} (present : c ∈ Nat.toDigits 16 n) :
    ∃ k < 16, c = Nat.digitChar k := by
  induction n using Nat.strongRecOn with
  | ind n ih =>
    rw [Nat.toDigits_eq_if (by decide)] at present
    split at present
    next small => exact ⟨n, small, List.mem_singleton.1 present⟩
    next large =>
      rcases List.mem_append.1 present with front | last
      · exact ih (n / 16) (by omega) front
      · exact ⟨n % 16, Nat.mod_lt _ (by decide), List.mem_singleton.1 last⟩

theorem hexValue?_digitChar {k : Nat} (small : k < 16) : Json.hexValue? (Nat.digitChar k) = some k := by
  have each : ∀ k < 16, Json.hexValue? (Nat.digitChar k) = some k := by decide
  exact each k small

theorem shown_digitChar {k : Nat} (small : k < 16) :
    Text.isBlank (Nat.digitChar k) = false ∧ Nat.digitChar k ≠ '+' := by
  have each : ∀ k < 16, Text.isBlank (Nat.digitChar k) = false ∧ Nat.digitChar k ≠ '+' := by decide
  exact each k small

/-- The digits of a number that 64 bits hold are appended to that number. -/
theorem appendDigits_toDigits {n : Nat} (fits : n < UInt64.size) (rest : List Char) :
    appendDigits 0 (Nat.toDigits 16 n ++ rest) = appendDigits n rest := by
  induction n using Nat.strongRecOn generalizing rest with
  | ind n ih =>
    rw [Nat.toDigits_eq_if (by decide)]
    split
    next small => simp [appendDigits, hexValue?_digitChar small, fits]
    next large =>
      have last : n % 16 < 16 := Nat.mod_lt _ (by decide)
      have whole : 16 * (n / 16) + n % 16 = n := Nat.div_add_mod n 16
      rw [List.append_assoc, ih (n / 16) (by omega) (by omega)]
      simp [appendDigits, hexValue?_digitChar last, whole, fits]

theorem readDigits_toDigits {n : Nat} (fits : n < UInt64.size) :
    readDigits (Nat.toDigits 16 n) = .ok n := by
  have unsigned : ∀ rest, Nat.toDigits 16 n ≠ '+' :: rest := by
    intro rest same
    obtain ⟨k, small, sign⟩ := mem_toDigits_sixteen (same ▸ List.mem_cons_self)
    exact (shown_digitChar small).2 sign.symm
  have appended := appendDigits_toDigits fits []
  rw [List.append_nil] at appended
  unfold readDigits
  split
  next none => exact absurd none Nat.toDigits_ne_nil
  next sign => exact absurd sign (unsigned _)
  next digits _ sign => exact absurd sign (unsigned _)
  next => exact appended

/-- Every address reads back. -/
theorem parse_text (a : Address) : parse a.text = .ok a := by
  have shown : ∀ c ∈ a.chars, Text.isBlank c = false := by
    intro c present
    rcases List.mem_cons.1 present with rfl | present
    · decide
    · rcases List.mem_cons.1 present with rfl | present
      · decide
      · obtain ⟨k, small, rfl⟩ := mem_toDigits_sixteen present
        exact (shown_digitChar small).1
  have digits := readDigits_toDigits a.value.toNat_lt_size
  rw [parse, text, String.toList_ofList, readChars, Text.trimChars_of_shown shown]
  simp [chars, afterMark?, digits, Except.map]

theorem ofTree?_toJson (a : Address) : ofTree? (.ofJson a.toJson) = some a := by
  simp [toJson, Tree.ofJson, ofTree?, parse_text, Except.toOption]

end Address

/-! ## Types -/

theorem VariableType.ofTree?_toJson (kind : VariableType) :
    VariableType.ofTree? (.ofJson kind.toJson) = some kind := by
  cases kind <;> rfl

theorem NativeType.ofTree?_toJson (type : NativeType) :
    NativeType.ofTree? (.ofJson type.toJson) = some type := by
  cases type <;> rfl

theorem NativeType.listOf?_listJson (types : List NativeType) :
    Tree.listOf? NativeType.ofTree? (.ofJson (NativeType.listJson types)) = some types := by
  have items : (Tree.ofItems (types.map toJson)).mapM NativeType.ofTree? = some types := by
    induction types with
    | nil => rfl
    | cons type rest ih => simp [Tree.ofItems, ofTree?_toJson, ih]
  exact items

/-! ## Maps -/

section

variable {α β : Type} {read : Tree → Option β} {write : α → Json} {f : α → β}

/-- A map reads back if its values do, names and order unchanged. -/
theorem Tree.mapOf?_ofMap {m : OrderedMap α}
    (back : ∀ value ∈ m.values, read (.ofJson (write value)) = some (f value)) :
    Tree.mapOf? read (.ofJson (Json.ofMap (m.mapValues write))) = some (m.mapValues f) := by
  have members (entries : List (String × α))
      (back : ∀ entry ∈ entries, read (.ofJson (write entry.2)) = some (f entry.2)) :
      ((Tree.ofMembers (entries.map fun entry => (entry.1, write entry.2))).mapM fun member =>
        (read member.2).map fun value => (member.1, value)) =
      some (entries.map fun entry => (entry.1, f entry.2)) := by
    induction entries with
    | nil => rfl
    | cons entry rest ih =>
      have first := back entry List.mem_cons_self
      have others := ih fun entry present => back entry (List.mem_cons_of_mem _ present)
      simp [Tree.ofMembers, first, others]
  have all := members m.entries fun entry present => back entry.2 (List.mem_map_of_mem present)
  have distinct : ((m.mapValues f).entries.map Prod.fst).Nodup := (m.mapValues f).distinct
  simp only [Json.ofMap, Tree.ofJson, Tree.mapOf?, OrderedMap.mapValues, all, Option.map_some]
  exact congrArg some (OrderedMap.ext (OrderedMap.entries_ofList distinct))

theorem Tree.mapOf?_ofMap_self {read : Tree → Option α} {m : OrderedMap α}
    (back : ∀ value ∈ m.values, read (.ofJson (write value)) = some value) :
    Tree.mapOf? read (.ofJson (Json.ofMap (m.mapValues write))) = some m := by
  rw [Tree.mapOf?_ofMap (f := id) back, OrderedMap.mapValues_id]

/-- Constants read back if no object in them repeats a name. -/
theorem Tree.mapOf?_constants {constants : OrderedMap Json}
    (distinct : ∀ value ∈ constants.values, value.HasDistinctKeys) :
    Tree.mapOf? Tree.toJson? (.ofJson (Json.ofMap constants)) = some constants := by
  have back : Tree.mapOf? Tree.toJson? (.ofJson (Json.ofMap (constants.mapValues id))) = some constants :=
    Tree.mapOf?_ofMap_self fun value present => Json.toJson?_ofJson value (distinct value present)
  rwa [OrderedMap.mapValues_id] at back

end

/-! ## Entries -/

namespace Tree

theorem word?_ofUInt64 (n : UInt64) : word? (.number (.ofUInt64 n)) = some n := by
  simp [word?, Number.ofUInt64]

/-- A field that may be `null`, and is given. -/
theorem fieldOr?_given {α : Type} {read : Tree → Option α} {t : Tree} {value : α}
    (back : read t = some value) (given : t ≠ .null) :
    fieldOr? none (nullable? read) (some t) = some (some value) := by
  simp only [fieldOr?, nullable?, back]
  cases t <;> trivial

end Tree

theorem VariableEntry.ofTree?_toJson (entry : VariableEntry) :
    VariableEntry.ofTree? (.ofJson entry.toJson) = some entry := by
  obtain ⟨address, kind, pointer, size⟩ := entry
  have readPointer (a : Address) :
      Tree.fieldOr? none (Tree.nullable? Address.ofTree?) (some (.ofJson a.toJson)) = some (some a) :=
    Tree.fieldOr?_given a.ofTree?_toJson nofun
  have readSize (n : UInt64) :
      Tree.fieldOr? none (Tree.nullable? Tree.word?) (some (.number (.ofUInt64 n))) = some (some n) :=
    Tree.fieldOr?_given (Tree.word?_ofUInt64 n) nofun
  have left {α : Type} (read : Tree → Option (Option α)) : Tree.fieldOr? none read none = some none := rfl
  cases pointer <;> cases size <;>
    simp [toJson, ofTree?, Json.optionalField, Tree.ofJson, Tree.ofMembers, Tree.record?,
      Tree.tableFields?, Tree.onlyMember?, Field.required, Field.defaulted,
      address.ofTree?_toJson, kind.ofTree?_toJson, readPointer, readSize, left]

theorem FunctionEntry.ofTree?_toJson (entry : FunctionEntry) :
    FunctionEntry.ofTree? (.ofJson entry.toJson) = some entry := by
  simp [toJson, ofTree?, Tree.ofJson, Tree.ofMembers, Tree.record?, Tree.tableFields?,
    Tree.onlyMember?, Field.required, Field.defaulted, Tree.fieldOr?, entry.address.ofTree?_toJson,
    NativeType.listOf?_listJson, entry.returns.ofTree?_toJson]

/-! ## Tables -/

/-- A field that may be left out is left out of a table that has no member of its name. -/
theorem Tree.record?_absent {members : List (String × Tree)} {name : String}
    (other : ∀ member ∈ members, member.1 ≠ name) (fields : List Field) :
    record? (.defaulted name :: fields) (.table members) =
      (record? fields (.table members)).map (none :: ·) := by
  have absent : members.filter (fun member => member.1 == name) = [] := by
    simpa [List.filter_eq_nil_iff] using other
  have field : onlyMember? members name = some none := by rw [onlyMember?, absent]
  simp only [record?, tableFields?, List.mapM_cons, Field.defaulted, field]
  exact Option.map_eq_bind.symm

section

variable {table : ModuleTable}

namespace ModuleTable

/-- The constants as the field of a written table: left out when there are none. -/
def constantsField (table : ModuleTable) : Option Tree :=
  if table.constants.isEmpty then none else some (.ofJson (.ofMap table.constants))

theorem record?_toJson (table : ModuleTable) :
    Tree.record? [.defaulted "constants", .defaulted "variables", .defaulted "hooks"]
        (.ofJson table.toJson) =
      some [table.constantsField, some (.ofJson (.ofMap (table.vars.mapValues VariableEntry.toJson))),
        some (.ofJson (.ofMap (table.hooks.mapValues FunctionEntry.toJson)))] := by
  by_cases none : table.constants.isEmpty <;>
    simp [toJson, constantsField, none, Tree.ofJson, Tree.ofMembers, Tree.record?, Tree.tableFields?,
      Tree.onlyMember?, Field.defaulted]

/-- No written table names a parent. -/
theorem draftRecord?_toJson (table : ModuleTable) :
    Tree.record? [.defaulted "inherits", .defaulted "constants", .defaulted "variables",
        .defaulted "hooks"] (.ofJson table.toJson) =
      some [none, table.constantsField,
        some (.ofJson (.ofMap (table.vars.mapValues VariableEntry.toJson))),
        some (.ofJson (.ofMap (table.hooks.mapValues FunctionEntry.toJson)))] := by
  obtain ⟨members, written, others⟩ : ∃ members, Tree.ofJson table.toJson = .table members ∧
      ∀ member ∈ members, member.1 ≠ "inherits" := by
    refine ⟨_, rfl, ?_⟩
    by_cases none : table.constants.isEmpty <;> simp [none, Tree.ofMembers]
  rw [written, Tree.record?_absent others, ← written, record?_toJson]
  rfl

theorem read_constantsField
    (distinct : ∀ value ∈ table.constants.values, value.HasDistinctKeys) :
    Tree.fieldOr? .empty (Tree.mapOf? Tree.toJson?) table.constantsField = some table.constants := by
  unfold constantsField
  split
  next none => exact congrArg some (OrderedMap.ext (List.isEmpty_iff.1 none).symm)
  next => exact Tree.mapOf?_constants distinct

theorem read_vars (table : ModuleTable) :
    Tree.fieldOr? .empty (Tree.mapOf? VariableEntry.ofTree?)
        (some (.ofJson (.ofMap (table.vars.mapValues VariableEntry.toJson)))) = some table.vars :=
  Tree.mapOf?_ofMap_self fun entry _ => entry.ofTree?_toJson

theorem read_hooks (table : ModuleTable) :
    Tree.fieldOr? .empty (Tree.mapOf? FunctionEntry.ofTree?)
      (some (.ofJson (.ofMap (table.hooks.mapValues FunctionEntry.toJson)))) = some table.hooks :=
  Tree.mapOf?_ofMap_self fun entry _ => entry.ofTree?_toJson

/-- A table reads back if no object in its constants repeats a name. -/
theorem ofTree?_toJson (distinct : ∀ value ∈ table.constants.values, value.HasDistinctKeys) :
    ofTree? (.ofJson table.toJson) = some table := by
  simp [ofTree?, record?_toJson, read_constantsField distinct, read_vars, read_hooks]

end ModuleTable

/-- Where tables are given in place, a written table is one without a parent. -/
theorem TableSource.ofTree?_toJson
    (distinct : ∀ value ∈ table.constants.values, value.HasDistinctKeys) :
    TableSource.ofTree? (.ofJson table.toJson) = some (.inline ⟨none, table⟩) := by
  have orphan : Tree.fieldOr? none (Tree.nullable? Tree.text?) none = some none := rfl
  have draft : TableDraft.ofTree? (.ofJson table.toJson) = some ⟨none, table⟩ := by
    simp [TableDraft.ofTree?, table.draftRecord?_toJson, orphan, ModuleTable.read_constantsField distinct,
      ModuleTable.read_vars, ModuleTable.read_hooks]
  have inPlace : ∀ path, Tree.ofJson table.toJson ≠ .text path := fun _ => nofun
  rw [ofTree?, Json.isSound_ofJson, if_pos rfl, draft]
  · rfl
  · exact inPlace

end

/-! ## Depth -/

section

open Json

theorem Json.mem_optionalField {α : Type} {name : String} {write : α → Json} {value : Option α}
    {member : String × Json} :
    member ∈ optionalField name write value ↔ ∃ v ∈ value, member = (name, write v) := by
  cases value <;> simp [optionalField]

/-- A map is one level deeper than its values. -/
theorem Json.readable_ofMap {α : Type} {room : Nat} {write : α → Json} {m : OrderedMap α}
    (each : ∀ value ∈ m.values, (write value).Readable room) :
    (ofMap (m.mapValues write)).Readable (room + 1) := by
  refine readable_object fun member present => ?_
  obtain ⟨entry, inEntries, rfl⟩ := List.mem_map.1 present
  exact each entry.2 (List.mem_map_of_mem inEntries)

theorem VariableEntry.readable_toJson (entry : VariableEntry) : entry.toJson.Readable 1 := by
  refine readable_object fun member present => ?_
  simp only [List.mem_append, mem_optionalField] at present
  rcases present with (fixed | ⟨pointer, -, rfl⟩) | ⟨size, -, rfl⟩
  · rcases List.mem_pair.1 fixed with rfl | rfl <;> exact readable_string _
  · exact readable_string _
  · exact readable_ofUInt64 _

theorem FunctionEntry.readable_toJson (entry : FunctionEntry) : entry.toJson.Readable 2 := by
  have params : (NativeType.listJson entry.params).Readable 1 := by
    refine readable_array fun item present => ?_
    obtain ⟨type, -, rfl⟩ := List.mem_map.1 present
    exact readable_string _
  refine readable_object fun member present => ?_
  simp only [List.mem_cons, List.not_mem_nil, or_false] at present
  rcases present with rfl | rfl | rfl
  · exact readable_string _
  · exact params
  · exact readable_string _

theorem Json.readable_constants {room : Nat} {constants : OrderedMap Json}
    (each : ∀ value ∈ constants.values, value.Readable room) : (ofMap constants).Readable (room + 1) := by
  have mapped : (ofMap (constants.mapValues id)).Readable (room + 1) := readable_ofMap each
  rwa [OrderedMap.mapValues_id] at mapped

/-- A table is two levels deeper than its constants. -/
theorem ModuleTable.readable_toJson {table : ModuleTable} {room : Nat} (roomy : 2 ≤ room)
    (constants : ∀ value ∈ table.constants.values, value.Readable room) :
    table.toJson.Readable (room + 2) := by
  have vars := readable_ofMap (m := table.vars) fun entry _ => entry.readable_toJson.mono
    (Nat.le_of_succ_le roomy)
  have hooks := readable_ofMap (m := table.hooks) fun entry _ => entry.readable_toJson.mono roomy
  refine readable_object fun member present => ?_
  rcases List.mem_append.1 present with first | others
  · split at first
    · cases first
    · obtain rfl := List.mem_singleton.1 first
      exact readable_constants constants
  · rcases List.mem_pair.1 others with rfl | rfl
    · exact vars
    · exact hooks

end

end ModScript
