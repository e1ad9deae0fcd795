import ModScript.Proofs.Script.Bindings
import ModScript.Proofs.Script.Lines
import ModScript.Proofs.WellFormed

/-!
# Variables with a place of their own

Behind its tables a script has a statement for each change that the mod makes to them: a module that has no
table gets one, a table without variables gets some, and one variable is set. The statements are read from the
text of the script and run on the tables as they were emitted. What a statement changes is one entry at most, so
the variables with places of their own, whose names differ, are all set, and nothing else is.

Results:
1. `TableUpdate.ofBlock?_placedBlock`: the block of the variables reads as its statements.
2. `TableUpdate.known?_apply`, `TableUpdate.known?_apply_set`: what one statement changes.
3. `TableUpdate.exists_run_placed`: no statement fails.
4. `Declaration.placed_variables_override`: the tables behind the block.
-/

namespace ModScript

/-! ## Tables as objects -/

namespace Json

/-- The object with one member set: in place if it has one of that name, behind all others if not. -/
def setMember? (value : Json) (key : String) (new : Json) : Option Json :=
  match value with
  | .object members => some (.object (OrderedMap.put key new members))
  | _ => none

/-- What the tables say about a name in one part of a module's table. -/
def known? (tables : Json) (module part name : String) : Option Json :=
  ((tables.member? module).bind (member? part)).bind (member? name)

theorem member?_setMember {key : String} {new value value' : Json}
    (set : value.setMember? key new = some value') (key' : String) :
    value'.member? key' = if key' = key then some new else value.member? key' := by
  cases value with
  | object members =>
    cases set
    exact OrderedMap.lookup_put key new members key'
  | _ => cases set

/-- Setting the table of one module changes the entries of that module only. -/
theorem known?_setMember {module : String} {table tables tables' : Json}
    (set : tables.setMember? module table = some tables') (module' part name : String) :
    tables'.known? module' part name =
      if module' = module then (table.member? part).bind (member? name)
      else tables.known? module' part name := by
  rw [known?, member?_setMember set]
  split <;> rfl

/-- Setting one part of a module's table changes the entries of that part only. -/
theorem known?_setPart {module part : String} {new table table' tables tables' : Json}
    (known : tables.member? module = some table) (changed : table.setMember? part new = some table')
    (set : tables.setMember? module table' = some tables') (module' part' name : String) :
    tables'.known? module' part' name =
      if module' = module ∧ part' = part then new.member? name else tables.known? module' part' name := by
  rw [known?_setMember set, member?_setMember changed]
  by_cases sameModule : module' = module
  · by_cases samePart : part' = part
    · simp [sameModule, samePart]
    · simp [sameModule, samePart, known?, known]
  · simp [sameModule]

/-- The table of a module: an object with variables. -/
def IsTable (table : Json) : Prop :=
  ∃ members vars, table = .object members ∧ members.lookup "variables" = some (.object vars)

/-- An object in which every member is the table of a module. -/
def AreTables (tables : Json) : Prop :=
  ∃ members, tables = .object members ∧
    ∀ module table, members.lookup module = some table → table.IsTable

theorem AreTables.isTable {tables : Json} (sound : tables.AreTables) {module : String} {table : Json}
    (known : tables.member? module = some table) : table.IsTable := by
  obtain ⟨members, rfl, each⟩ := sound
  exact each module table known

theorem AreTables.exists_setMember {tables : Json} (sound : tables.AreTables) {table : Json}
    (new : table.IsTable) (module : String) :
    ∃ tables', tables.setMember? module table = some tables' ∧ tables'.AreTables := by
  obtain ⟨members, rfl, each⟩ := sound
  refine ⟨_, rfl, _, rfl, fun module' table' found => ?_⟩
  rw [OrderedMap.lookup_put] at found
  split at found
  · cases found
    exact new
  · exact each module' table' found

/-- The table that a module without one gets. -/
def newTable : Json := .object [("variables", .object []), ("hooks", .object [])]

theorem known_newTable (part name : String) : (newTable.member? part).bind (member? name) = none := by
  have empty : member? name (.object []) = none := rfl
  simp only [newTable, member?, List.lookup_cons, List.lookup_nil]
  split
  · exact empty
  · split
    · exact empty
    · rfl

theorem isTable_newTable : newTable.IsTable := ⟨_, [], rfl, rfl⟩

end Json

/-- Every table has variables, if only none. -/
theorem ModuleTable.isTable_toJson (table : ModuleTable) : table.toJson.IsTable := by
  refine ⟨_, (table.vars.mapValues VariableEntry.toJson).entries, rfl, ?_⟩
  by_cases none : table.constants.isEmpty = true
  · simp only [none, if_true]
    rfl
  · simp only [none]
    rfl

theorem Script.areTables_addresses (script : Script) : script.addresses.AreTables := by
  refine ⟨_, rfl, fun module table found => ?_⟩
  obtain ⟨entry, -, same⟩ := List.mem_map.1 (OrderedMap.mem_of_lookup_eq_some found)
  cases same
  exact entry.2.isTable_toJson

/-! ## Statements -/

/-- A statement about the tables: a module gets a table if it has none, a table gets variables if it has
none, or one variable is set. -/
inductive TableUpdate
  | createTable (module : String)
  | createVariables (module : String)
  | set (module name : String) (value : Json)

namespace TableUpdate

/-- The module whose table an expression at the front means. -/
def table? (chars : List Char) : Option (String × List Char) := do
  let (module, rest) ← literal? (← behind? "memoryAddresses[" chars)
  return (module, ← behind? "]" rest)

/-- The module for which a line creates what is missing: the same expression is tested and assigned to. -/
def creating? (part new : String) (line : List Char) : Option String := do
  let (module, rest) ← table? (← behind? "if (!" line)
  let (created, rest) ← table? (← behind? ") " (← behind? part rest))
  if created = module ∧ rest = (part ++ " = " ++ new ++ ";").toList then some module else none

/-- The module, the name and the value of the variable that a line sets. -/
def setting? (line : List Char) : Option (String × String × Json) := do
  let (module, rest) ← table? line
  let (name, rest) ← literal? (← behind? ".variables[" rest)
  let value ← (← behind? "] = " rest).dropSuffix? [';']
  return (module, name, ← Json.parse? (String.ofList value))

/-- The statement on a line. -/
def ofLine? (line : List Char) : Option TableUpdate :=
  ((creating? "" r"{ variables: {}, hooks: {} }" line).map .createTable).or <|
    ((creating? ".variables" r"{}" line).map .createVariables).or <|
      (setting? line).map fun given => .set given.1 given.2.1 given.2.2

/-- The statements of a text, one on each line. -/
def ofBlock? (text : String) : Option (List TableUpdate) := (linesOf text).mapM ofLine?

/-- The tables behind a statement. A statement fails if it looks into something that is not there; whatever is
there is an object, so that only what is missing is created. -/
def apply (tables : Json) : TableUpdate → Option Json
  | .createTable module =>
    if (tables.member? module).isSome then some tables
    else tables.setMember? module .newTable
  | .createVariables module => do
    let table ← tables.member? module
    if (table.member? "variables").isSome then return tables
    tables.setMember? module (← table.setMember? "variables" (.object []))
  | .set module name value => do
    let table ← tables.member? module
    let vars ← table.member? "variables"
    tables.setMember? module (← table.setMember? "variables" (← vars.setMember? name value))

/-- The tables behind all statements in their order. -/
def run (tables : Json) (updates : List TableUpdate) : Option Json := updates.foldlM apply tables

/-- The module and the name of the variable that is set. -/
def place? : TableUpdate → Option (String × String)
  | .set module name _ => some (module, name)
  | _ => none

end TableUpdate

/-- The statements of a variable. -/
def PlacedVariable.updates (placed : PlacedVariable) : List TableUpdate :=
  [.createTable placed.module, .createVariables placed.module,
    .set placed.module placed.name placed.entry.toJson]

/-! ## Reading -/

namespace TableUpdate

/-- The table of a module as an expression. -/
def tableText (module : String) : String := "memoryAddresses[" ++ Json.quote module ++ "]"

theorem toList_tableText (module : String) : (tableText module).toList =
    "memoryAddresses[".toList ++ ((Json.quote module).toList ++ "]".toList) := by
  show ("memoryAddresses[" ++ Json.quote module ++ "]").toList = _
  rw [String.toList_append, String.toList_append, List.append_assoc]

theorem table?_tableText (module : String) (rest : List Char) :
    table? ((tableText module).toList ++ rest) = some (module, rest) := by
  simp only [table?, toList_tableText, List.append_assoc, behind?_append, literal?_quote,
    Option.bind_eq_bind, Option.bind_some, Option.pure_def]

theorem creating?_line (module part new : String) :
    creating? part new ("if (!" ++ tableText module ++ part ++ ") " ++ tableText module ++ part ++ " = " ++
      new ++ ";").toList = some module := by
  simp only [creating?, String.toList_append, List.append_assoc, behind?_append, table?_tableText,
    Option.bind_eq_bind, Option.bind_some, and_self, if_true]

theorem setting?_line (module name : String) {value : Json} (storable : value.Storable Json.depthLimit) :
    setting? (tableText module ++ ".variables[" ++ Json.quote name ++ "] = " ++ value.compact ++ ";").toList =
      some (module, name, value) := by
  have last : (value.compact.toList ++ ";".toList).dropSuffix? [';'] = some value.compact.toList :=
    List.dropSuffix?_eq_some_iff.2 ⟨[';'], rfl, BEq.rfl⟩
  simp only [setting?, String.toList_append, List.append_assoc, behind?_append, table?_tableText,
    literal?_quote, last, String.ofList_toList, Json.parse?_compact storable, Option.bind_eq_bind,
    Option.bind_some, Option.pure_def]

/-- A line that creates variables creates no table. -/
theorem creating?_variables (module new : String) (rest : List Char) :
    creating? "" new ("if (!".toList ++ ((tableText module).toList ++ (".variables".toList ++ rest))) = none := by
  have other : behind? ") " (".variables".toList ++ rest) = none := rfl
  have nothing : behind? "" (".variables".toList ++ rest) = some (".variables".toList ++ rest) :=
    behind?_append "" _
  simp only [creating?, behind?_append, table?_tableText, nothing, other, Option.bind_eq_bind,
    Option.bind_some, Option.bind_none]

/-- A line that begins with a table creates nothing. -/
theorem creating?_table (part new module : String) (rest : List Char) :
    creating? part new ((tableText module).toList ++ rest) = none := by
  have other : behind? "if (!" ((tableText module).toList ++ rest) = none := by
    rw [toList_tableText]
    rfl
  rw [creating?, other]
  rfl

/-- An entry of a variable is data that its text says in full. -/
theorem storable_entry (entry : VariableEntry) : entry.toJson.Storable Json.depthLimit := by
  refine ⟨entry.readable_toJson.mono (by decide), ?_⟩
  obtain ⟨address, kind, pointer, size⟩ := entry
  cases pointer <;> cases size <;>
    simp [VariableEntry.toJson, Json.optionalField, Json.HasDistinctKeys, Json.MembersHaveDistinctKeys,
      Address.toJson, VariableType.toJson]

theorem ofLine?_createTable (module : String) :
    ofLine? ("if (!" ++ tableText module ++ ") " ++ tableText module ++
      r" = { variables: {}, hooks: {} };").toList = some (.createTable module) := by
  have line : "if (!" ++ tableText module ++ ") " ++ tableText module ++ r" = { variables: {}, hooks: {} };" =
      "if (!" ++ tableText module ++ "" ++ ") " ++ tableText module ++ "" ++ " = " ++
        r"{ variables: {}, hooks: {} }" ++ ";" := by
    simp [← String.toList_inj]
  rw [line, ofLine?, creating?_line]
  rfl

theorem ofLine?_createVariables (module : String) :
    ofLine? ("if (!" ++ tableText module ++ ".variables) " ++ tableText module ++
      r".variables = {};").toList = some (.createVariables module) := by
  have line : "if (!" ++ tableText module ++ ".variables) " ++ tableText module ++ r".variables = {};" =
      "if (!" ++ tableText module ++ ".variables" ++ ") " ++ tableText module ++ ".variables" ++ " = " ++
        r"{}" ++ ";" := by
    simp [← String.toList_inj]
  rw [line, ofLine?, creating?_line]
  simp only [String.toList_append, List.append_assoc, creating?_variables]
  rfl

theorem ofLine?_set (module name : String) {value : Json} (storable : value.Storable Json.depthLimit) :
    ofLine? (tableText module ++ ".variables[" ++ Json.quote name ++ "] = " ++ value.compact ++ ";").toList =
      some (.set module name value) := by
  rw [ofLine?, setting?_line _ _ storable]
  simp only [String.toList_append, List.append_assoc, creating?_table]
  rfl

/-- The lines of a variable read as its statements. -/
theorem mapM_lines (placed : PlacedVariable) :
    (placed.lines.map String.toList).mapM ofLine? = some placed.updates := by
  have table := ofLine?_createTable placed.module
  have vars := ofLine?_createVariables placed.module
  have set := ofLine?_set placed.module placed.name (storable_entry placed.entry)
  have lines : placed.lines =
      ["if (!" ++ tableText placed.module ++ ") " ++ tableText placed.module ++
          r" = { variables: {}, hooks: {} };",
        "if (!" ++ tableText placed.module ++ ".variables) " ++ tableText placed.module ++
          r".variables = {};",
        tableText placed.module ++ ".variables[" ++ Json.quote placed.name ++ "] = " ++
          placed.entry.toJson.compact ++ ";"] := rfl
  simp only [lines, PlacedVariable.updates, List.map_cons, List.map_nil, List.mapM_cons, List.mapM_nil,
    table, vars, set, Option.bind_eq_bind, Option.bind_some, Option.pure_def]

theorem unbroken_lines (placed : PlacedVariable) :
    ∀ line ∈ placed.lines, line.isEmpty = false ∧ '\n' ∉ line.toList := by
  have module := Json.unbroken_quote placed.module
  have name := Json.unbroken_quote placed.name
  have value := Json.unbroken_compact placed.entry.toJson
  simp only [PlacedVariable.lines, List.forall_mem_cons]
  refine ⟨⟨?_, ?_⟩, ⟨?_, ?_⟩, ⟨?_, ?_⟩, fun _ none => absurd none List.not_mem_nil⟩ <;>
    simp [module, name, value]

/-- The block of the variables reads as their statements. -/
theorem ofBlock?_placedBlock (script : Script) :
    ofBlock? script.placedBlock = some (script.placed.flatMap PlacedVariable.updates) := by
  have lines : linesOf script.placedBlock =
      (script.placed.flatMap PlacedVariable.lines).map String.toList := by
    have each : ∀ line ∈ script.placed.flatMap PlacedVariable.lines,
        line.isEmpty = false ∧ '\n' ∉ line.toList := by
      intro line present
      obtain ⟨placed, -, inLines⟩ := List.mem_flatMap.1 present
      exact unbroken_lines placed line inLines
    exact linesOf_joinLines (fun line present => (each line present).1) fun line present =>
      (each line present).2
  rw [ofBlock?, lines]
  induction script.placed with
  | nil => rfl
  | cons first rest ih =>
    rw [List.flatMap_cons, List.flatMap_cons, List.map_append, List.mapM_append, mapM_lines, ih]
    rfl

/-! ## Running -/

variable {tables tables' : Json} {module part name : String} {value : Json} {placed : List PlacedVariable}

theorem run_append (tables : Json) (updates more : List TableUpdate) :
    run tables (updates ++ more) = (run tables updates).bind fun tables' => run tables' more :=
  List.foldlM_append

theorem apply_createTable (applied : apply tables (.createTable module) = some tables') :
    tables' = tables ∨ tables.member? module = none ∧
      tables.setMember? module .newTable = some tables' := by
  simp only [apply] at applied
  split at applied
  next => exact .inl (Option.some.inj applied).symm
  next missing => exact .inr ⟨Option.not_isSome_iff_eq_none.1 missing, applied⟩

theorem apply_createVariables (applied : apply tables (.createVariables module) = some tables') :
    tables' = tables ∨ ∃ table table', tables.member? module = some table ∧ table.member? "variables" = none ∧
      table.setMember? "variables" (.object []) = some table' ∧
      tables.setMember? module table' = some tables' := by
  simp only [apply, Option.bind_eq_bind, Option.bind_eq_some_iff] at applied
  obtain ⟨table, known, applied⟩ := applied
  split at applied
  next => exact .inl (Option.some.inj applied).symm
  next missing =>
    obtain ⟨table', changed, set⟩ := Option.bind_eq_some_iff.1 applied
    exact .inr ⟨table, table', known, Option.not_isSome_iff_eq_none.1 missing, changed, set⟩

theorem apply_set (applied : apply tables (.set module name value) = some tables') :
    ∃ table vars vars' table', tables.member? module = some table ∧ table.member? "variables" = some vars ∧
      vars.setMember? name value = some vars' ∧ table.setMember? "variables" vars' = some table' ∧
      tables.setMember? module table' = some tables' := by
  simp only [apply, Option.bind_eq_bind, Option.bind_eq_some_iff] at applied
  obtain ⟨table, known, vars, part, vars', given, table', changed, set⟩ := applied
  exact ⟨table, vars, vars', table', known, part, given, changed, set⟩

theorem known?_apply_set (applied : apply tables (.set module name value) = some tables')
    (module' part name' : String) :
    tables'.known? module' part name' =
      if module' = module ∧ part = "variables" ∧ name' = name then some value
      else tables.known? module' part name' := by
  obtain ⟨table, vars, vars', table', known, before, given, changed, set⟩ := apply_set applied
  rw [Json.known?_setPart known changed set, Json.member?_setMember given]
  by_cases place : module' = module ∧ part = "variables"
  · obtain ⟨rfl, rfl⟩ := place
    have unchanged : tables.known? module' "variables" name' = vars.member? name' := by
      simp [Json.known?, known, before]
    simp [unchanged]
  · have other : ¬ (module' = module ∧ part = "variables" ∧ name' = name) := fun ⟨module, part, _⟩ =>
      place ⟨module, part⟩
    rw [if_neg place, if_neg other]

/-- A statement changes no entry but that of the variable that it sets. -/
theorem known?_apply {update : TableUpdate} (applied : apply tables update = some tables')
    (other : part = "variables" → update.place? ≠ some (module, name)) :
    tables'.known? module part name = tables.known? module part name := by
  cases update with
  | createTable created =>
    rcases apply_createTable applied with rfl | ⟨missing, set⟩
    · rfl
    · rw [Json.known?_setMember set]
      split
      next same =>
        -- The new table has no entries, and there was none before.
        rw [same, Json.known?, missing]
        exact Json.known_newTable part name
      next => rfl
  | createVariables created =>
    rcases apply_createVariables applied with rfl | ⟨table, table', known, missing, changed, set⟩
    · rfl
    · rw [Json.known?_setPart known changed set]
      split
      next same =>
        rw [same.1, same.2, Json.known?, known, Option.bind_some, missing]
        rfl
      next => rfl
  | set module' name' value =>
    rw [known?_apply_set applied]
    refine if_neg ?_
    rintro ⟨rfl, rfl, rfl⟩
    exact other rfl rfl

/-- An entry that no statement sets is as it was before all of them. -/
theorem known?_run {updates : List TableUpdate} (ran : run tables updates = some tables')
    (others : part = "variables" → ∀ update ∈ updates, update.place? ≠ some (module, name)) :
    tables'.known? module part name = tables.known? module part name := by
  induction updates generalizing tables with
  | nil =>
    cases ran
    rfl
  | cons update rest ih =>
    obtain ⟨next, applied, ran⟩ := Option.bind_eq_some_iff.1 ran
    rw [ih ran fun vars update present => others vars update (List.mem_cons_of_mem _ present)]
    exact known?_apply applied fun vars => others vars update List.mem_cons_self

theorem exists_createTable (sound : tables.AreTables) (module : String) :
    ∃ tables', apply tables (.createTable module) = some tables' ∧ tables'.AreTables ∧
      ∃ table, tables'.member? module = some table := by
  cases known : tables.member? module with
  | some table =>
    refine ⟨tables, ?_, sound, table, known⟩
    simp [apply, known]
  | none =>
    obtain ⟨tables', set, sound'⟩ := sound.exists_setMember Json.isTable_newTable module
    refine ⟨tables', ?_, sound', .newTable, ?_⟩
    · simpa [apply, known] using set
    · simp [Json.member?_setMember set]

/-- Tables have variables, so none are created. -/
theorem apply_createVariables_of_isTable {table : Json} (known : tables.member? module = some table)
    (sound : table.IsTable) :
    apply tables (.createVariables module) = some tables := by
  obtain ⟨members, vars, rfl, part⟩ := sound
  have given : (Json.object members).member? "variables" = some (.object vars) := part
  simp [apply, known, given]

theorem exists_set {table : Json} (sound : tables.AreTables) (known : tables.member? module = some table)
    (name : String) (value : Json) :
    ∃ tables', apply tables (.set module name value) = some tables' ∧ tables'.AreTables := by
  obtain ⟨members, vars, rfl, part⟩ := sound.isTable known
  have given : (Json.object members).member? "variables" = some (.object vars) := part
  let vars' := OrderedMap.put name value vars
  have changed : (Json.object (OrderedMap.put "variables" (.object vars') members)).IsTable :=
    ⟨_, vars', rfl, by rw [OrderedMap.lookup_put, if_pos rfl]⟩
  obtain ⟨tables', set, sound'⟩ := sound.exists_setMember changed module
  refine ⟨tables', ?_, sound'⟩
  simpa [apply, known, given, Json.setMember?] using set

/-- The statements of a variable do not fail. -/
theorem exists_run_updates (sound : tables.AreTables) (placed : PlacedVariable) :
    ∃ tables', run tables placed.updates = some tables' ∧ tables'.AreTables := by
  obtain ⟨next, created, soundNext, table, known⟩ := exists_createTable sound placed.module
  have vars := apply_createVariables_of_isTable known (soundNext.isTable known)
  obtain ⟨tables', set, sound'⟩ := exists_set soundNext known placed.name placed.entry.toJson
  refine ⟨tables', ?_, sound'⟩
  simp [run, PlacedVariable.updates, created, vars, set]

/-- The statements of all variables do not fail. -/
theorem exists_run_placed (sound : tables.AreTables) (placed : List PlacedVariable) :
    ∃ tables', run tables (placed.flatMap PlacedVariable.updates) = some tables' := by
  induction placed generalizing tables with
  | nil => exact ⟨tables, rfl⟩
  | cons first rest ih =>
    obtain ⟨next, ran, soundNext⟩ := exists_run_updates sound first
    obtain ⟨tables', others⟩ := ih soundNext
    refine ⟨tables', ?_⟩
    rw [List.flatMap_cons, run_append, ran, Option.bind_some, others]

theorem place_of_mem {placed : PlacedVariable} {update : TableUpdate} (present : update ∈ placed.updates)
    {module name : String} (place : update.place? = some (module, name)) :
    placed.module = module ∧ placed.name = name := by
  simp only [PlacedVariable.updates, List.mem_cons, List.not_mem_nil, or_false] at present
  rcases present with rfl | rfl | rfl
  · cases place
  · cases place
  · cases place
    exact ⟨rfl, rfl⟩

/-- A variable has the value that was set last. -/
theorem known?_run_set {front back : List TableUpdate}
    (ran : run tables (front ++ .set module name value :: back) = some tables')
    (last : ∀ update ∈ back, update.place? ≠ some (module, name)) :
    tables'.known? module "variables" name = some value := by
  rw [run_append] at ran
  obtain ⟨before, -, ran⟩ := Option.bind_eq_some_iff.1 ran
  obtain ⟨next, applied, ran⟩ := Option.bind_eq_some_iff.1 ran
  rw [known?_run ran fun _ => last, known?_apply_set applied]
  exact if_pos ⟨rfl, rfl, rfl⟩

/-- Behind the statements of variables with different names, each has its value. -/
theorem known?_run_placed (distinct : (placed.map PlacedVariable.name).Nodup)
    (ran : run tables (placed.flatMap PlacedVariable.updates) = some tables')
    {known : PlacedVariable} (present : known ∈ placed) :
    tables'.known? known.module "variables" known.name = some known.entry.toJson := by
  obtain ⟨front, back, rfl⟩ := List.append_of_mem present
  have updates : (front ++ known :: back).flatMap PlacedVariable.updates =
      (front.flatMap PlacedVariable.updates ++
        [.createTable known.module, .createVariables known.module]) ++
        .set known.module known.name known.entry.toJson :: back.flatMap PlacedVariable.updates := by
    simp [PlacedVariable.updates]
  rw [updates] at ran
  refine known?_run_set ran fun update inBack place => ?_
  obtain ⟨other, later, inUpdates⟩ := List.mem_flatMap.1 inBack
  -- No variable behind has the same name.
  have fresh : known.name ∉ back.map PlacedVariable.name := by
    rw [List.map_append, List.map_cons] at distinct
    exact (List.nodup_cons.1 (List.nodup_append.1 distinct).2.1).1
  exact fresh ((place_of_mem inUpdates place).2 ▸ List.mem_map_of_mem later)

/-- Behind the statements of some variables, every other entry is as it was. -/
theorem known?_run_others (ran : run tables (placed.flatMap PlacedVariable.updates) = some tables')
    (others : part = "variables" → ∀ known ∈ placed, known.module = module → known.name ≠ name) :
    tables'.known? module part name = tables.known? module part name := by
  refine known?_run ran fun vars update present place => ?_
  obtain ⟨known, inPlaced, inUpdates⟩ := List.mem_flatMap.1 present
  obtain ⟨sameModule, sameName⟩ := place_of_mem inUpdates place
  exact others vars known inPlaced sameModule sameName

end TableUpdate

/-! ## Scripts -/

namespace Declaration

variable {declaration : Declaration}

theorem mem_placed_iff {placed : PlacedVariable} : placed ∈ declaration.placed ↔
    ∃ known ∈ declaration.vars, known.place = some (placed.module, placed.entry) ∧ known.name = placed.name := by
  obtain ⟨module, name, entry⟩ := placed
  simp only [Declaration.placed, List.mem_filterMap, Option.map_eq_some_iff, PlacedVariable.mk.injEq]
  constructor
  · rintro ⟨known, present, ⟨module', entry'⟩, place, rfl, rfl, rfl⟩
    exact ⟨known, present, place, rfl⟩
  · rintro ⟨known, present, place, rfl⟩
    exact ⟨known, present, (module, entry), place, rfl, rfl, rfl⟩

/-- The names of the variables with places of their own are among those of all variables. -/
theorem placed_names_sublist (declaration : Declaration) :
    (declaration.placed.map PlacedVariable.name).Sublist (declaration.vars.map Variable.name) := by
  unfold Declaration.placed
  induction declaration.vars with
  | nil => exact .slnil
  | cons known rest ih =>
    cases place : known.place with
    | none =>
      rw [List.filterMap_cons_none (by rw [place]; rfl)]
      exact ih.cons _
    | some given =>
      rw [List.filterMap_cons_some (by rw [place]; rfl)]
      exact ih.cons_cons _

theorem placedBlock_eq_empty_iff (declaration : Declaration) (game : Game) (patch : Patch) :
    (Script.ofMod declaration game patch).placedBlock = "" ↔
      ∀ known ∈ declaration.vars, known.place = none := by
  have none : (∀ known ∈ declaration.vars, known.place = none) ↔ declaration.placed = [] := by
    simp [Declaration.placed, List.filterMap_eq_nil_iff]
  have block : (Script.ofMod declaration game patch).placedBlock =
      joinLines (declaration.placed.flatMap PlacedVariable.lines) := rfl
  rw [none, block]
  cases declaration.placed with
  | nil => exact iff_of_true rfl rfl
  | cons first rest =>
    have filled : (joinLines ((first :: rest).flatMap PlacedVariable.lines)).isEmpty = false :=
      isEmpty_joinLines (TableUpdate.unbroken_lines first _ List.mem_cons_self).1 _
    exact iff_of_false (ne_empty_of_isEmpty filled) (List.cons_ne_nil _ _)

/-- What the tables of a mod say behind the statements about its variables. They stand right behind the tables
in the script, unless no variable has a place of its own; they read as changes of the tables, none of which
fails; and behind them each variable with a place has its address, type, pointer and size there, while every
other entry of every module is as it was emitted. -/
theorem placed_variables_override (accepted : declaration.Accepted) (game : Game) (patch : Patch) :
    ∃ (front back : String) (updates : List TableUpdate) (tables : Json),
      declaration.script game patch = front ++ "\nconst memoryAddresses = " ++
        (Script.ofMod declaration game patch).addresses.indented ++ ";\n\n" ++
        Script.part (Script.ofMod declaration game patch).placedBlock ++ back ∧ Balanced front ∧
      ((Script.ofMod declaration game patch).placedBlock = "" ↔
        ∀ known ∈ declaration.vars, known.place = none) ∧
      TableUpdate.ofBlock? (Script.ofMod declaration game patch).placedBlock = some updates ∧
      TableUpdate.run (Script.ofMod declaration game patch).addresses updates = some tables ∧
      (∀ known ∈ declaration.vars, ∀ module entry, known.place = some (module, entry) →
        ∃ value, tables.known? module "variables" known.name = some value ∧
          VariableEntry.ofTree? (.ofJson value) = some entry) ∧
      ∀ module part name,
        (part = "variables" → ∀ known ∈ declaration.vars, known.name = name →
          ∀ entry, known.place ≠ some (module, entry)) →
        tables.known? module part name =
          (Script.ofMod declaration game patch).addresses.known? module part name := by
  obtain ⟨front, before, balanced⟩ :=
    @Script.exists_before_placed (Script.ofMod declaration game patch) isIdentifier_of_constants
  obtain ⟨tables, ran⟩ := TableUpdate.exists_run_placed
    (Script.ofMod declaration game patch).areTables_addresses declaration.placed
  have distinct : (declaration.placed.map PlacedVariable.name).Nodup :=
    accepted.nodup_vars.sublist declaration.placed_names_sublist
  refine ⟨front, (Script.ofMod declaration game patch).behind .placed, _, tables, ?_, balanced,
    placedBlock_eq_empty_iff declaration game patch,
    TableUpdate.ofBlock?_placedBlock (Script.ofMod declaration game patch), ran, ?_, ?_⟩
  · rw [Declaration.script, Script.text_eq_around _ .placed, before]
    rfl
  · intro known present module entry place
    have inPlaced : (⟨module, known.name, entry⟩ : PlacedVariable) ∈ declaration.placed :=
      mem_placed_iff.2 ⟨known, present, place, rfl⟩
    exact ⟨_, TableUpdate.known?_run_placed distinct ran inPlaced, entry.ofTree?_toJson⟩
  · intro module part name others
    refine TableUpdate.known?_run_others ran fun vars placed inPlaced sameModule sameName => ?_
    obtain ⟨known, present, place, named⟩ := mem_placed_iff.1 inPlaced
    exact others vars known present (named.trans sameName) placed.entry (sameModule ▸ place)

/-- A patch that knows two variables and a hook of its executable. -/
def knowingPatch : Patch where
  name := "P"
  fingerprint := "f"
  tables := ⟨[("e", {
    constants := .empty
    vars := ⟨[("health", ⟨⟨0x10⟩, .int32, none, none⟩), ("gold", ⟨⟨0x1A⟩, .int32, none, none⟩)], by decide⟩
    hooks := ⟨[("hit", ⟨⟨0x40⟩, [.int], .void⟩)], by decide⟩ })], by decide⟩

/-- A mod that puts a known variable elsewhere, and another one into a module without a table. -/
def placingMod : Declaration where
  name := "m"
  game := "g"
  modules := ["e"]
  vars := [⟨"health", some ("e", ⟨⟨0x99⟩, .block, some ⟨8⟩, some 16⟩)⟩, ⟨"gold", none⟩,
    ⟨"]\n\"", some ("x\".dll", ⟨⟨0x20⟩, .float, none, none⟩)⟩]
  hooks := []
  loops := []
  nops := []
  receivers := .empty
  events := .empty
  init := none
  exit := none

theorem accepted_placingMod : placingMod.Accepted := by
  have started : Declaration.start "m" "g" ["e"] = .ok { placingMod with vars := [] } := rfl
  have added : Declaration.addAll { placingMod with vars := [] } [
      .variable {
        name := "health"
        location := some ("e", ⟨0x99⟩)
        pointer := some ⟨8⟩
        kind := some .block
        size := some 16 },
      .variable { name := "gold" },
      .variable {
        name := "]\n\""
        location := some ("x\".dll", ⟨0x20⟩)
        kind := some .float }] = .ok placingMod := rfl
  exact accepted_of_addAll (.start started) added

theorem placed_variables_override_shadowing :
    placingMod.Accepted ∧ ∃ (updates : List TableUpdate) (tables : Json),
      TableUpdate.ofBlock? (Script.ofMod placingMod Game.stored knowingPatch).placedBlock = some updates ∧
      TableUpdate.run (Script.ofMod placingMod Game.stored knowingPatch).addresses updates = some tables ∧
      (∃ value, tables.known? "e" "variables" "health" = some value ∧
        VariableEntry.ofTree? (.ofJson value) = some ⟨⟨0x99⟩, .block, some ⟨8⟩, some 16⟩) ∧
      (∃ value, tables.known? "e" "variables" "gold" = some value ∧
        VariableEntry.ofTree? (.ofJson value) = some ⟨⟨0x1A⟩, .int32, none, none⟩) ∧
      ∃ value, tables.known? "x\".dll" "variables" "]\n\"" = some value ∧
        VariableEntry.ofTree? (.ofJson value) = some ⟨⟨0x20⟩, .float, none, none⟩ := by
  obtain ⟨-, -, updates, tables, -, -, -, read, ran, placed, others⟩ :=
    placed_variables_override accepted_placingMod Game.stored knowingPatch
  have unplaced : ∀ known ∈ placingMod.vars, known.name = "gold" → known.place = none := by decide
  have gold := others "e" "variables" "gold" fun _ known present named entry place => by
    rw [unplaced known present named] at place
    cases place
  refine ⟨accepted_placingMod, updates, tables, read, ran, ?_, ⟨_, gold, ?_⟩, ?_⟩
  · exact placed _ List.mem_cons_self _ _ rfl
  · exact VariableEntry.ofTree?_toJson ⟨⟨0x1A⟩, .int32, none, none⟩
  · exact placed _ (List.mem_cons_of_mem _ (List.mem_cons_of_mem _ List.mem_cons_self)) _ _ rfl

end Declaration

end ModScript
