import ModScript.Proofs.StepRuns

/-!
# Declarations of mod files

A mod file asks for the same steps as a program would, one for each entry. The file is read back from its
declaration here: nothing that an entry gives is lost, and no rule is left out because a file asks and not
a program.

Results:
1. `ModEntry.checked_cases`: an entry is half located, or it stands for its step.
2. `ModFile.foldl_adding_entries`: what the entries of a file lead to.
3. `ModFile.declares_entries`: when a file has a declaration, what it says, and which fault is told if there
   is none.
-/

namespace ModScript

/-! ## Entries -/

/-- Only one of a module and an address is given. -/
def HalfGiven (module : Option String) (address : Option Address) : Prop := module.isSome ≠ address.isSome

/-- The place that is meant if both are given. -/
def givenPlace (module : Option String) (address : Option Address) : Option (String × Address) :=
  module.bind fun module => address.map fun address => (module, address)

/-- What the entry of a variable asks for. -/
def VariableText.asked (text : VariableText) : VariableDraft where
  name := text.name
  location := givenPlace text.module text.address
  pointer := text.pointer
  kind := text.kind
  size := text.size

/-- What the entry of a hook asks for. -/
def HookText.asked (text : HookText) : HookDraft where
  name := text.name
  location := givenPlace text.module text.address
  params := text.params
  returns := text.returns
  enter := text.enter
  leave := text.leave
  replacement := text.replacement

/-- An entry of a mod file. -/
inductive ModEntry
  | variable (text : VariableText)
  | hook (text : HookText)
  | loop (text : LoopText)
  | nop (part : Nop)
  | receiver (name : String) (callback : Callback)
  | event (name : String)
  | init (callback : Callback)
  | exit (callback : Callback)

namespace ModEntry

variable {entry : ModEntry} {fault : DeclarationFault}

/-- The entry gives a module without an address, or an address without a module, and the fault says so. -/
inductive Half : ModEntry → DeclarationFault → Prop
  | variable {text : VariableText} : HalfGiven text.module text.address →
    Half (.variable text) (.halfLocatedVariable text.name)
  | hook {text : HookText} : HalfGiven text.module text.address →
    Half (.hook text) (.halfLocatedHook text.name)

/-- The step that the entry asks for. -/
def step : ModEntry → Declaration.Step
  | .variable text => .variable text.asked
  | .hook text => .hook text.asked
  | .loop text => .loop text.draft
  | .nop part => .nop part
  | .receiver name callback => .receive name callback
  | .event name => .on name .note
  | .init callback => .init callback
  | .exit callback => .exit callback

/-- Why an entry cannot be added to a declaration: it is half located, or its step is refused. -/
inductive Refused (d : Declaration) (entry : ModEntry) (fault : DeclarationFault) : Prop
  | half : entry.Half fault → Refused d entry fault
  | step : (∀ other, ¬entry.Half other) → d.add entry.step = .error fault → Refused d entry fault

/-- The step of the entry, or the fault that it is half located. -/
def checked : ModEntry → Except DeclarationFault Declaration.Step
  | .variable text => text.draft.map .variable
  | .hook text => text.draft.map .hook
  | entry => .ok entry.step

theorem location_cases (fault : DeclarationFault) (module : Option String) (address : Option Address) :
    (HalfGiven module address ∧ location fault module address = .error fault) ∨
      (¬HalfGiven module address ∧ location fault module address = .ok (givenPlace module address)) := by
  cases module with
  | none =>
    cases address with
    | none => exact .inr ⟨fun half => half rfl, rfl⟩
    | some address => exact .inl ⟨Bool.noConfusion, rfl⟩
  | some module =>
    cases address with
    | none => exact .inl ⟨Bool.noConfusion, rfl⟩
    | some address => exact .inr ⟨fun half => half rfl, rfl⟩

/-- An entry is half located, or it stands for its step. -/
theorem checked_cases (entry : ModEntry) :
    (∃ fault, entry.Half fault ∧ entry.checked = .error fault) ∨
      ((∀ fault, ¬entry.Half fault) ∧ entry.checked = .ok entry.step) := by
  cases entry with
  | «variable» text =>
    rcases location_cases (.halfLocatedVariable text.name) text.module text.address with
      ⟨half, refused⟩ | ⟨whole, found⟩
    · refine .inl ⟨_, .variable half, ?_⟩
      rw [checked, VariableText.draft, refused]
      rfl
    · refine .inr ⟨fun fault given => ?_, ?_⟩
      · cases given with
        | «variable» half => exact whole half
      · rw [checked, VariableText.draft, found]
        rfl
  | hook text =>
    rcases location_cases (.halfLocatedHook text.name) text.module text.address with
      ⟨half, refused⟩ | ⟨whole, found⟩
    · refine .inl ⟨_, .hook half, ?_⟩
      rw [checked, HookText.draft, refused]
      rfl
    · refine .inr ⟨fun fault given => ?_, ?_⟩
      · cases given with
        | hook half => exact whole half
      · rw [checked, HookText.draft, found]
        rfl
  | loop _ | nop _ | receiver _ _ | event _ | init _ | exit _ =>
    refine .inr ⟨fun fault given => ?_, rfl⟩
    cases given

theorem Half.fault_eq {other : DeclarationFault} (half : entry.Half fault) (half' : entry.Half other) :
    fault = other := by
  cases half <;> cases half' <;> rfl

theorem checked_eq_error_iff : entry.checked = .error fault ↔ entry.Half fault := by
  rcases entry.checked_cases with ⟨other, half, checked⟩ | ⟨whole, checked⟩
  · rw [checked]
    exact ⟨fun same => Except.error.inj same ▸ half, fun half' => congrArg _ (half.fault_eq half')⟩
  · rw [checked]
    constructor
    · rintro ⟨⟩
    · exact fun half => absurd half (whole fault)

theorem checked_eq_ok_iff {step : Declaration.Step} :
    entry.checked = .ok step ↔ (∀ other, ¬entry.Half other) ∧ step = entry.step := by
  rcases entry.checked_cases with ⟨other, half, checked⟩ | ⟨whole, checked⟩
  · rw [checked]
    constructor
    · rintro ⟨⟩
    · exact fun ⟨whole, _⟩ => absurd half (whole other)
  · rw [checked]
    exact ⟨fun same => ⟨whole, (Except.ok.inj same).symm⟩, fun ⟨_, same⟩ => congrArg _ same.symm⟩

end ModEntry

/-! ## Adding entries -/

namespace Declaration

variable {d d' : Declaration} {entry : ModEntry} {entries : List ModEntry} {fault : DeclarationFault}

/-- The declaration with the step of one more entry. -/
def addEntry (d : Declaration) (entry : ModEntry) : Except DeclarationFault Declaration :=
  entry.checked >>= d.add

theorem addEntry_eq_ok_iff :
    d.addEntry entry = .ok d' ↔ (∀ other, ¬entry.Half other) ∧ d.add entry.step = .ok d' := by
  rw [addEntry, bind_eq_ok_iff]
  constructor
  · rintro ⟨step, checked, added⟩
    obtain ⟨whole, rfl⟩ := ModEntry.checked_eq_ok_iff.1 checked
    exact ⟨whole, added⟩
  · rintro ⟨whole, added⟩
    exact ⟨entry.step, ModEntry.checked_eq_ok_iff.2 ⟨whole, rfl⟩, added⟩

theorem addEntry_eq_error_iff : d.addEntry entry = .error fault ↔ entry.Refused d fault := by
  rw [addEntry, bind_eq_error_iff, ModEntry.checked_eq_error_iff]
  constructor
  · rintro (half | ⟨step, checked, refused⟩)
    · exact .half half
    · obtain ⟨whole, rfl⟩ := ModEntry.checked_eq_ok_iff.1 checked
      exact .step whole refused
  · rintro (half | ⟨whole, refused⟩)
    · exact .inl half
    · exact .inr ⟨entry.step, ModEntry.checked_eq_ok_iff.2 ⟨whole, rfl⟩, refused⟩

theorem addEntries_eq_ok_iff : entries.foldlM addEntry d = .ok d' ↔
    (∀ entry ∈ entries, ∀ other, ¬entry.Half other) ∧ d.addAll (entries.map ModEntry.step) = .ok d' := by
  induction entries generalizing d with
  | nil => exact ⟨fun same => ⟨fun _ present => absurd present List.not_mem_nil, same⟩, fun found => found.2⟩
  | cons entry rest ih =>
    rw [List.foldlM_cons, bind_eq_ok_iff, List.forall_mem_cons, List.map_cons, addAll, List.foldlM_cons,
      bind_eq_ok_iff]
    constructor
    · rintro ⟨next, added, later⟩
      obtain ⟨whole, added⟩ := addEntry_eq_ok_iff.1 added
      obtain ⟨wholeLater, later⟩ := ih.1 later
      exact ⟨⟨whole, wholeLater⟩, next, added, later⟩
    · rintro ⟨⟨whole, wholeLater⟩, next, added, later⟩
      exact ⟨next, addEntry_eq_ok_iff.2 ⟨whole, added⟩, ih.2 ⟨wholeLater, later⟩⟩

end Declaration

/-! ## Files -/

namespace ModFile

variable {file : ModFile} {d : Declaration} {fault : DeclarationFault}

/-- The entries of a mod file in the order in which they are looked at. -/
def entries (file : ModFile) : List ModEntry :=
  file.vars.map .variable ++ file.hooks.map .hook ++ file.loops.map .loop ++ file.nops.map .nop ++
    file.receivers.map (fun entry => .receiver entry.1 entry.2) ++ file.events.map .event ++
    file.init.toList.map .init ++ file.exit.toList.map .exit

/-- What the file asks for. Of the callbacks for one name the last is meant, in the place of the first. -/
def asked (file : ModFile) : DeclarationDraft where
  name := file.name
  game := file.game
  modules := file.modules
  vars := file.vars.map VariableText.asked
  hooks := file.hooks.map HookText.asked
  loops := file.loops.map LoopText.draft
  nops := file.nops
  receivers := .ofList file.receivers
  events := .ofList (file.events.map fun event => (event, .note))
  init := file.init
  exit := file.exit

/-- No variable and no hook has only one of a module and an address. -/
structure Whole (file : ModFile) : Prop where
  vars : ∀ text ∈ file.vars, ¬HalfGiven text.module text.address
  hooks : ∀ text ∈ file.hooks, ¬HalfGiven text.module text.address

/-- What the file asks for keeps the rules, and no callback that is replaced later breaks one. -/
structure KeepsRules (file : ModFile) : Prop where
  asked : file.asked.WellFormed
  receivers : ∀ entry ∈ file.receivers, entry.2.CanAct

/-- The first fault of a file: its name, its game and its modules come first, then its entries. -/
inductive FirstFault (file : ModFile) : DeclarationFault → Prop
  | start {fault : DeclarationFault} :
    Declaration.StartFault file.name file.game file.modules fault → FirstFault file fault
  | entry {fault : DeclarationFault} {start d : Declaration} {before behind : List ModEntry}
    {entry : ModEntry} : file.entries = before ++ entry :: behind →
    Declaration.start file.name file.game file.modules = .ok start →
    (∀ passed ∈ before, ∀ other, ¬passed.Half other) → start.addAll (before.map ModEntry.step) = .ok d →
    entry.Refused d fault → FirstFault file fault

theorem steps_eq (file : ModFile) : file.steps = file.entries.map ModEntry.checked := by
  simp only [steps, entries, List.map_append, List.map_map]
  rfl

theorem declaration_eq (file : ModFile) : file.declaration =
    Declaration.start file.name file.game file.modules >>= file.entries.foldlM Declaration.addEntry := by
  rw [declaration, steps_eq]
  simp only [List.foldlM_map]
  rfl

theorem forall_mem_entries {P : ModEntry → Prop} : (∀ entry ∈ file.entries, P entry) ↔
    (∀ text ∈ file.vars, P (.variable text)) ∧ (∀ text ∈ file.hooks, P (.hook text)) ∧
    (∀ text ∈ file.loops, P (.loop text)) ∧ (∀ part ∈ file.nops, P (.nop part)) ∧
    (∀ entry ∈ file.receivers, P (.receiver entry.1 entry.2)) ∧
    (∀ event ∈ file.events, P (.event event)) ∧
    (∀ callback, file.init = some callback → P (.init callback)) ∧
    ∀ callback, file.exit = some callback → P (.exit callback) := by
  simp only [entries, List.forall_mem_append, List.forall_mem_map, Option.mem_toList, and_assoc]

theorem whole_iff : (∀ entry ∈ file.entries, ∀ other, ¬entry.Half other) ↔ file.Whole := by
  rw [forall_mem_entries]
  constructor
  · rintro ⟨vars, hooks, -⟩
    exact ⟨fun text present half => vars text present _ (.variable half),
      fun text present half => hooks text present _ (.hook half)⟩
  · intro whole
    refine ⟨?_, ?_, ?_, ?_, ?_, ?_, ?_, ?_⟩
    · intro text present other given
      cases given with
      | «variable» half => exact whole.vars text present half
    · intro text present other given
      cases given with
      | hook half => exact whole.hooks text present half
    all_goals rintro _ _ _ ⟨⟩

/-- Entries of one kind make one field grow. -/
theorem foldl_adding_map {α : Type} (entry : α → ModEntry)
    (grown : DeclarationDraft → List α → DeclarationDraft) (none : ∀ d, grown d [] = d)
    (next : ∀ d item rest, grown (d.adding (entry item).step) rest = grown d (item :: rest)) (items : List α)
    (d : DeclarationDraft) :
    ((items.map entry).map ModEntry.step).foldl DeclarationDraft.adding d = grown d items := by
  induction items generalizing d with
  | nil => exact (none d).symm
  | cons item rest ih => rw [List.map_cons, List.map_cons, List.foldl_cons, ih, next]

/-- The entries of a file lead to what the file asks for. -/
theorem foldl_adding_entries (file : ModFile) :
    (file.entries.map ModEntry.step).foldl DeclarationDraft.adding (.new file.name file.game file.modules) =
      file.asked := by
  have vars := foldl_adding_map .variable
    (fun d texts => { d with vars := d.vars ++ texts.map VariableText.asked }) (fun d => by simp)
    (fun d text rest => by simp [ModEntry.step, DeclarationDraft.adding]) file.vars
  have hooks := foldl_adding_map .hook
    (fun d texts => { d with hooks := d.hooks ++ texts.map HookText.asked }) (fun d => by simp)
    (fun d text rest => by simp [ModEntry.step, DeclarationDraft.adding]) file.hooks
  have loops := foldl_adding_map .loop
    (fun d texts => { d with loops := d.loops ++ texts.map LoopText.draft }) (fun d => by simp)
    (fun d text rest => by simp [ModEntry.step, DeclarationDraft.adding]) file.loops
  have nops := foldl_adding_map .nop (fun d parts => { d with nops := d.nops ++ parts }) (fun d => by simp)
    (fun d part rest => by simp [ModEntry.step, DeclarationDraft.adding]) file.nops
  have receivers := foldl_adding_map (fun entry => .receiver entry.1 entry.2)
    (fun d entries => { d with receivers := d.receivers.insertAll entries }) (fun _ => rfl)
    (fun _ _ _ => rfl) file.receivers
  have events := foldl_adding_map .event
    (fun d events => { d with events := d.events.insertAll (events.map fun event => (event, .note)) })
    (fun _ => rfl) (fun _ _ _ => rfl) file.events
  have init (d : DeclarationDraft) : ((file.init.toList.map .init).map ModEntry.step).foldl
      DeclarationDraft.adding d = { d with init := file.init.or d.init } := by
    cases file.init <;> rfl
  have exit (d : DeclarationDraft) : ((file.exit.toList.map .exit).map ModEntry.step).foldl
      DeclarationDraft.adding d = { d with exit := file.exit.or d.exit } := by
    cases file.exit <;> rfl
  simp only [entries, List.map_append, List.foldl_append, vars, hooks, loops, nops, receivers, events, init,
    exit]
  simp [asked, DeclarationDraft.new, OrderedMap.ofList]

/-- The steps of a file are accepted if it keeps the rules. -/
theorem keepsRules_iff : file.KeepsRules ↔
    ∃ start, Declaration.start file.name file.game file.modules = .ok start ∧
      ∃ d, start.addAll (file.entries.map ModEntry.step) = .ok d := by
  rw [Declaration.exists_built_iff, foldl_adding_entries, List.forall_mem_map, forall_mem_entries]
  constructor
  · rintro ⟨asked, receivers⟩
    have plain {α : Type} (items : List α) : ∀ item ∈ items, True := fun _ _ => trivial
    exact ⟨⟨plain _, plain _, plain _, plain _, receivers, plain _, asked.init, asked.exit⟩, asked⟩
  · rintro ⟨⟨-, -, -, -, receivers, -⟩, asked⟩
    exact ⟨asked, receivers⟩

theorem declaration_eq_ok_iff : file.declaration = .ok d ↔ file.Whole ∧
    ∃ start, Declaration.start file.name file.game file.modules = .ok start ∧
      start.addAll (file.entries.map ModEntry.step) = .ok d := by
  rw [declaration_eq, bind_eq_ok_iff]
  simp only [Declaration.addEntries_eq_ok_iff, whole_iff]
  exact ⟨fun ⟨start, started, whole, added⟩ => ⟨whole, start, started, added⟩,
    fun ⟨whole, start, started, added⟩ => ⟨start, started, whole, added⟩⟩

theorem draft_of_declaration (declared : file.declaration = .ok d) : d.draft = file.asked := by
  obtain ⟨-, start, started, added⟩ := declaration_eq_ok_iff.1 declared
  rw [Declaration.draft_of_built started added, foldl_adding_entries]

/-- A file has a declaration if it is whole and keeps the rules. -/
theorem exists_declaration_iff : (∃ d, file.declaration = .ok d) ↔ file.Whole ∧ file.KeepsRules := by
  rw [keepsRules_iff]
  constructor
  · rintro ⟨d, declared⟩
    obtain ⟨whole, start, started, added⟩ := declaration_eq_ok_iff.1 declared
    exact ⟨whole, start, started, d, added⟩
  · rintro ⟨whole, start, started, d, added⟩
    exact ⟨d, declaration_eq_ok_iff.2 ⟨whole, start, started, added⟩⟩

theorem declaration_eq_error_iff : file.declaration = .error fault ↔ file.FirstFault fault := by
  rw [declaration_eq, bind_eq_error_iff, Declaration.start_eq_error_iff]
  constructor
  · rintro (refused | ⟨start, started, failed⟩)
    · exact .start refused
    · obtain ⟨before, entry, behind, d, split, passed, refused⟩ := foldlM_eq_error_iff.1 failed
      obtain ⟨whole, added⟩ := Declaration.addEntries_eq_ok_iff.1 passed
      exact .entry split started whole added (Declaration.addEntry_eq_error_iff.1 refused)
  · rintro (refused | ⟨split, started, whole, added, refused⟩)
    · exact .inl refused
    · have passed := Declaration.addEntries_eq_ok_iff.2 ⟨whole, added⟩
      have failed := Declaration.addEntry_eq_error_iff.2 refused
      exact .inr ⟨_, started, foldlM_eq_error_iff.2 ⟨_, _, _, _, split, passed, failed⟩⟩

end ModFile

/-- The declaration says what the file says. Variables, hooks, loops and nops are those of the file, in its
order and with all that is given. A receiver or an event stands where its name comes first, and a receiver
has the last callback of its name. -/
structure Declaration.Means (d : Declaration) (file : ModFile) : Prop where
  name : d.name = file.name
  game : d.game = file.game
  modules : d.modules = file.modules
  vars : d.vars.map Variable.draft = file.vars.map VariableText.asked
  hooks : d.hooks.map Hook.draft = file.hooks.map HookText.asked
  loops : d.loops.map Loop.draft = file.loops.map LoopText.draft
  intervals : d.loops.map (fun loop => loop.interval.milliseconds) =
    file.loops.map fun text => text.milliseconds.toNat
  nops : d.nops = file.nops
  receiverNames : d.receivers.keys = (file.receivers.map Prod.fst).eraseDups
  receivers : ∀ name callback, d.receivers.get? name = some callback ↔
    ∃ before behind, file.receivers = before ++ (name, callback) :: behind ∧ name ∉ behind.map Prod.fst
  eventNames : d.events.keys = file.events.eraseDups
  events : ∀ name ∈ file.events, d.events.get? name = some .note
  init : d.init = file.init
  exit : d.exit = file.exit

theorem Declaration.means_of_draft {d : Declaration} {file : ModFile} (same : d.draft = file.asked) :
    d.Means file := by
  have receivers : d.receivers = .ofList file.receivers := congrArg DeclarationDraft.receivers same
  have events : d.events = .ofList (file.events.map fun event => (event, .note)) :=
    congrArg DeclarationDraft.events same
  have loops : d.loops.map Loop.draft = file.loops.map LoopText.draft := congrArg DeclarationDraft.loops same
  have eventNames : d.events.keys = file.events.eraseDups := by
    rw [events, OrderedMap.keys_ofList, List.map_map]
    exact congrArg List.eraseDups (List.map_id file.events)
  refine {
    name := congrArg DeclarationDraft.name same
    game := congrArg DeclarationDraft.game same
    modules := congrArg DeclarationDraft.modules same
    vars := congrArg DeclarationDraft.vars same
    hooks := congrArg DeclarationDraft.hooks same
    loops
    intervals := ?_
    nops := congrArg DeclarationDraft.nops same
    receiverNames := by rw [receivers, OrderedMap.keys_ofList]
    receivers := fun name callback => by rw [receivers, OrderedMap.get?_ofList_eq_some_iff]
    eventNames
    events := fun name present => ?_
    init := congrArg DeclarationDraft.init same
    exit := congrArg DeclarationDraft.exit same }
  · have intervals := congrArg (List.map fun draft : LoopDraft => draft.interval.milliseconds) loops
    simpa [Function.comp_def, Loop.draft, LoopText.draft] using intervals
  · have known : name ∈ d.events.keys := eventNames ▸ List.mem_eraseDups.2 present
    obtain ⟨handler, found⟩ := OrderedMap.mem_keys_iff.1 known
    have noted : (name, handler) ∈ file.events.map fun event => (event, EventHandler.note) :=
      OrderedMap.mem_of_get?_ofList (events ▸ found)
    obtain ⟨event, -, same⟩ := List.mem_map.1 noted
    cases same
    exact found

/-- A mod file has a declaration if it is whole and the steps of its entries are accepted, which is so if
what it asks for keeps the rules. The declaration then says what the file says. Else the first fault is
told. -/
theorem ModFile.declares_entries (file : ModFile) :
    (∀ d, file.declaration = .ok d ↔ file.Whole ∧
      ∃ start, Declaration.start file.name file.game file.modules = .ok start ∧
        start.addAll (file.entries.map ModEntry.step) = .ok d) ∧
    ((∃ d, file.declaration = .ok d) ↔ file.Whole ∧ file.KeepsRules) ∧
    (∀ d, file.declaration = .ok d → d.Means file) ∧
    ∀ fault, file.declaration = .error fault ↔ file.FirstFault fault :=
  ⟨fun _ => declaration_eq_ok_iff, exists_declaration_iff,
    fun _ declared => Declaration.means_of_draft (draft_of_declaration declared),
    fun _ => declaration_eq_error_iff⟩

/-- A receiver that is declared again keeps its place. A variable with a module alone is told, although the
loop behind it has no name either. -/
theorem ModFile.declares_entries_repeated :
    let file : ModFile :=
      { name := "speed", game := "game", modules := ["game.exe"], init := none, exit := some (.emit "bye"),
        vars := [⟨"health", some "game.exe", some ⟨16⟩, none, some .int32, none⟩],
        hooks := [⟨"jump", none, none, some [.int32], none, some .noop, none, none⟩],
        loops := [⟨"tick", 5, some .noop⟩], nops := [⟨"game.exe", ⟨32⟩, 2⟩],
        receivers := [("jump", .noop), ("run", .noop), ("jump", .emit "jumped")], events := ["bye", "bye"] }
    (∃ d, file.declaration = .ok d ∧ d.Means file ∧ d.receivers.keys = ["jump", "run"]) ∧
    ModFile.FirstFault
      { file with
        vars := [⟨"health", some "game.exe", none, none, none, none⟩]
        loops := [⟨"", 5, some .noop⟩] } (.halfLocatedVariable "health") := by
  have said (file : ModFile) (found : file.declaration.isOk = true) :
      ∃ d, file.declaration = .ok d ∧ d.Means file ∧
        d.receivers.keys = (file.receivers.map Prod.fst).eraseDups := by
    cases declared : file.declaration with
    | error fault =>
      rw [declared] at found
      cases found
    | ok d =>
      have means : d.Means file := (declares_entries file).2.2.1 d declared
      exact ⟨d, rfl, means, means.receiverNames⟩
  exact ⟨said _ rfl, ((declares_entries _).2.2.2 _).1 rfl⟩

end ModScript
