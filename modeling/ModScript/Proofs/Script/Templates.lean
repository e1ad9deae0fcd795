import ModScript.Proofs.Script.Data
import ModScript.Script.Text

/-!
# Templates of scripts

The lines that a script is put together from keep its structure, whatever is put into them. Own text of a
template is read as it stands; names, data and the expressions of callbacks are read wherever code may
stand and leave the lexer where it was. A template has as many lines as it likes, but between two lines it
is in code.

Results:
1. `keeps_expression`: the function of a callback.
2. `keepsLines_registration`, `keepsLines_hookStep`, `keepsLines_loop`, `keepsLines_nopStep`,
   `keepsLines_receiver`, `keepsLines_init`: the lines inside the functions of a script.
-/

namespace ModScript

variable {sources : List String} {lexer lexer' lexer'' : Lexer}

/-- The lexer gets from one place to another over the text. -/
def Passes (sources : List String) (lexer : Lexer) (text : String) (lexer' : Lexer) : Prop :=
  Reads sources lexer text.toList lexer'

/-- In code, the text leaves the lexer where it was. -/
def Keeps (sources : List String) (text : String) : Prop :=
  ∀ awaited, Passes sources ⟨.code, awaited⟩ text ⟨.code, awaited⟩

/-- The lexer gets from one place to another over the lines, and is in code between them. -/
inductive PassesLines (sources : List String) : Lexer → List String → Lexer → Prop
  | nil (awaited : List Bracket) : PassesLines sources ⟨.code, awaited⟩ [] ⟨.code, awaited⟩
  | cons {lexer lexer' : Lexer} {awaited : List Bracket} {line : String} {rest : List String} :
    Passes sources lexer line ⟨.code, awaited⟩ → PassesLines sources ⟨.code, awaited⟩ rest lexer' →
    PassesLines sources lexer (line :: rest) lexer'

/-- In code, the lines leave the lexer where it was. -/
def KeepsLines (sources : List String) (lines : List String) : Prop :=
  ∀ awaited, PassesLines sources ⟨.code, awaited⟩ lines ⟨.code, awaited⟩

/-! ## Texts and lines one after another -/

/-- Text that is known is read as it stands. -/
theorem passes_own {chars : List Char} (reads : lexer.read chars = some lexer') :
    Passes sources lexer (String.ofList chars) lexer' := by
  rw [Passes, String.toList_ofList]
  exact .of_read reads

theorem Passes.append {text text' : String} (passes : Passes sources lexer text lexer')
    (passes' : Passes sources lexer' text' lexer'') :
    Passes sources lexer (text ++ text') lexer'' := by
  rw [Passes, String.toList_append]
  exact Reads.append passes passes'

/-- Something that keeps the lexer is put behind a text. -/
theorem Passes.put {text text' : String} {awaited : List Bracket}
    (passes : Passes sources lexer text ⟨.code, awaited⟩) (keeps : Keeps sources text') :
    Passes sources lexer (text ++ text') ⟨.code, awaited⟩ := passes.append (keeps awaited)

/-- Own text stands behind a text. -/
theorem Passes.own {text : String} {chars : List Char} (passes : Passes sources lexer text lexer')
    (reads : lexer'.read chars = some lexer'') :
    Passes sources lexer (text ++ String.ofList chars) lexer'' := passes.append (passes_own reads)

theorem Calm.keeps {text : String} (calm : Calm text.toList) : Keeps sources text :=
  fun awaited => .of_read (calm awaited).1

theorem Keeps.append {text text' : String} (keeps : Keeps sources text) (keeps' : Keeps sources text') :
    Keeps sources (text ++ text') := fun awaited => (keeps awaited).append (keeps' awaited)

theorem keeps_empty : Keeps sources "" := fun _ => passes_own rfl

theorem keeps_source {text : String} (known : text ∈ sources) : Keeps sources text := fun awaited => by
  have reads : Reads sources ⟨.code, awaited⟩ (text.toList ++ []) ⟨.code, awaited⟩ :=
    .source known (.nil _)
  rwa [List.append_nil] at reads

theorem keeps_intercalate {separator : String} (keeps : Keeps sources separator) {texts : List String}
    (each : ∀ text ∈ texts, Keeps sources text) : Keeps sources (separator.intercalate texts) := by
  induction texts with
  | nil => exact keeps_empty
  | cons text rest ih =>
    obtain ⟨first, others⟩ := List.forall_mem_cons.1 each
    cases rest with
    | nil => simpa using first
    | cons other rest =>
      rw [String.intercalate_cons_cons]
      exact (first.append keeps).append (ih others)

theorem PassesLines.append {lines lines' : List String} (passes : PassesLines sources lexer lines lexer')
    (passes' : PassesLines sources lexer' lines' lexer'') :
    PassesLines sources lexer (lines ++ lines') lexer'' := by
  induction passes with
  | nil => exact passes'
  | cons first _ ih => exact .cons first (ih passes')

theorem KeepsLines.append {lines lines' : List String} (keeps : KeepsLines sources lines)
    (keeps' : KeepsLines sources lines') : KeepsLines sources (lines ++ lines') :=
  fun awaited => (keeps awaited).append (keeps' awaited)

theorem keepsLines_nil : KeepsLines sources [] := .nil

theorem keepsLines_flatMap {α : Type} {write : α → List String} {items : List α}
    (each : ∀ item ∈ items, KeepsLines sources (write item)) :
    KeepsLines sources (items.flatMap write) := by
  induction items with
  | nil => exact keepsLines_nil
  | cons item rest ih =>
    obtain ⟨first, others⟩ := List.forall_mem_cons.1 each
    exact first.append (ih others)

/-- Lines are read as one text. -/
theorem PassesLines.join {lines : List String} (passes : PassesLines sources lexer lines lexer') :
    Passes sources lexer (joinLines lines) lexer' := by
  induction passes with
  | nil awaited => exact keeps_empty awaited
  | @cons lexer lexer' awaited line rest first others ih =>
    cases rest with
    | nil =>
      cases others
      simpa [joinLines] using first
    | cons other rest =>
      rw [joinLines, String.intercalate_cons_cons]
      exact (first.append (passes_own rfl)).append ih

/-- Lines between two others are kept with the line breaks around them. -/
theorem exists_inner (header tail : String) {lines : List String} (keeps : KeepsLines sources lines) :
    ∃ inner, Keeps sources inner ∧ joinLines (header :: lines ++ [tail]) = header ++ (inner ++ tail) := by
  by_cases none : lines = []
  · refine ⟨"\n", fun _ => passes_own rfl, ?_⟩
    simp [none, joinLines, String.append_assoc]
  · refine ⟨"\n" ++ (joinLines lines ++ "\n"), fun _ => (passes_own rfl).append ((keeps _).join.own rfl), ?_⟩
    rw [List.cons_append, joinLines, String.intercalate_cons_of_ne_nil (by simp),
      String.intercalate_append_of_ne_nil none (by simp), String.intercalate_singleton]
    simp [joinLines, String.append_assoc]

/-! ## Expressions -/

theorem keeps_quote (s : String) : Keeps sources (Json.quote s) := (calm_quote s).keeps

theorem keeps_compact (value : Json) : Keeps sources value.compact := (calm_compact value).keeps

theorem keeps_address (address : Address) : Keeps sources address.text := (calm_address address).keeps

theorem keeps_toString (n : Nat) : Keeps sources (toString n) := (calm_toString n).keeps

/-- The name of a native type, inside a literal. -/
theorem passes_typeName (type : NativeType) (awaited : List Bracket) :
    Passes sources ⟨.literal .single, awaited⟩ type.name ⟨.literal .single, awaited⟩ := by
  cases type <;> (simp only [NativeType.name]; exact passes_own rfl)

/-- A script that is called back is one of the sources, without the blanks at its ends. -/
def Callback.Within (sources : List String) (callback : Callback) : Prop :=
  ∀ source, callback = .script source → Text.trim source ∈ sources

theorem keeps_expression {callback : Callback} (within : callback.Within sources) :
    Keeps sources callback.expression := by
  intro awaited
  cases callback with
  | script source => exact keeps_source (within source rfl) awaited
  | noop => exact passes_own rfl
  | log level message =>
    have helper : Keeps sources level.helper := by
      cases level <;> exact (calm_plain (by decide)).keeps
    exact passes_own rfl |>.put helper |>.own rfl |>.put (keeps_quote _) |>.own rfl
  | emit event => exact passes_own rfl |>.put (keeps_quote _) |>.own rfl
  | writeVariable name value =>
    exact passes_own rfl |>.put (keeps_quote _) |>.own rfl |>.put (keeps_compact _) |>.own rfl
  | returnValue value => exact passes_own rfl |>.put (keeps_compact _) |>.own rfl

theorem keeps_presented (type : NativeType) {raw : String} (keeps : Keeps sources raw) :
    Keeps sources (type.presented raw) := by
  intro awaited
  unfold NativeType.presented
  split
  · exact (keeps _).own rfl
  · exact (keeps _).own rfl
  · exact passes_own rfl |>.put keeps |>.own rfl
  · exact passes_own rfl |>.put keeps |>.own rfl
  · exact keeps _

theorem keeps_moreArguments {expressions : List String}
    (each : ∀ expression ∈ expressions, Keeps sources expression) :
    Keeps sources (moreArguments expressions) := by
  refine keeps_intercalate keeps_empty fun text present => ?_
  obtain ⟨expression, known, rfl⟩ := List.mem_map.1 present
  exact fun _ => passes_own rfl |>.put (each expression known)

/-! ## Lines inside functions -/

theorem keepsLines_report (text : String) : KeepsLines sources [reportLine text] := fun _ =>
  .cons (passes_own rfl |>.put (keeps_quote _) |>.own rfl) (.nil _)

theorem keepsLines_registration (registration : Registration) :
    KeepsLines sources registration.lines := fun _ =>
  .cons (passes_own rfl) <|
  .cons (passes_own rfl |>.put (keeps_quote _) |>.own rfl |>.put (keeps_quote _) |>.own rfl
    |>.put (keeps_quote _) |>.own rfl |>.put (keeps_quote _) |>.own rfl |>.put (keeps_compact _)
    |>.own rfl) <|
  .cons (passes_own rfl |>.put (keeps_quote _) |>.own rfl) <|
  .nil _

/-! ### Hooks -/

theorem keepsLines_replace (hook : String) (target : HookTarget) {callback : Callback}
    (within : callback.Within sources) : KeepsLines sources (replaceLines hook target callback) := by
  have names : ∀ name ∈ target.positions.map fun i => "arg" ++ toString i, Keeps sources name := by
    intro name present
    obtain ⟨i, -, rfl⟩ := List.mem_map.1 present
    exact fun _ => passes_own rfl |>.put (keeps_toString i)
  have types : ∀ type ∈ target.params.map fun type => "'" ++ type.name ++ "'", Keeps sources type := by
    intro text present
    obtain ⟨type, -, rfl⟩ := List.mem_map.1 present
    exact fun _ => passes_own rfl |>.append (passes_typeName type _) |>.own rfl
  have fallback : Keeps sources (if target.returns.isVoid then "undefined" else "ptr(0x0)") := by
    split <;> exact fun _ => passes_own rfl
  have comma : Keeps sources ", " := fun _ => passes_own rfl
  exact fun _ =>
    .cons (passes_own rfl) <|
    .cons (passes_own rfl |>.put (keeps_quote _) |>.own rfl |>.put (keeps_address _) |>.own rfl) <|
    .cons (passes_own rfl) <|
    .cons (passes_own rfl |>.put (keeps_intercalate comma names) |>.own rfl) <|
    .cons (passes_own rfl) <|
    .cons (passes_own rfl |>.put (keeps_expression within) |>.own rfl |>.put (keeps_moreArguments names)
      |>.own rfl) <|
    .cons (passes_own rfl |>.put (keeps_quote _) |>.own rfl |>.put fallback |>.own rfl) <|
    .cons (passes_own rfl) <|
    .cons (passes_own rfl |>.append (passes_typeName _ _) |>.own rfl
      |>.put (keeps_intercalate comma types) |>.own rfl) <|
    .cons (passes_own rfl) <|
    .cons (passes_own rfl) <|
    .cons (passes_own rfl |>.put (keeps_quote _) |>.own rfl) <|
    .nil _

theorem keeps_presentedArguments (target : HookTarget) :
    ∀ expression ∈ target.presentedArguments, Keeps sources expression := by
  intro expression present
  obtain ⟨i, _, rfl⟩ := List.mem_mapIdx.1 present
  exact keeps_presented _ fun _ => passes_own rfl |>.put (keeps_toString i) |>.own rfl

theorem keeps_presentedReturn (target : HookTarget) : Keeps sources target.presentedReturn := by
  unfold HookTarget.presentedReturn
  split
  · exact fun _ => passes_own rfl
  · exact keeps_presented _ fun _ => passes_own rfl

theorem keepsLines_enter (hook : String) (target : HookTarget) {enter : Option Callback} (keep : Bool)
    (within : ∀ callback, enter = some callback → callback.Within sources) :
    KeepsLines sources (enterLines hook target enter keep) := by
  have presented : ∀ expression ∈ target.presentedArguments, Keeps sources expression :=
    keeps_presentedArguments target
  have comma : Keeps sources ", " := fun _ => passes_own rfl
  have kept : KeepsLines sources
      (if keep then ["                this.__args = [" ++ ", ".intercalate target.presentedArguments ++ "];"]
        else []) := by
    split
    · exact fun _ => .cons (passes_own rfl |>.put (keeps_intercalate comma presented) |>.own rfl) (.nil _)
    · exact keepsLines_nil
  unfold enterLines
  dsimp only
  split
  · intro awaited
    -- Inside the function one more bracket is open.
    let inside := Bracket.curly :: awaited
    refine .append (.append (.cons (passes_own rfl) (kept inside))
      (?_ : PassesLines sources ⟨.code, inside⟩ _ ⟨.code, inside⟩)) (.cons (passes_own rfl) (.nil _))
    cases enter with
    | none => exact .nil inside
    | some callback =>
      exact .cons (passes_own rfl) <|
        .cons (passes_own rfl |>.put (keeps_expression (within callback rfl)) |>.own rfl
          |>.put (keeps_moreArguments presented) |>.own rfl) <|
        .cons (passes_own rfl |>.put (keeps_quote _) |>.own rfl) <|
        .nil _
  · exact keepsLines_nil

theorem keepsLines_leave (hook : String) (target : HookTarget) {leave : Option Callback}
    (within : ∀ callback, leave = some callback → callback.Within sources) :
    KeepsLines sources (leaveLines hook target leave) := by
  cases leave with
  | none => exact keepsLines_nil
  | some callback =>
    have kept : ∀ expression ∈ target.positions.map fun i => "this.__args[" ++ toString i ++ "]",
        Keeps sources expression := by
      intro expression present
      obtain ⟨i, -, rfl⟩ := List.mem_map.1 present
      exact fun _ => passes_own rfl |>.put (keeps_toString i) |>.own rfl
    have replaced : KeepsLines sources (if target.returns.isVoid then []
        else ["                    if (_r !== undefined) retval.replace(ptr(_r));"]) := by
      split
      · exact keepsLines_nil
      · exact fun _ => .cons (passes_own rfl) (.nil _)
    intro awaited
    -- Inside the function and its `try`.
    refine .append (.append ?_ (replaced (.curly :: .curly :: awaited))) ?_
    · exact .cons (passes_own rfl) <|
        .cons (passes_own rfl) <|
        .cons (passes_own rfl |>.put (keeps_expression (within callback rfl)) |>.own rfl
          |>.put (keeps_presentedReturn target) |>.put (keeps_moreArguments kept) |>.own rfl) <|
        .nil _
    · exact .cons (passes_own rfl |>.put (keeps_quote _) |>.own rfl) <|
        .cons (passes_own rfl) <|
        .nil _

theorem keepsLines_observe (hook : String) (target : HookTarget) {enter leave : Option Callback}
    (enterWithin : ∀ callback, enter = some callback → callback.Within sources)
    (leaveWithin : ∀ callback, leave = some callback → callback.Within sources) :
    KeepsLines sources (observeLines hook target enter leave) := by
  intro awaited
  -- Inside the `try`, the call and the object that is handed over.
  let inside := Bracket.curly :: .round :: .curly :: awaited
  refine .append (.append (.append ?_ (keepsLines_enter hook target _ enterWithin inside))
    (keepsLines_leave hook target leaveWithin inside)) ?_
  · exact .cons (passes_own rfl) <|
      .cons (passes_own rfl |>.put (keeps_quote _) |>.own rfl |>.put (keeps_address _) |>.own rfl) <|
      .cons (passes_own rfl) <|
      .nil _
  · exact .cons (passes_own rfl) <|
      .cons (passes_own rfl) <|
      .cons (passes_own rfl |>.put (keeps_quote _) |>.own rfl) <|
      .nil _

/-- The callbacks of a step. -/
def HookStep.callbacks : HookStep → List Callback
  | .notFound _ | .foreign _ _ => []
  | .install _ _ action => action.callbacks

theorem keepsLines_hookStep {step : HookStep}
    (within : ∀ callback ∈ step.callbacks, callback.Within sources) : KeepsLines sources step.lines := by
  cases step with
  | notFound hook => exact keepsLines_report _
  | foreign hook module => exact keepsLines_report _
  | install hook target action =>
    cases action with
    | replace callback =>
      have present : callback ∈ (HookStep.install hook target (.replace callback)).callbacks := by
        simp [HookStep.callbacks, HookAction.callbacks]
      exact keepsLines_replace hook target (within callback present)
    | observe enter leave =>
      refine keepsLines_observe hook target ?_ ?_
      · rintro callback rfl
        exact within callback (by simp [HookStep.callbacks, HookAction.callbacks])
      · rintro callback rfl
        exact within callback (by simp [HookStep.callbacks, HookAction.callbacks])

/-! ### Loops, nops, receivers and the callback at the beginning -/

theorem keepsLines_loop {loop : Loop} (identifier : isIdentifier loop.name = true)
    (within : loop.handler.Within sources) : KeepsLines sources loop.lines := by
  have name : Keeps sources loop.functionName :=
    fun _ => passes_own rfl |>.put (calm_identifier identifier).keeps
  exact fun _ =>
    .cons (passes_own rfl) <|
    .cons (passes_own rfl) <|
    .cons (passes_own rfl) <|
    .cons (passes_own rfl |>.put name |>.own rfl) <|
    .cons (passes_own rfl) <|
    .cons (passes_own rfl) <|
    .cons (passes_own rfl) <|
    .cons (passes_own rfl |>.put (keeps_expression within) |>.own rfl) <|
    .cons (passes_own rfl) <|
    .cons (passes_own rfl |>.put (keeps_quote _) |>.own rfl) <|
    .cons (passes_own rfl |>.put name |>.own rfl |>.put (keeps_toString _) |>.own rfl) <|
    .cons (passes_own rfl) <|
    .cons (passes_own rfl |>.put name |>.own rfl) <|
    .cons (passes_own rfl) <|
    .nil _

theorem keepsLines_nopStep (step : NopStep) : KeepsLines sources step.lines := by
  cases step with
  | foreign nop => exact keepsLines_report _
  | delete nop =>
    exact fun _ =>
      .cons (passes_own rfl |>.put (keeps_quote _) |>.own rfl |>.put (keeps_quote _) |>.own rfl
        |>.put (keeps_toString _) |>.own rfl) <|
      .cons (passes_own rfl |>.put (keeps_quote _) |>.own rfl) <|
      .nil _

theorem keepsLines_receiver (name : String) {callback : Callback} (within : callback.Within sources) :
    KeepsLines sources (receiverLines name callback) := fun _ =>
  .cons (passes_own rfl |>.put (keeps_quote _) |>.own rfl) <|
  .cons (passes_own rfl |>.put (keeps_expression within) |>.own rfl |>.put (keeps_quote _)
    |>.own rfl) <|
  .cons (passes_own rfl) <|
  .nil _

theorem keeps_delayLine {indentation : String} (keeps : Keeps sources indentation) :
    Keeps sources (Script.delayLine indentation) := fun _ =>
  keeps _ |>.own rfl |>.put (keeps_toString _) |>.own rfl

theorem keepsLines_init {init : Option Callback}
    (within : ∀ callback, init = some callback → callback.Within sources) :
    KeepsLines sources (Script.initLines init) := by
  cases init with
  | none => exact keepsLines_nil
  | some callback =>
    exact fun _ =>
      .cons (passes_own rfl) <|
      .cons (passes_own rfl) <|
      .cons (keeps_delayLine (fun _ => passes_own rfl) _) <|
      .cons (passes_own rfl) <|
      .cons (passes_own rfl) <|
      .cons (passes_own rfl |>.put (keeps_expression (within callback rfl)) |>.own rfl) <|
      .cons (passes_own rfl) <|
      .nil _

end ModScript
