import Mathlib.Data.List.Basic
import Mathlib.Data.List.Nodup
import ModScript.Proofs.Json.Numerals
import ModScript.Proofs.OrderedMap
import ModScript.Proofs.Script.Lines
import ModScript.Script.Text

/-!
# Arguments of hooked functions

What callbacks get of a native function that is called. A function that is observed has handlers for the moment
when it is entered and for the moment when it is left. Its arguments can be read on enter only, so a callback on
leave gets them from a list that the handler on enter keeps. A function that is replaced passes its arguments on
by their names.

The statements of the handlers are given here by the texts of what they hand on. When a statement is run, each
text is read as an expression: `args[0].toInt32()` is the first argument as a signed number of 32 bits,
`uint64(retval.toString())` the result as an unsigned number of 64 bits. An expression of another form makes the
run fail, and so does a value that is out of reach. The script has exactly these statements as its text, and none
of their runs fails.

Results:
1. `HookValue.ofText?_presented`: what the script writes for a raw value is read as the value with the conversion
   of its type.
2. `HookHandlers.lines_handlers`: the text of the handlers is what the script has for the hook.
3. `HookHandlers.run_handlers`: what happens when the function is called.
4. `NativeReplacement.receive_ofTarget`: what a function in place of the native one passes on.
5. `HookStep.arguments_passed`: all of it, for every target.
-/

namespace ModScript

/-! ## Values -/

/-- The conversion for values of the native type of that name; what is no whole number is handed on as it is. -/
def Conversion.ofName (type : String) : Conversion :=
  if type ∈ ["int", "int8", "int16", "int32", "bool"] then .signed32
  else if type ∈ ["uint", "uint8", "uint16", "uint32"] then .unsigned32
  else if type = "int64" then .signed64
  else if type = "uint64" then .unsigned64
  else .opaqueValue

/-- What a conversion is written as: what stands in front of the raw value, and what stands behind it. -/
def Conversion.calls : List (String × String × Conversion) :=
  [("", "", .opaqueValue),
    ("", ".toInt32()", .signed32),
    ("", ".toUInt32()", .unsigned32),
    ("int64(", ".toString())", .signed64),
    ("uint64(", ".toString())", .unsigned64)]

/-- A raw value of the native function: one of its arguments, or its result. -/
inductive RawValue
  | argument (index : Nat)
  | result

/-- A value in a handler: a raw one with a conversion, an argument that was kept, or nothing. -/
inductive HookValue
  | raw (value : RawValue) (conversion : Conversion)
  | kept (index : Nat)
  | nothing

/-- What a callback gets: a raw value of the native function with a conversion, or nothing. -/
inductive Presented (ρ : Type)
  | value (raw : ρ) (conversion : Conversion)
  | nothing

/-- What a handler can reach: the arguments on enter, the result on leave, and what was kept before. -/
structure HookScope (ρ : Type) where
  arguments : Option (Nat → ρ)
  result : Option ρ
  kept : Option (List (Presented ρ))

/-- The place that stands at the front between a text and a closing bracket, and what stands behind it. -/
def place? (before : String) (chars : List Char) : Option (Nat × List Char) := do
  let (digits, rest) ← Json.wholeDigits? (← behind? before chars)
  return (Json.digitsValue digits, ← behind? "]" rest)

/-- The raw value at the front, and what stands behind it. -/
def RawValue.read? (chars : List Char) : Option (RawValue × List Char) :=
  ((place? "args[" chars).map fun read => (.argument read.1, read.2)).or <|
    (behind? "retval" chars).map fun rest => (.result, rest)

namespace HookValue

/-- A raw value with the call of a conversion around it. -/
def converted? (chars : List Char) (call : String × String × Conversion) : Option HookValue := do
  let (value, rest) ← RawValue.read? (← behind? call.1 chars)
  if rest = call.2.1.toList then some (.raw value call.2.2) else none

/-- An argument that was kept. -/
def kept? (chars : List Char) : Option HookValue := do
  let (index, rest) ← place? "this.__args[" chars
  if rest = [] then some (.kept index) else none

/-- The value of an expression. -/
def ofText? (text : String) : Option HookValue :=
  (Conversion.calls.findSome? (converted? text.toList)).or <|
    (kept? text.toList).or (if text = "null" then some .nothing else none)

/-- The value in a scope. Nothing can be read of a list that was not kept, and nothing behind its end. -/
def read {ρ : Type} (scope : HookScope ρ) : HookValue → Option (Presented ρ)
  | .raw (.argument index) conversion =>
    scope.arguments.map fun arguments => .value (arguments index) conversion
  | .raw .result conversion => scope.result.map fun result => .value result conversion
  | .kept index => scope.kept.bind fun kept => kept[index]?
  | .nothing => some .nothing

end HookValue

/-- The values of expressions in a scope. -/
def HookScope.values? {ρ : Type} (scope : HookScope ρ) (texts : List String) : Option (List (Presented ρ)) :=
  texts.mapM fun text => (HookValue.ofText? text).bind (HookValue.read scope)

/-! ## Handlers -/

/-- A statement of a handler: values are kept, or a callback is called with some; on leave, what it returns may
replace the result. The values are given by their expressions. -/
inductive HookStatement
  | keep (values : List String)
  | enter (callback : Callback) (values : List String)
  | leave (callback : Callback) (values : List String) (replaces : Bool)

/-- What a statement does. -/
inductive HookEffect (ρ : Type)
  | kept (values : List (Presented ρ))
  | entered (callback : Callback) (given : List (Presented ρ))
  | left (callback : Callback) (given : List (Presented ρ)) (replaces : Bool)

/-- A call of a callback, whose first argument is what it has for `this`. -/
def callText (callback : Callback) (this : String) (arguments : List String) : String :=
  "(" ++ callback.expression ++ ").call(" ++ ", ".intercalate (this :: arguments) ++ ");"

namespace HookStatement

/-- The text of a statement; every callback stands in a `try` of its own. -/
def lines (hook : String) : HookStatement → List String
  | .keep values => ["                this.__args = [" ++ ", ".intercalate values ++ "];"]
  | .enter callback values =>
    [r"                try {",
      "                    " ++ callText callback "this" values,
      stageEndLine hook "onEnter"]
  | .leave callback values replaces =>
    [r"                try {",
      "                    const _r = " ++ callText callback "this" values] ++
      (if replaces then ["                    if (_r !== undefined) retval.replace(ptr(_r));"] else []) ++
      [stageEndLine hook "onLeave"]

variable {ρ : Type}

/-- The scope behind a statement, and what it does. -/
def run (scope : HookScope ρ) : HookStatement → Option (HookScope ρ × HookEffect ρ)
  | .keep texts => (scope.values? texts).map fun values => ({ scope with kept := some values }, .kept values)
  | .enter callback texts => (scope.values? texts).map fun values => (scope, .entered callback values)
  | .leave callback texts replaces =>
    (scope.values? texts).map fun values => (scope, .left callback values replaces)

/-- The scope behind all statements of a handler, and what they do. -/
def runAll (scope : HookScope ρ) : List HookStatement → Option (HookScope ρ × List (HookEffect ρ))
  | [] => some (scope, [])
  | statement :: rest => do
    let (next, effect) ← statement.run scope
    let (last, effects) ← runAll next rest
    return (last, effect :: effects)

end HookStatement

/-- The handlers of an observed function. -/
structure HookHandlers where
  onEnter : Option (List HookStatement)
  onLeave : Option (List HookStatement)

namespace HookHandlers

/-- The text of a handler, if there is one. -/
def stageLines (hook header : String) : Option (List HookStatement) → List String
  | some body => header :: body.flatMap (HookStatement.lines hook) ++ [r"            },"]
  | none => []

/-- The statement that installs the handlers. -/
def lines (hook : String) (target : HookTarget) (handlers : HookHandlers) : List String :=
  [r"    try {",
    target.addressLine,
    r"        const _hook = Interceptor.attach(_hookAddr, {"] ++
    stageLines hook r"            onEnter: function(args) {" handlers.onEnter ++
    stageLines hook r"            onLeave: function(retval) {" handlers.onLeave ++
    [r"        });",
      "        __state.attachedHooks.push(_hook);",
      hookEndLine hook]

/-- What happens when the function is called with the arguments and comes to the result. Only what was kept
remains between the two moments. -/
def run {ρ : Type} (handlers : HookHandlers) (arguments : Nat → ρ) (result : ρ) :
    Option (List (HookEffect ρ)) := do
  let (scope, entered) ← HookStatement.runAll ⟨some arguments, none, none⟩ (handlers.onEnter.getD [])
  let (_, left) ← HookStatement.runAll ⟨none, some result, scope.kept⟩ (handlers.onLeave.getD [])
  return entered ++ left

end HookHandlers

namespace HookTarget

/-- Texts of the arguments that are kept on enter. -/
def keptArguments (target : HookTarget) : List String :=
  target.positions.map fun index => "this.__args[" ++ toString index ++ "]"

/-- The handlers for the callbacks of a hook: all arguments on enter, the result and then all arguments on
leave. -/
def handlers (target : HookTarget) (enter leave : Option Callback) : HookHandlers :=
  let keeps := leave.isSome && !target.params.isEmpty
  { onEnter :=
      if enter.isSome || keeps then
        some ((if keeps then [.keep target.presentedArguments] else []) ++
          (enter.map fun callback => .enter callback target.presentedArguments).toList)
      else none
    onLeave := leave.map fun callback =>
      [.leave callback (target.presentedReturn :: target.keptArguments) (target.returns != .void)] }

/-- The arguments of a call, each converted as the name of its type demands. -/
def given {ρ : Type} (target : HookTarget) (arguments : Nat → ρ) : List (Presented ρ) :=
  target.params.mapIdx fun index type => .value (arguments index) (.ofName type.name)

/-- The result of a call, converted as the name of its type demands. -/
def returned {ρ : Type} (target : HookTarget) (result : ρ) : Presented ρ :=
  if target.returns = .void then .nothing else .value result (.ofName target.returns.name)

end HookTarget

/-! ## Expressions -/

theorem Conversion.ofName_name (type : NativeType) : ofName type.name = type.conversion := by
  cases type <;> rfl

theorem place?_text (before : String) (index : Nat) (rest : List Char) :
    place? before ((before ++ toString index ++ "]").toList ++ rest) = some (index, rest) := by
  have spelled : (toString index).toList = Nat.toDigits 10 index := String.toList_ofList
  have digits : Json.wholeDigits? (Nat.toDigits 10 index ++ ("]".toList ++ rest)) =
      some (Nat.toDigits 10 index, "]".toList ++ rest) :=
    Json.wholeDigits?_append (Json.ends_cons (by decide) rest) (Json.wholeDigits?_toDigits index)
  simp only [place?, String.toList_append, List.append_assoc, spelled, behind?_append, digits,
    Json.digitsValue_toDigits, Option.bind_eq_bind, Option.bind_some, Option.pure_def]

namespace RawValue

/-- The expression of a raw value. -/
def text : RawValue → String
  | .argument index => "args[" ++ toString index ++ "]"
  | .result => "retval"

theorem read?_text (value : RawValue) (rest : List Char) :
    read? (value.text.toList ++ rest) = some (value, rest) := by
  cases value with
  | argument index => simp only [read?, text, place?_text, Option.map_some, Option.some_or]
  | result =>
    have other : place? "args[" ("retval".toList ++ rest) = none := rfl
    simp only [read?, text, other, behind?_append, Option.map_none, Option.none_or, Option.map_some]

end RawValue

namespace HookValue

theorem converted?_text (value : RawValue) (before behind : String) (conversion : Conversion) :
    converted? (before ++ value.text ++ behind).toList (before, behind, conversion) =
      some (.raw value conversion) := by
  simp only [converted?, String.toList_append, List.append_assoc, behind?_append, RawValue.read?_text,
    Option.bind_eq_bind, Option.bind_some, if_true]

/-- A raw value with nothing in front of it has no conversion but the one that stands behind it. -/
theorem converted?_other (value : RawValue) {behind other : String} (differ : behind ≠ other)
    (conversion : Conversion) :
    converted? (value.text ++ behind).toList ("", other, conversion) = none := by
  have front : behind? "" (value.text.toList ++ behind.toList) = some (value.text.toList ++ behind.toList) :=
    behind?_append "" _
  have differ : behind.toList ≠ other.toList := fun same => differ (String.toList_inj.1 same)
  simp only [converted?, String.toList_append, front, RawValue.read?_text, Option.bind_eq_bind,
    Option.bind_some, if_neg differ]

/-- No raw value begins as a call does. -/
theorem converted?_called {before : String} (begins : before = "int64(" ∨ before = "uint64(")
    (raw behind other : String) (conversion : Conversion) :
    converted? (before ++ raw ++ behind).toList ("", other, conversion) = none := by
  rw [String.append_assoc, String.toList_append]
  rcases begins with rfl | rfl <;> rfl

/-- What is written for a raw value of a type is read as the value with the conversion of the type: the calls in
front of it in the list are others. -/
theorem ofText?_presented (type : NativeType) (value : RawValue) :
    ofText? (type.presented value.text) = some (.raw value (.ofName type.name)) := by
  suffices found : Conversion.calls.findSome? (converted? (type.presented value.text).toList) =
      some (.raw value (.ofName type.name)) by
    rw [ofText?, found, Option.some_or]
  rw [Conversion.ofName_name, NativeType.presented, Conversion.calls]
  cases type.conversion with
  | opaqueValue =>
    have found := converted?_text value "" "" .opaqueValue
    rw [String.empty_append, String.append_empty] at found
    rw [List.findSome?_cons, found]
  | signed32 =>
    have found := converted?_text value "" ".toInt32()" .signed32
    rw [String.empty_append] at found
    simp only [List.findSome?_cons, converted?_other value (by decide : ".toInt32()" ≠ ""), found]
  | unsigned32 =>
    have found := converted?_text value "" ".toUInt32()" .unsigned32
    rw [String.empty_append] at found
    simp only [List.findSome?_cons, converted?_other value (by decide : ".toUInt32()" ≠ ""),
      converted?_other value (by decide : ".toUInt32()" ≠ ".toInt32()"), found]
  | signed64 =>
    have found := converted?_text value "int64(" ".toString())" .signed64
    simp only [List.findSome?_cons, converted?_called (.inl rfl), found]
  | unsigned64 =>
    have found := converted?_text value "uint64(" ".toString())" .unsigned64
    have other : converted? ("uint64(" ++ value.text ++ ".toString())").toList
        ("int64(", ".toString())", .signed64) = none := by
      rw [String.append_assoc, String.toList_append]
      rfl
    simp only [List.findSome?_cons, converted?_called (.inr rfl), other, found]

example : ofText? "uint64(args[12].toString())" = some (.raw (.argument 12) .unsigned64) := by rfl

theorem ofText?_kept (index : Nat) :
    ofText? ("this.__args[" ++ toString index ++ "]") = some (.kept index) := by
  have found : kept? ("this.__args[" ++ toString index ++ "]").toList = some (.kept index) := by
    have read := place?_text "this.__args[" index []
    rw [List.append_nil] at read
    simp only [kept?, read, Option.bind_eq_bind, Option.bind_some, if_true]
  have other (call : String × String × Conversion) (known : call ∈ Conversion.calls) :
      converted? ("this.__args[" ++ toString index ++ "]").toList call = none := by
    rw [String.append_assoc, String.toList_append]
    simp only [Conversion.calls, List.mem_cons, List.not_mem_nil, or_false] at known
    rcases known with rfl | rfl | rfl | rfl | rfl <;> rfl
  rw [ofText?, List.findSome?_eq_none_iff.2 other, found]
  rfl

end HookValue

/-! ## Text -/

theorem moreArguments_cons (first : String) (rest : List String) :
    moreArguments (first :: rest) = ", " ++ first ++ moreArguments rest := by
  cases rest with
  | nil => simp [moreArguments]
  | cons second rest =>
    rw [moreArguments, List.map_cons, List.map_cons, String.intercalate_cons_cons, String.append_empty]
    rfl

theorem intercalate_cons (first : String) (rest : List String) :
    ", ".intercalate (first :: rest) = first ++ moreArguments rest := by
  induction rest generalizing first with
  | nil => simp [moreArguments]
  | cons second rest ih =>
    rw [String.intercalate_cons_cons, ih, moreArguments_cons, String.append_assoc, String.append_assoc]

namespace HookHandlers

theorem stageLines_onEnter (hook : String) (target : HookTarget) (enter leave : Option Callback) :
    stageLines hook r"            onEnter: function(args) {" (target.handlers enter leave).onEnter =
      enterLines hook target enter (leave.isSome && !target.params.isEmpty) := by
  simp only [HookTarget.handlers, enterLines]
  cases leave.isSome && !target.params.isEmpty <;> cases enter <;>
    simp [stageLines, HookStatement.lines, callText, intercalate_cons, ← String.toList_inj]

theorem stageLines_onLeave (hook : String) (target : HookTarget) (enter leave : Option Callback) :
    stageLines hook r"            onLeave: function(retval) {" (target.handlers enter leave).onLeave =
      leaveLines hook target leave := by
  cases leave with
  | none => rfl
  | some callback =>
    have called : "                    const _r = " ++
          callText callback "this" (target.presentedReturn :: target.keptArguments) =
        "                    const _r = (" ++ callback.expression ++ ").call(this, " ++ target.presentedReturn ++
          moreArguments (target.positions.map fun index => "this.__args[" ++ toString index ++ "]") ++ ");" := by
      simp [callText, intercalate_cons, HookTarget.keptArguments, ← String.toList_inj]
    have replaces : (target.returns != .void) = !target.returns.isVoid := rfl
    simp only [HookTarget.handlers, Option.map_some, stageLines, List.flatMap_cons, List.flatMap_nil,
      HookStatement.lines, called, replaces, leaveLines]
    cases target.returns.isVoid <;> rfl

/-- The text of the handlers is what the script has for a hook that observes. -/
theorem lines_handlers (hook : String) (target : HookTarget) (enter leave : Option Callback) :
    (target.handlers enter leave).lines hook target = observeLines hook target enter leave := by
  rw [lines, stageLines_onEnter, stageLines_onLeave]
  rfl

end HookHandlers

/-! ## Runs -/

section

variable {α β ρ : Type}

theorem mapM_eq_some_map {f : α → Option β} {g : α → β} {l : List α} (each : ∀ a ∈ l, f a = some (g a)) :
    l.mapM f = some (l.map g) := by
  induction l with
  | nil => rfl
  | cons first rest ih =>
    rw [List.mapM_cons, each first List.mem_cons_self, ih fun a present => each a (List.mem_cons_of_mem _ present)]
    rfl

/-- The elements at all places of a list are the list. -/
theorem mapM_getElem? (l : List α) : (List.range l.length).mapM (fun index => l[index]?) = some l := by
  suffices each : ∀ front back : List α,
      (List.range' front.length back.length).mapM (fun index => (front ++ back)[index]?) = some back by
    simpa [List.range_eq_range'] using each [] l
  intro front back
  induction back generalizing front with
  | nil => rfl
  | cons first rest ih =>
    have here : (front ++ first :: rest)[front.length]? = some first := by simp
    have others := ih (front ++ [first])
    rw [List.append_assoc, List.singleton_append, List.length_append, List.length_singleton] at others
    rw [List.length_cons, List.range'_succ, List.mapM_cons, here, others]
    rfl

theorem values?_presentedArguments (target : HookTarget) (arguments : Nat → ρ) (result : Option ρ)
    (kept : Option (List (Presented ρ))) :
    HookScope.values? ⟨some arguments, result, kept⟩ target.presentedArguments =
      some (target.given arguments) := by
  rw [HookScope.values?, HookTarget.presentedArguments, HookTarget.given, List.mapIdx_eq_zipIdx_map,
    List.mapIdx_eq_zipIdx_map, List.mapM_map]
  refine mapM_eq_some_map fun place _ => ?_
  show (HookValue.ofText? (place.1.presented (RawValue.argument place.2).text)).bind _ = _
  rw [HookValue.ofText?_presented]
  rfl

theorem length_given (target : HookTarget) (arguments : Nat → ρ) :
    (target.given arguments).length = target.params.length := List.length_mapIdx

/-- On leave the arguments are those that were kept on enter; without parameters none is read. -/
theorem values?_keptArguments (target : HookTarget) (arguments : Nat → ρ) (result : ρ)
    {kept : Option (List (Presented ρ))} (keeps : target.params = [] ∨ kept = some (target.given arguments)) :
    HookScope.values? ⟨none, some result, kept⟩ target.keptArguments = some (target.given arguments) := by
  simp only [HookScope.values?, HookTarget.keptArguments, List.mapM_map, Function.comp_def,
    HookValue.ofText?_kept, Option.bind_some, HookValue.read]
  rcases keeps with none | rfl
  · simp [HookTarget.positions, HookTarget.given, none]
  · rw [HookTarget.positions, ← length_given target arguments]
    exact mapM_getElem? (target.given arguments)

theorem values?_presentedReturn (target : HookTarget) (result : ρ) (kept : Option (List (Presented ρ)))
    {texts : List String} {values : List (Presented ρ)}
    (others : HookScope.values? ⟨none, some result, kept⟩ texts = some values) :
    HookScope.values? ⟨none, some result, kept⟩ (target.presentedReturn :: texts) =
      some (target.returned result :: values) := by
  have first : (HookValue.ofText? target.presentedReturn).bind (HookValue.read ⟨none, some result, kept⟩) =
      some (target.returned result) := by
    rw [HookTarget.presentedReturn, HookTarget.returned]
    by_cases void : target.returns = .void
    · rw [void]
      rfl
    · have shown : target.returns.isVoid = false := beq_false_of_ne void
      rw [shown, if_neg Bool.false_ne_true, if_neg void]
      show (HookValue.ofText? (target.returns.presented RawValue.result.text)).bind _ = _
      rw [HookValue.ofText?_presented]
      rfl
  rw [HookScope.values?, List.mapM_cons, first]
  show (HookScope.values? ⟨none, some result, kept⟩ texts).bind _ = _
  rw [others]
  rfl

namespace HookHandlers

theorem runAll_onEnter (target : HookTarget) (enter leave : Option Callback) (arguments : Nat → ρ) :
    HookStatement.runAll ⟨some arguments, none, none⟩ ((target.handlers enter leave).onEnter.getD []) =
      some (⟨some arguments, none,
          if leave.isSome && !target.params.isEmpty then some (target.given arguments) else none⟩,
        (if leave.isSome && !target.params.isEmpty then [.kept (target.given arguments)] else []) ++
          (enter.map fun callback => .entered callback (target.given arguments)).toList) := by
  simp only [HookTarget.handlers]
  cases leave.isSome && !target.params.isEmpty <;> cases enter <;>
    simp [HookStatement.runAll, HookStatement.run, values?_presentedArguments]

theorem runAll_onLeave (target : HookTarget) (enter leave : Option Callback) (arguments : Nat → ρ) (result : ρ)
    {kept : Option (List (Presented ρ))}
    (keeps : leave.isSome = true → target.params = [] ∨ kept = some (target.given arguments)) :
    HookStatement.runAll ⟨none, some result, kept⟩ ((target.handlers enter leave).onLeave.getD []) =
      some (⟨none, some result, kept⟩, (leave.map fun callback =>
        .left callback (target.returned result :: target.given arguments) (target.returns != .void)).toList) := by
  cases leave with
  | none => rfl
  | some callback =>
    have read := values?_presentedReturn target result kept
      (values?_keptArguments target arguments result (keeps rfl))
    simp [HookTarget.handlers, HookStatement.runAll, HookStatement.run, read]

/-- What happens when a function with handlers is called: its arguments are kept if they are needed on leave,
and each callback gets what it should. -/
theorem run_handlers (target : HookTarget) (enter leave : Option Callback) (arguments : Nat → ρ) (result : ρ) :
    (target.handlers enter leave).run arguments result =
      some ((if leave.isSome && !target.params.isEmpty then [.kept (target.given arguments)] else []) ++
        (enter.map fun callback => .entered callback (target.given arguments)).toList ++
        (leave.map fun callback => .left callback (target.returned result :: target.given arguments)
          (target.returns != .void)).toList) := by
  have keeps : leave.isSome = true → target.params = [] ∨
      (if leave.isSome && !target.params.isEmpty then some (target.given arguments) else none) =
        some (target.given arguments) := by
    intro given
    cases target.params with
    | nil => exact .inl rfl
    | cons first rest => exact .inr (by simp [given])
  rw [run, runAll_onEnter]
  show (HookStatement.runAll ⟨none, some result, _⟩ _).bind _ = _
  rw [runAll_onLeave target enter leave arguments result keeps]
  rfl

end HookHandlers

end

/-! ## Replaced functions -/

/-- A function in place of a native one: the names of its parameters, the names of what it passes on to its
callback, and the native types under their names. -/
structure NativeReplacement where
  parameters : List String
  passed : List String
  returns : String
  types : List String

namespace NativeReplacement

/-- The statement that installs the function. If its callback fails, it returns what its type has for nothing. -/
def lines (hook : String) (target : HookTarget) (callback : Callback) (function : NativeReplacement) :
    List String :=
  [r"    try {",
    target.addressLine,
    "        Interceptor.replace(_hookAddr, new NativeCallback(",
    "            function(" ++ ", ".intercalate function.parameters ++ r") {",
    r"                try {",
    "                    return (" ++ callback.expression ++ ").call(null" ++
      moreArguments function.passed ++ ");",
    r"                } catch (e) { error(" ++ Json.quote ("Hook " ++ hook ++ " replace error:") ++
      ", e.stack); return " ++ (if function.returns = NativeType.void.name then "undefined" else "ptr(0x0)") ++
      r"; }",
    r"            },",
    "            '" ++ function.returns ++ "', [" ++
      ", ".intercalate (function.types.map fun type => "'" ++ type ++ "'") ++ "]",
    "        ));",
    "        __state.replacedFunctions.push(_hookAddr);",
    hookEndLine hook]

/-- What the callback gets when the function is called with some arguments. A name that is no parameter has no
value. -/
def receive {ρ : Type} (function : NativeReplacement) (arguments : List ρ) : Option (List ρ) :=
  function.passed.mapM fun name => (function.parameters.zip arguments).lookup name

/-- The function for a target. -/
def ofTarget (target : HookTarget) : NativeReplacement where
  parameters := target.positions.map fun index => "arg" ++ toString index
  passed := target.positions.map fun index => "arg" ++ toString index
  returns := target.returns.name
  types := target.params.map NativeType.name

theorem name_eq_void_iff (type : NativeType) : type.name = NativeType.void.name ↔ type.isVoid = true := by
  cases type <;> decide

theorem lines_ofTarget (hook : String) (target : HookTarget) (callback : Callback) :
    (ofTarget target).lines hook target callback = replaceLines hook target callback := by
  have fallback : (if (ofTarget target).returns = NativeType.void.name then "undefined" else "ptr(0x0)") =
      if target.returns.isVoid then "undefined" else "ptr(0x0)" :=
    if_congr (name_eq_void_iff target.returns) rfl rfl
  rw [lines, fallback]
  simp [ofTarget, replaceLines, Function.comp_def]

theorem eq_of_toString_eq {n n' : Nat} (same : toString n = toString n') : n = n' := by
  have digits : Nat.toDigits 10 n = Nat.toDigits 10 n' := String.ofList_injective same
  rw [← Json.digitsValue_toDigits n, digits, Json.digitsValue_toDigits]

theorem nodup_parameters (target : HookTarget) : (ofTarget target).parameters.Nodup := by
  refine List.Nodup.map (fun index index' same => ?_) List.nodup_range
  exact eq_of_toString_eq ((String.append_right_inj "arg").1 same)

/-- The names differ, so each of them has the argument at its place. -/
theorem receive_ofTarget {ρ : Type} (target : HookTarget) (arguments : Nat → ρ) :
    (ofTarget target).receive (target.positions.map arguments) = some (target.positions.map arguments) := by
  have zipped : (ofTarget target).parameters.zip (target.positions.map arguments) =
      target.positions.map fun index => ("arg" ++ toString index, arguments index) := List.zip_map'
  have distinct : ((target.positions.map fun index => ("arg" ++ toString index, arguments index)).map
      Prod.fst).Nodup := by
    rw [List.map_map]
    exact nodup_parameters target
  rw [receive, zipped, ofTarget, List.mapM_map]
  exact mapM_eq_some_map fun index present =>
    OrderedMap.lookup_eq_some_of_mem distinct (List.mem_map_of_mem present)

end NativeReplacement

theorem NativeType.ofName?_name (type : NativeType) : ofName? type.name = some type := by
  cases type <;> rfl

/-- Callbacks get the arguments of the native function, each converted as its type demands, in their order and in
their number. On enter they are read where they are; on leave, behind the result, from what the handler on enter
kept before any callback. That handler is there if a callback needs it; what was not kept is never read, and
nothing is read behind the end of what was kept, since no run fails. The result is replaced only on leave, and
only if there is one. A function in place of the native one has a name for each argument, under which it passes
the argument on, and the native types of the target. -/
theorem HookStep.arguments_passed (hook : String) (target : HookTarget) :
    (∀ enter leave : Option Callback, ∃ handlers : HookHandlers,
      (HookStep.install hook target (.observe enter leave)).lines = handlers.lines hook target ∧
      (handlers.onEnter.isSome = true ↔
        enter.isSome = true ∨ leave.isSome = true ∧ 0 < target.params.length) ∧
      (handlers.onLeave.isSome = true ↔ leave.isSome = true) ∧
      ∀ (ρ : Type) (arguments : Nat → ρ) (result : ρ),
        handlers.run arguments result =
          some ((if leave.isSome && !target.params.isEmpty then [.kept (target.given arguments)] else []) ++
            (enter.map fun callback => .entered callback (target.given arguments)).toList ++
            (leave.map fun callback => .left callback (target.returned result :: target.given arguments)
              (target.returns != .void)).toList)) ∧
    ∀ callback : Callback, ∃ function : NativeReplacement,
      (HookStep.install hook target (.replace callback)).lines = function.lines hook target callback ∧
      function.parameters.length = target.params.length ∧ function.parameters.Nodup ∧
      function.types.map NativeType.ofName? = target.params.map some ∧
      NativeType.ofName? function.returns = some target.returns ∧
      ∀ (ρ : Type) (arguments : Nat → ρ),
        function.receive ((List.range target.params.length).map arguments) =
          some ((List.range target.params.length).map arguments) := by
  constructor
  · intro enter leave
    refine ⟨target.handlers enter leave, (HookHandlers.lines_handlers hook target enter leave).symm, ?_, ?_,
      fun _ => HookHandlers.run_handlers target enter leave⟩
    · cases enter <;> cases leave <;> cases params : target.params <;> simp [HookTarget.handlers, params]
    · simp [HookTarget.handlers]
  · intro callback
    refine ⟨.ofTarget target, (NativeReplacement.lines_ofTarget hook target callback).symm, ?_,
      NativeReplacement.nodup_parameters target, ?_, NativeType.ofName?_name target.returns,
      fun _ => NativeReplacement.receive_ofTarget target⟩
    · simp [NativeReplacement.ofTarget, HookTarget.positions]
    · rw [NativeReplacement.ofTarget, List.map_map]
      exact List.map_congr_left fun type _ => NativeType.ofName?_name type

end ModScript
