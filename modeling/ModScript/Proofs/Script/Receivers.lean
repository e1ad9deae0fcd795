import ModScript.Proofs.Acceptance
import ModScript.Proofs.OrderedMap
import ModScript.Proofs.Script.Lines

/-!
# Receivers

A mod declares receivers one after another, and it may declare one of them again. Its script has one dispatcher
for all commands, with a branch for each name; the later declaration of a name counts, at the place of the
first. The names are compared with literals, and literals that are decoded to one name are those of one branch,
so a command reaches the receiver that was declared last under its name, and no other.

Results:
1. `Declaration.receivers_addAll`: the receivers of a mod are those of its steps.
2. `CommandBranch.command?_ofEntry`: the literal of a branch is decoded to the name of the receiver.
3. `CommandBranch.called_ofEntries`: which callbacks a command calls.
4. `Declaration.commands_reach_last_receiver`: the dispatcher of a mod.
-/

namespace ModScript

/-! ## Declared receivers -/

namespace Declaration

/-- The receiver that a step declares. -/
def Step.receiver? : Step → Option (String × Callback)
  | .receive name callback => some (name, callback)
  | _ => none

/-- The receivers that steps declare, in the order of the steps. -/
def received (steps : List Step) : List (String × Callback) := steps.filterMap Step.receiver?

theorem receivers_add {d d' : Declaration} {step : Step} (added : d.add step = .ok d') :
    d'.receivers = d.receivers.insertAll (received [step]) := by
  cases adds_of_add added <;> rfl

/-- The receivers of a mod are those of its steps, inserted one after another. -/
theorem receivers_addAll {d d' : Declaration} {steps : List Step} (added : d.addAll steps = .ok d') :
    d'.receivers = d.receivers.insertAll (received steps) := by
  induction steps generalizing d with
  | nil =>
    cases added
    rfl
  | cons step rest ih =>
    obtain ⟨next, first, others⟩ := bind_eq_ok_iff.1 added
    have split : received (step :: rest) = received [step] ++ received rest :=
      List.filterMap_append (l := [step])
    rw [ih others, receivers_add first, split]
    exact (List.foldl_append ..).symm

end Declaration

/-! ## The dispatcher -/

/-- A branch of the dispatcher: the literal with which it compares the name of a command, the function that it
calls, and the literal that it reports if that fails. -/
structure CommandBranch where
  name : String
  callback : String
  report : String

namespace CommandBranch

/-- The callback stands in a `try` of its own. -/
def lines (branch : CommandBranch) : List String :=
  ["    if (msg.name === " ++ branch.name ++ r") {",
    r"        try { (" ++ branch.callback ++ r")(msg.data); } catch (e) { error(" ++ branch.report ++
      r", e.stack); }",
    r"    }"]

/-- One function that is called with a command; it listens for the next one first. -/
def dispatcher (branches : List CommandBranch) : String :=
  joinLines ([r"recv('command', function _onCommand(msg) {", "    recv('command', _onCommand);"] ++
    branches.flatMap lines ++ [r"});"])

/-- The command of a branch, decoded from its literal. -/
def command? (branch : CommandBranch) : Option String :=
  (literal? branch.name.toList).bind fun read => if read.2.isEmpty then some read.1 else none

/-- What a command calls: the callbacks of all branches with its name. -/
def called (branches : List CommandBranch) (command : String) : List String :=
  (branches.filter fun branch => branch.command? == some command).map callback

/-- The branch of a receiver. -/
def ofEntry (entry : String × Callback) : CommandBranch where
  name := Json.quote entry.1
  callback := entry.2.expression
  report := Json.quote ("Receiver " ++ entry.1 ++ " error:")

/-- The literal of a branch is decoded to the name of the receiver. -/
theorem command?_ofEntry (entry : String × Callback) : (ofEntry entry).command? = some entry.1 := by
  have decoded : literal? (Json.quote entry.1).toList = some (entry.1, []) := by
    simpa using literal?_quote entry.1 []
  rw [command?, ofEntry, decoded]
  rfl

/-- A command calls the receiver of its name, if there is one. -/
theorem called_ofEntries (receivers : OrderedMap Callback) (command : String) :
    called (receivers.entries.map ofEntry) command =
      ((receivers.get? command).map Callback.expression).toList := by
  have named : ((fun branch : CommandBranch => branch.command? == some command) ∘ ofEntry) =
      fun entry => entry.1 == command := by
    funext entry
    simp [command?_ofEntry]
  rw [called, List.filter_map, named, receivers.filter_entries]
  cases receivers.get? command <;> rfl

end CommandBranch

namespace Script

theorem receiversBlock_eq (script : Script) :
    script.receiversBlock = if script.receivers.isEmpty then ""
      else CommandBranch.dispatcher (script.receivers.entries.map CommandBranch.ofEntry) := by
  rw [CommandBranch.dispatcher, List.flatMap_map]
  rfl

theorem receiversBlock_eq_empty_iff (script : Script) :
    script.receiversBlock = "" ↔ script.receivers.entries = [] := by
  rw [receiversBlock_eq, OrderedMap.isEmpty]
  cases script.receivers.entries with
  | nil => exact iff_of_true rfl rfl
  | cons first rest =>
    have filled : (CommandBranch.dispatcher ((first :: rest).map CommandBranch.ofEntry)).isEmpty = false :=
      isEmpty_joinLines (by decide) _
    rw [List.isEmpty_cons, if_neg Bool.false_ne_true]
    exact iff_of_false (ne_empty_of_isEmpty filled) (List.cons_ne_nil _ _)

/-- Behind the receivers a script has nothing but the call that starts it. -/
theorem behind_receivers (script : Script) : script.behind .receivers = "__init();\n" := rfl

end Script

namespace Declaration

variable {name title : String} {modules : List String} {steps : List Step} {d declaration : Declaration}

theorem receivers_eq_ofList (started : start name title modules = .ok d)
    (added : d.addAll steps = .ok declaration) : declaration.receivers = .ofList (received steps) := by
  obtain ⟨-, -, -, -, rfl⟩ := start_eq_ok started
  exact receivers_addAll added

/-- Every command of a mod reaches one receiver. If some were declared, the script has one dispatcher that
listens again before all else, with a branch for each name in the order of the first declarations. The literal
of a branch is decoded to the name, and the branch calls what was declared last under that name. So a command
calls that one callback, and a command without a receiver calls nothing. -/
theorem commands_reach_last_receiver (started : start name title modules = .ok d)
    (added : d.addAll steps = .ok declaration) (game : Game) (patch : Patch) :
    ∃ branches : List CommandBranch,
      declaration.script game patch = (Script.ofMod declaration game patch).before .receivers ++
        Script.part (Script.ofMod declaration game patch).receiversBlock ++ "__init();\n" ∧
      ((Script.ofMod declaration game patch).receiversBlock = "" ↔ received steps = []) ∧
      (received steps ≠ [] →
        (Script.ofMod declaration game patch).receiversBlock = CommandBranch.dispatcher branches) ∧
      List.Forall₂ (fun command branch => branch.command? = some command ∧
          ∃ before callback behind, received steps = before ++ (command, callback) :: behind ∧
            command ∉ behind.map Prod.fst ∧ branch.callback = callback.expression)
        ((received steps).map Prod.fst).eraseDups branches ∧
      (∀ command, command ∉ (received steps).map Prod.fst → CommandBranch.called branches command = []) ∧
      ∀ before command callback behind, received steps = before ++ (command, callback) :: behind →
        command ∉ behind.map Prod.fst → CommandBranch.called branches command = [callback.expression] := by
  have receivers := receivers_eq_ofList started added
  have names : declaration.receivers.keys = ((received steps).map Prod.fst).eraseDups := by
    rw [receivers, OrderedMap.keys_ofList]
  have none : declaration.receivers.entries = [] ↔ received steps = [] := by
    rw [← List.map_eq_nil_iff (f := Prod.fst), ← OrderedMap.keys, names]
    cases received steps with
    | nil => exact iff_of_true rfl rfl
    | cons first rest =>
      rw [List.map_cons, List.eraseDups_cons]
      exact iff_of_false (List.cons_ne_nil _ _) (List.cons_ne_nil _ _)
  refine ⟨declaration.receivers.entries.map CommandBranch.ofEntry, ?_, ?_, ?_, ?_, ?_, ?_⟩
  · rw [Declaration.script, Script.text_eq_around _ .receivers, Script.behind_receivers]
    rfl
  · exact (Script.receiversBlock_eq_empty_iff _).trans none
  · intro some
    rw [Script.receiversBlock_eq]
    have filled : declaration.receivers.isEmpty = false := List.isEmpty_eq_false_iff.2 (mt none.1 some)
    exact if_neg (filled ▸ Bool.false_ne_true)
  · rw [← names, OrderedMap.keys, List.forall₂_map_left_iff, List.forall₂_map_right_iff, List.forall₂_same]
    intro entry present
    have found : declaration.receivers.get? entry.1 = some entry.2 := OrderedMap.get?_eq_some_iff.2 present
    rw [receivers] at found
    obtain ⟨before, behind, split, last⟩ := OrderedMap.get?_ofList_eq_some_iff.1 found
    exact ⟨CommandBranch.command?_ofEntry entry, before, entry.2, behind, split, last, rfl⟩
  · intro command undeclared
    have unknown : declaration.receivers.get? command = Option.none := by
      rw [OrderedMap.get?_eq_none_iff, names, List.mem_eraseDups]
      exact undeclared
    rw [CommandBranch.called_ofEntries, unknown]
    rfl
  · intro before command callback behind split last
    have found : declaration.receivers.get? command = some callback := by
      rw [receivers]
      exact OrderedMap.get?_ofList_eq_some_iff.2 ⟨before, behind, split, last⟩
    rw [CommandBranch.called_ofEntries, found]
    rfl

/-- A game without patches. -/
def patchlessGame : Game where
  id := "g"
  name := "G"
  executable := "e"
  modules := .empty
  constants := .empty
  patches := .empty
  defaultPatch := ""

/-- A mod that declares one of its two receivers again. -/
def redeclaringSteps : List Step :=
  [.receive "go" (.log .info "1"), .receive "say \"no\"" (.returnValue .null), .init .noop,
    .receive "go" (.emit "gone")]

theorem commands_reach_last_receiver_redeclared :
    ∃ d declaration branches,
      start "m" "g" ["e"] = .ok d ∧ d.addAll redeclaringSteps = .ok declaration ∧
      (Script.ofMod declaration patchlessGame ⟨"P", "", .empty⟩).receiversBlock =
        CommandBranch.dispatcher branches ∧
      CommandBranch.called branches "go" = [(Callback.emit "gone").expression] ∧
      CommandBranch.called branches "say \"no\"" = [(Callback.returnValue .null).expression] ∧
      CommandBranch.called branches "say no" = [] := by
  obtain ⟨d, started⟩ : ∃ d, start "m" "g" ["e"] = .ok d := ⟨_, rfl⟩
  obtain ⟨declaration, added⟩ : ∃ declaration, d.addAll redeclaringSteps = .ok declaration := by
    obtain ⟨-, -, -, -, rfl⟩ := start_eq_ok started
    exact ⟨_, rfl⟩
  obtain ⟨branches, -, -, block, -, none, last⟩ :=
    commands_reach_last_receiver started added patchlessGame ⟨"P", "", .empty⟩
  refine ⟨d, declaration, branches, started, added, block (List.cons_ne_nil _ _), ?_, ?_, ?_⟩
  · exact last [("go", .log .info "1"), ("say \"no\"", .returnValue .null)] "go" (.emit "gone") [] rfl
      List.not_mem_nil
  · exact last [("go", .log .info "1")] "say \"no\"" (.returnValue .null) [("go", .emit "gone")] rfl (by decide)
  · exact none "say no" (by decide)

end Declaration

end ModScript
