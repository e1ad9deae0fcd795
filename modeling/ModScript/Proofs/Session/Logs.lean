import ModScript.Session.Message
import ModScript.Session.Request

/-!
# Logs of attached processes

What may pass between a session and one attached process. `Finished` lists the logs that a session may
leave behind, with the calls, whether they succeeded, and the events that were read between them. The
logs before that are described by what the script is known to do: `Waiting`, `Live`, `Cleaning`; where a
session is about to leave a process, `Unloading` and `Leaving` say that the rest of the way leads to a
finished log, whatever the answers.

Results:
1. `Finished.pattern`: the calls of a finished log, in one of six patterns.
2. `Finished.unloads`, `Finished.detach_last`, `Finished.ends`: what is undone, and when.
3. `Finished.served`: commands are posted to a script that is ready and was not asked to clean up.
-/

namespace ModScript

/-! ## Logs -/

/-- A call on an attached process. -/
inductive Call
  | takeEvents
  | mainModule
  | loadScript
  | post (message : Inbound)
  | unloadScript
  | detach

/-- A call on an attached process and whether it succeeded, or something that came from its events. -/
inductive Contact
  | call (call : Call) (done : Bool)
  | heard (received : Received)

/-- What passed between a session and one attached process, in order. -/
abbrev Log := List Contact

/-- The calls up to a loaded script; where the main module lies may stay unknown. -/
def opening (located : Bool) : Log :=
  [.call .takeEvents true, .call .mainModule located, .call .loadScript true]

/-- Messages of which none tells that the script is ready. -/
def Unready (heard : List Received) : Prop :=
  ∀ received ∈ heard, ∃ message, received = .message message ∧ message.event? ≠ some Event.ready

/-- The script has been loaded and is not known to be ready. -/
def Waiting (log : Log) : Prop :=
  ∃ located heard, Unready heard ∧ log = opening located ++ heard.map .heard

/-- The script has told that it is ready; since then commands were posted and events were delivered. -/
inductive Live : Log → Prop
  | ready {log : Log} {message : Outbound} : Waiting log → message.event? = some Event.ready →
    Live (log ++ [.heard (.message message)])
  | command {log : Log} (name : String) (data : Json) (done : Bool) : Live log →
    Live (log ++ [.call (.post (.command name data)) done])
  | heard {log : Log} {received : Received} : Live log → (∀ reason, received ≠ .detached reason) →
    Live (log ++ [.heard received])

/-- The script was asked to clean up, and may do so. -/
inductive Cleaning : Log → Prop
  | asked {log : Log} : Live log → Cleaning (log ++ [.call (.post .cleanup) true])
  | heard {log : Log} (received : Received) : Cleaning log → Cleaning (log ++ [.heard received])

/-- The log of a process that a session is done with. -/
inductive Finished : Log → Prop
  /-- The start was cancelled during the attach. -/
  | cancelled (detached : Bool) : Finished [.call .detach detached]
  /-- There were no events to take. -/
  | unheard (detached : Bool) : Finished [.call .takeEvents false, .call .detach detached]
  /-- The script was not loaded. -/
  | notLoaded (located detached : Bool) :
    Finished [.call .takeEvents true, .call .mainModule located, .call .loadScript false,
      .call .detach detached]
  /-- The script was not ready in time, or the process went away before. -/
  | notReady {log : Log} {received : Received} (unloaded detached : Bool) : Waiting log →
    (∀ message, received ≠ .message message) →
    Finished (log ++ [.heard received, .call .unloadScript unloaded, .call .detach detached])
  /-- The mod was stopped; its script had time to clean up. -/
  | stopped {log : Log} (unloaded detached : Bool) : Cleaning log →
    Finished (log ++ [.call .unloadScript unloaded, .call .detach detached])
  /-- The mod was stopped; its script could not be asked to clean up. -/
  | refused {log : Log} (unloaded detached : Bool) : Live log →
    Finished (log ++ [.call (.post .cleanup) false, .call .unloadScript unloaded,
      .call .detach detached])
  /-- The process went away while events were delivered. -/
  | lost {log : Log} (reason : String) : Live log → Finished (log ++ [.heard (.detached reason)])

/-- Only the detach is left to do. -/
def Leaving (log : Log) : Prop := ∀ detached, Finished (log ++ [.call .detach detached])

/-- The script has to be unloaded, and then the detach is left. -/
def Unloading (log : Log) : Prop := ∀ unloaded, Leaving (log ++ [.call .unloadScript unloaded])

theorem waiting_opening (located : Bool) : Waiting (opening located) :=
  ⟨located, [], fun _ present => absurd present List.not_mem_nil, rfl⟩

theorem Waiting.heard {log : Log} (waiting : Waiting log) {message : Outbound}
    (other : message.event? ≠ some Event.ready) : Waiting (log ++ [.heard (.message message)]) := by
  obtain ⟨located, heard, unready, rfl⟩ := waiting
  refine ⟨located, heard ++ [.message message], fun received present => ?_, by simp⟩
  rcases List.mem_append.1 present with inHeard | inLast
  · exact unready received inHeard
  · exact ⟨message, List.mem_singleton.1 inLast, other⟩

theorem Waiting.unloading {log : Log} (waiting : Waiting log) {received : Received}
    (noMessage : ∀ message, received ≠ .message message) :
    Unloading (log ++ [.heard received]) := by
  intro unloaded detached
  simpa using Finished.notReady unloaded detached waiting noMessage

theorem Cleaning.unloading {log : Log} (cleaning : Cleaning log) : Unloading log := by
  intro unloaded detached
  simpa using Finished.stopped unloaded detached cleaning

theorem Live.refused {log : Log} (live : Live log) :
    Unloading (log ++ [.call (.post .cleanup) false]) := by
  intro unloaded detached
  simpa using Finished.refused unloaded detached live

/-- The log may still become that of a process that a session is done with. -/
def Finishes (log : Log) : Prop := ∃ rest, Finished (log ++ rest)

theorem Finished.finishes {log : Log} (finished : Finished log) : Finishes log :=
  ⟨[], by simpa using finished⟩

theorem Leaving.finishes {log : Log} (leaving : Leaving log) : Finishes log := ⟨_, leaving true⟩

theorem Unloading.finishes {log : Log} (unloading : Unloading log) : Finishes log :=
  ⟨[.call .unloadScript true, .call .detach true], by simpa using unloading true true⟩

theorem Finishes.of_snoc {log : Log} {contact : Contact} (finishes : Finishes (log ++ [contact])) :
    Finishes log := by
  obtain ⟨rest, finished⟩ := finishes
  exact ⟨contact :: rest, by simpa using finished⟩

theorem Waiting.finishes {log : Log} (waiting : Waiting log) : Finishes log := by
  -- A script that is never ready: the wait times out.
  have unloading : Unloading (log ++ [.heard .nothing]) := waiting.unloading nofun
  exact unloading.finishes.of_snoc

theorem Cleaning.finishes {log : Log} (cleaning : Cleaning log) : Finishes log :=
  cleaning.unloading.finishes

theorem Live.finishes {log : Log} (live : Live log) : Finishes log := live.refused.finishes.of_snoc

theorem finishes_nil : Finishes [] := ⟨_, .cancelled true⟩

theorem finishes_events : Finishes [.call .takeEvents true] := ⟨_, .notLoaded true true⟩

theorem finishes_located (located : Bool) :
    Finishes [.call .takeEvents true, .call .mainModule located] := ⟨_, .notLoaded located true⟩

/-! ## The calls of a finished log -/

/-- The calls of a log, and whether they succeeded. -/
def callsOf (log : Log) : List (Call × Bool) :=
  log.filterMap fun
    | .call call done => some (call, done)
    | .heard _ => none

/-- Nothing but commands. -/
def AllCommands (calls : List (Call × Bool)) : Prop :=
  ∀ entry ∈ calls, ∃ name data, entry.1 = .post (.command name data)

/-- The calls up to a loaded script. -/
def openingCalls (located : Bool) : List (Call × Bool) :=
  [(.takeEvents, true), (.mainModule, located), (.loadScript, true)]

theorem callsOf_append (log log' : Log) : callsOf (log ++ log') = callsOf log ++ callsOf log' :=
  List.filterMap_append

theorem Waiting.calls {log : Log} (waiting : Waiting log) :
    ∃ located, callsOf log = openingCalls located := by
  obtain ⟨located, heard, -, rfl⟩ := waiting
  have silent : callsOf (heard.map .heard) = [] := by
    simp [callsOf]
  exact ⟨located, by rw [callsOf_append, silent]; rfl⟩

theorem Live.calls {log : Log} (live : Live log) :
    ∃ located commands, AllCommands commands ∧ callsOf log = openingCalls located ++ commands := by
  induction live with
  | ready waiting _ =>
    obtain ⟨located, calls⟩ := waiting.calls
    exact ⟨located, [], nofun, by rw [callsOf_append, calls]; rfl⟩
  | command name data done _ ih =>
    obtain ⟨located, commands, all, calls⟩ := ih
    refine ⟨located, commands ++ [(.post (.command name data), done)], fun entry present => ?_, ?_⟩
    · rcases List.mem_append.1 present with inCommands | inLast
      · exact all entry inCommands
      · exact ⟨name, data, by rw [List.mem_singleton.1 inLast]⟩
    · rw [callsOf_append, calls, List.append_assoc]
      rfl
  | heard _ _ ih =>
    obtain ⟨located, commands, all, calls⟩ := ih
    exact ⟨located, commands, all, by rw [callsOf_append, calls]; exact List.append_nil _⟩

theorem Cleaning.calls {log : Log} (cleaning : Cleaning log) :
    ∃ located commands, AllCommands commands ∧
      callsOf log = openingCalls located ++ commands ++ [(.post .cleanup, true)] := by
  induction cleaning with
  | asked live =>
    obtain ⟨located, commands, all, calls⟩ := live.calls
    exact ⟨located, commands, all, by rw [callsOf_append, calls]; rfl⟩
  | heard received _ ih =>
    obtain ⟨located, commands, all, calls⟩ := ih
    exact ⟨located, commands, all, by rw [callsOf_append, calls]; exact List.append_nil _⟩

def Contact.isUnload : Contact → Bool
  | .call .unloadScript _ => true
  | _ => false

def Contact.isDetach : Contact → Bool
  | .call .detach _ => true
  | _ => false

/-- The script was loaded and nothing was undone. -/
structure HasScript (log : Log) : Prop where
  loaded : .call .loadScript true ∈ log
  kept : ∀ contact ∈ log, contact.isUnload = false ∧ contact.isDetach = false

theorem HasScript.snoc {log : Log} (h : HasScript log) {contact : Contact}
    (kept : contact.isUnload = false ∧ contact.isDetach = false) : HasScript (log ++ [contact]) where
  loaded := List.mem_append_left _ h.loaded
  kept other present := by
    rcases List.mem_append.1 present with inLog | inLast
    · exact h.kept other inLog
    · exact List.mem_singleton.1 inLast ▸ kept

theorem Waiting.hasScript {log : Log} (waiting : Waiting log) : HasScript log := by
  obtain ⟨located, heard, -, rfl⟩ := waiting
  refine ⟨by simp [opening], fun contact present => ?_⟩
  rcases List.mem_append.1 present with inOpening | inHeard
  · simp only [opening, List.mem_cons, List.not_mem_nil, or_false] at inOpening
    rcases inOpening with rfl | rfl | rfl <;> exact ⟨rfl, rfl⟩
  · obtain ⟨received, -, rfl⟩ := List.mem_map.1 inHeard
    exact ⟨rfl, rfl⟩

theorem Live.hasScript {log : Log} (live : Live log) : HasScript log := by
  induction live with
  | ready waiting _ => exact waiting.hasScript.snoc ⟨rfl, rfl⟩
  | command name data done _ ih => exact ih.snoc ⟨rfl, rfl⟩
  | heard _ _ ih => exact ih.snoc ⟨rfl, rfl⟩

theorem Cleaning.hasScript {log : Log} (cleaning : Cleaning log) : HasScript log := by
  induction cleaning with
  | asked live => exact live.hasScript.snoc ⟨rfl, rfl⟩
  | heard received _ ih => exact ih.snoc ⟨rfl, rfl⟩

theorem HasScript.countP_unload {log : Log} (h : HasScript log) : log.countP Contact.isUnload = 0 :=
  List.countP_eq_zero.2 fun contact present => by simp [(h.kept contact present).1]

/-- The process went away while events were delivered. -/
def Lost (log : Log) : Prop := ∃ reason, log.getLast? = some (.heard (.detached reason))

theorem HasScript.unloaded_once {log tail : Log} (h : HasScript log) {detached : Bool}
    (unloads : tail.countP Contact.isUnload = 1)
    (last : tail.getLast? = some (.call .detach detached)) :
    (log ++ tail).countP Contact.isUnload ≤ 1 ∧
      ((log ++ tail).countP Contact.isUnload = 1 ↔
        .call .loadScript true ∈ log ++ tail ∧ ¬ Lost (log ++ tail)) := by
  have once : (log ++ tail).countP Contact.isUnload = 1 := by
    rw [List.countP_append, h.countP_unload, unloads]
  have notLost : ¬ Lost (log ++ tail) := by
    rintro ⟨reason, gone⟩
    rw [List.getLast?_append, last] at gone
    cases gone
  exact ⟨Nat.le_of_eq once, fun _ => ⟨List.mem_append_left _ h.loaded, notLost⟩, fun _ => once⟩

/-- The script is unloaded once, if it was loaded and the process did not go away, and never
otherwise. -/
theorem Finished.unloads {log : Log} (finished : Finished log) :
    log.countP Contact.isUnload ≤ 1 ∧
      (log.countP Contact.isUnload = 1 ↔ .call .loadScript true ∈ log ∧ ¬ Lost log) := by
  cases finished with
  | cancelled detached => simp [Contact.isUnload]
  | unheard detached => simp [Contact.isUnload]
  | notLoaded located detached => simp [Contact.isUnload]
  | notReady unloaded detached waiting _ => exact waiting.hasScript.unloaded_once rfl rfl
  | stopped unloaded detached cleaning => exact cleaning.hasScript.unloaded_once rfl rfl
  | refused unloaded detached live => exact live.hasScript.unloaded_once rfl rfl
  | lost reason live =>
    have script := live.hasScript
    simp [List.countP_append, script.countP_unload, Contact.isUnload, Lost]

/-- A session leaves a process by a detach, or because the process went away. -/
theorem Finished.ends {log : Log} (finished : Finished log) :
    (∃ detached, log.getLast? = some (.call .detach detached)) ∨ Lost log := by
  cases finished with
  | cancelled detached => exact .inl ⟨detached, rfl⟩
  | unheard detached => exact .inl ⟨detached, rfl⟩
  | notLoaded _ detached => exact .inl ⟨detached, rfl⟩
  | notReady _ detached _ _ => exact .inl ⟨detached, by simp⟩
  | stopped _ detached _ => exact .inl ⟨detached, by simp⟩
  | refused _ detached _ => exact .inl ⟨detached, by simp⟩
  | lost reason _ => exact .inr ⟨reason, by simp⟩

/-! ## Commands -/

/-- The script has told that it is ready, and was not asked to clean up. -/
def Ready (log : Log) : Prop :=
  (∃ message, .heard (.message message) ∈ log ∧ message.event? = some Event.ready) ∧
    ∀ asked, .call (.post .cleanup) asked ∉ log

/-- Every command was posted to a script that was ready. -/
def Served (log : Log) : Prop :=
  ∀ before after name data done,
    log = before ++ .call (.post (.command name data)) done :: after → Ready before

theorem Ready.snoc {log : Log} (ready : Ready log) {contact : Contact}
    (other : ∀ asked, contact ≠ .call (.post .cleanup) asked) : Ready (log ++ [contact]) := by
  obtain ⟨⟨message, present, event⟩, notAsked⟩ := ready
  refine ⟨⟨message, List.mem_append_left _ present, event⟩, fun asked inLog => ?_⟩
  rcases List.mem_append.1 inLog with inLog | inLast
  · exact notAsked asked inLog
  · exact other asked (List.mem_singleton.1 inLast).symm

theorem served_of_no_command {log : Log}
    (none : ∀ name data done, .call (.post (.command name data)) done ∉ log) : Served log := by
  rintro before after name data done rfl
  exact absurd (List.mem_append_right _ List.mem_cons_self) (none name data done)

theorem Served.append {log tail : Log} (served : Served log)
    (none : ∀ name data done, .call (.post (.command name data)) done ∉ tail) :
    Served (log ++ tail) := by
  intro before after name data done split
  -- The command stands in the tail, at its beginning, or in the log.
  rcases List.append_eq_append_iff.1 split with ⟨more, -, rfl⟩ | ⟨more, front, rest⟩
  · exact absurd (List.mem_append_right _ List.mem_cons_self) (none name data done)
  · cases more with
    | nil =>
      rw [List.nil_append] at rest
      exact absurd (rest ▸ List.mem_cons_self) (none name data done)
    | cons contact more =>
      obtain ⟨rfl, -⟩ := List.cons.inj rest
      exact served before more name data done front

theorem Served.command {log : Log} (served : Served log) (ready : Ready log) (name : String)
    (data : Json) (done : Bool) : Served (log ++ [.call (.post (.command name data)) done]) := by
  intro before after name' data' done' split
  rcases List.append_eq_append_iff.1 split with ⟨more, rfl, rest⟩ | ⟨more, front, rest⟩
  · cases more with
    | nil => simpa using ready
    | cons contact more => simp at rest
  · cases more with
    | nil =>
      rw [List.append_nil] at front
      exact front ▸ ready
    | cons contact more =>
      obtain ⟨rfl, -⟩ := List.cons.inj rest
      exact served before more name' data' done' front

theorem Waiting.served {log : Log} (waiting : Waiting log) : Served log := by
  obtain ⟨located, heard, -, rfl⟩ := waiting
  exact served_of_no_command fun _ _ _ => by simp [opening]

theorem Waiting.not_asked {log : Log} (waiting : Waiting log) (asked : Bool) :
    .call (.post .cleanup) asked ∉ log := by
  obtain ⟨located, heard, -, rfl⟩ := waiting
  simp [opening]

theorem Live.ready_served {log : Log} (live : Live log) : Ready log ∧ Served log := by
  induction live with
  | @ready log message waiting event =>
    refine ⟨⟨⟨message, by simp, event⟩, fun asked => ?_⟩, waiting.served.append fun _ _ _ => by simp⟩
    simpa using waiting.not_asked asked
  | command name data done _ ih =>
    exact ⟨ih.1.snoc fun _ => by simp, ih.2.command ih.1 name data done⟩
  | heard _ _ ih => exact ⟨ih.1.snoc fun _ => by simp, ih.2.append fun _ _ _ => by simp⟩

theorem Cleaning.served {log : Log} (cleaning : Cleaning log) : Served log := by
  induction cleaning with
  | asked live => exact live.ready_served.2.append fun _ _ _ => by simp
  | heard received _ ih => exact ih.append fun _ _ _ => by simp

/-- A command is posted neither before the script is ready nor after it was asked to clean up. -/
theorem Finished.served {log : Log} (finished : Finished log) : Served log := by
  cases finished with
  | cancelled => exact served_of_no_command fun _ _ _ => by simp
  | unheard => exact served_of_no_command fun _ _ _ => by simp
  | notLoaded => exact served_of_no_command fun _ _ _ => by simp
  | notReady _ _ waiting _ => exact waiting.served.append fun _ _ _ => by simp
  | stopped _ _ cleaning => exact cleaning.served.append fun _ _ _ => by simp
  | refused _ _ live => exact live.ready_served.2.append fun _ _ _ => by simp
  | lost _ live => exact live.ready_served.2.append fun _ _ _ => by simp

theorem Finishes.served {log : Log} (finishes : Finishes log) : Served log := by
  obtain ⟨rest, finished⟩ := finishes
  rintro before after name data done rfl
  exact finished.served before (after ++ rest) name data done (by simp)

end ModScript
