import ModScript.Proofs.Session.Waits

/-!
# Pumps

The delivery of pending events to an attached mod. A pump takes what is there, dispatches it, and ends when nothing
more comes. The notice that the process was lost ends the attachment. A channel that has closed without a notice
looks to a pump as if nothing had come: the mod stays attached, however many pumps follow, while a wait takes the
same for the loss of the process.

Results:
1. `pumped_step`: what one step does while the host only pumps.
2. `pumps_detach_only_noticed`: pumps deliver what they take, and end the attachment with the notice alone; a wait
   takes a closed channel for a notice.
3. `Run.pumps_keep_closed`: after any number of pumps on a closed channel, the mod is still attached.
-/

namespace ModScript

/-- The host does nothing but deliver pending events. -/
def OnlyPumps (trace : List Happening) : Prop := ∀ operation, .performed operation ∈ trace → operation.IsPump

/-- What was received, in order. -/
def received (trace : List Happening) : List Received := trace.filterMap Happening.received?

/-- What the host sees of what was received. -/
def Declaration.effectsOf (mod : Declaration) (taken : List Received) : List Effect :=
  taken.flatMap fun
    | .message message => mod.effects message
    | _ => []

/-- Nothing told that the process was lost. -/
def Unnoticed (taken : List Received) : Prop := ∀ reason, .detached reason ∉ taken

/-- Where pumps stand that were begun in `session`, to which the mod is attached, with what was taken and what was
seen. The session is the same until a notice is taken, and then it has no mod and is idle. -/
inductive Pumped (session : Session) (mod : Declaration) : List Received → List Effect → Stage → Prop
  | resting {now : Session} {taken : List Received} : Kept session now → Unnoticed taken →
    Pumped session mod taken (mod.effectsOf taken) (.resting now)
  | delivering {now : Session} {taken : List Received} {limit limit' : Duration} {count : Nat} :
    Kept session now → Unnoticed taken →
    Pumped session mod taken (mod.effectsOf taken) (.asking (.pump limit) now (.delivering mod count limit'))
  | handling {now : Session} {taken : List Received} {limit : Duration} {count : Nat} {message : Outbound}
    {label : String} : Kept session now → Unnoticed taken → (mod.delivery message).label = some label →
    Pumped session mod (taken ++ [.message message]) (mod.effectsOf taken)
      (.asking (.pump limit) now (.handling (.delivering mod count) label (mod.delivery message).event
        (mod.delivery message).data))
  | lost {now : Session} {taken : List Received} {reason : String} : now.mod = none → now.status = .idle →
    Unnoticed taken →
    Pumped session mod (taken ++ [.detached reason])
      (mod.effectsOf taken ++ if session.status = .idle then [] else [lostEffect reason]) (.resting now)

section

variable {session now : Session} {mod : Declaration} {stage stage' : Stage}
  {trace happenings : List Happening} {taken : List Received} {told : List Effect}

theorem received_append (happenings happenings' : List Happening) :
    received (happenings ++ happenings') = received happenings ++ received happenings' := List.filterMap_append

theorem received_happenings (operation : Operation) (turn : Turn) :
    received (turn.happenings operation) = [] :=
  List.filterMap_eq_nil_iff.2 <| turn.forall_happenings (fun _ => rfl) (fun _ _ => rfl) operation

theorem received_reply {request : Request} {reply : Reply request} (operation : Operation) (turn : Turn) :
    received (.exchanged request reply :: turn.happenings operation) =
      (Happening.exchanged request reply).received?.toList := by
  rw [← List.singleton_append, received_append, received_happenings, List.append_nil]
  cases taken : (Happening.exchanged request reply).received? <;> simp [received, taken]

theorem effectsOf_snoc (mod : Declaration) (taken : List Received) (message : Outbound) :
    mod.effectsOf (taken ++ [.message message]) = mod.effectsOf taken ++ mod.effects message := by
  simp [Declaration.effectsOf]

theorem effectsOf_silent (mod : Declaration) (taken : List Received) {last : Received}
    (silent : ∀ message, last ≠ .message message) : mod.effectsOf (taken ++ [last]) = mod.effectsOf taken := by
  cases last with
  | message message => exact absurd rfl (silent message)
  | _ => simp [Declaration.effectsOf]

theorem Unnoticed.snoc {last : Received} (unnoticed : Unnoticed taken)
    (other : ∀ reason, last ≠ .detached reason) : Unnoticed (taken ++ [last]) := by
  intro reason present
  rcases List.mem_append.1 present with inTaken | isLast
  · exact unnoticed reason inTaken
  · exact other reason (List.mem_singleton.1 isLast).symm

theorem Unnoticed.message (unnoticed : Unnoticed taken) (message : Outbound) :
    Unnoticed (taken ++ [.message message]) := by
  refine unnoticed.snoc fun reason same => ?_
  cases same

/-- A message is dispatched before anything else is taken. -/
theorem pumped_dispatch (limit : Duration) (count : Nat) (message : Outbound) (kept : Kept session now)
    (unnoticed : Unnoticed taken) :
    Pumped session mod (taken ++ [.message message])
      (mod.effectsOf taken ++
        (now.dispatch mod message (.delivering mod count)).outputs.filterMap Output.effect?)
      (.after (.pump limit) (now.dispatch mod message (.delivering mod count))) := by
  unfold Session.dispatch
  dsimp only
  split
  next label handled =>
    have quiet : (mod.delivery message).before.filterMap Output.effect? = [] :=
      List.filterMap_eq_nil_iff.2 (Journal.delivery_of_label handled).2.2
    rw [Turn.after, Session.ask]
    dsimp only
    rw [List.append_nil, quiet, List.append_nil]
    exact .handling kept unnoticed handled
  next unhandled =>
    have silent : (now.proceed (.delivering mod count)).outputs = [] := rfl
    rw [Turn.after, silent, List.append_nil]
    dsimp only
    rw [Journal.effects_delivery unhandled, ← effectsOf_snoc]
    exact .delivering kept (unnoticed.message message)

/-- The notice that the process was lost ends the attachment. -/
theorem pumped_lost (limit : Duration) (count : Nat) (reason : String) (kept : Kept session now)
    (unnoticed : Unnoticed taken) :
    Pumped session mod (taken ++ [.detached reason])
      (mod.effectsOf taken ++ (now.lost reason count).outputs.filterMap Output.effect?)
      (.after (.pump limit) (now.lost reason count)) := by
  obtain ⟨signal, rfl⟩ := kept
  have lost {ended : Session} (free : ended.mod = none) (idle : ended.status = .idle) :
      Pumped session mod (taken ++ [.detached reason]) _ (.resting ended) := .lost free idle unnoticed
  unfold Session.lost
  dsimp only
  split
  next idle =>
    rw [if_pos idle] at lost
    exact lost rfl idle
  next busy =>
    rw [if_neg busy] at lost
    rw [Session.withStatus, if_neg busy]
    exact lost rfl rfl

theorem pumped_deliver (limit : Duration) (count : Nat) (kept : Kept session now) (unnoticed : Unnoticed taken)
    (last : Received) :
    Pumped session mod (taken ++ [last])
      (mod.effectsOf taken ++ (now.deliver mod count last).outputs.filterMap Output.effect?)
      (.after (.pump limit) (now.deliver mod count last)) := by
  have ends (silent : ∀ message, last ≠ .message message) (other : ∀ reason, last ≠ .detached reason) :
      Pumped session mod (taken ++ [last]) (mod.effectsOf taken ++ []) (.resting now) := by
    rw [List.append_nil, ← effectsOf_silent mod taken silent]
    exact .resting kept (unnoticed.snoc other)
  -- A pump does not tell a channel that has closed from one on which nothing has come.
  cases last with
  | message message => exact pumped_dispatch limit (count + 1) message kept unnoticed
  | detached reason => exact pumped_lost limit (count + 1) reason kept unnoticed
  | nothing => exact ends nofun nofun
  | closed => exact ends nofun nofun

/-- A step that takes nothing and shows nothing. -/
theorem Pumped.quiet (pumped : Pumped session mod taken told stage) (takes : received happenings = [])
    (shows : seen happenings = []) :
    Pumped session mod (taken ++ received happenings) (told ++ seen happenings) stage := by
  rwa [takes, shows, List.append_nil, List.append_nil]

/-- What one step does while the host only pumps. -/
theorem pumped_step (attached : session.mod = some mod) (pumped : Pumped session mod taken told stage)
    (step : Step stage happenings stage') (pumps : OnlyPumps happenings) :
    Pumped session mod (taken ++ received happenings) (told ++ seen happenings) stage' := by
  cases pumped with
  | @resting now taken kept unnoticed =>
    cases step with
    | perform _ operation =>
      obtain ⟨limit, rfl⟩ := pumps operation List.mem_cons_self
      obtain ⟨signal, rfl⟩ := kept
      have first : { session with cancel := signal }.perform (.pump limit) =
          { session with cancel := signal }.ask (.delivering mod 0 limit) := by
        simp only [Session.perform, Session.pump, attached]
      rw [first]
      exact Pumped.quiet (.delivering ⟨signal, rfl⟩ unnoticed) rfl rfl
    | trigger _ => exact Pumped.quiet (.resting (kept.cancel now.cancel.trigger) unnoticed) rfl rfl
  | @delivering now taken limit limit' count kept unnoticed =>
    cases step with
    | reply _ _ _ reply =>
      rw [seen_reply _ rfl, received_reply]
      exact pumped_deliver limit count (kept.cancel (now.cancel.after reply.cancelled)) unnoticed reply.answer
  | @handling now taken limit count message label kept unnoticed handled =>
    cases step with
    | reply _ _ _ reply =>
      have silent : (now.proceed (.delivering mod count)).outputs.filterMap Output.effect? = [] := rfl
      have told := @seen_handled (.pump limit) _ _ _ _ handled reply.answer reply.cancelled silent
      have further : Pumped session mod _ _ (.asking (.pump limit) _ (.delivering mod count ⟨0⟩)) :=
        .delivering (kept.cancel (now.cancel.after reply.cancelled))
          (unnoticed.message message)
      rw [effectsOf_snoc, ← told] at further
      rw [received_reply]
      show Pumped session mod (taken ++ [.message message] ++ []) _ _
      rw [List.append_nil]
      exact further
  | @lost now taken reason free idle unnoticed =>
    cases step with
    | perform _ operation =>
      obtain ⟨limit, rfl⟩ := pumps operation List.mem_cons_self
      have first : now.perform (.pump limit) = now.finish (.delivered 0) := by
        simp only [Session.perform, Session.pump, free]
      rw [first]
      exact Pumped.quiet (.lost free idle unnoticed) rfl rfl
    | trigger _ =>
      have lost : Pumped session mod (taken ++ [.detached reason]) _ (.resting now.cancelNow) :=
        .lost free idle unnoticed
      exact lost.quiet rfl rfl

/-! ## Many steps -/

theorem OnlyPumps.of_append (pumps : OnlyPumps (trace ++ happenings)) :
    OnlyPumps trace ∧ OnlyPumps happenings :=
  ⟨fun operation present => pumps operation (List.mem_append_left _ present),
    fun operation present => pumps operation (List.mem_append_right _ present)⟩

theorem Steps.pumped (attached : session.mod = some mod) (steps : Steps (.resting session) trace stage)
    (pumps : OnlyPumps trace) : Pumped session mod (received trace) (seen trace) stage := by
  induction steps with
  | none => exact .resting ⟨session.cancel, rfl⟩ fun _ => List.not_mem_nil
  | step _ step ih =>
    obtain ⟨before, after⟩ := pumps.of_append
    rw [received_append, seen_append]
    exact pumped_step attached (ih before) step after

theorem Pumped.kept (pumped : Pumped session mod taken told (.resting now)) (unnoticed : Unnoticed taken) :
    Kept session now ∧ told = mod.effectsOf taken := by
  cases pumped with
  | resting kept => exact ⟨kept, rfl⟩
  | @lost _ taken reason => exact absurd (List.mem_append_right _ List.mem_cons_self) (unnoticed reason)

theorem Pumped.detached (pumped : Pumped session mod taken told (.resting now)) {reason : String}
    (noticed : .detached reason ∈ taken) : now.mod = none ∧ now.status = .idle := by
  cases pumped with
  | resting kept unnoticed => exact absurd noticed (unnoticed reason)
  | lost free idle => exact ⟨free, idle⟩

/-! ## Pumps on a closed channel -/

/-- How the operations have ended. -/
def outcomes (trace : List Happening) : List Outcome := trace.filterMap fun
  | .ended _ outcome => some outcome
  | _ => none

/-- Every operation that begins is a pump that waits at most so long for the first event. -/
def PumpsFor (limit : Duration) (trace : List Happening) : Prop :=
  ∀ operation, .performed operation ∈ trace → operation = .pump limit

theorem PumpsFor.onlyPumps {limit : Duration} (pumps : PumpsFor limit trace) : OnlyPumps trace :=
  fun operation present => ⟨limit, pumps operation present⟩

theorem PumpsFor.append {limit : Duration} (before : PumpsFor limit trace) (after : PumpsFor limit happenings) :
    PumpsFor limit (trace ++ happenings) := by
  intro operation present
  rcases List.mem_append.1 present with inTrace | inHappenings
  · exact before operation inTrace
  · exact after operation inHappenings

theorem outcomes_append (happenings happenings' : List Happening) :
    outcomes (happenings ++ happenings') = outcomes happenings ++ outcomes happenings' := List.filterMap_append

/-- Nothing begins and nothing ends. -/
def Amid (trace : List Happening) : Prop := ∀ happening ∈ trace, happening.isBoundary = false

theorem Amid.append (before : Amid trace) (after : Amid happenings) : Amid (trace ++ happenings) := by
  intro happening present
  rcases List.mem_append.1 present with inTrace | inHappenings
  · exact before happening inTrace
  · exact after happening inHappenings

theorem amid_reply {request : Request} {reply : Reply request} {turn : Turn} {point : Point}
    (operation : Operation) (asks : turn.next = .ask point) :
    Amid (.exchanged request reply :: turn.happenings operation) := by
  intro happening present
  rcases List.mem_cons.1 present with rfl | inTurn
  · rfl
  · rcases Turn.mem_happenings_iff.1 inTurn with ⟨output, -, rfl⟩ | ⟨outcome, ends, -⟩
    · rfl
    · cases asks.symm.trans ends

theorem Amid.pumpsFor (amid : Amid trace) (limit : Duration) : PumpsFor limit trace := by
  intro operation present
  cases amid _ present

theorem Amid.outcomes_eq (amid : Amid trace) : outcomes trace = [] := by
  refine List.filterMap_eq_nil_iff.2 fun happening present => ?_
  have inside := amid happening present
  cases happening with
  | ended operation outcome => cases inside
  | _ => rfl

theorem Kept.trans {now' : Session} (kept : Kept session now) (further : Kept now now') : Kept session now' := by
  obtain ⟨signal, rfl⟩ := kept
  obtain ⟨signal', rfl⟩ := further
  exact ⟨signal', rfl⟩

/-- A message that is queued is delivered, and the pump goes on. -/
theorem exists_delivered (operation : Operation) (now : Session) (mod : Declaration) (count : Nat)
    (limit : Duration) (message : Outbound) :
    ∃ trace now', Steps (.asking operation now (.delivering mod count limit)) trace
        (.asking operation now' (.delivering mod (count + 1) ⟨0⟩)) ∧ Kept now now' ∧
      received trace = [.message message] ∧ Amid trace := by
  let delivery := mod.delivery message
  let taken : Reply (Point.delivering mod count limit).request := ⟨.message message, false⟩
  let now₁ : Session := { now with cancel := now.cancel.after false }
  let turn : Turn := now₁.dispatch mod message (.delivering mod (count + 1))
  have takes : Steps _ (.exchanged (.receive limit) taken :: turn.happenings operation) (.after operation turn) :=
    .single (.reply operation now (.delivering mod count limit) taken)
  have heard : received (.exchanged (.receive limit) taken :: turn.happenings operation) = [.message message] :=
    received_reply operation turn
  cases label : (mod.delivery message).label with
  | none =>
    have next : turn = (now₁.proceed (.delivering mod (count + 1))).after
        (delivery.before ++ [.event (.game delivery.event delivery.data)]) := by
      simp only [turn, Session.dispatch, label, delivery]
    rw [next] at takes heard
    exact ⟨_, now₁, takes, ⟨_, rfl⟩, heard, amid_reply operation rfl⟩
  | some label' =>
    let point : Point := .handling (.delivering mod (count + 1)) label' delivery.event delivery.data
    let handled : Reply point.request := ⟨Except.ok (), false⟩
    have next : turn = (now₁.ask point).after delivery.before := by
      simp only [turn, Session.dispatch, label, delivery, point]
    rw [next] at takes heard
    have handles : Steps _ (.exchanged point.request handled :: (now₁.resume point handled).happenings operation)
        (.after operation (now₁.resume point handled)) := .single (.reply operation now₁ point handled)
    refine ⟨_, _, takes.trans handles, ⟨_, rfl⟩, ?_, ?_⟩
    · rw [received_append, heard, received_reply]
      rfl
    · exact (amid_reply operation rfl).append (amid_reply operation rfl)

/-- Everything that is queued is delivered by one pump. -/
theorem exists_queue (operation : Operation) (now : Session) (mod : Declaration) (count : Nat) (limit : Duration)
    (queued : List Outbound) :
    ∃ trace now' limit', Steps (.asking operation now (.delivering mod count limit)) trace
        (.asking operation now' (.delivering mod (count + queued.length) limit')) ∧ Kept now now' ∧
      received trace = queued.map .message ∧ Amid trace := by
  induction queued generalizing now count limit with
  | nil => exact ⟨[], now, limit, .none, ⟨now.cancel, rfl⟩, rfl, fun _ none => absurd none List.not_mem_nil⟩
  | cons message queued ih =>
    obtain ⟨trace, now₁, takes, kept, heard, amid⟩ := exists_delivered operation now mod count limit message
    obtain ⟨more, now₂, limit', further, kept', heard', amid'⟩ := ih now₁ (count + 1) ⟨0⟩
    have length : count + (message :: queued).length = count + 1 + queued.length := by
      rw [List.length_cons]
      omega
    rw [length]
    refine ⟨_, now₂, limit', takes.trans further, kept.trans kept', ?_, amid.append amid'⟩
    rw [received_append, heard, heard']
    rfl

/-- A pump delivers what is queued on a closed channel, and leaves the session as it was. -/
theorem exists_pump (attached : session.mod = some mod) (limit : Duration) (queued : List Outbound) :
    ∃ trace now, Steps (.resting session) trace (.resting now) ∧ Kept session now ∧ PumpsFor limit trace ∧
      received trace = queued.map .message ++ [.closed] ∧ outcomes trace = [.delivered queued.length] := by
  have first : session.perform (.pump limit) = session.ask (.delivering mod 0 limit) := by
    simp only [Session.perform, Session.pump, attached]
  have begins := Steps.single (.perform session (.pump limit))
  rw [first] at begins
  obtain ⟨trace, now, limit', takes, kept, heard, amid⟩ :=
    exists_queue (.pump limit) session mod 0 limit queued
  rw [Nat.zero_add] at takes
  let closed : Reply (Point.delivering mod queued.length limit').request := ⟨.closed, false⟩
  have ends := Steps.single (.reply (.pump limit) now (.delivering mod queued.length limit') closed)
  refine ⟨_, _, (begins.trans takes).trans ends, kept.cancel _, ?_, ?_, ?_⟩
  · intro operation present
    rcases List.mem_append.1 present with inFront | inEnd
    · rcases List.mem_append.1 inFront with inBegin | inQueue
      · cases List.mem_singleton.1 inBegin
        rfl
      · exact amid.pumpsFor limit operation inQueue
    · rcases List.mem_cons.1 inEnd with same | inTurn
      · cases same
      · simp [Turn.mem_happenings_iff] at inTurn
  · rw [received_append, received_append, heard, received_reply]
    rfl
  · rw [outcomes_append, outcomes_append, amid.outcomes_eq]
    rfl

theorem Kept.mod_eq (kept : Kept session now) : now.mod = session.mod := by
  obtain ⟨signal, rfl⟩ := kept
  rfl

theorem Kept.status_eq (kept : Kept session now) : now.status = session.status := by
  obtain ⟨signal, rfl⟩ := kept
  rfl

/-- The same for any number of further pumps, which deliver nothing. -/
theorem exists_pumps (attached : session.mod = some mod) (limit : Duration) (queued : List Outbound) (n : Nat) :
    ∃ trace now, Steps (.resting session) trace (.resting now) ∧ Kept session now ∧ PumpsFor limit trace ∧
      received trace = queued.map .message ++ List.replicate (n + 1) .closed ∧
      outcomes trace = .delivered queued.length :: List.replicate n (.delivered 0) := by
  induction n with
  | zero => exact exists_pump attached limit queued
  | succ n ih =>
    obtain ⟨trace, now, pumps, kept, only, heard, ended⟩ := ih
    obtain ⟨more, now', further, kept', only', heard', ended'⟩ :=
      exists_pump (kept.mod_eq.trans attached) limit []
    refine ⟨trace ++ more, now', pumps.trans further, kept.trans kept', only.append only', ?_, ?_⟩
    · have more : List.replicate (n + 1 + 1) Received.closed = List.replicate (n + 1) .closed ++ [.closed] :=
        List.replicate_succ'
      rw [received_append, heard, heard', List.append_assoc, more]
      rfl
    · rw [outcomes_append, ended, ended', List.cons_append, List.replicate_succ']
      rfl

/-- Pumps end an attachment only with the notice that the process was lost.
1. If no notice is taken, the session is the same but for its signal, and the host has seen what was taken.
2. If a notice is taken, no mod is attached, and the session is idle.
3. On a channel that has closed, whatever is queued on it, any number of pumps may follow: the first delivers what
   is queued, and the others deliver nothing.
4. A wait takes a closed channel for the loss of the process. -/
theorem pumps_detach_only_noticed {session : Session} {mod : Declaration} (attached : session.mod = some mod) :
    (∀ trace now, Steps (.resting session) trace (.resting now) → OnlyPumps trace →
      Unnoticed (received trace) → Kept session now ∧ seen trace = mod.effectsOf (received trace)) ∧
    (∀ trace now reason, Steps (.resting session) trace (.resting now) → OnlyPumps trace →
      .detached reason ∈ received trace → now.mod = none ∧ now.status = .idle) ∧
    (∀ (limit : Duration) (queued : List Outbound) (n : Nat), ∃ trace now,
      Steps (.resting session) trace (.resting now) ∧ Kept session now ∧ PumpsFor limit trace ∧
        received trace = queued.map .message ++ List.replicate (n + 1) .closed ∧
        outcomes trace = .delivered queued.length :: List.replicate n (.delivered 0)) ∧
    ∀ (now : Session) (wait : Wait) (deadline : Duration),
      now.heard wait deadline .closed = now.heard wait deadline (.detached "event channel closed") := by
  refine ⟨?unnoticed, ?noticed, exists_pumps attached, fun _ _ _ => rfl⟩
  case unnoticed =>
    intro trace now steps pumps unnoticed
    exact (steps.pumped attached pumps).kept unnoticed
  case noticed =>
    intro trace now reason steps pumps noticed
    exact (steps.pumped attached pumps).detached noticed

end

/-- There is a run at whose end a mod is attached and the session active. -/
theorem exists_attached :
    ∃ catalog trace, Run (.new catalog {}) trace (.resting (attachedSession catalog)) := by
  obtain ⟨catalog, game, loaded, known⟩ := GameCatalog.exists_loaded
  obtain ⟨resolution, resolved⟩ := loaded.resolve_ok known none
  obtain ⟨trace, run⟩ := exists_run_attached known resolved
  exact ⟨catalog, trace, run⟩

/-- Two pumps on a closed channel on which a message was queued. -/
theorem pumps_detach_only_noticed_tick :
    ∃ catalog front trace now, Run (.new catalog {}) (front ++ trace) (.resting now) ∧
      received trace = [.message tick, .closed, .closed] ∧ seen trace = [.shown "tick" .null] ∧
      outcomes trace = [.delivered 1, .delivered 0] ∧ now.isActive = true := by
  obtain ⟨catalog, front, run⟩ := exists_attached
  obtain ⟨sees, -, pumps, -⟩ := pumps_detach_only_noticed (rfl : (attachedSession catalog).mod = some idleMod)
  obtain ⟨trace, now, steps, kept, only, heard, ended⟩ := pumps ⟨0⟩ [tick] 1
  have unnoticed : Unnoticed (received trace) := by
    intro reason
    rw [heard]
    simp
  have effects := (sees trace now steps only.onlyPumps unnoticed).2
  rw [heard] at effects
  refine ⟨catalog, front, trace, now, run.steps steps, heard, effects, ended, ?_⟩
  rw [Session.isActive, kept.mod_eq]
  rfl

/-- A mod is still attached, and the session active, after any number of pumps on a channel that has closed, whatever
was queued on it. -/
theorem Run.pumps_keep_closed :
    ∃ catalog front, ∀ (queued : List Outbound) (n : Nat), ∃ trace now,
      Run (.new catalog {}) (front ++ trace) (.resting now) ∧ PumpsFor ⟨0⟩ trace ∧
      received trace = queued.map .message ++ List.replicate (n + 1) .closed ∧
      outcomes trace = .delivered queued.length :: List.replicate n (.delivered 0) ∧
      now.isActive = true ∧ now.status = .active := by
  obtain ⟨catalog, front, run⟩ := exists_attached
  refine ⟨catalog, front, fun queued n => ?_⟩
  have attached : (attachedSession catalog).mod = some idleMod := rfl
  obtain ⟨trace, now, steps, kept, only, heard, ended⟩ := exists_pumps attached ⟨0⟩ queued n
  refine ⟨trace, now, run.steps steps, only, heard, ended, ?_, kept.status_eq⟩
  rw [Session.isActive, kept.mod_eq]
  rfl

end ModScript
