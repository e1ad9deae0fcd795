import Mathlib.Data.List.Forall2
import Mathlib.Data.List.Induction
import ModScript.Proofs.Catalog
import ModScript.Proofs.Session.Visit

/-!
# Delivery of events

Each attached process has a channel of its own, in which everything that it tells waits until the session
takes it. A process may tell something at any moment. The session takes the oldest that waits in the
newest channel; it gets nothing only if nothing waits there. Whoever takes the events of a process, the
wait for its script, a pump or the wait for its cleanup, takes them in order, and what was not taken is
still there for the next one.

Results:
1. `Fed.exists`: every trace happens with channels that fit.
2. `Fed.forall₂_visits`: what was taken in a visit is what has come, but for what still waits.
3. `Underway.counts`: a pump counts what it has taken.
4. `Run.delivers_in_order`: nothing is lost, taken twice or out of order.
-/

namespace ModScript

/-! ## Channels -/

/-- What a process has told, and what of it still waits to be taken. -/
structure Channel where
  arrived : List Arrival
  unread : List Arrival

namespace Channel

def empty : Channel := ⟨[], []⟩

/-- The process has told something more. -/
def push (channel : Channel) (arrival : Arrival) : Channel :=
  ⟨channel.arrived ++ [arrival], channel.unread ++ [arrival]⟩

/-- `Gives taken channels channels'`: the newest channel gives the oldest that waits in it, or nothing if
nothing waits. -/
inductive Gives : Option Arrival → List Channel → List Channel → Prop
  | oldest (arrived unread : List Arrival) (arrival : Arrival) (older : List Channel) :
    Gives (some arrival) (⟨arrived, arrival :: unread⟩ :: older) (⟨arrived, unread⟩ :: older)
  | nothing {channels : List Channel} : (∀ channel ∈ channels.head?, channel.unread = []) →
    Gives none channels channels

end Channel

/-- What happens to the channels, the newest first: a process that is attached has a new one. -/
def Happening.Affects (happening : Happening) (channels channels' : List Channel) : Prop :=
  if happening.attaches then channels' = .empty :: channels
  else
    match happening.received? with
    | some received => Channel.Gives received.arrival? channels channels'
    | none => channels' = channels

/-- The trace happened while the processes told what came in their channels. -/
inductive Fed : List Happening → List Channel → Prop
  | start : Fed [] []
  | arrive {trace : List Happening} {channels : List Channel} (index : Nat) (arrival : Arrival) :
    Fed trace channels → Fed trace (channels.modify index fun channel => channel.push arrival)
  | happen {trace : List Happening} {channels channels' : List Channel} {happening : Happening} :
    Fed trace channels → happening.Affects channels channels' → Fed (trace ++ [happening]) channels'

/-- What was taken in a visit is what has come, but for what still waits. -/
def Visit.Drains (visit : Visit) (channel : Channel) : Prop :=
  visit.heard ++ channel.unread = channel.arrived

theorem Visit.Drains.push {visit : Visit} {channel : Channel} (drains : visit.Drains channel)
    (arrival : Arrival) : visit.Drains (channel.push arrival) := by
  unfold Visit.Drains Channel.push at *
  rw [← drains, List.append_assoc]

theorem forall₂_modify {visits : List Visit} {channels : List Channel}
    (drain : List.Forall₂ Visit.Drains visits channels) (index : Nat) (arrival : Arrival) :
    List.Forall₂ Visit.Drains visits
      (channels.modify index fun channel => channel.push arrival) := by
  induction drain generalizing index with
  | nil => cases index <;> exact .nil
  | cons drains rest ih =>
    cases index with
    | zero => exact .cons (drains.push arrival) rest
    | succ index => exact .cons drains (ih index)

namespace Journal

theorem ofTrace_concat (trace : List Happening) (happening : Happening) :
    ofTrace (trace ++ [happening]) = (ofTrace trace).note happening :=
  ofTrace_append trace [happening]

/-- Whatever has strayed stays so. -/
theorem strayed_of_note {journal : Journal} {happening : Happening}
    (kept : (journal.note happening).strayed = false) : journal.strayed = false := by
  unfold note at kept
  split at kept
  · exact (Bool.or_eq_false_iff.1 kept).1
  · exact (Bool.or_eq_false_iff.1 kept).1

theorem note_attaches {journal : Journal} {happening : Happening} (attaches : happening.attaches = true)
    (kept : (journal.note happening).strayed = false) :
    ∃ mod, (journal.note happening).visits = ⟨mod, [], []⟩ :: journal.visits := by
  simp only [note, attaches, if_true, attach, Bool.or_eq_false_iff] at kept ⊢
  cases begun : journal.begun with
  | none => simp [begun] at kept
  | some mod => exact ⟨mod, rfl⟩

theorem visits_note {journal : Journal} {happening : Happening} (calm : happening.attaches = false) :
    (journal.note happening).visits = journal.visits.modifyHead fun visit => visit.add happening := by
  simp [note, calm]

/-- What is taken is taken in a visit. -/
theorem exists_newest_of_note {journal : Journal} {happening : Happening} {arrival : Arrival}
    (kept : (journal.note happening).strayed = false) (calm : happening.attaches = false)
    (taken : happening.arrival? = some arrival) : ∃ visit older, journal.visits = visit :: older := by
  cases visits : journal.visits with
  | nil => simp [note, calm, taken, visits] at kept
  | cons visit older => exact ⟨visit, older, rfl⟩

/-- A step of the channels is a step of the visits. -/
theorem forall₂_note {journal : Journal} {happening : Happening} {channels channels' : List Channel}
    (kept : (journal.note happening).strayed = false)
    (drain : List.Forall₂ Visit.Drains journal.visits channels)
    (affects : happening.Affects channels channels') :
    List.Forall₂ Visit.Drains (journal.note happening).visits channels' := by
  obtain ⟨begun, visits, strayed⟩ := journal
  have untaken (hears : happening.arrival? = none) :
      List.Forall₂ Visit.Drains (visits.modifyHead fun visit => visit.add happening) channels := by
    cases drain with
    | nil => exact .nil
    | cons drains rest => exact .cons (by simpa [Visit.Drains, Visit.add, hears] using drains) rest
  unfold Happening.Affects at affects
  split at affects
  next attaches =>
    obtain ⟨mod, begins⟩ := note_attaches attaches kept
    rw [begins, affects]
    exact .cons rfl drain
  next calm =>
    rw [visits_note (by simpa using calm)]
    split at affects
    next received receives =>
      have taken : happening.arrival? = received.arrival? := by simp [Happening.arrival?, receives]
      generalize given : received.arrival? = arrival at affects
      cases affects with
      | oldest arrived unread arrival older =>
        cases drain with
        | cons drains rest =>
          refine .cons ?_ rest
          simpa [Visit.Drains, Visit.add, taken.trans given] using drains
      | nothing => exact untaken (taken.trans given)
    next receives =>
      rw [affects]
      exact untaken (by simp [Happening.arrival?, receives])

end Journal

theorem Fed.forall₂_visits {trace : List Happening} {channels : List Channel} (fed : Fed trace channels)
    (kept : (Journal.ofTrace trace).strayed = false) :
    List.Forall₂ Visit.Drains (Journal.ofTrace trace).visits channels := by
  induction fed with
  | start => exact .nil
  | arrive index arrival _ ih => exact forall₂_modify (ih kept) index arrival
  | happen _ affects ih =>
    rw [Journal.ofTrace_concat] at kept ⊢
    exact Journal.forall₂_note kept (ih (Journal.strayed_of_note kept)) affects

/-- The channels in which everything came just before it was taken. -/
def Journal.channels (journal : Journal) : List Channel :=
  journal.visits.map fun visit => ⟨visit.heard, []⟩

theorem Journal.channels_of_untaken {journal : Journal} {happening : Happening}
    (calm : happening.attaches = false) (hears : happening.arrival? = none) :
    (journal.note happening).channels = journal.channels := by
  unfold channels
  rw [visits_note calm]
  cases journal.visits with
  | nil => rfl
  | cons visit older => simp [Visit.add, hears]

theorem Fed.exists {trace : List Happening} (kept : (Journal.ofTrace trace).strayed = false) :
    Fed trace (Journal.ofTrace trace).channels := by
  induction trace using List.reverseRecOn with
  | nil => exact .start
  | append_singleton trace happening ih =>
    rw [Journal.ofTrace_concat] at kept ⊢
    have fed := ih (Journal.strayed_of_note kept)
    generalize Journal.ofTrace trace = journal at *
    cases attaches : happening.attaches with
    | true =>
      obtain ⟨mod, begins⟩ := Journal.note_attaches attaches kept
      refine fed.happen ?_
      simp [Happening.Affects, attaches, Journal.channels, begins, Channel.empty]
    | false =>
      cases taken : happening.arrival? with
      | none =>
        rw [Journal.channels_of_untaken attaches taken]
        have allRead : ∀ channel ∈ journal.channels.head?, channel.unread = [] := by
          intro channel newest
          obtain ⟨visit, -, rfl⟩ := List.mem_map.1 (List.mem_of_mem_head? newest)
          rfl
        refine fed.happen ?_
        simp only [Happening.Affects, attaches, Bool.false_eq_true, if_false]
        split
        next received receives =>
          have none : received.arrival? = none := by simpa [Happening.arrival?, receives] using taken
          exact none ▸ .nothing allRead
        next => trivial
      | some arrival =>
        obtain ⟨visit, older, visits⟩ := Journal.exists_newest_of_note kept attaches taken
        refine (fed.arrive 0 arrival).happen ?_
        simp only [Happening.Affects, attaches, Bool.false_eq_true, if_false]
        split
        next received receives =>
          have some : received.arrival? = some arrival := by
            simpa [Happening.arrival?, receives] using taken
          rw [some]
          simp only [Journal.channels, Journal.visits_note attaches, visits, List.map_cons,
            List.modifyHead_cons, Visit.add, taken]
          exact .oldest _ [] arrival _
        next receives => simp [Happening.arrival?, receives] at taken

/-! ## Pumps -/

/-- The number of what was taken so far stands at the point. -/
inductive Point.Counts (taken : Nat) : Point → Prop
  | delivering (mod : Declaration) (limit : Duration) : Counts taken (.delivering mod taken limit)
  | handling (mod : Declaration) (label event : String) (data : Json) :
    Counts taken (.handling (.delivering mod taken) label event data)

/-- The pump goes on with the number of what was taken, or ends with it; it never crashes. -/
def Turn.Counts (taken : Nat) (turn : Turn) : Prop :=
  match turn.next with
  | .ask point => point.Counts taken
  | .finish outcome => outcome = .delivered taken
  | .crash _ => False

section

variable {session : Session} {mod : Declaration}

theorem counts_dispatch (message : Outbound) (count : Nat) :
    (session.dispatch mod message (.delivering mod count)).Counts count := by
  unfold Session.dispatch
  dsimp only
  split
  · exact Point.Counts.handling mod _ _ _
  · exact Point.Counts.delivering mod _

theorem counts_lost (reason : String) (count : Nat) : (session.lost reason count).Counts count := by
  unfold Session.lost Session.withStatus
  dsimp only
  split
  · exact rfl
  · exact rfl

/-- What was received is counted if something was taken. -/
theorem counts_deliver (count : Nat) (received : Received) :
    (session.deliver mod count received).Counts (count + received.arrival?.toList.length) := by
  cases received with
  | message message => exact counts_dispatch message (count + 1)
  | detached reason => exact counts_lost reason (count + 1)
  | nothing => exact rfl
  | closed => exact rfl

theorem arrivals_happenings (turn : Turn) (operation : Operation) :
    (turn.happenings operation).filterMap Happening.arrival? = [] := by
  rw [List.filterMap_eq_nil_iff]
  intro happening present
  rcases Turn.mem_happenings_iff.1 present with ⟨output, -, rfl⟩ | ⟨outcome, -, rfl⟩ <;> rfl

theorem arrivals_exchanged (during : List Happening) (turn : Turn) (operation : Operation)
    (happening : Happening) :
    ((during ++ turn.happenings operation ++ [happening]).filterMap Happening.arrival?).length =
      (during.filterMap Happening.arrival?).length + happening.arrival?.toList.length := by
  rw [List.filterMap_append, List.filterMap_append, arrivals_happenings, List.append_nil,
    List.length_append]
  cases taken : happening.arrival? <;> simp [taken]

/-- A pump counts what it has taken. -/
theorem Underway.counts {limit : Duration} {during : List Happening} {turn : Turn}
    (underway : Underway session (.pump limit) during turn) :
    turn.Counts (during.filterMap Happening.arrival?).length := by
  induction underway with
  | first =>
    simp only [Session.perform, Session.pump]
    split
    · exact Point.Counts.delivering _ limit
    · exact rfl
  | @reply during turn point reply _ asks ih =>
    rw [arrivals_exchanged]
    simp only [Turn.Counts, asks] at ih
    cases ih with
    | delivering mod limit' => exact counts_deliver _ reply.answer
    | handling mod label event data => exact Point.Counts.delivering mod _

end

/-- A pump tells how much it has taken. -/
theorem Run.delivered_count {session : Session} {trace before after : List Happening} {stage : Stage}
    {limit : Duration} {outcome : Outcome} (run : Run session trace stage)
    (split : trace = before ++ .ended (.pump limit) outcome :: after) :
    ∃ earlier during, before = earlier ++ .performed (.pump limit) :: during ∧
      (∀ happening ∈ during, happening.isBoundary = false) ∧
      outcome = .delivered (during.filterMap Happening.arrival?).length := by
  obtain ⟨earlier, begun, operation, during, turn, front, back, -, underway, same, unbroken, rfl⟩ :=
    run.exists_underway_of_split split rfl
  obtain ⟨rfl, finishes, rfl⟩ := Turn.ended underway.unbroken same
  refine ⟨earlier, _, rfl, unbroken, ?_⟩
  have counts := underway.counts
  simp only [Turn.Counts, finishes] at counts
  have shown : (turn.outputs.map Happening.shown).filterMap Happening.arrival? = [] := by
    simp [List.filterMap_map, Function.comp_def, Happening.arrival?, Happening.received?]
  rw [List.filterMap_append, shown, List.append_nil]
  exact counts

/-! ## All visits of a run -/

/-- The host is handling the last event of the visit, of which nothing was seen yet. -/
def Visit.Handling (visit : Visit) (label event : String) (data : Json) : Prop :=
  ∃ messages, visit = .amid visit.mod messages (.send event data) [] ∧
    visit.mod.events.get? event = some (.host label)

/-- What a stage leaves undone in the newest visit: at most the handling of one event. -/
def Visit.AtStage (visit : Visit) (stage : Stage) : Prop :=
  visit.Over ∨ ∃ operation session listener label event data,
    stage = .asking operation session (.handling listener label event data) ∧
      visit.Handling label event data

namespace Journal

variable {journal : Journal}

theorem AllOver.visits (allOver : journal.AllOver) (stage : Stage) :
    (∀ visit ∈ journal.visits.head?, visit.AtStage stage) ∧
      ∀ visit ∈ journal.visits.tail, visit.Over :=
  ⟨fun visit newest => .inl (allOver.2 visit (List.mem_of_mem_head? newest)),
    fun visit older => allOver.2 visit (List.mem_of_mem_tail older)⟩

theorem Newest.visits {visit : Visit} {stage : Stage} (newest : journal.Newest visit)
    (atStage : visit.AtStage stage) :
    (∀ visit ∈ journal.visits.head?, visit.AtStage stage) ∧
      ∀ visit ∈ journal.visits.tail, visit.Over := by
  obtain ⟨-, older, visits, allOver⟩ := newest
  rw [visits]
  refine ⟨fun other isNewest => ?_, allOver⟩
  cases isNewest
  exact atStage

theorem AtRest.visits {session : Session} (rests : journal.AtRest session) (stage : Stage) :
    journal.strayed = false ∧ (∀ visit ∈ journal.visits.head?, visit.AtStage stage) ∧
      ∀ visit ∈ journal.visits.tail, visit.Over := by
  rcases rests with ⟨-, allOver⟩ | ⟨mod, messages, -, newest⟩
  · exact ⟨allOver.1, allOver.visits stage⟩
  · exact ⟨newest.1, newest.visits (.inl (.heard mod messages))⟩

theorem AtStage.visits {stage : Stage} (told : journal.AtStage stage) :
    journal.strayed = false ∧ (∀ visit ∈ journal.visits.head?, visit.AtStage stage) ∧
      ∀ visit ∈ journal.visits.tail, visit.Over := by
  match stage, told with
  | .resting _, told => exact AtRest.visits told _
  | .closed _, told => exact AtRest.visits told _
  | .crashed _ _ wait, ⟨_, messages, _, newest⟩ =>
    exact ⟨newest.1, newest.visits (.inl (.heard wait.mod messages))⟩
  | .asking operation session point, ⟨_, _, told⟩ =>
    cases point with
    | finding _ _ | spawning _ _ | pausing _ _ _ | attaching _ _ | detachingCancelled
      | unloadingFailed _ | detachingFailed _ | unloadingStopped _ | detachingStopped _ =>
      exact ⟨told.2.1, AllOver.visits told.2 _⟩
    | takingEvents job | locating job | reading job _ | loading job _ =>
      exact ⟨told.2.1, Newest.visits told.2 (.inl (.heard job.mod []))⟩
    | settingDeadline wait | readingClock wait _ | receiving wait _ _ =>
      obtain ⟨-, messages, -, newest⟩ := told
      exact ⟨newest.1, newest.visits (.inl (.heard wait.mod messages))⟩
    | requestingCleanup mod _ | delivering mod _ _ =>
      obtain ⟨-, messages, newest⟩ := told
      exact ⟨newest.1, newest.visits (.inl (.heard mod messages))⟩
    | commanding _ _ =>
      obtain ⟨mod, messages, -, newest⟩ := told
      exact ⟨newest.1, newest.visits (.inl (.heard mod messages))⟩
    | handling listener label event data =>
      obtain ⟨messages, -, found, newest⟩ := told
      exact ⟨newest.1, newest.visits
        (.inr ⟨operation, session, listener, label, event, data, rfl, messages, rfl, found⟩)⟩

end Journal

/-- Nothing is lost, taken twice or out of order. In each visit, what the session has taken from the
events of the process is all that has come, in order, but for what still waits. Everything that was taken
was taken in a visit, and so everything that was seen, in the order of the visits. What was taken in a
visit is messages, and then perhaps that the process was lost; what was seen are the effects of these
messages in their order, each message with its own once, but for the last message of the newest visit while
the host handles it. A start that succeeds has taken the messages up to the first that tells that the
script is ready. A pump that ends tells how much it has taken. -/
theorem Run.delivers_in_order {catalog : GameCatalog} {timing : Timing} {trace : List Happening}
    {stage : Stage} {channels : List Channel} (run : Run (.new catalog timing) trace stage)
    (fed : Fed trace channels) :
    List.Forall₂ (fun visit channel => visit.heard ++ channel.unread = channel.arrived)
      (Journal.ofTrace trace).visits channels ∧
    trace.filterMap Happening.arrival? =
      (Journal.ofTrace trace).visits.reverse.flatMap Visit.heard ∧
    trace.filterMap Happening.effect? =
      (Journal.ofTrace trace).visits.reverse.flatMap Visit.effects ∧
    (∀ visit ∈ (Journal.ofTrace trace).visits.head?, visit.AtStage stage) ∧
    (∀ visit ∈ (Journal.ofTrace trace).visits.tail, visit.Over) ∧
    (∀ before after operation patch, trace = before ++ .ended operation (.started patch) :: after →
      ∃ earlier during, before = earlier ++ .performed operation :: during ∧ operation.IsStart ∧
        (∀ happening ∈ during, happening.isBoundary = false) ∧
        (∃ happening ∈ during, happening.attaches = true) ∧
        ∃ mod, (Journal.ofTrace before).JustReady mod) ∧
    ∀ before after limit outcome, trace = before ++ .ended (.pump limit) outcome :: after →
      ∃ earlier during, before = earlier ++ .performed (.pump limit) :: during ∧
        (∀ happening ∈ during, happening.isBoundary = false) ∧
        outcome = .delivered (during.filterMap Happening.arrival?).length := by
  obtain ⟨kept, newest, older⟩ := (Journal.atStage_run run).visits
  obtain ⟨heard, effects⟩ := Journal.accounts_ofTrace trace kept
  exact ⟨fed.forall₂_visits kept, heard, effects, newest, older,
    fun _ _ _ _ split => run.started_visit split, fun _ _ _ _ split => run.delivered_count split⟩

theorem Run.delivers_in_order_active :
    ∃ catalog trace session channels, Run (.new catalog {}) trace (.resting session) ∧
      session.isActive = true ∧ Fed trace channels ∧
      List.Forall₂ (fun visit channel => visit.heard ++ channel.unread = channel.arrived)
        (Journal.ofTrace trace).visits channels := by
  obtain ⟨catalog, game, loaded, known⟩ := GameCatalog.exists_loaded
  obtain ⟨resolution, resolved⟩ := loaded.resolve_ok known none
  obtain ⟨trace, session, run, active⟩ := exists_run_active known resolved
  have fed : Fed trace (Journal.ofTrace trace).channels :=
    Fed.exists (Journal.atStage_run run).visits.1
  obtain ⟨drain, -⟩ := Run.delivers_in_order run fed
  exact ⟨catalog, trace, session, _, run, active, fed, drain⟩

end ModScript
