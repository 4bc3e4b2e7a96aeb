import OpenEventIm.Syncer.SessionRuns

/-!
# The puller conserves and orders events

Every event that a session has received is in one place: still in the history
queue, still in the live buffer, in flight, or acknowledged.  The two queues are
first in, first out, and a live event is delivered only when the session has
neither an outstanding scan nor history left.
-/

namespace OpenEventIm.Syncer.EventConservation

open OpenEventIm.Foundation
open OpenEventIm.Foundation.Interaction
open OpenEventIm.Foundation.LabelledPaths
open OpenEventIm.Foundation.Transcripts
open OpenEventIm.Sdk.Errors
open OpenEventIm.Service.Calls
open OpenEventIm.Syncer.LiveStream
open OpenEventIm.Syncer.Models
open OpenEventIm.Syncer.ProviderMessages
open OpenEventIm.Syncer.ProviderMessages.ProviderMessagePuller
open OpenEventIm.Syncer.PullerSessions
open OpenEventIm.Syncer.PullerTurns
open OpenEventIm.Syncer.RoundRobin
open OpenEventIm.Syncer.SessionRuns

/-! ## Events received -/

/-- The events of a page of the session's history. -/
def pageEvents (sessionId : String) : Exchanged service → List ProviderEvent
  | ⟨.fetchHistoryPage _ queried _ _ _, .ok page⟩ =>
      if queried = sessionId then page.events else []
  | _ => []

/-- The history events of a session that the adapter has given. -/
def historyReceived (sessionId : String)
    (exchanges : List (Exchanged service)) : List ProviderEvent :=
  exchanges.flatMap (pageEvents sessionId)

/-- The live events of a session that the adapter has given. -/
def liveReceived (sessionId : String) (exchanges : List (Exchanged service)) :
    List ProviderEvent :=
  ofSession sessionId (takenOf exchanges)

/-! ## Events on the path of a session -/

/-- The places of the events of a session.  What has arrived is what has been
delivered, followed by what still waits; what has been delivered is what has
been acknowledged, followed by the event in flight, if any. -/
structure Conserved (actions : List SessionAction) (view : SessionView) :
    Prop where
  history : actions.flatMap SessionAction.history =
    actions.filterMap SessionAction.historyDelivered? ++
      view.state.historyEvents
  live : actions.filterMap SessionAction.live? =
    actions.filterMap SessionAction.liveDelivered? ++ view.live
  delivered : actions.filterMap SessionAction.delivered? =
    actions.filterMap SessionAction.acknowledged? ++
      view.state.inFlight.toList

/-- A session as it is when nothing has been received. -/
structure Unused (view : SessionView) : Prop where
  history : view.state.historyEvents = []
  live : view.live = []
  inFlight : view.state.inFlight = none

variable {config : ProviderSyncConfig} {provider sessionId : String}
  {start view next : SessionView} {actions : List SessionAction}
  {action : SessionAction}

theorem conserved_nil (unused : Unused view) : Conserved [] view where
  history := unused.history.symm
  live := unused.live.symm
  delivered := by
    rw [unused.inFlight]
    rfl

/-- A first-in, first-out queue stays one when something arrives at its end and
something leaves it. -/
theorem fifo_append {received left waiting arriving leaving rest :
      List ProviderEvent}
    (fifo : received = left ++ waiting)
    (moves : waiting ++ arriving = leaving ++ rest) :
    received ++ arriving = (left ++ leaving) ++ rest := by
  rw [fifo, List.append_assoc, moves, List.append_assoc]

theorem filterMap_concat {choose : SessionAction → Option ProviderEvent} :
    (actions ++ [action]).filterMap choose =
      actions.filterMap choose ++ (choose action).toList := by
  rw [List.filterMap_append]
  cases chosen : choose action <;> simp [chosen]

theorem flatMap_concat {events : SessionAction → List ProviderEvent} :
    (actions ++ [action]).flatMap events =
      actions.flatMap events ++ events action := by
  rw [List.flatMap_append, List.flatMap_singleton]

/-- What one step moves into and out of each of the three places. -/
structure Moved (action : SessionAction) (view next : SessionView) : Prop where
  history : view.state.historyEvents ++ action.history =
    action.historyDelivered?.toList ++ next.state.historyEvents
  live : view.live ++ action.live?.toList =
    action.liveDelivered?.toList ++ next.live
  delivered : view.state.inFlight.toList ++ action.delivered?.toList =
    action.acknowledged?.toList ++ next.state.inFlight.toList

theorem moved_of_step
    (step : SessionStep config provider sessionId view action next) :
    Moved action view next := by
  cases step with
  | schedules => exact ⟨List.append_nil _, List.append_nil _, List.append_nil _⟩
  | collects => exact ⟨List.append_nil _, rfl, List.append_nil _⟩
  | @receives scan _ page =>
      refine ⟨?_, List.append_nil _, ?_⟩
      · exact (receivedPage_historyEvents view.state scan page).symm
      · rw [receivedPage_inFlight]
        exact List.append_nil _
  | fails => exact ⟨List.append_nil _, List.append_nil _, List.append_nil _⟩
  | takesHistory idle queue =>
      refine ⟨?_, List.append_nil _, ?_⟩
      · rw [queue]
        exact List.append_nil _
      · rw [idle]
        rfl
  | takesLive idle _ _ buffered =>
      refine ⟨List.append_nil _, ?_, ?_⟩
      · rw [buffered]
        exact List.append_nil _
      · rw [idle]
        rfl
  | acknowledges inFlight =>
      refine ⟨List.append_nil _, List.append_nil _, ?_⟩
      rw [inFlight]
      rfl

theorem Conserved.step (conserved : Conserved actions view)
    (step : SessionStep config provider sessionId view action next) :
    Conserved (actions ++ [action]) next := by
  have moved := moved_of_step step
  constructor
  · rw [flatMap_concat, filterMap_concat]
    exact fifo_append conserved.history moved.history
  · rw [filterMap_concat, filterMap_concat]
    exact fifo_append conserved.live moved.live
  · rw [filterMap_concat, filterMap_concat]
    exact fifo_append conserved.delivered moved.delivered

/-- On every path nothing is lost, duplicated or reordered. -/
theorem conserved_of_path (unused : Unused start)
    (path : SessionPath config provider sessionId start actions view) :
    Conserved actions view := by
  induction path with
  | refl => exact conserved_nil unused
  | tail _ step ih => exact ih.step step

/-! ## One place for each event -/

/-- What has been delivered is history or live. -/
theorem delivered_perm (actions : List SessionAction) :
    (actions.filterMap SessionAction.delivered?).Perm
      (actions.filterMap SessionAction.historyDelivered? ++
        actions.filterMap SessionAction.liveDelivered?) := by
  induction actions with
  | nil => exact .nil
  | cons action rest ih =>
      cases action with
      | takesHistory event => exact ih.cons event
      | takesLive event => exact (ih.cons event).trans List.perm_middle.symm
      | _ => exact ih

/-- The four places hold each occurrence of a received event once. -/
theorem Conserved.places (conserved : Conserved actions view) :
    (actions.flatMap SessionAction.history ++
      actions.filterMap SessionAction.live?).Perm
      (actions.filterMap SessionAction.acknowledged? ++
        (view.state.inFlight.toList ++
          (view.state.historyEvents ++ view.live))) := by
  rw [conserved.history, conserved.live]
  have delivered := delivered_perm actions
  rw [conserved.delivered] at delivered
  rw [List.append_assoc, ← List.append_assoc (actions.filterMap
    SessionAction.acknowledged?)]
  have together := delivered.symm.append_right
    (view.state.historyEvents ++ view.live)
  rw [List.append_assoc] at together
  exact ((List.perm_append_comm_assoc _ _ _).append_left _).trans together

/-- A live event is delivered when no scan is outstanding and no history is
left. -/
theorem live_gate {event : ProviderEvent}
    (step : SessionStep config provider sessionId view (.takesLive event) next) :
    view.state.historyScan = none ∧ view.state.historyEvents = [] := by
  cases step with
  | takesLive _ empty scanned => exact ⟨scanned, empty⟩

theorem acknowledged_keys
    (path : SessionPath config provider sessionId start actions view) :
    (actions.filterMap SessionAction.acknowledged?).map eventKey =
      (actions.filterMap SessionAction.given?).map eventKey := by
  induction path with
  | refl => rfl
  | tail _ step ih =>
      rw [filterMap_concat, filterMap_concat, List.map_append, List.map_append,
        ih]
      congr 1
      cases step with
      | acknowledges _ same => exact congrArg (fun key => [key]) same
      | _ => rfl

/-! ## The events that the adapter has given -/

variable {seen : Seen}

theorem historyReceived_eq (shows : Shows provider sessionId actions seen) :
    historyReceived sessionId seen.exchanges =
      actions.flatMap SessionAction.history := by
  apply shows.flatMap_eq
  · rintro ⟨request, answer⟩ foreign
    cases request with
    | fetchHistoryPage _ queried =>
        have other : queried ≠ sessionId := by simpa [concerns] using foreign
        cases answer <;> simp [pageEvents, other]
    | _ => simp [pageEvents]
  · intro action unseen
    cases action with
    | receives => cases unseen
    | _ => rfl
  · rintro action exchange visible -
    cases action with
    | receives scan page =>
        cases visible
        simp [pageEvents, SessionAction.history]
    | _ => cases visible <;> rfl

theorem liveReceived_eq (shows : Shows provider sessionId actions seen) :
    liveReceived sessionId seen.exchanges =
      actions.filterMap SessionAction.live? := by
  rw [liveReceived, takenOf, ofSession, List.filter_flatMap,
    List.filterMap_eq_flatMap_toList]
  apply shows.flatMap_eq
  · rintro ⟨request, answer⟩ foreign
    cases request with
    | takeEvent =>
        cases answer with
        | error => simp [answeredEvent]
        | ok taken =>
            cases taken with
            | none => simp [answeredEvent]
            | some event => simpa [answeredEvent, concerns] using foreign
    | _ => simp [answeredEvent]
  · intro action unseen
    cases action with
    | collects => cases unseen
    | _ => rfl
  · rintro action exchange visible concerned
    cases action with
    | collects event =>
        cases visible
        have own : event.sessionId = sessionId := by
          simpa [concerns] using concerned
        simp [answeredEvent, own, SessionAction.live?]
    | _ => cases visible <;> rfl

/-! ## Every run of the puller -/

/-- What holds of a session after a run: its path, and at each moment of the
path the places of its events. -/
structure EventsConserved (provider : String) (config : ProviderSyncConfig)
    (sessionId : String) (startedMs : Int) (confirmedMs : Option Int)
    (seen : Seen) (puller : ProviderMessagePuller)
    (actions : List SessionAction) (state : SessionPullState) : Prop where
  follows : Follows provider config sessionId startedMs confirmedMs seen puller
    actions state
  /-- The events that arrive on the path are those that the adapter has given,
  in the same order. -/
  history : actions.flatMap SessionAction.history =
    historyReceived sessionId seen.exchanges
  live : actions.filterMap SessionAction.live? =
    liveReceived sessionId seen.exchanges
  /-- The events in flight when they were acknowledged. -/
  acknowledged : (actions.filterMap SessionAction.acknowledged?).map eventKey =
    (ofSession sessionId seen.acknowledged).map eventKey
  conserved : ∀ earlier later, actions = earlier ++ later → ∃ view,
    SessionPath config provider sessionId
        (startedView provider config startedMs confirmedMs) earlier view ∧
      Conserved earlier view ∧
      (earlier.flatMap SessionAction.history ++
        earlier.filterMap SessionAction.live?).Perm
        (earlier.filterMap SessionAction.acknowledged? ++
          (view.state.inFlight.toList ++
            (view.state.historyEvents ++ view.live)))
  now : Conserved actions ⟨state, ofSession sessionId puller.liveEvents⟩
  gate : ∀ earlier event later,
    actions = earlier ++ .takesLive event :: later → ∃ view,
      SessionPath config provider sessionId
          (startedView provider config startedMs confirmedMs) earlier view ∧
        view.state.historyScan = none ∧ view.state.historyEvents = []

theorem unused_startedView (provider : String) (config : ProviderSyncConfig)
    (startedMs : Int) (confirmedMs : Option Int) :
    Unused (startedView provider config startedMs confirmedMs) :=
  ⟨rfl, rfl, rfl⟩

/--
No event is lost or duplicated, for whatever the adapter answers.  In every run
of the puller, each occurrence of an event that a session has received is in one
place, history and live events are delivered in the order in which they have
arrived, and live events only after the history.
-/
theorem takeMessage_conservesEvents {environment : Environment service}
    {highwater : Dict String (Option Int)} {startedMs : Int}
    {puller : ProviderMessagePuller} {now : environment.State}
    (run : PullerRun environment provider config highwater startedMs seen puller
      now) {confirmedMs : Option Int}
    (known : highwater.get? sessionId = some confirmedMs) :
    ∃ actions state, EventsConserved provider config sessionId startedMs
      confirmedMs seen puller actions state := by
  rcases run.invariant.follows sessionId confirmedMs known with
    ⟨actions, state, follows⟩
  have unused := unused_startedView provider config startedMs confirmedMs
  refine ⟨actions, state, follows, (historyReceived_eq follows.shows).symm,
    (liveReceived_eq follows.shows).symm, ?_, ?_,
    conserved_of_path unused follows.path, ?_⟩
  · rw [acknowledged_keys follows.path, follows.shows.acknowledged]
  · intro earlier later split
    have path := follows.path
    rw [split] at path
    rcases path_append_iff.mp path with ⟨view, first, -⟩
    have conserved := conserved_of_path unused first
    exact ⟨view, first, conserved, conserved.places⟩
  · intro earlier event later split
    have path := follows.path
    rw [split] at path
    rcases path_append_iff.mp path with ⟨view, first, rest⟩
    rcases path_cons_iff.mp rest with ⟨next, step, -⟩
    exact ⟨view, first, live_gate step⟩

/-- A live event that waits for a window to be scanned again. -/
theorem takeMessage_conservesEvents_sample :
    ∃ actions state, EventsConserved "lark" sampleConfig "oc1" 200 none
      sampleSeen acknowledgedPuller actions state :=
  takeMessage_conservesEvents pullerRun_sample rfl

end OpenEventIm.Syncer.EventConservation
