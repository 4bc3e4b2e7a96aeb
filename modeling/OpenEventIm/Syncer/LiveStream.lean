import OpenEventIm.Syncer.LarkSenderRules
import OpenEventIm.Syncer.RoundRobin
import Mathlib.Data.List.TakeWhile

/-!
# The live stream and its callback thread

The callback thread of `LarkEventStream` hands received events to the adapter.
When the callback raises, the event is dropped first and the error recorded
afterwards; the thread goes on with the next event.  The puller takes events out
of the adapter's queue and looks at the error before and after it does so.

The error is never taken back.  What the puller has taken before it looks at the
error, and finds none, was therefore enqueued before the first failure.
-/

namespace OpenEventIm.Syncer.LiveStream

open OpenEventIm.Foundation
open OpenEventIm.Foundation.Interaction
open OpenEventIm.Foundation.Transcripts
open OpenEventIm.Sdk.Errors
open OpenEventIm.Service.Calls
open OpenEventIm.Syncer.Models
open OpenEventIm.Syncer.LarkMessages
open OpenEventIm.Syncer.LarkMessages.LarkOpenAPIAdapter
open OpenEventIm.Syncer.LarkSenderRules
open OpenEventIm.Syncer.ProviderMessages
open OpenEventIm.Syncer.ProviderMessages.ProviderMessagePuller
open OpenEventIm.Syncer.PullerSessions
open OpenEventIm.Syncer.PullerTurns
open OpenEventIm.Syncer.RoundRobin

/-! ## The callback thread -/

/-- A message event given to the callback: what it raised, or what it enqueued. -/
structure Dispatch where
  data : MessageEvent
  outcome : Except PyError (Option ProviderEvent)

/-- The callback has returned. -/
def Dispatch.returned (dispatch : Dispatch) : Bool :=
  match dispatch.outcome with
  | .ok _ => true
  | .error _ => false

def Dispatch.events (dispatch : Dispatch) : List ProviderEvent :=
  match dispatch.outcome with
  | .ok event => event.toList
  | .error _ => []

/-- The events the callback has enqueued. -/
def eventsOf (dispatched : List Dispatch) : List ProviderEvent :=
  dispatched.flatMap Dispatch.events

/-- The events enqueued before the first dispatch whose callback raised. -/
def eventsBeforeFailure (dispatched : List Dispatch) : List ProviderEvent :=
  eventsOf (dispatched.takeWhile Dispatch.returned)

/-- The adapter and its stream; `dispatched` is what the callback has been given
so far. -/
structure StreamState where
  adapter : LarkOpenAPIAdapter
  /-- An exception of the callback that has not been recorded yet. -/
  raised : Option PyError
  /-- `_error`. -/
  error : Option PyError
  dispatched : List Dispatch

/-- The steps of the callback thread: `_dispatch_message` calls the callback and
records its exception in a second step, and `_run` records that the client has
exited. -/
inductive CallbackStep : StreamState → StreamState → Prop where
  | returns {state : StreamState} {data adapter event}
      (free : state.raised = none)
      (handled : state.adapter.handleMessageEvent data = .ok adapter)
      (enqueued : adapter.events = state.adapter.events ++ event.toList) :
      CallbackStep state { state with
        adapter := adapter
        dispatched := state.dispatched ++ [⟨data, .ok event⟩] }
  | raises {state : StreamState} {data exc} (free : state.raised = none)
      (handled : state.adapter.handleMessageEvent data = .error exc) :
      CallbackStep state { state with
        raised := some exc
        dispatched := state.dispatched ++ [⟨data, .error exc⟩] }
  | records {state : StreamState} {exc} (raised : state.raised = some exc) :
      CallbackStep state { state with raised := none, error := some exc }
  | exits {state : StreamState} {exc} :
      CallbackStep state { state with error := some exc }

def reconnectTimeout : PyError :=
  .raised .runtimeError "Lark event stream reconnect timeout"

/-- `error` returns the recorded error; a stream without one may have been
disconnected for too long. -/
def StreamAnswers (state : StreamState) :
    (request : Call) → Answer request → StreamState → Prop
  | .eventStreamError _, answer, after => after = state ∧
      (answer = .ok state.error ∨
        state.error = none ∧ answer = .ok (some reconnectTimeout))
  | .takeEvent _, answer, after => answer = .ok state.adapter.events.head? ∧
      after = { state with adapter := { state.adapter with
        events := state.adapter.events.tail } }
  | _, _, after => after = state

/-- The adapter, with the callback thread behind the puller's back. -/
@[reducible]
def callbackThread : Environment service where
  State := StreamState
  Interferes := CallbackStep
  Answers := StreamAnswers

/-! ## Runs of the puller -/

/-- The event that an answer gives to the puller. -/
def answeredEvent : Exchanged service → List ProviderEvent
  | ⟨.takeEvent _, .ok (some event)⟩ => [event]
  | _ => []

/-- The events taken out of the adapter's queue. -/
def takenOf (exchanges : List (Exchanged service)) : List ProviderEvent :=
  exchanges.flatMap answeredEvent

/-- The events among those taken that `_collect_live_event` keeps. -/
def collectedOf (puller : ProviderMessagePuller)
    (exchanges : List (Exchanged service)) : List ProviderEvent :=
  (takenOf exchanges).filter fun event =>
    event.provider = puller.provider ∧
      puller.sessions.contains event.sessionId = true

/-- The event that a call returns, if the loop has taken it out of the live
events. -/
def liveReturned (entry next : ProviderMessagePuller)
    (taken : Option ProviderEvent) : List ProviderEvent :=
  if next.liveEvents.length < entry.liveEvents.length then taken.toList else []

/-- Any calls of `take_message` and `acknowledge` on a started puller, with the
live events returned so far.  `start_event_stream` has stored the sessions
before the callback thread starts.  Of a call that raises the live events and
the sessions are followed: it may have collected an event. -/
inductive LiveRun (config : ProviderSyncConfig) :
    List ProviderEvent → ProviderMessagePuller → StreamState → Prop where
  | starts {adapter : LarkOpenAPIAdapter} {highwater nowMs generation}
      (allowed : adapter.allowedSessions = Dict.keys highwater)
      (empty : adapter.events = []) :
      LiveRun config []
        ((create adapter.name config).startedAt highwater nowMs generation)
        ⟨adapter, none, none, []⟩
  | evolves {returned puller before after}
      (run : LiveRun config returned puller before)
      (evolves : callbackThread.Evolves before after) :
      LiveRun config returned puller after
  | takes {returned before after exchanges nowMs taken}
      {puller entry next : ProviderMessagePuller}
      (run : LiveRun config returned puller before)
      (takes : Takes callbackThread puller before exchanges entry nowMs taken
        next after) :
      LiveRun config (returned ++ liveReturned entry next taken) next after
  | raises {returned before after exchanges exc}
      {puller next : ProviderMessagePuller}
      (run : LiveRun config returned puller before)
      (raises : Transcript callbackThread before puller.takeMessage exchanges
        after (.error exc))
      (same : SameSessions puller next)
      (provider : next.provider = puller.provider)
      (liveEvents : next.liveEvents =
        puller.liveEvents ++ collectedOf puller exchanges) :
      LiveRun config returned next after
  | acknowledges {returned state event} {puller next : ProviderMessagePuller}
      (run : LiveRun config returned puller state)
      (done : puller.acknowledge event = .ok next) :
      LiveRun config returned next state

/-- The events of a session, in order. -/
def ofSession (sessionId : String) (events : List ProviderEvent) :
    List ProviderEvent :=
  events.filter (·.sessionId = sessionId)

@[simp]
theorem ofSession_append (sessionId : String)
    (first second : List ProviderEvent) :
    ofSession sessionId (first ++ second) =
      ofSession sessionId first ++ ofSession sessionId second :=
  List.filter_append _ _

@[simp]
theorem ofSession_nil (sessionId : String) : ofSession sessionId [] = [] := rfl

/-! ## What the callback thread keeps -/

variable {state before after ready : StreamState}
  {exchanges : List (Exchanged service)}

@[simp]
theorem eventsOf_append (first second : List Dispatch) :
    eventsOf (first ++ second) = eventsOf first ++ eventsOf second :=
  List.flatMap_append

/-- Later dispatches only add events at the end. -/
theorem eventsBeforeFailure_append (first second : List Dispatch) :
    eventsBeforeFailure first <+: eventsBeforeFailure (first ++ second) := by
  rw [eventsBeforeFailure, eventsBeforeFailure, List.takeWhile_append]
  split_ifs with complete
  · have whole : first.takeWhile Dispatch.returned = first :=
      (List.takeWhile_prefix _).eq_of_length complete
    rw [whole, eventsOf_append]
    exact List.prefix_append _ _
  · exact List.prefix_rfl

theorem eventsBeforeFailure_of_returned {dispatched : List Dispatch}
    (returned : ∀ dispatch ∈ dispatched, dispatch.returned = true) :
    eventsBeforeFailure dispatched = eventsOf dispatched := by
  rw [eventsBeforeFailure, List.takeWhile_eq_self_iff.mpr returned]

/-- An event of one of the adapter's sessions. -/
structure Own (adapter : LarkOpenAPIAdapter) (event : ProviderEvent) :
    Prop where
  provider : event.provider = adapter.name
  mapped : event.sessionId ∈ adapter.allowedSessions

/-- What the callback does to the queue when it returns. -/
theorem handleMessageEvent_eq_ok {adapter next : LarkOpenAPIAdapter}
    {data : MessageEvent} (handled : adapter.handleMessageEvent data = .ok next) :
    next = adapter ∨ ∃ event : ProviderEvent,
      next = { adapter with events := adapter.events ++ [event] } ∧
        Own adapter event := by
  rw [handleMessageEvent] at handled
  split at handled
  · cases handled
  · next message _ =>
      split at handled
      · cases handled
      · next sessionId _ =>
          by_cases mapped : sessionId ∈ adapter.allowedSessions
          · rw [if_neg (not_not.mpr mapped)] at handled
            split at handled
            · cases handled
            · next event built =>
                split_ifs at handled with room
                cases handled
                simp only [eventMessageToEvent, Option.bind_eq_bind,
                  Option.bind_eq_some_iff] at built
                rcases built with ⟨identity, -, built⟩
                rcases buildProviderEvent_eq_some_iff.mp built with
                  ⟨_, _, _, _, -, -, -, -, -, rfl⟩
                exact Or.inr ⟨_, rfl, ⟨rfl, mapped⟩⟩
          · rw [if_pos mapped] at handled
            cases handled
            exact Or.inl rfl

/-- What holds of the adapter and its stream at any time: a failure that has
happened is on its way to the error, or there. -/
structure StreamInvariant (state : StreamState) : Prop where
  clean : state.error = none → state.raised = none →
    ∀ dispatch ∈ state.dispatched, dispatch.returned = true
  complete : state.error = none →
    eventsBeforeFailure state.dispatched = eventsOf state.dispatched
  own : ∀ event ∈ state.adapter.events, Own state.adapter event

/-- The queue is first in, first out: what was in it and what the callback has
enqueued since is what has been taken and what is in it now. -/
structure Moves (before : StreamState) (taken : List ProviderEvent)
    (after : StreamState) : Prop where
  invariant : StreamInvariant after
  name : after.adapter.name = before.adapter.name
  allowedSessions :
    after.adapter.allowedSessions = before.adapter.allowedSessions
  dispatched : ∃ later, after.dispatched = before.dispatched ++ later ∧
    before.adapter.events ++ eventsOf later = taken ++ after.adapter.events
  own : ∀ event ∈ taken, Own before.adapter event

theorem Moves.refl (invariant : StreamInvariant state) :
    Moves state [] state :=
  ⟨invariant, rfl, rfl, ⟨[], (List.append_nil _).symm, List.append_nil _⟩,
    fun _ member => by cases member⟩

theorem Moves.trans {middle : StreamState} {first second : List ProviderEvent}
    (earlier : Moves before first middle) (later : Moves middle second after) :
    Moves before (first ++ second) after where
  invariant := later.invariant
  name := later.name.trans earlier.name
  allowedSessions := later.allowedSessions.trans earlier.allowedSessions
  dispatched := by
    rcases earlier.dispatched with ⟨first, firstDispatched, firstMoved⟩
    rcases later.dispatched with ⟨second, secondDispatched, secondMoved⟩
    refine ⟨first ++ second, ?_, ?_⟩
    · rw [secondDispatched, firstDispatched, List.append_assoc]
    · rw [eventsOf_append, ← List.append_assoc, firstMoved, List.append_assoc,
        secondMoved, List.append_assoc]
  own event member := by
    rcases List.mem_append.mp member with inFirst | inSecond
    · exact earlier.own event inFirst
    · rcases later.own event inSecond with ⟨provider, mapped⟩
      rw [earlier.name] at provider
      rw [earlier.allowedSessions] at mapped
      exact ⟨provider, mapped⟩

theorem moves_of_step (invariant : StreamInvariant before)
    (step : CallbackStep before after) : Moves before [] after := by
  cases step with
  | @returns data adapter event free handled enqueued =>
      have grown : ∀ other ∈ adapter.events, Own adapter other := by
        rcases handleMessageEvent_eq_ok handled with rfl | ⟨given, rfl, own⟩
        · exact invariant.own
        · intro other member
          rcases List.mem_append.mp member with queued | same
          · exact ⟨(invariant.own other queued).provider,
              (invariant.own other queued).mapped⟩
          · rw [List.mem_singleton.mp same]
            exact ⟨own.provider, own.mapped⟩
      have same : adapter.name = before.adapter.name ∧
          adapter.allowedSessions = before.adapter.allowedSessions := by
        rcases handleMessageEvent_eq_ok handled with rfl | ⟨given, rfl, -⟩
        · exact ⟨rfl, rfl⟩
        · exact ⟨rfl, rfl⟩
      have allReturned : before.error = none → ∀ dispatch ∈
          before.dispatched ++ [⟨data, .ok event⟩],
            dispatch.returned = true := by
        intro noError dispatch member
        rcases List.mem_append.mp member with earlier | last
        · exact invariant.clean noError free dispatch earlier
        · rw [List.mem_singleton.mp last]
          rfl
      refine ⟨⟨fun noError _ => allReturned noError, fun noError =>
        eventsBeforeFailure_of_returned (allReturned noError), grown⟩, same.1,
        same.2, ⟨[⟨data, .ok event⟩], rfl, ?_⟩, fun _ member => by cases member⟩
      rw [List.nil_append]
      show _ = adapter.events
      rw [enqueued]
      simp [eventsOf, Dispatch.events]
  | @raises data exc free handled =>
      refine ⟨⟨nofun, fun noError => ?_, invariant.own⟩, rfl, rfl,
        ⟨[⟨data, .error exc⟩], rfl, List.append_nil _⟩,
        fun _ member => by cases member⟩
      -- the failed dispatch is the first to fail, and the last dispatch
      have all := invariant.clean noError free
      show eventsOf ((before.dispatched ++ [_]).takeWhile _) =
        eventsOf (before.dispatched ++ [_])
      rw [List.takeWhile_append_of_pos all, eventsOf_append, eventsOf_append]
      rfl
  | records raised =>
      exact ⟨⟨nofun, nofun, invariant.own⟩, rfl, rfl,
        ⟨[], (List.append_nil _).symm, List.append_nil _⟩,
        fun _ member => by cases member⟩
  | exits =>
      exact ⟨⟨nofun, nofun, invariant.own⟩, rfl, rfl,
        ⟨[], (List.append_nil _).symm, List.append_nil _⟩,
        fun _ member => by cases member⟩

theorem moves_of_evolves (invariant : StreamInvariant before)
    (evolves : callbackThread.Evolves before after) :
    Moves before [] after := by
  induction evolves with
  | refl => exact Moves.refl invariant
  | tail _ step ih => exact ih.trans (moves_of_step ih.invariant step)

theorem moves_of_answers {request : Call} {answer : Answer request}
    (invariant : StreamInvariant before)
    (answers : callbackThread.Answers before request answer after) :
    Moves before (answeredEvent ⟨request, answer⟩) after := by
  cases request with
  | takeEvent =>
      rcases answers with ⟨rfl, rfl⟩
      have own := invariant.own
      have rest : ∀ event ∈ before.adapter.events.tail,
          Own before.adapter event :=
        fun event member => own event (List.mem_of_mem_tail member)
      refine ⟨⟨invariant.clean, invariant.complete, fun event member =>
        ⟨(rest event member).provider, (rest event member).mapped⟩⟩, rfl, rfl,
        ⟨[], (List.append_nil _).symm, ?_⟩, ?_⟩
      · show before.adapter.events ++ [] = _ ++ before.adapter.events.tail
        rw [List.append_nil]
        cases before.adapter.events <;> rfl
      · intro event member
        cases queue : before.adapter.events with
        | nil =>
            rw [queue] at member
            cases member
        | cons first others =>
            rw [queue] at member own
            rw [List.mem_singleton.mp member]
            exact own first List.mem_cons_self
  | eventStreamError =>
      rcases answers with ⟨rfl, -⟩
      exact Moves.refl invariant
  | _ =>
      cases answers
      exact Moves.refl invariant

theorem moves_of_transcript {Result : Type} {program : Action Result}
    {outcome : Except PyError Result} (invariant : StreamInvariant before)
    (transcript : Transcript callbackThread before program exchanges after
      outcome) : Moves before (takenOf exchanges) after := by
  refine @transcript_relates _ _ _ _ _ _ _
    (fun before exchanges after =>
      StreamInvariant before → Moves before (takenOf exchanges) after)
    _ _ transcript ?_ ?_ invariant
  · exact fun state invariant => Moves.refl invariant
  · intro before ready answered after request answer rest evolves answers ih
      invariant
    have ready := moves_of_evolves invariant evolves
    have answered := ready.trans (moves_of_answers ready.invariant answers)
    exact answered.trans (ih answered.invariant)

/-! ## What the puller keeps -/

variable {returned : List ProviderEvent} {puller entry next :
  ProviderMessagePuller} {nowMs : Int} {taken : Option ProviderEvent}
  {sessionId : String}

/-- No event of a session is lost between the callback and `take_message`, and
those returned were enqueued before the first failure. -/
structure LiveInvariant (returned : List ProviderEvent)
    (puller : ProviderMessagePuller) (state : StreamState) : Prop where
  stream : StreamInvariant state
  name : state.adapter.name = puller.provider
  allowed : ∀ sessionId ∈ state.adapter.allowedSessions,
    puller.sessions.contains sessionId = true
  conserved : ∀ sessionId, ofSession sessionId returned ++
      (ofSession sessionId puller.liveEvents ++
        ofSession sessionId state.adapter.events) =
    ofSession sessionId (eventsOf state.dispatched)
  delivered : ∀ sessionId, ofSession sessionId returned <+:
    ofSession sessionId (eventsBeforeFailure state.dispatched)

/-- The puller has only collected what has been taken out of the queue. -/
theorem LiveInvariant.moves {collected : List ProviderEvent}
    (invariant : LiveInvariant returned puller before)
    (moves : Moves before collected after) (same : SameSessions puller next)
    (provider : next.provider = puller.provider)
    (liveEvents : next.liveEvents = puller.liveEvents ++ collected) :
    LiveInvariant returned next after := by
  rcases moves.dispatched with ⟨later, dispatched, moved⟩
  refine ⟨moves.invariant, ?_, ?_, ?_, ?_⟩
  · rw [moves.name, provider]
    exact invariant.name
  · intro sessionId mapped
    rw [moves.allowedSessions] at mapped
    rw [same.contains]
    exact invariant.allowed sessionId mapped
  · intro sessionId
    have queued := congrArg (ofSession sessionId) moved
    rw [ofSession_append, ofSession_append] at queued
    rw [dispatched, eventsOf_append, ofSession_append,
      ← invariant.conserved sessionId, liveEvents, ofSession_append]
    simp only [List.append_assoc, queued]
  · intro sessionId
    rw [dispatched]
    exact (invariant.delivered sessionId).trans
      ((eventsBeforeFailure_append _ _).filter _)

theorem LiveInvariant.evolves
    (invariant : LiveInvariant returned puller before)
    (moves : Moves before [] after) : LiveInvariant returned puller after :=
  invariant.moves moves (SameSessions.refl puller) rfl
    (List.append_nil _).symm

/-- The events of each session after the first one of a session is gone. -/
theorem ofSession_takeLiveEvent {event : ProviderEvent}
    {live rest : List ProviderEvent} (other : String)
    (isTaken : takeLiveEvent sessionId live = some (event, rest)) :
    ofSession other live = ofSession other [event] ++ ofSession other rest := by
  rcases takeLiveEvent_eq_some isTaken with
    ⟨first, last, rfl, rfl, own, noneEarlier⟩
  have cons : event :: last = [event] ++ last := rfl
  rw [cons]
  simp only [ofSession_append]
  by_cases same : other = sessionId
  · have none : ofSession other first = [] := by
      refine List.filter_eq_nil_iff.mpr fun given member => ?_
      rw [same, decide_eq_true_iff]
      exact noneEarlier given member
    rw [none, List.nil_append, List.nil_append]
  · have none : ofSession other [event] = [] := by
      refine List.filter_eq_nil_iff.mpr fun given member => ?_
      rw [List.mem_singleton.mp member, decide_eq_true_iff, own]
      exact fun equal => same equal.symm
    rw [none, List.nil_append, List.nil_append]

/-- A live event is returned at a time at which no error is recorded. -/
theorem LiveInvariant.returns {event : ProviderEvent}
    (invariant : LiveInvariant returned entry state)
    (noError : state.error = none)
    (isTaken : takeLiveEvent sessionId entry.liveEvents =
      some (event, next.liveEvents))
    (same : SameSessions entry next)
    (provider : next.provider = entry.provider) :
    LiveInvariant (returned ++ [event]) next state := by
  have conserved : ∀ other, ofSession other (returned ++ [event]) ++
        (ofSession other next.liveEvents ++
          ofSession other state.adapter.events) =
      ofSession other (eventsOf state.dispatched) := by
    intro other
    rw [← invariant.conserved other, ofSession_takeLiveEvent other isTaken,
      ofSession_append]
    simp only [List.append_assoc]
  refine ⟨invariant.stream, ?_, ?_, conserved, ?_⟩
  · rw [provider]
    exact invariant.name
  · intro other mapped
    rw [same.contains]
    exact invariant.allowed other mapped
  · intro other
    rw [invariant.stream.complete noError, ← conserved other]
    exact List.prefix_append _ _

/-! ## The statements of `take_message` -/

theorem noError_of_streamQuiet {provider : String}
    (invariant : LiveInvariant returned puller before)
    (quiet : StreamQuiet callbackThread provider before exchanges after) :
    LiveInvariant returned puller after ∧ after.error = none := by
  rcases quiet with @⟨ready, _, evolves, rfl, none | ⟨-, timeout⟩⟩
  · have moves := moves_of_evolves invariant.stream evolves
    exact ⟨invariant.evolves moves, (Except.ok.inj none).symm⟩
  · cases timeout

theorem keeps_of_handed
    (invariant : LiveInvariant returned puller before)
    (handed : Handed callbackThread puller before exchanges next after) :
    LiveInvariant returned next after := by
  have same := handed.sameSessions
  rcases handed with @⟨_, _, evolves, rfl⟩ |
    @⟨_, _, _, _, _, _, evolves, rfl, _, passes, rfl⟩
  · exact invariant.evolves (moves_of_evolves invariant.stream evolves)
  · have moves := moves_of_evolves invariant.stream (evolves.trans passes)
    exact invariant.moves moves same rfl (List.append_nil _).symm

theorem keeps_of_collected
    (invariant : LiveInvariant returned puller before)
    (collected : Collected callbackThread puller before exchanges next after) :
    LiveInvariant returned next after := by
  have same := collected.sameSessions
  rcases collected with ⟨-⟩ | ⟨-, evolves, answers⟩ |
    ⟨-, evolves, answers, -, -⟩
  · exact invariant
  · have reached := invariant.evolves
      (moves_of_evolves invariant.stream evolves)
    exact reached.evolves (moves_of_answers reached.stream answers)
  · have reached := invariant.evolves
      (moves_of_evolves invariant.stream evolves)
    exact reached.moves (moves_of_answers reached.stream answers) same rfl rfl

/-- Since the last look at the error nothing has been taken. -/
theorem noError_of_prepared
    (invariant : LiveInvariant returned puller before)
    (prepared : Prepared callbackThread puller before exchanges entry nowMs
      after) :
    ∃ checked, checked.error = none ∧ LiveInvariant returned entry checked ∧
      Moves checked [] after := by
  rcases prepared.steps with ⟨handed, collected, first, second, third, fourth,
    fifth, ready, _, _, _, _, _, quiet, handoff, collects, quietAgain,
    handoffAgain, evolves, rfl, -⟩
  have firstHolds := (noError_of_streamQuiet invariant quiet).1
  have thirdHolds := keeps_of_collected
    (keeps_of_handed firstHolds handoff) collects
  rcases noError_of_streamQuiet thirdHolds quietAgain with ⟨checked, noError⟩
  have same := handoffAgain.sameSessions
  rcases handoffAgain with @⟨_, _, passes, rfl⟩ |
    @⟨_, _, _, _, _, _, passes, rfl, _, timed, rfl⟩
  · exact ⟨fourth, noError, checked,
      moves_of_evolves checked.stream (passes.trans evolves)⟩
  · refine ⟨fourth, noError, ?_,
      moves_of_evolves checked.stream ((passes.trans timed).trans evolves)⟩
    exact checked.moves (Moves.refl checked.stream) same rfl
      (List.append_nil _).symm

/-! ## The loop -/

/-- What the loop does to the live events: it takes one of them out only to
return it. -/
structure LoopKeeps (puller : ProviderMessagePuller)
    (taken : Option ProviderEvent) (next : ProviderMessagePuller) : Prop where
  provider : next.provider = puller.provider
  liveEvents : next.liveEvents = puller.liveEvents ∨
    ∃ sessionId event, taken = some event ∧
      takeLiveEvent sessionId puller.liveEvents = some (event, next.liveEvents)

theorem loopKeeps_deliverLive {index : Nat} {sessionState : SessionPullState}
    {event : ProviderEvent}
    (delivered : puller.deliverLive index sessionId sessionState =
      some (event, next)) : LoopKeeps puller (some event) next := by
  rw [deliverLive] at delivered
  split_ifs at delivered with scanned
  rcases Option.map_eq_some_iff.mp delivered with ⟨⟨given, rest⟩, live, same⟩
  cases same
  exact ⟨rfl, Or.inr ⟨sessionId, given, rfl, live⟩⟩

/-- The loop body, with what can happen behind it. -/
theorem loopKeeps_of_served {index : Nat} {sessionState : SessionPullState}
    (invariant : StreamInvariant before)
    (served : Served callbackThread puller nowMs index sessionId sessionState
      before exchanges taken next after) :
    LoopKeeps puller taken next ∧ Moves before [] after := by
  have unchanged : LoopKeeps puller taken puller := ⟨rfl, Or.inl rfl⟩
  have queries : ∀ {asked page answered}, Queried callbackThread puller nowMs
      sessionId sessionState before asked page answered →
        Moves before [] answered := by
    intro asked page answered queried
    rcases queried.asked with ⟨scan, answer, ready, -, -, evolves, rfl, -⟩
    exact moves_of_evolves invariant evolves
  rcases served with ⟨-⟩ | ⟨-, -⟩ | ⟨-, -, -, delivered⟩ | ⟨-, -, -, -⟩ |
    ⟨queried, -⟩ | ⟨queried, -, delivered⟩ | ⟨queried, -, -⟩
  · exact ⟨unchanged, Moves.refl invariant⟩
  · exact ⟨⟨rfl, Or.inl rfl⟩, Moves.refl invariant⟩
  · exact ⟨loopKeeps_deliverLive delivered, Moves.refl invariant⟩
  · exact ⟨unchanged, Moves.refl invariant⟩
  · exact ⟨⟨rfl, Or.inl rfl⟩, queries queried⟩
  · have keeps := loopKeeps_deliverLive delivered
    exact ⟨⟨keeps.provider, keeps.liveEvents⟩, queries queried⟩
  · exact ⟨⟨rfl, Or.inl rfl⟩, queries queried⟩

theorem loopKeeps_of_transcript {offset remaining : Nat}
    (invariant : StreamInvariant before)
    (transcript : Transcript callbackThread before
      (puller.serveSessions nowMs offset remaining) exchanges after
      (.ok (taken, next))) :
    LoopKeeps puller taken next ∧ Moves before [] after := by
  induction remaining generalizing puller offset before exchanges with
  | zero =>
      rcases transcript_ret transcript with ⟨rfl, rfl, returned⟩
      cases returned
      exact ⟨⟨rfl, Or.inl rfl⟩, Moves.refl invariant⟩
  | succ remaining ih =>
      rcases serveSessions_of_transcript transcript with
        ⟨visited, sessionState, found, reached, middle, first, rest, -, -, rfl,
          served, tail⟩
      rcases loopKeeps_of_served invariant served with ⟨keeps, moves⟩
      cases found with
      | some event =>
          rcases tail with ⟨rfl, rfl, rfl, -⟩
          exact ⟨keeps, moves⟩
      | none =>
          rcases ih moves.invariant tail with ⟨later, movesLater⟩
          -- a session that returns nothing has kept the live events
          have kept : reached.liveEvents = puller.liveEvents := by
            rcases keeps.liveEvents with same | ⟨_, _, absent, -⟩
            · exact same
            · cases absent
          refine ⟨⟨later.provider.trans keeps.provider, ?_⟩,
            moves.trans movesLater⟩
          rw [← kept]
          exact later.liveEvents

/-- The live event that a call returns is the one its loop has taken out. -/
theorem liveReturned_cases (keeps : LoopKeeps entry taken next) :
    (next.liveEvents = entry.liveEvents ∧ liveReturned entry next taken = []) ∨
      ∃ sessionId event, liveReturned entry next taken = [event] ∧
        takeLiveEvent sessionId entry.liveEvents =
          some (event, next.liveEvents) := by
  rcases keeps.liveEvents with same | ⟨sessionId, event, rfl, isTaken⟩
  · refine Or.inl ⟨same, if_neg ?_⟩
    rw [same]
    exact Nat.lt_irrefl _
  · refine Or.inr ⟨sessionId, event, if_pos ?_, isTaken⟩
    rcases takeLiveEvent_eq_some isTaken with ⟨first, last, split, left, -⟩
    rw [split, left, List.length_append, List.length_append, List.length_cons]
    omega

/-! ## Runs -/

theorem LiveInvariant.takes
    (invariant : LiveInvariant returned puller before)
    (takes : Takes callbackThread puller before exchanges entry nowMs taken
      next after) :
    LiveInvariant (returned ++ liveReturned entry next taken) next after := by
  rcases takes.parts with ⟨asked, queried, middle, -, prepared, loops⟩
  rcases noError_of_prepared invariant prepared with
    ⟨checked, noError, holds, moves⟩
  have same := sameSessions_serveSessions loops
  rcases loopKeeps_of_transcript moves.invariant loops with ⟨keeps, later⟩
  have since := moves.trans later
  rcases liveReturned_cases keeps with
    ⟨kept, nothing⟩ | ⟨sessionId, event, live, isTaken⟩
  · rw [nothing, List.append_nil]
    exact holds.moves since same keeps.provider
      (kept.trans (List.append_nil _).symm)
  · rw [live]
    exact (holds.returns noError isTaken same keeps.provider).evolves since

/-- Of a call that raises: the events taken are the adapter's own, so each of
them has been collected. -/
theorem LiveInvariant.raises {exc : PyError}
    (invariant : LiveInvariant returned puller before)
    (raises : Transcript callbackThread before puller.takeMessage exchanges
      after (.error exc))
    (same : SameSessions puller next)
    (provider : next.provider = puller.provider)
    (liveEvents : next.liveEvents =
      puller.liveEvents ++ collectedOf puller exchanges) :
    LiveInvariant returned next after := by
  have moves := moves_of_transcript invariant.stream raises
  have all : collectedOf puller exchanges = takenOf exchanges := by
    refine List.filter_eq_self.mpr fun event member => ?_
    have own := moves.own event member
    rw [decide_eq_true_iff]
    exact ⟨own.provider.trans invariant.name,
      invariant.allowed event.sessionId own.mapped⟩
  rw [all] at liveEvents
  exact invariant.moves moves same provider liveEvents

theorem LiveInvariant.acknowledges {event : ProviderEvent}
    (invariant : LiveInvariant returned puller state)
    (done : puller.acknowledge event = .ok next) :
    LiveInvariant returned next state := by
  rw [acknowledge] at done
  split_ifs at done with foreign
  split at done
  · cases done
  · next sessionState found =>
      split_ifs at done with mismatch
      cases done
      exact invariant.moves (Moves.refl invariant.stream)
        (sameSessions_setSession found) rfl (List.append_nil _).symm

theorem liveInvariant_of_liveRun {config : ProviderSyncConfig}
    (run : LiveRun config returned puller state) :
    LiveInvariant returned puller state := by
  induction run with
  | @starts adapter highwater nowMs generation allowed empty =>
      have stream : StreamInvariant ⟨adapter, none, none, []⟩ := by
        refine ⟨fun _ _ _ member => absurd member List.not_mem_nil,
          fun _ => rfl, ?_⟩
        intro event member
        rw [empty] at member
        cases member
      refine ⟨stream, rfl, ?_, ?_, fun _ => List.prefix_rfl⟩
      · intro sessionId mapped
        rw [allowed, ← Dict.keys_mapValues, ← Dict.contains_iff] at mapped
        exact mapped
      · intro sessionId
        show ofSession sessionId [] ++ (ofSession sessionId [] ++
          ofSession sessionId adapter.events) = _
        rw [empty]
        rfl
  | evolves _ evolves ih =>
      exact ih.evolves (moves_of_evolves ih.stream evolves)
  | takes _ takes ih => exact ih.takes takes
  | raises _ raises same provider liveEvents ih =>
      exact ih.raises raises same provider liveEvents
  | acknowledges _ done ih => exact ih.acknowledges done

/--
In every run and for every session, the live events returned so far are in
order a prefix of the events the callback had enqueued before it first raised.
-/
theorem returned_prefix_beforeFailure {config : ProviderSyncConfig}
    (run : LiveRun config returned puller state) (sessionId : String) :
    ofSession sessionId returned <+:
      ofSession sessionId (eventsBeforeFailure state.dispatched) :=
  (liveInvariant_of_liveRun run).delivered sessionId

/-! ## A message before and one after a failure -/

def receivedMessage : MessageEvent := (appMessage "cli_xxx").asEvent

def enqueuedEvent : ProviderEvent :=
  builtEvent sampleAdapter "oc1" "om1" "text" "cli_xxx" 100 "bot"
    ⟨.str "hello", trivial⟩

def enqueuedAdapter : LarkOpenAPIAdapter :=
  { sampleAdapter with events := [enqueuedEvent] }

/-- An event without a message. -/
def malformedMessage : MessageEvent := ⟨none, none⟩

def malformedError : PyError :=
  dataError "lark received a message event without chat_id"

/-- The message is in the queue. -/
def enqueuedStream : StreamState :=
  ⟨enqueuedAdapter, none, none, [⟨receivedMessage, .ok (some enqueuedEvent)⟩]⟩

/-- The puller has taken it. -/
def takenStream : StreamState := { enqueuedStream with adapter := sampleAdapter }

/-- A malformed event and another message have followed. -/
def failedStream : StreamState :=
  ⟨enqueuedAdapter, none, some malformedError, [
    ⟨receivedMessage, .ok (some enqueuedEvent)⟩,
    ⟨malformedMessage, .error malformedError⟩,
    ⟨receivedMessage, .ok (some enqueuedEvent)⟩]⟩

theorem enqueues_receivedMessage :
    sampleAdapter.handleMessageEvent receivedMessage = .ok enqueuedAdapter := by
  rfl

/-- The exception of the malformed event is not recorded yet. -/
def raisedStream : StreamState :=
  ⟨sampleAdapter, some malformedError, none, [
    ⟨receivedMessage, .ok (some enqueuedEvent)⟩,
    ⟨malformedMessage, .error malformedError⟩]⟩

theorem fails_takenStream :
    callbackThread.Evolves takenStream failedStream := by
  have raises : CallbackStep takenStream raisedStream :=
    @CallbackStep.raises takenStream malformedMessage malformedError rfl rfl
  have records := @CallbackStep.records raisedStream malformedError rfl
  have returns := @CallbackStep.returns
    { raisedStream with raised := none, error := some malformedError }
    receivedMessage _ (some enqueuedEvent) rfl enqueues_receivedMessage rfl
  exact ((Relation.ReflTransGen.single raises).tail records).tail returns

/-- The puller with the message, once its history query has come back empty. -/
def deliveredPuller : ProviderMessagePuller :=
  (firstPuller.advanced 0 "oc1" scannedSession).deliver 0 "oc1" scannedSession
    enqueuedEvent

theorem takes_firstPuller :
    ∃ exchanges, Takes callbackThread firstPuller enqueuedStream exchanges
      { firstPuller with liveEvents := [enqueuedEvent] } 200
      (some enqueuedEvent) deliveredPuller takenStream := by
  have loops : Transcript callbackThread takenStream
      (wholeLoop { firstPuller with liveEvents := [enqueuedEvent] } 200)
      [queryOf "oc1"] takenStream (.ok (some enqueuedEvent, deliveredPuller)) :=
    .call .refl rfl .ret
  refine ⟨_, rfl, _, _, _, rfl, ⟨firstPuller, _, _, _, _, _, _, _, _, _, _, _, _,
    .quiet .refl ⟨rfl, Or.inl rfl⟩, .same .refl rfl,
    .event (Nat.zero_lt_succ 7) .refl ⟨rfl, rfl⟩ rfl rfl,
    .quiet .refl ⟨rfl, Or.inl rfl⟩, .same .refl rfl, .refl, rfl, rfl⟩, loops⟩

/-- The first message is returned before the failure. -/
theorem returned_prefix_beforeFailure_sample :
    ofSession "oc1" [enqueuedEvent] <+:
      ofSession "oc1" (eventsBeforeFailure failedStream.dispatched) := by
  have first := @startedAt_startedPuller sampleConfig firstHighwater
    (List.mergeSort_singleton "oc1")
  have starts : LiveRun sampleConfig [] firstPuller
      ⟨sampleAdapter, none, none, []⟩ := by
    rw [firstPuller, ← first]
    exact @LiveRun.starts sampleConfig sampleAdapter firstHighwater 200 0 rfl
      rfl
  have enqueues := @CallbackStep.returns ⟨sampleAdapter, none, none, []⟩
    receivedMessage _ (some enqueuedEvent) rfl enqueues_receivedMessage rfl
  rcases takes_firstPuller with ⟨exchanges, takes⟩
  have run := ((starts.evolves (.single enqueues)).takes takes).evolves
    fails_takenStream
  exact returned_prefix_beforeFailure run "oc1"

end OpenEventIm.Syncer.LiveStream
