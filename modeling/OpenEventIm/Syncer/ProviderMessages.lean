import OpenEventIm.Service.Calls
import OpenEventIm.Syncer.Models

/-!
# The provider message puller

`ProviderMessagePuller` merges a provider's history and its subscription into
one acknowledged stream of events.  The puller is passed along explicitly: each
method takes it and returns it as the method leaves it.

The methods call the adapter one statement at a time, so that the event stream
may reconnect between any two of those calls.
-/

namespace OpenEventIm.Syncer.ProviderMessages

open OpenEventIm.Foundation
open OpenEventIm.Foundation.Interaction
open OpenEventIm.Sdk.Errors
open OpenEventIm.Service.Calls
open OpenEventIm.Syncer.Models

/-! ## Data model -/

structure HistoryScan where
  startMs : Int
  endMs : Int
  pageToken : Option String
deriving DecidableEq

structure SessionPullState where
  confirmedEventMs : Option Int
  historyHighwaterMs : Option Int
  historyScan : Option HistoryScan
  historyEvents : List ProviderEvent
  inFlight : Option ProviderEvent
  nextHistoryAtMs : Int

structure ProviderMessagePuller where
  provider : String
  config : ProviderSyncConfig
  sessions : Dict String SessionPullState
  sessionOrder : List String
  sessionCursor : Nat
  liveEvents : List ProviderEvent
  streamGeneration : Nat
  started : Bool

def runtimeError (message : String) : PyError := .raised .runtimeError message

/-- The larger of two optional times; absent when both are. -/
def laterOf : Option Int → Option Int → Option Int
  | some first, some second => some (max first second)
  | some first, none => some first
  | none, second => second

/-- `_event_key`. -/
def eventKey (event : ProviderEvent) : String × String × String :=
  (event.provider, event.sessionId, event.providerMessageId)

/-- `_new_history_scan`. -/
def newHistoryScan (config : ProviderSyncConfig) (confirmedMs : Option Int)
    (endMs : Int) : HistoryScan where
  startMs :=
    match confirmedMs with
    | none => max 0 (endMs - config.historyLookbackMs)
    | some confirmed => max 0 (min confirmed endMs - config.historyOverlapMs)
  endMs := endMs
  pageToken := none

namespace ProviderMessagePuller

/-- `ProviderMessagePuller(...)`. -/
def create (provider : String) (config : ProviderSyncConfig) :
    ProviderMessagePuller where
  provider := provider
  config := config
  sessions := ∅
  sessionOrder := []
  sessionCursor := 0
  liveEvents := []
  streamGeneration := 0
  started := false

variable (puller : ProviderMessagePuller)

/-- Store a session's state. -/
def setSession (sessionId : String) (state : SessionPullState) :
    ProviderMessagePuller :=
  { puller with sessions := puller.sessions.set sessionId state }

/-! ## Starting and stopping -/

/-- The state of a session at startup. -/
def startedSession (nowMs : Int) (confirmedMs : Option Int) :
    SessionPullState where
  confirmedEventMs := confirmedMs
  historyHighwaterMs := confirmedMs
  historyScan := some (newHistoryScan puller.config confirmedMs nowMs)
  historyEvents := []
  inFlight := none
  nextHistoryAtMs := 0

/-- The puller after the last statement of `start`. -/
def startedAt (sessionHighwaterMs : Dict String (Option Int)) (nowMs : Int)
    (generation : Nat) : ProviderMessagePuller :=
  { puller with
    sessions := sessionHighwaterMs.mapValues (puller.startedSession nowMs)
    sessionOrder := sessionHighwaterMs.keys.mergeSort
    streamGeneration := generation
    started := true }

/-- `start`. -/
def start (sessionHighwaterMs : Dict String (Option Int)) :
    Action ProviderMessagePuller :=
  if puller.started then
    return puller
  else if sessionHighwaterMs.items = [] then
    throw (.raised .valueError
      s!"{puller.provider} message puller requires at least one session")
  else do
    startEventStream puller.provider sessionHighwaterMs.keys
    let nowMs ← currentTimeMs
    let generation ← eventStreamGeneration puller.provider
    return puller.startedAt sessionHighwaterMs nowMs generation

/-- `stop`. -/
def stop : Action ProviderMessagePuller := do
  stopEventStream puller.provider
  return { puller with started := false }

/-! ## Reconnects -/

/-- The loop body of `_schedule_reconnect_handoff` for one session. -/
def handOff (nowMs : Int) (state : SessionPullState) : SessionPullState :=
  let replacement := newHistoryScan puller.config
    (laterOf state.confirmedEventMs state.historyHighwaterMs) nowMs
  { state with
    historyScan := some
      { replacement with
        startMs :=
          match state.historyScan with
          | some scan => min replacement.startMs scan.startMs
          | none => replacement.startMs }
    nextHistoryAtMs := 0 }

/-- The puller after a handoff. -/
def handedOff (generation : Nat) (nowMs : Int) : ProviderMessagePuller :=
  { puller with
    streamGeneration := generation
    sessions := puller.sessions.mapValues (puller.handOff nowMs) }

/-- `_schedule_reconnect_handoff`. -/
def scheduleReconnectHandoff : Action ProviderMessagePuller := do
  let generation ← eventStreamGeneration puller.provider
  if generation < puller.streamGeneration then
    throw (runtimeError
      s!"{puller.provider} event stream generation moved backwards")
  else if generation = puller.streamGeneration then
    return puller
  else do
    let nowMs ← currentTimeMs
    return puller.handedOff generation nowMs

/-! ## Events -/

/-- `_raise_stream_error`. -/
def raiseStreamError : Action Unit := do
  match ← eventStreamError puller.provider with
  | some error => throw (.raisedFrom .runtimeError
      s!"{puller.provider} event stream failed" error)
  | none => return ()

/-- `_collect_live_event`. -/
def collectLiveEvent : Action ProviderMessagePuller :=
  if puller.liveEvents.length ≥ puller.config.eventQueueSize then
    return puller
  else do
    match ← takeEvent puller.provider with
    | none => return puller
    | some event =>
        if event.provider ≠ puller.provider then
          throw (runtimeError
            s!"{puller.provider} subscription returned another provider's event")
        else if puller.sessions.contains event.sessionId = false then
          throw (runtimeError
            s!"{puller.provider} subscription returned an unknown session")
        else
          return { puller with liveEvents := puller.liveEvents ++ [event] }

/-- `_take_live_event`: the first event of a session and the others. -/
def takeLiveEvent (sessionId : String) :
    List ProviderEvent → Option (ProviderEvent × List ProviderEvent)
  | [] => none
  | event :: rest =>
      if event.sessionId = sessionId then
        some (event, rest)
      else
        (takeLiveEvent sessionId rest).map fun taken =>
          (taken.1, event :: taken.2)

/-- The session after a page of its history, all of whose events are its own. -/
def receivedPage (state : SessionPullState) (scan : HistoryScan)
    (page : HistoryPage) : SessionPullState :=
  let state := { state with
    historyEvents := state.historyEvents ++ page.events
    nextHistoryAtMs := 0 }
  match page.nextPageToken with
  | none => { state with
      historyHighwaterMs :=
        some (max (state.historyHighwaterMs.getD 0) scan.endMs)
      historyScan := none }
  | some token => { state with
      historyScan := some { scan with pageToken := some token } }

theorem receivedPage_inFlight (state : SessionPullState) (scan : HistoryScan)
    (page : HistoryPage) :
    (receivedPage state scan page).inFlight = state.inFlight := by
  rw [receivedPage]
  cases page.nextPageToken <;> rfl

theorem receivedPage_historyEvents (state : SessionPullState)
    (scan : HistoryScan) (page : HistoryPage) :
    (receivedPage state scan page).historyEvents =
      state.historyEvents ++ page.events := by
  rw [receivedPage]
  cases page.nextPageToken <;> rfl

/-- `_fetch_history_page`. -/
def fetchHistoryPageOf (sessionId : String) (state : SessionPullState)
    (nowMs : Int) : Action SessionPullState :=
  match state.historyScan with
  | none => return state
  | some scan =>
      .call (.fetchHistoryPage puller.provider sessionId scan.startMs
          scan.endMs scan.pageToken) fun
        | .error exc =>
            if exc.cls = .transientProviderError then
              return { state with
                nextHistoryAtMs :=
                  nowMs + puller.config.historyRetryDelayMs }
            else
              throw exc
        | .ok page =>
            if ∃ event ∈ page.events, event.provider ≠ puller.provider ∨
                event.sessionId ≠ sessionId then
              throw (runtimeError
                "provider history returned an event outside its query session")
            else
              return receivedPage state scan page

/-- `_deliver`. -/
def deliver (index : Nat) (sessionId : String) (state : SessionPullState)
    (event : ProviderEvent) : ProviderMessagePuller :=
  { puller.setSession sessionId { state with inFlight := some event } with
    sessionCursor := (index + 1) % puller.sessionOrder.length }

/-- The puller moves past the session whose history it has asked for. -/
def advanced (index : Nat) (sessionId : String) (state : SessionPullState) :
    ProviderMessagePuller :=
  { puller.setSession sessionId state with
    sessionCursor := (index + 1) % puller.sessionOrder.length }

/-- The last two statements of the loop body of `take_message`. -/
def deliverLive (index : Nat) (sessionId : String)
    (state : SessionPullState) : Option (ProviderEvent × ProviderMessagePuller) :=
  if state.historyScan = none then
    (takeLiveEvent sessionId puller.liveEvents).map fun taken =>
      (taken.1, { puller with liveEvents := taken.2 }.deliver index sessionId
        state taken.1)
  else
    none

/-- The loop body of `take_message`: an event to deliver, or none. -/
def serveSession (nowMs : Int) (index : Nat) (sessionId : String)
    (state : SessionPullState) :
    Action (Option ProviderEvent × ProviderMessagePuller) :=
  if state.inFlight.isSome then
    return (none, puller)
  else
    match state.historyEvents with
    | event :: rest =>
        return (some event, puller.deliver index sessionId
          { state with historyEvents := rest } event)
    | [] =>
        if state.historyScan.isSome ∧ state.nextHistoryAtMs ≤ nowMs then do
          let state ← puller.fetchHistoryPageOf sessionId state nowMs
          let puller := puller.advanced index sessionId state
          match state.historyEvents with
          | event :: rest =>
              return (some event, puller.deliver index sessionId
                { state with historyEvents := rest } event)
          | [] =>
              match puller.deliverLive index sessionId state with
              | some (event, puller) => return (some event, puller)
              | none => return (none, puller)
        else
          match puller.deliverLive index sessionId state with
          | some (event, puller) => return (some event, puller)
          | none => return (none, puller)

/-- The loop of `take_message`, from an offset on. -/
def serveSessions (puller : ProviderMessagePuller) (nowMs : Int)
    (offset : Nat) : Nat → Action (Option ProviderEvent × ProviderMessagePuller)
  | 0 => return (none, puller)
  | remaining + 1 =>
      let index := (puller.sessionCursor + offset) % puller.sessionOrder.length
      match puller.sessionOrder[index]? with
      | none => throw (.raised (.other "IndexError") "tuple index out of range")
      | some sessionId =>
          match puller.sessions.get? sessionId with
          | none => throw (.raised .keyError sessionId)
          | some state => do
              match ← puller.serveSession nowMs index sessionId state with
              | (some event, puller) => return (some event, puller)
              | (none, puller) =>
                  puller.serveSessions nowMs (offset + 1) remaining

/-- `take_message`. -/
def takeMessage : Action (Option ProviderEvent × ProviderMessagePuller) :=
  if puller.started = false then
    throw (runtimeError s!"{puller.provider} message puller is not started")
  else do
    puller.raiseStreamError
    let puller ← puller.scheduleReconnectHandoff
    let puller ← puller.collectLiveEvent
    puller.raiseStreamError
    let puller ← puller.scheduleReconnectHandoff
    let nowMs ← currentTimeMs
    puller.serveSessions nowMs 0 puller.sessionOrder.length

/-- `acknowledge`. -/
def acknowledge (event : ProviderEvent) :
    Except PyError ProviderMessagePuller :=
  if event.provider ≠ puller.provider then
    .error (runtimeError
      "provider message acknowledgement has the wrong provider")
  else
    match puller.sessions.get? event.sessionId with
    | none => .error (runtimeError
        "provider message acknowledgement has an unknown session")
    | some state =>
        if state.inFlight.map eventKey ≠ some (eventKey event) then
          .error (runtimeError
            "provider message acknowledgement does not match the in-flight message")
        else
          .ok (puller.setSession event.sessionId
            { state with
              confirmedEventMs := laterOf state.confirmedEventMs
                (some event.eventMs)
              inFlight := none })

end ProviderMessagePuller

end OpenEventIm.Syncer.ProviderMessages
