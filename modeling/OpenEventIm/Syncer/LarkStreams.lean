import OpenEventIm.Foundation.WeakSimulations
import OpenEventIm.Syncer.HandoffStatements
import OpenEventIm.Syncer.LarkCalls
import OpenEventIm.Syncer.LiveStream

/-!
# The event stream of the Lark adapter

`LarkEventStream` with its callbacks, and the methods with which
`LarkOpenAPIAdapter` starts, stops and watches it.  The callbacks run on the
thread of the WebSocket client, at any moment; `error` reads the recorded error,
the time of the disconnect and the clock one after the other, and the thread can
act in between.

A process keeps the history of its stream, and every stream is what its history
says of it.
-/

namespace OpenEventIm.Syncer.LarkStreams

open OpenEventIm.Foundation
open OpenEventIm.Foundation.Interaction
open OpenEventIm.Foundation.Transcripts
open OpenEventIm.Foundation.WeakSimulations
open OpenEventIm.Sdk.Errors
open OpenEventIm.Service.Calls
open OpenEventIm.Syncer.LarkCalls
open OpenEventIm.Syncer.LarkMessages
open OpenEventIm.Syncer.LarkMessages.LarkOpenAPIAdapter
open OpenEventIm.Syncer.LarkSenderRules
open OpenEventIm.Syncer.LiveStream
open OpenEventIm.Syncer.ReconnectHandoff
open OpenEventIm.Syncer.HandoffStatements

/-! ## The stream -/

/-- The fields of `LarkEventStream`; its times are those of the monotonic
clock. -/
structure LarkEventStream where
  reconnectTimeoutSeconds : Nat
  stopping : Bool
  /-- `_error`. -/
  error : Option PyError
  disconnectedAt : Option Nat
  reconnectGeneration : Nat

namespace LarkEventStream

variable (stream : LarkEventStream)

/-- `LarkEventStream(...)`. -/
def create (reconnectTimeoutSeconds : Nat) : LarkEventStream where
  reconnectTimeoutSeconds := reconnectTimeoutSeconds
  stopping := false
  error := none
  disconnectedAt := none
  reconnectGeneration := 0

/-- `_on_reconnecting`; only the first of several attempts counts. -/
def onReconnecting (now : Nat) : LarkEventStream :=
  match stream.disconnectedAt with
  | none => { stream with disconnectedAt := some now }
  | some _ => stream

/-- `_on_reconnected`. -/
def onReconnected : LarkEventStream :=
  { stream with
    disconnectedAt := none
    reconnectGeneration := stream.reconnectGeneration + 1 }

/-- Setting `_error`. -/
def recorded (exc : PyError) : LarkEventStream :=
  { stream with error := some exc }

/-- The part of `stop` that the stream sees. -/
def stopped : LarkEventStream := { stream with stopping := true }

/-- The comparison in `error`, of a time that has been read before. -/
def timeoutError (disconnectedAt : Option Nat) (now : Nat) : Option PyError :=
  match disconnectedAt with
  | none => none
  | some since =>
      if since + stream.reconnectTimeoutSeconds ≤ now then
        some reconnectTimeout
      else
        none

end LarkEventStream

/-! ## The history of a stream -/

/-- What has happened to a stream: the attempts to reconnect and the reconnects,
with their times, and the failures that have been recorded. -/
inductive StreamEvent where
  | reconnecting (now : Nat)
  | reconnected (atMs : Int)
  | failed (exc : PyError)

def StreamEvent.reconnecting? : StreamEvent → Option Nat
  | .reconnecting now => some now
  | _ => none

def StreamEvent.reconnected? : StreamEvent → Option Int
  | .reconnected atMs => some atMs
  | _ => none

def StreamEvent.failed? : StreamEvent → Option PyError
  | .failed exc => some exc
  | _ => none

/-- When each reconnect was completed. -/
def reconnectTimes (history : List StreamEvent) : List Int :=
  history.filterMap StreamEvent.reconnected?

/-- The failure recorded last. -/
def lastFailure (history : List StreamEvent) : Option PyError :=
  (history.filterMap StreamEvent.failed?).getLast?

/-- The first attempt to reconnect since the last reconnect. -/
def disconnectedSince (history : List StreamEvent) : Option Nat :=
  ((history.reverse.takeWhile fun event => event.reconnected?.isNone).filterMap
    StreamEvent.reconnecting?).getLast?

/-- The stream is what its history makes it. -/
structure Tracks (stream : LarkEventStream) (history : List StreamEvent) :
    Prop where
  error : stream.error = lastFailure history
  disconnectedAt : stream.disconnectedAt = disconnectedSince history
  generation : stream.reconnectGeneration = (reconnectTimes history).length

section Tracks

variable {stream : LarkEventStream} {history : List StreamEvent}

theorem disconnectedSince_append (event : StreamEvent) :
    disconnectedSince (history ++ [event]) =
      match event with
      | .reconnecting now => some ((disconnectedSince history).getD now)
      | .reconnected _ => none
      | .failed _ => disconnectedSince history := by
  cases event with
  | reconnecting now =>
      simp [disconnectedSince, StreamEvent.reconnected?,
        StreamEvent.reconnecting?, List.getLast?_cons]
  | reconnected => simp [disconnectedSince, StreamEvent.reconnected?]
  | failed =>
      simp [disconnectedSince, StreamEvent.reconnected?,
        StreamEvent.reconnecting?]

theorem lastFailure_append (event : StreamEvent) :
    lastFailure (history ++ [event]) =
      event.failed?.or (lastFailure history) := by
  cases event <;> simp [lastFailure, StreamEvent.failed?]

theorem reconnectTimes_append (event : StreamEvent) :
    reconnectTimes (history ++ [event]) =
      reconnectTimes history ++ event.reconnected?.toList := by
  cases event <;> simp [reconnectTimes, StreamEvent.reconnected?]

theorem tracks_create (reconnectTimeoutSeconds : Nat) :
    Tracks (.create reconnectTimeoutSeconds) [] := ⟨rfl, rfl, rfl⟩

theorem Tracks.stopped (tracks : Tracks stream history) :
    Tracks stream.stopped history :=
  ⟨tracks.error, tracks.disconnectedAt, tracks.generation⟩

theorem Tracks.reconnecting (tracks : Tracks stream history) (now : Nat) :
    Tracks (stream.onReconnecting now)
      (history ++ [.reconnecting now]) := by
  have disconnects : stream.onReconnecting now =
      { stream with disconnectedAt := some (stream.disconnectedAt.getD now) } := by
    rw [LarkEventStream.onReconnecting]
    cases stream with
    | mk timeout stopping error disconnectedAt generation =>
        cases disconnectedAt <;> rfl
  rw [disconnects]
  refine ⟨?_, ?_, ?_⟩
  · rw [lastFailure_append]
    exact tracks.error
  · rw [disconnectedSince_append, tracks.disconnectedAt]
  · rw [reconnectTimes_append]
    exact tracks.generation.trans (by simp [StreamEvent.reconnected?])

theorem Tracks.reconnected (tracks : Tracks stream history) (atMs : Int) :
    Tracks stream.onReconnected (history ++ [.reconnected atMs]) where
  error := by
    rw [lastFailure_append]
    exact tracks.error
  disconnectedAt := (disconnectedSince_append (.reconnected atMs)).symm
  generation := by
    rw [reconnectTimes_append, LarkEventStream.onReconnected,
      tracks.generation]
    simp [StreamEvent.reconnected?]

theorem Tracks.recorded (tracks : Tracks stream history) (exc : PyError) :
    Tracks (stream.recorded exc) (history ++ [.failed exc]) where
  error := (lastFailure_append (.failed exc)).symm
  disconnectedAt :=
    tracks.disconnectedAt.trans (disconnectedSince_append (.failed exc)).symm
  generation := by
    rw [reconnectTimes_append]
    exact tracks.generation.trans (by simp [StreamEvent.reconnected?])

end Tracks

/-! ## A process with its stream -/

/-- The adapter with its event stream, and the two clocks. -/
structure LarkProcess where
  adapter : LarkOpenAPIAdapter
  /-- `event_connect_timeout_seconds` and `event_reconnect_timeout_seconds`. -/
  connectTimeoutSeconds : Nat
  reconnectTimeoutSeconds : Nat
  /-- `_event_stream`. -/
  eventStream : Option LarkEventStream
  /-- An exception of the callback that has not been recorded yet. -/
  raised : Option PyError
  /-- A failure of the client that `_run` has not recorded yet. -/
  exiting : Option PyError
  /-- `time.time()`, in milliseconds. -/
  clock : Int
  /-- `time.monotonic()`. -/
  monotonic : Nat
  /-- What has happened to the stream that was created last. -/
  history : List StreamEvent
  dispatched : List Dispatch
  tracks : ∀ stream, eventStream = some stream → Tracks stream history

namespace LarkProcess

variable (process : LarkProcess) {stream : LarkEventStream}

/-- `_on_reconnecting` of the running stream. -/
def reconnecting (running : process.eventStream = some stream) : LarkProcess :=
  { process with
    eventStream := some (stream.onReconnecting process.monotonic)
    history := process.history ++ [.reconnecting process.monotonic]
    tracks := by
      rintro _ ⟨⟩
      exact (process.tracks stream running).reconnecting _ }

/-- `_on_reconnected` of the running stream. -/
def reconnected (running : process.eventStream = some stream) : LarkProcess :=
  { process with
    eventStream := some stream.onReconnected
    history := process.history ++ [.reconnected process.clock]
    tracks := by
      rintro _ ⟨⟩
      exact (process.tracks stream running).reconnected _ }

/-- Setting `_error` of the running stream. -/
def recorded (running : process.eventStream = some stream) (exc : PyError) :
    LarkProcess :=
  { process with
    eventStream := some (stream.recorded exc)
    history := process.history ++ [.failed exc]
    tracks := by
      rintro _ ⟨⟩
      exact (process.tracks stream running).recorded exc }

/-- The stream has been told to stop, and is kept. -/
def stopping (running : process.eventStream = some stream) : LarkProcess :=
  { process with
    eventStream := some stream.stopped
    tracks := by
      rintro _ ⟨⟩
      exact (process.tracks stream running).stopped }

/-- `stop_event_stream`. -/
def stopEventStream : LarkProcess :=
  { process with
    eventStream := none
    raised := none
    exiting := none
    tracks := by rintro _ ⟨⟩ }

/-- `start_event_stream` up to the start of the new stream. -/
def created (sessionIds : List String) (nonempty : "" ∉ sessionIds) :
    LarkProcess :=
  { process with
    adapter := { process.adapter with
      allowedSessions := sessionIds
      sessionsNonempty := nonempty }
    eventStream := some (.create process.reconnectTimeoutSeconds)
    raised := none
    exiting := none
    history := []
    tracks := by
      rintro _ ⟨⟩
      exact tracks_create _ }

/-- `take_event`. -/
def takeEvent : Option ProviderEvent × LarkProcess :=
  (process.adapter.events.head?,
    { process with adapter := { process.adapter with
        events := process.adapter.events.tail } })

/-- `event_stream_generation`. -/
def eventStreamGeneration : Nat :=
  match process.eventStream with
  | none => 0
  | some stream => stream.reconnectGeneration

end LarkProcess

/-! ## Its threads -/

/-- Time passes, or the stream's thread acts: a callback returns, raises or has
its exception recorded, the client reconnects, or it exits. -/
inductive ThreadStep (before : LarkProcess) : LarkProcess → Prop where
  | passes {now : Int} (later : before.clock ≤ now) :
      ThreadStep before { before with clock := now }
  | elapses {now : Nat} (later : before.monotonic ≤ now) :
      ThreadStep before { before with monotonic := now }
  | reconnecting {stream} (running : before.eventStream = some stream) :
      ThreadStep before (before.reconnecting running)
  | reconnected {stream} (running : before.eventStream = some stream) :
      ThreadStep before (before.reconnected running)
  | returns {stream data adapter event}
      (_running : before.eventStream = some stream)
      (free : before.raised = none)
      (handled : before.adapter.handleMessageEvent data = .ok adapter)
      (enqueued : adapter.events = before.adapter.events ++ event.toList) :
      ThreadStep before { before with
        adapter := adapter
        dispatched := before.dispatched ++ [⟨data, .ok event⟩] }
  | raises {stream data exc} (_running : before.eventStream = some stream)
      (free : before.raised = none)
      (handled : before.adapter.handleMessageEvent data = .error exc) :
      ThreadStep before { before with
        raised := some exc
        dispatched := before.dispatched ++ [⟨data, .error exc⟩] }
  | records {stream exc} (running : before.eventStream = some stream)
      (raised : before.raised = some exc) :
      ThreadStep before { before.recorded running exc with raised := none }
  | exits {stream exc} (running : before.eventStream = some stream)
      (goesOn : stream.stopping = false) :
      ThreadStep before { before with exiting := some exc }
  | exitRecorded {stream exc} (running : before.eventStream = some stream)
      (exiting : before.exiting = some exc) :
      ThreadStep before { before.recorded running exc with exiting := none }

/-- Any number of steps of the threads. -/
abbrev Threads := Relation.ReflTransGen ThreadStep

/-- `start_event_stream`: it does nothing when there is a stream, and otherwise
waits for the new one. -/
inductive Starts (before : LarkProcess) (sessionIds : List String) :
    Except PyError Unit → LarkProcess → Prop where
  | again {stream} (running : before.eventStream = some stream) :
      Starts before sessionIds (.ok ()) before
  | connects {nonempty checked after stream}
      (idle : before.eventStream = none)
      (waits : Threads (before.created sessionIds nonempty) checked)
      (running : checked.eventStream = some stream)
      (clean : stream.error = none) (proceeds : Threads checked after) :
      Starts before sessionIds (.ok ()) after
  | fails {nonempty checked stream exc} (idle : before.eventStream = none)
      (waits : Threads (before.created sessionIds nonempty) checked)
      (running : checked.eventStream = some stream)
      (failed : stream.error = some exc) :
      Starts before sessionIds
        (.error (.raisedFrom .runtimeError
          s!"Lark event stream failed to start: {exc.message}" exc))
        (checked.stopping running)
  | late {nonempty checked stream} (idle : before.eventStream = none)
      (waits : Threads (before.created sessionIds nonempty) checked)
      (running : checked.eventStream = some stream)
      (passed : before.monotonic + before.connectTimeoutSeconds ≤
        checked.monotonic) :
      Starts before sessionIds
        (.error (.raised .runtimeError
          "Lark event stream did not become ready before the connect timeout"))
        (checked.stopping running)

/-- `event_stream_error`: the recorded error is read first, then the time of the
disconnect, then the clock. -/
inductive ReadsError (before : LarkProcess) :
    Option PyError → LarkProcess → Prop where
  | idle (idle : before.eventStream = none) : ReadsError before none before
  | failed {stream exc} (running : before.eventStream = some stream)
      (failed : stream.error = some exc) :
      ReadsError before (some exc) before
  | compared {stream later read after}
      (running : before.eventStream = some stream)
      (clean : stream.error = none) (waits : Threads before read)
      (still : read.eventStream = some later) (goesOn : Threads read after) :
      ReadsError before
        (later.timeoutError later.disconnectedAt after.monotonic) after

/-- The adapter's `fetch_history_page` has given the answer, whatever the API has
answered. -/
def FetchesPage (adapter : LarkOpenAPIAdapter) (sessionId : String)
    (startMs endMs : Int) (pageToken : Option String)
    (answer : Except PyError HistoryPage) : Prop :=
  ∃ (api : Environment larkApi) (first last : api.State) (pageSize : Nat),
    Runs api first (LarkCalls.LarkOpenAPIAdapter.fetchHistoryPage adapter
      pageSize sessionId startMs endMs pageToken) last answer

/-- How the adapter and the clock answer. -/
def LarkAnswers (before : LarkProcess) :
    (request : Call) → Answer request → LarkProcess → Prop
  | .currentTimeMs, nowMs, after => nowMs = before.clock ∧ after = before
  | .startEventStream _ sessionIds, answer, after =>
      Starts before sessionIds answer after
  | .stopEventStream _, answer, after =>
      answer = .ok () ∧ after = before.stopEventStream
  | .eventStreamError _, answer, after =>
      ∃ exc, answer = .ok exc ∧ ReadsError before exc after
  | .eventStreamGeneration _, answer, after =>
      answer = .ok before.eventStreamGeneration ∧ after = before
  | .takeEvent _, answer, after =>
      answer = .ok before.takeEvent.1 ∧ after = before.takeEvent.2
  | .fetchHistoryPage _ sessionId startMs endMs pageToken, answer, after =>
      FetchesPage before.adapter sessionId startMs endMs pageToken answer ∧
        after = before
  | _, _, after => after = before

/-- The Lark adapter, with the threads behind the puller's back. -/
@[reducible]
def larkStreams : Environment service where
  State := LarkProcess
  Interferes := ThreadStep
  Answers := LarkAnswers

/-! ## Refinement of the reconnecting stream -/

section Refinement

variable {before after created checked read : LarkProcess}
  {stream : LarkEventStream}

/-- The process as the stream whose reconnects are handed off. -/
def streamOf (process : LarkProcess) : EventStream where
  clock := process.clock
  running := process.eventStream.isSome
  connected := (disconnectedSince process.history).isNone
  reconnects := reconnectTimes process.history

theorem generation_streamOf (process : LarkProcess) :
    (streamOf process).generation = process.eventStreamGeneration := by
  rw [EventStream.generation, streamOf, LarkProcess.eventStreamGeneration]
  cases running : process.eventStream with
  | none => rfl
  | some stream => exact (process.tracks stream running).generation.symm

theorem streamOf_reconnecting (running : before.eventStream = some stream) :
    streamWorld.Evolves (streamOf before)
      (streamOf (before.reconnecting running)) := by
  have same : streamOf (before.reconnecting running) =
      { streamOf before with connected := false } := by
    simp [streamOf, LarkProcess.reconnecting, running,
      disconnectedSince_append, reconnectTimes_append,
      StreamEvent.reconnected?]
  have isRunning : (streamOf before).running = true := by
    simp [streamOf, running]
  rw [same]
  cases connected : (streamOf before).connected with
  | true => exact .single (.disconnects isRunning connected)
  | false =>
      rw [← connected]
      exact .refl

theorem streamOf_reconnected (running : before.eventStream = some stream) :
    streamWorld.Evolves (streamOf before)
      (streamOf (before.reconnected running)) := by
  have same : streamOf (before.reconnected running) =
      { streamOf before with
        connected := true
        reconnects := (streamOf before).reconnects ++ [before.clock] } := by
    simp [streamOf, LarkProcess.reconnected, running,
      disconnectedSince_append, reconnectTimes_append,
      StreamEvent.reconnected?]
  have isRunning : (streamOf before).running = true := by
    simp [streamOf, running]
  rw [same]
  cases connected : (streamOf before).connected with
  | true =>
      have down : StreamSteps (streamOf before)
          { streamOf before with connected := false } :=
        .disconnects isRunning connected
      exact .head down (.single (.reconnects isRunning rfl))
  | false => exact .single (.reconnects isRunning connected)

theorem streamOf_recorded (running : before.eventStream = some stream)
    (exc : PyError) :
    streamOf (before.recorded running exc) = streamOf before := by
  simp [streamOf, LarkProcess.recorded, running, disconnectedSince_append,
    reconnectTimes_append, StreamEvent.reconnected?]

theorem streamOf_step (step : ThreadStep before after) :
    streamWorld.Evolves (streamOf before) (streamOf after) := by
  cases step with
  | passes later => exact .single (.passes later)
  | reconnecting running => exact streamOf_reconnecting running
  | reconnected running => exact streamOf_reconnected running
  | @records _ exc running =>
      have same := streamOf_recorded running exc
      exact same ▸ .refl
  | @exitRecorded _ exc running =>
      have same := streamOf_recorded running exc
      exact same ▸ .refl
  | elapses | returns | raises | exits => exact .refl

theorem streamOf_threads (threads : Threads before after) :
    streamWorld.Evolves (streamOf before) (streamOf after) := by
  induction threads with
  | refl => exact .refl
  | tail _ step ih => exact ih.trans (streamOf_step step)

theorem streamOf_stopping (running : before.eventStream = some stream) :
    streamOf (before.stopping running) = streamOf before := by
  simp [streamOf, LarkProcess.stopping, running]

theorem streamOf_created {sessionIds : List String}
    (nonempty : "" ∉ sessionIds) (idle : before.eventStream = none) :
    streamOf (before.created sessionIds nonempty) =
      (streamOf before).opened := by
  simp [streamOf, LarkProcess.created, EventStream.opened, idle,
    disconnectedSince, reconnectTimes]

theorem streamOf_starts {sessionIds : List String}
    {answer : Except PyError Unit}
    (starts : Starts before sessionIds answer after) :
    streamWorld.Evolves (streamOf before).opened (streamOf after) := by
  cases starts with
  | again running =>
      have open' : (streamOf before).opened = streamOf before := by
        simp [EventStream.opened, streamOf, running]
      rw [open']
      exact .refl
  | @connects nonempty _ _ _ idle waits _ _ proceeds =>
      rw [← streamOf_created nonempty idle]
      exact streamOf_threads (waits.trans proceeds)
  | @fails nonempty _ _ _ idle waits running =>
      rw [← streamOf_created nonempty idle, streamOf_stopping]
      exact streamOf_threads waits
  | @late nonempty _ _ idle waits running =>
      rw [← streamOf_created nonempty idle, streamOf_stopping]
      exact streamOf_threads waits

theorem threads_readsError {exc : Option PyError}
    (reads : ReadsError before exc after) : Threads before after := by
  cases reads with
  | idle | failed => exact .refl
  | compared _ _ waits _ goesOn => exact waits.trans goesOn

/-- The adapter's stream is the reconnecting stream. -/
theorem refines_streamWorld :
    WeakSimulation larkStreams streamWorld (fun _ => True)
      (fun process image => image = streamOf process) where
  interferes before after image step relates := by
    subst relates
    exact ⟨_, streamOf_step step, rfl⟩
  answers before request answer after image _ answers relates := by
    subst relates
    cases request with
    | currentTimeMs =>
        rcases answers with ⟨rfl, rfl⟩
        exact ⟨_, _, ⟨rfl, rfl⟩, .refl, rfl⟩
    | startEventStream =>
        exact ⟨_, _, rfl, streamOf_starts answers, rfl⟩
    | stopEventStream =>
        rcases answers with ⟨rfl, rfl⟩
        exact ⟨_, _, rfl, .refl, rfl⟩
    | eventStreamError =>
        rcases answers with ⟨exc, rfl, reads⟩
        exact ⟨_, _, rfl, streamOf_threads (threads_readsError reads), rfl⟩
    | eventStreamGeneration =>
        rcases answers with ⟨rfl, rfl⟩
        exact ⟨_, _, ⟨(generation_streamOf _).symm, rfl⟩, .refl, rfl⟩
    | takeEvent =>
        rcases answers with ⟨rfl, rfl⟩
        exact ⟨_, _, rfl, .refl, rfl⟩
    | fetchHistoryPage =>
        rcases answers with ⟨-, rfl⟩
        exact ⟨_, _, rfl, .refl, rfl⟩
    | _ =>
        cases answers
        exact ⟨_, _, rfl, .refl, rfl⟩

/-! ## Refinement of the callback thread -/

/-- The process as the callback thread with its queue. -/
def callbackOf (process : LarkProcess) : StreamState where
  adapter := process.adapter
  raised := process.raised
  error := process.eventStream.bind LarkEventStream.error
  dispatched := process.dispatched

/-- The stream is not given up by the call. -/
def KeepsStream : Call → Prop
  | .stopEventStream _ => False
  | _ => True

theorem callbackOf_step (step : ThreadStep before after) :
    callbackThread.Evolves (callbackOf before) (callbackOf after) := by
  cases step with
  | returns _ free handled enqueued =>
      exact .single (.returns free handled enqueued)
  | raises _ free handled => exact .single (.raises free handled)
  | records _ raised => exact .single (.records raised)
  | @exitRecorded _ exc running =>
      exact .single (@CallbackStep.exits (callbackOf before) exc)
  | @reconnecting stream running =>
      have same : callbackOf (before.reconnecting running) =
          callbackOf before := by
        have error : (stream.onReconnecting before.monotonic).error =
            stream.error := by
          rw [LarkEventStream.onReconnecting]
          split <;> rfl
        simp [callbackOf, LarkProcess.reconnecting, running, error]
      exact same ▸ .refl
  | reconnected running =>
      have same : callbackOf (before.reconnected running) =
          callbackOf before := by
        simp [callbackOf, LarkProcess.reconnected, running,
          LarkEventStream.onReconnected]
      exact same ▸ .refl
  | passes | elapses | exits => exact .refl

theorem callbackOf_threads (threads : Threads before after) :
    callbackThread.Evolves (callbackOf before) (callbackOf after) := by
  induction threads with
  | refl => exact .refl
  | tail _ step ih => exact ih.trans (callbackOf_step step)

theorem running_step (step : ThreadStep before after)
    (running : before.eventStream.isSome = true) :
    after.eventStream.isSome = true := by
  cases step <;> first | exact running | rfl

theorem running_threads (threads : Threads before after)
    (running : before.eventStream.isSome = true) :
    after.eventStream.isSome = true := by
  induction threads with
  | refl => exact running
  | tail _ step ih => exact running_step step ih

theorem error_of_readsError {exc : Option PyError}
    (reads : ReadsError before exc after) :
    exc = (callbackOf before).error ∨
      (callbackOf before).error = none ∧ exc = some reconnectTimeout := by
  cases reads with
  | idle idle => exact Or.inl (by simp [callbackOf, idle])
  | failed running failed =>
      exact Or.inl (by simp [callbackOf, running, failed])
  | @compared _ later _ _ running clean =>
      have noError : (callbackOf before).error = none := by
        simp [callbackOf, running, clean]
      rw [noError]
      unfold LarkEventStream.timeoutError
      split
      · exact Or.inl rfl
      · split_ifs
        · exact Or.inr ⟨rfl, rfl⟩
        · exact Or.inl rfl

/-- While it runs, the adapter with its stream is the callback thread. -/
theorem refines_callbackThread :
    WeakSimulation larkStreams callbackThread KeepsStream
      (fun process image => process.eventStream.isSome = true ∧
        image = callbackOf process) where
  interferes before after image step relates := by
    rcases relates with ⟨running, rfl⟩
    exact ⟨_, callbackOf_step step, running_step step running, rfl⟩
  answers before request answer after image keeps answers relates := by
    rcases relates with ⟨running, rfl⟩
    cases request with
    | currentTimeMs =>
        rcases answers with ⟨rfl, rfl⟩
        exact ⟨_, _, rfl, .refl, running, rfl⟩
    | startEventStream =>
        cases answers with
        | again => exact ⟨_, _, rfl, .refl, running, rfl⟩
        | connects idle | fails idle | late idle =>
            rw [idle] at running
            cases running
    | stopEventStream => exact absurd keeps id
    | eventStreamError =>
        rcases answers with ⟨exc, rfl, reads⟩
        have threads := threads_readsError reads
        refine ⟨_, _, ⟨rfl, ?_⟩, callbackOf_threads threads,
          running_threads threads running, rfl⟩
        rcases error_of_readsError reads with same | ⟨noError, same⟩
        · exact Or.inl (congrArg Except.ok same)
        · exact Or.inr ⟨noError, congrArg Except.ok same⟩
    | eventStreamGeneration =>
        rcases answers with ⟨rfl, rfl⟩
        exact ⟨_, _, rfl, .refl, running, rfl⟩
    | takeEvent =>
        rcases answers with ⟨rfl, rfl⟩
        exact ⟨_, _, ⟨rfl, rfl⟩, .refl, running, rfl⟩
    | fetchHistoryPage =>
        rcases answers with ⟨-, rfl⟩
        exact ⟨_, _, rfl, .refl, running, rfl⟩
    | _ =>
        cases answers
        exact ⟨_, _, rfl, .refl, running, rfl⟩

theorem calls_true {Result : Type} (program : Action Result) :
    program.Calls fun _ => True := by
  induction program with
  | ret | fail => exact True.intro
  | call request next ih => exact ⟨True.intro, ih⟩

/-- Whatever a program does on the Lark adapter, with the threads acting at any
moment, it also does on the reconnecting stream; and on the callback thread, if
it starts with a running stream and does not stop it. -/
theorem larkStreams_refines {Result : Type} {program : Action Result}
    {exchanges : List (Exchanged service)} {outcome : Except PyError Result}
    (transcript : Transcript larkStreams before program exchanges after
      outcome) :
    (∃ answered, Transcript streamWorld (streamOf before) program exchanges
        answered outcome ∧ streamWorld.Evolves answered (streamOf after)) ∧
      (before.eventStream.isSome = true → program.Calls KeepsStream →
        ∃ answered, Transcript callbackThread (callbackOf before) program
          exchanges answered outcome ∧
            callbackThread.Evolves answered (callbackOf after)) := by
  refine ⟨?_, fun running keeps => ?_⟩
  · rcases refines_streamWorld.transcript (calls_true program) transcript rfl
      with ⟨answered, _, same, evolves, rfl⟩
    exact ⟨answered, same, evolves⟩
  · rcases refines_callbackThread.transcript keeps transcript ⟨running, rfl⟩
      with ⟨answered, _, same, evolves, -, rfl⟩
    exact ⟨answered, same, evolves⟩

end Refinement

/-! ## A stream that has failed -/

def unstartedProcess : LarkProcess where
  adapter := sampleAdapter
  connectTimeoutSeconds := 30
  reconnectTimeoutSeconds := 300
  eventStream := none
  raised := none
  exiting := none
  clock := 0
  monotonic := 0
  history := []
  dispatched := []
  tracks := by rintro _ ⟨⟩

theorem nonempty_sample : "" ∉ ["oc1"] := by simp

def subscribedProcess : LarkProcess :=
  unstartedProcess.created ["oc1"] nonempty_sample

/-- The callback has raised. -/
def raisedProcess : LarkProcess :=
  { subscribedProcess with
    raised := some malformedError
    dispatched := [⟨malformedMessage, .error malformedError⟩] }

/-- Its exception has been recorded. -/
def failedProcess : LarkProcess :=
  { @LarkProcess.recorded raisedProcess (.create 300) rfl malformedError with
    raised := none }

/-- Reading the error of the failed stream. -/
theorem larkStreams_refines_failed :
    (streamOf failedProcess).generation = 0 ∧
      (callbackOf failedProcess).error = some malformedError ∧
      (∃ answered, Transcript streamWorld (streamOf failedProcess)
          (eventStreamError "lark")
          [⟨.eventStreamError "lark", .ok (some malformedError)⟩] answered
          (.ok (some malformedError)) ∧
        streamWorld.Evolves answered (streamOf failedProcess)) ∧
      ∃ answered, Transcript callbackThread (callbackOf failedProcess)
          (eventStreamError "lark")
          [⟨.eventStreamError "lark", .ok (some malformedError)⟩] answered
          (.ok (some malformedError)) ∧
        callbackThread.Evolves answered (callbackOf failedProcess) := by
  have reads : ReadsError failedProcess (some malformedError) failedProcess :=
    .failed rfl rfl
  have transcript : Transcript larkStreams failedProcess
      (eventStreamError "lark")
      [⟨.eventStreamError "lark", .ok (some malformedError)⟩] failedProcess
      (.ok (some malformedError)) :=
    .call .refl ⟨_, rfl, reads⟩ .ret
  have refined := larkStreams_refines transcript
  refine ⟨rfl, rfl, refined.1, refined.2 rfl ⟨True.intro, fun answer => ?_⟩⟩
  cases answer <;> exact True.intro

end OpenEventIm.Syncer.LarkStreams
