import OpenEventIm.Syncer.ProviderMessages

/-!
# Reconnects between the statements of the puller

The event stream reconnects on a thread of its own, so a reconnect can complete
between any two statements of `start` and `_schedule_reconnect_handoff`.  Here
these methods are taken apart into their statements: a `Moment` is the puller
with the statement it is at, and a step is one statement or one event of the
stream.

Every handoff of `_schedule_reconnect_handoff` reads the generation before the
clock and gives its scans last, so it covers what it counts.  `start` gives the
scans first and reads the generation last; a reconnect in between is counted
and not covered.
-/

namespace OpenEventIm.Syncer.ReconnectHandoff

open OpenEventIm.Foundation
open OpenEventIm.Foundation.Interaction
open OpenEventIm.Sdk.Errors
open OpenEventIm.Service.Calls
open OpenEventIm.Syncer.Models
open OpenEventIm.Syncer.ProviderMessages
open OpenEventIm.Syncer.ProviderMessages.ProviderMessagePuller

/-! ## The event stream -/

structure EventStream where
  clock : Int
  running : Bool
  connected : Bool
  /-- When each reconnect of the stream completed, in order. -/
  reconnects : List Int

namespace EventStream

variable (stream : EventStream)

/-- `event_stream_generation`. -/
def generation : Nat :=
  if stream.running then stream.reconnects.length else 0

/-- The stream after `start_event_stream`. -/
def opened : EventStream :=
  if stream.running then stream
  else { stream with running := true, connected := true, reconnects := [] }

/-- The stream after `stop_event_stream`. -/
def closed : EventStream := { stream with running := false }

end EventStream

/-- Time passes, or the stream's thread does something. -/
inductive StreamSteps (before : EventStream) : EventStream → Prop where
  | passes {now : Int} (later : before.clock ≤ now) :
      StreamSteps before { before with clock := now }
  | disconnects (running : before.running = true)
      (connected : before.connected = true) :
      StreamSteps before { before with connected := false }
  | reconnects (running : before.running = true)
      (disconnected : before.connected = false) :
      StreamSteps before { before with
        connected := true
        reconnects := before.reconnects ++ [before.clock] }

/-! ## Statements -/

/-- The statement that the puller executes next, with its local variables. -/
inductive Control where
  /-- No method is running. -/
  | idle
  | opened (highwater : Dict String (Option Int))
  | clockRead (highwater : Dict String (Option Int)) (nowMs : Int)
  | sessionsBuilt
  | sessionsOrdered
  | generationStored
  | generationRead (generation : Nat)
  | generationRecorded
  | handingOff (nowMs : Int) (remaining : List String)

/-- The puller is about to give scans: from the opening of the stream until
`start` has stored the generation, and from the recording of a new generation
until the last session is handed off. -/
def Control.givesScans : Control → Bool
  | .idle => false
  | .generationStored => false
  | .generationRead _ => false
  | _ => true

/-- A scan that a session has been given, and how many reconnects of the stream
were complete then. -/
structure GivenScan where
  sessionId : String
  scan : HistoryScan
  reconnectsBefore : Nat

/-- The puller between two statements.  `given` is the history of the scans since
the stream was started, which no statement reads. -/
structure Moment where
  puller : ProviderMessagePuller
  stream : EventStream
  control : Control
  given : List GivenScan

/-- The scans that are left when the stream is opened: a stream that is started
anew counts its reconnects anew. -/
def Moment.scansOfStream (state : Moment) : List GivenScan :=
  if state.stream.running then state.given else []

/-- The scans of a session's `start`. -/
def startScans (puller : ProviderMessagePuller) (stream : EventStream)
    (highwater : Dict String (Option Int)) (nowMs : Int) : List GivenScan :=
  highwater.items.map fun item =>
    { sessionId := item.1
      scan := newHistoryScan puller.config item.2 nowMs
      reconnectsBefore := stream.reconnects.length }

/-- Statements that change neither the generation nor which sessions there are:
those of the other methods. -/
structure Elsewhere (before after : ProviderMessagePuller) : Prop where
  streamGeneration : after.streamGeneration = before.streamGeneration
  keys : after.sessions.keys = before.sessions.keys

theorem Elsewhere.refl (puller : ProviderMessagePuller) :
    Elsewhere puller puller := ⟨rfl, rfl⟩

theorem Elsewhere.trans {first second third : ProviderMessagePuller}
    (left : Elsewhere first second) (right : Elsewhere second third) :
    Elsewhere first third :=
  ⟨right.streamGeneration.trans left.streamGeneration,
    right.keys.trans left.keys⟩

/-- One statement of a method. -/
inductive Statement (before : Moment) : Moment → Prop where
  | openStream {highwater : Dict String (Option Int)}
      (reached : before.control = .idle)
      (notStarted : before.puller.started = false)
      (someSession : highwater.items ≠ []) :
      Statement before { before with
        stream := before.stream.opened
        control := .opened highwater
        given := before.scansOfStream }
  | readClock {highwater : Dict String (Option Int)}
      (reached : before.control = .opened highwater) :
      Statement before { before with
        control := .clockRead highwater before.stream.clock }
  | buildSessions {highwater : Dict String (Option Int)} {nowMs : Int}
      (reached : before.control = .clockRead highwater nowMs) :
      Statement before { before with
        puller := { before.puller with
          sessions := highwater.mapValues
            (before.puller.startedSession nowMs) }
        control := .sessionsBuilt
        given := before.given ++
          startScans before.puller before.stream highwater nowMs }
  | orderSessions (reached : before.control = .sessionsBuilt) :
      Statement before { before with
        puller := { before.puller with
          sessionOrder := before.puller.sessions.keys.mergeSort }
        control := .sessionsOrdered }
  | storeGeneration (reached : before.control = .sessionsOrdered) :
      Statement before { before with
        puller := { before.puller with
          streamGeneration := before.stream.generation }
        control := .generationStored }
  | finishStart (reached : before.control = .generationStored) :
      Statement before { before with
        puller := { before.puller with started := true }
        control := .idle }
  | stop (reached : before.control = .idle) :
      Statement before { before with
        puller := { before.puller with started := false }
        stream := before.stream.closed }
  | readGeneration (reached : before.control = .idle) :
      Statement before { before with
        control := .generationRead before.stream.generation }
  /-- The generation is the recorded one, or it has moved backwards. -/
  | keepGeneration {generation : Nat}
      (reached : before.control = .generationRead generation)
      (notNew : generation ≤ before.puller.streamGeneration) :
      Statement before { before with control := .idle }
  | recordGeneration {generation : Nat}
      (reached : before.control = .generationRead generation)
      (isNew : before.puller.streamGeneration < generation) :
      Statement before { before with
        puller := { before.puller with streamGeneration := generation }
        control := .generationRecorded }
  | readHandoffClock (reached : before.control = .generationRecorded) :
      Statement before { before with
        control := .handingOff before.stream.clock
          before.puller.sessions.keys }
  | handOffSession {nowMs : Int} {sessionId : String}
      {remaining : List String} {state : SessionPullState}
      {scan : HistoryScan}
      (reached : before.control =
        .handingOff nowMs (sessionId :: remaining))
      (found : before.puller.sessions.get? sessionId = some state)
      (gives : (before.puller.handOff nowMs state).historyScan = some scan) :
      Statement before { before with
        puller := before.puller.setSession sessionId
          (before.puller.handOff nowMs state)
        control := .handingOff nowMs remaining
        given := before.given ++
          [⟨sessionId, scan, before.stream.reconnects.length⟩] }
  | finishHandoff {nowMs : Int}
      (reached : before.control = .handingOff nowMs []) :
      Statement before { before with control := .idle }
  | elsewhere {puller : ProviderMessagePuller}
      (reached : before.control = .idle)
      (frame : Elsewhere before.puller puller) :
      Statement before { before with puller := puller }

/-- One statement of the puller, or one event of the stream. -/
inductive Step (before : Moment) : Moment → Prop where
  | statement {after : Moment} (statement : Statement before after) :
      Step before after
  | stream {stream : EventStream}
      (steps : StreamSteps before.stream stream) :
      Step before { before with stream := stream }

/-- The puller before its first `start`. -/
def initialMoment (provider : String) (config : ProviderSyncConfig)
    (clock : Int) : Moment where
  puller := create provider config
  stream :=
    { clock := clock, running := false, connected := false, reconnects := [] }
  control := .idle
  given := []

/-- Each of the first `generation` reconnects is covered in every session: a
scan that reaches up to its completion was given after it. -/
def CoversUpTo (generation : Nat) (state : Moment) : Prop :=
  ∀ index completed, index < generation →
    state.stream.reconnects[index]? = some completed →
      ∀ sessionId ∈ state.puller.sessions.keys,
        ∃ given ∈ state.given, given.sessionId = sessionId ∧
          index < given.reconnectsBefore ∧ completed ≤ given.scan.endMs

/-- Every reconnect that the recorded generation counts is covered. -/
def Covers (state : Moment) : Prop :=
  CoversUpTo state.puller.streamGeneration state

/--
A reconnect that completes at this moment will be covered: it does not fall
between the scans of `start` and its reading of the generation, nor, at a later
time, between its reading of the clock and the scans.
-/
def InTime (state : Moment) : Prop :=
  match state.control with
  | .clockRead _ nowMs => state.stream.clock ≤ nowMs
  | .sessionsBuilt => False
  | .sessionsOrdered => False
  | _ => True

/-- A step at which no reconnect completes out of time. -/
structure TimelyStep (before after : Moment) : Prop where
  step : Step before after
  timely : before.stream.reconnects.length < after.stream.reconnects.length →
    InTime before

/-! ## The invariant -/

/-- What holds before each statement. -/
def HoldsAt (state : Moment) : Control → Prop
  | .idle => Covers state ∧ (state.stream.running = true →
      state.puller.streamGeneration ≤ state.stream.reconnects.length)
  | .opened _ => True
  | .clockRead _ nowMs =>
      ∀ completed ∈ state.stream.reconnects, completed ≤ nowMs
  | .sessionsBuilt => CoversUpTo state.stream.reconnects.length state
  | .sessionsOrdered => CoversUpTo state.stream.reconnects.length state
  | .generationStored => Covers state ∧ (state.stream.running = true →
      state.puller.streamGeneration ≤ state.stream.reconnects.length)
  | .generationRead generation =>
      (Covers state ∧ (state.stream.running = true →
        state.puller.streamGeneration ≤ state.stream.reconnects.length)) ∧
      generation ≤ state.stream.reconnects.length
  | .generationRecorded =>
      state.puller.streamGeneration ≤ state.stream.reconnects.length
  | .handingOff nowMs remaining =>
      state.puller.streamGeneration ≤ state.stream.reconnects.length ∧
      ∀ index completed, index < state.puller.streamGeneration →
        state.stream.reconnects[index]? = some completed →
          completed ≤ nowMs ∧
          ∀ sessionId ∈ state.puller.sessions.keys, sessionId ∉ remaining →
            ∃ given ∈ state.given, given.sessionId = sessionId ∧
              index < given.reconnectsBefore ∧ completed ≤ given.scan.endMs

/-- No reconnect is in the future, and the assertion of the statement holds. -/
structure Invariant (state : Moment) : Prop where
  past : ∀ completed ∈ state.stream.reconnects,
    completed ≤ state.stream.clock
  here : HoldsAt state state.control

theorem EventStream.generation_le (stream : EventStream) :
    stream.generation ≤ stream.reconnects.length := by
  unfold EventStream.generation
  split_ifs with running
  · exact le_rfl
  · exact Nat.zero_le _

/-- The stream only continues its list of reconnects, at the present time. -/
theorem StreamSteps.continues {before after : EventStream}
    (steps : StreamSteps before after) :
    after.running = before.running ∧ before.clock ≤ after.clock ∧
      (after.reconnects = before.reconnects ∨
        before.running = true ∧
          after.reconnects = before.reconnects ++ [before.clock]) := by
  cases steps with
  | passes later => exact ⟨rfl, later, Or.inl rfl⟩
  | disconnects => exact ⟨rfl, le_rfl, Or.inl rfl⟩
  | reconnects running => exact ⟨rfl, le_rfl, Or.inr ⟨running, rfl⟩⟩

section Stream

variable {state : Moment} {stream : EventStream}

/-- A reconnect that the bound counts was there before the step. -/
theorem StreamSteps.earlier (steps : StreamSteps state.stream stream)
    {bound index : Nat} {completed : Int}
    (bounded : state.stream.running = true →
      bound ≤ state.stream.reconnects.length)
    (counted : index < bound)
    (found : stream.reconnects[index]? = some completed) :
    state.stream.reconnects[index]? = some completed := by
  rcases steps.continues with ⟨-, -, same | ⟨running, appended⟩⟩
  · rw [← same]
    exact found
  · have inside := counted.trans_le (bounded running)
    rw [appended, List.getElem?_append_left inside] at found
    exact found

theorem StreamSteps.bounded (steps : StreamSteps state.stream stream)
    {bound : Nat} (bounded : bound ≤ state.stream.reconnects.length) :
    bound ≤ stream.reconnects.length := by
  rcases steps.continues with ⟨-, -, same | ⟨-, appended⟩⟩
  · rw [same]
    exact bounded
  · rw [appended, List.length_append]
    exact bounded.trans (Nat.le_add_right _ _)

theorem CoversUpTo.streamSteps {bound : Nat} (covers : CoversUpTo bound state)
    (steps : StreamSteps state.stream stream)
    (bounded : state.stream.running = true →
      bound ≤ state.stream.reconnects.length) :
    CoversUpTo bound { state with stream := stream } :=
  fun index completed counted found =>
    covers index completed counted (steps.earlier bounded counted found)

theorem Invariant.past_stream (invariant : Invariant state)
    (steps : StreamSteps state.stream stream) :
    ∀ completed ∈ stream.reconnects, completed ≤ stream.clock := by
  intro completed member
  rcases steps.continues with ⟨-, later, same | ⟨-, appended⟩⟩
  · rw [same] at member
    exact (invariant.past completed member).trans later
  · rw [appended, List.mem_append, List.mem_singleton] at member
    rcases member with member | rfl
    · exact (invariant.past completed member).trans later
    · exact later

/-- An event of the stream keeps the assertion, if it is in time. -/
theorem Invariant.streamSteps (invariant : Invariant state)
    (steps : StreamSteps state.stream stream)
    (timely : state.stream.reconnects.length < stream.reconnects.length →
      InTime state) : Invariant { state with stream := stream } := by
  refine ⟨invariant.past_stream steps, ?_⟩
  have here := invariant.here
  -- where no reconnect is in time, the list stays as it is
  have unchanged : ¬ InTime state →
      stream.reconnects = state.stream.reconnects := by
    intro late
    rcases steps.continues with ⟨-, -, same | ⟨-, appended⟩⟩
    · exact same
    · refine absurd (timely ?_) late
      rw [appended, List.length_append]
      exact Nat.lt_succ_self _
  have settled : ∀ {bound}, (state.stream.running = true →
      bound ≤ state.stream.reconnects.length) → stream.running = true →
        bound ≤ stream.reconnects.length := by
    intro bound bounded running
    rw [steps.continues.1] at running
    exact steps.bounded (bounded running)
  show HoldsAt { state with stream := stream } state.control
  cases reached : state.control with
  | idle =>
      rw [reached] at here
      exact ⟨here.1.streamSteps steps here.2, settled here.2⟩
  | opened highwater => trivial
  | clockRead highwater nowMs =>
      rw [reached] at here
      intro completed member
      rcases steps.continues with ⟨-, -, same | ⟨-, appended⟩⟩
      · exact here completed (same ▸ member)
      · have inTime : InTime state := by
          apply timely
          rw [appended, List.length_append]
          exact Nat.lt_succ_self _
        rw [InTime, reached] at inTime
        have split : completed ∈ state.stream.reconnects ++
            [state.stream.clock] := appended ▸ member
        rcases List.mem_append.mp split with member | member
        · exact here completed member
        · rw [List.mem_singleton.mp member]
          exact inTime
  | sessionsBuilt =>
      rw [reached] at here
      have same := unchanged (by rw [InTime, reached]; exact id)
      show CoversUpTo stream.reconnects.length _
      rw [same]
      exact CoversUpTo.streamSteps here steps fun _ => le_rfl
  | sessionsOrdered =>
      rw [reached] at here
      have same := unchanged (by rw [InTime, reached]; exact id)
      show CoversUpTo stream.reconnects.length _
      rw [same]
      exact CoversUpTo.streamSteps here steps fun _ => le_rfl
  | generationStored =>
      rw [reached] at here
      exact ⟨here.1.streamSteps steps here.2, settled here.2⟩
  | generationRead generation =>
      rw [reached] at here
      exact ⟨⟨here.1.1.streamSteps steps here.1.2, settled here.1.2⟩,
        steps.bounded here.2⟩
  | generationRecorded =>
      rw [reached] at here
      exact steps.bounded here
  | handingOff nowMs remaining =>
      rw [reached] at here
      refine ⟨steps.bounded here.1, ?_⟩
      intro index completed counted found
      exact here.2 index completed counted
        (steps.earlier (fun _ => here.1) counted found)

end Stream

section Statements

variable {before after : Moment}

/-- The scans of `start` reach up to the time it has read. -/
theorem startScans_covers {puller : ProviderMessagePuller}
    {stream : EventStream} {highwater : Dict String (Option Int)}
    {nowMs : Int} {sessionId : String} (member : sessionId ∈ highwater.keys) :
    ∃ given ∈ startScans puller stream highwater nowMs,
      given.sessionId = sessionId ∧
        given.reconnectsBefore = stream.reconnects.length ∧
          given.scan.endMs = nowMs := by
  obtain ⟨item, inItems, rfl⟩ := List.mem_map.mp member
  exact ⟨_, List.mem_map_of_mem inItems, rfl, rfl, rfl⟩

/-- After the scans of `start`, every earlier reconnect is covered. -/
theorem coversUpTo_buildSessions {highwater : Dict String (Option Int)}
    {nowMs : Int}
    (past : ∀ completed ∈ before.stream.reconnects, completed ≤ nowMs) :
    CoversUpTo before.stream.reconnects.length { before with
      puller := { before.puller with
        sessions := highwater.mapValues (before.puller.startedSession nowMs) }
      control := .sessionsBuilt
      given := before.given ++
        startScans before.puller before.stream highwater nowMs } := by
  intro index completed counted found sessionId member
  have inHighwater : sessionId ∈ highwater.keys := by
    rw [← Dict.keys_mapValues]
    exact member
  obtain ⟨given, inGiven, same, done, reaches⟩ :=
    @startScans_covers before.puller before.stream highwater nowMs sessionId
      inHighwater
  refine ⟨given, List.mem_append_right _ inGiven, same, ?_, ?_⟩
  · rw [done]
    exact counted
  · rw [reaches]
    exact past completed (List.mem_of_getElem? found)

theorem keys_setSession {puller : ProviderMessagePuller} {sessionId : String}
    {state next : SessionPullState}
    (found : puller.sessions.get? sessionId = some state) :
    (puller.setSession sessionId next).sessions.keys =
      puller.sessions.keys :=
  Dict.keys_set_of_mem (Dict.mem_keys_iff.mpr ⟨state, found⟩)

/-- Every statement keeps the invariant. -/
theorem Invariant.statement (invariant : Invariant before)
    (statement : Statement before after) : Invariant after := by
  have here := invariant.here
  have past := invariant.past
  cases statement with
  | openStream reached =>
      refine ⟨?_, trivial⟩
      show ∀ completed ∈ before.stream.opened.reconnects,
        completed ≤ before.stream.opened.clock
      unfold EventStream.opened
      split_ifs with running
      · exact past
      · exact fun _ member => absurd member List.not_mem_nil
  | readClock reached => exact ⟨past, past⟩
  | buildSessions reached =>
      rw [reached] at here
      exact ⟨past, coversUpTo_buildSessions here⟩
  | orderSessions reached =>
      rw [reached] at here
      exact ⟨past, here⟩
  | storeGeneration reached =>
      rw [reached] at here
      refine ⟨past, ?_, fun _ => before.stream.generation_le⟩
      intro index completed counted found
      exact here index completed
        (counted.trans_le before.stream.generation_le) found
  | finishStart reached =>
      rw [reached] at here
      exact ⟨past, here⟩
  | stop reached =>
      rw [reached] at here
      refine ⟨past, ?_⟩
      show HoldsAt _ before.control
      rw [reached]
      exact ⟨here.1, nofun⟩
  | readGeneration reached =>
      rw [reached] at here
      exact ⟨past, here, before.stream.generation_le⟩
  | keepGeneration reached notNew =>
      rw [reached] at here
      exact ⟨past, here.1⟩
  | recordGeneration reached isNew =>
      rw [reached] at here
      exact ⟨past, here.2⟩
  | readHandoffClock reached =>
      rw [reached] at here
      refine ⟨past, here, ?_⟩
      intro index completed counted found
      exact ⟨past completed (List.mem_of_getElem? found),
        fun sessionId member absent => absurd member absent⟩
  | @handOffSession nowMs sessionId remaining state scan reached found gives =>
      rw [reached] at here
      refine ⟨past, here.1, ?_⟩
      intro index completed counted foundReconnect
      obtain ⟨inPast, others⟩ := here.2 index completed counted foundReconnect
      refine ⟨inPast, ?_⟩
      intro other member absent
      have wasMember : other ∈ before.puller.sessions.keys := by
        rw [← keys_setSession found]
        exact member
      by_cases same : other = sessionId
      · subst same
        refine ⟨_, List.mem_append_right _ (List.mem_singleton_self _), rfl,
          counted.trans_le here.1, ?_⟩
        cases gives
        exact inPast
      · have earlier : other ∉ sessionId :: remaining := by
          rw [List.mem_cons, not_or]
          exact ⟨same, absent⟩
        obtain ⟨given, inGiven, rest⟩ := others other wasMember earlier
        exact ⟨given, List.mem_append_left _ inGiven, rest⟩
  | finishHandoff reached =>
      rw [reached] at here
      refine ⟨past, ?_, fun _ => here.1⟩
      intro index completed counted found sessionId member
      exact (here.2 index completed counted found).2 sessionId member
        List.not_mem_nil
  | elsewhere reached frame =>
      rw [reached] at here
      refine ⟨past, ?_⟩
      show HoldsAt _ before.control
      rw [reached]
      refine ⟨?_, ?_⟩
      · intro index completed counted found sessionId member
        have counted' : index < before.puller.streamGeneration := by
          rw [← frame.streamGeneration]
          exact counted
        have member' : sessionId ∈ before.puller.sessions.keys := by
          rw [← frame.keys]
          exact member
        exact here.1 index completed counted' found sessionId member'
      · intro running
        show _ ≤ _
        rw [frame.streamGeneration]
        exact here.2 running

theorem Invariant.timelyStep (invariant : Invariant before)
    (step : TimelyStep before after) : Invariant after := by
  rcases step with ⟨step, timely⟩
  cases step with
  | statement statement => exact invariant.statement statement
  | stream steps => exact invariant.streamSteps steps timely

theorem invariant_initialMoment (provider : String)
    (config : ProviderSyncConfig) (clock : Int) :
    Invariant (initialMoment provider config clock) where
  past _ member := absurd member List.not_mem_nil
  here := ⟨fun _ _ counted => absurd counted (Nat.not_lt_zero _),
    fun _ => Nat.zero_le _⟩

end Statements

theorem Invariant.timelySteps {before after : Moment}
    (invariant : Invariant before)
    (reached : Relation.ReflTransGen TimelyStep before after) :
    Invariant after := by
  induction reached with
  | refl => exact invariant
  | tail _ step ih => exact ih.timelyStep step

/-! ## The condition -/

/-- One session, of which nothing is confirmed. -/
def sampleHighwater : Dict String (Option Int) :=
  (∅ : Dict String (Option Int)).set "oc1" none

def sampleMoment : Moment :=
  initialMoment "lark" ⟨1000, 1000, 1000, 8⟩ 5

section Runs

variable {first before after : Moment}

/-- A run continues with a statement. -/
theorem run_statement
    (run : Relation.ReflTransGen TimelyStep first before)
    (statement : Statement before after)
    (noReconnect : after.stream.reconnects.length ≤
      before.stream.reconnects.length) :
    Relation.ReflTransGen TimelyStep first after :=
  run.tail ⟨.statement statement,
    fun more => absurd more (Nat.not_lt.mpr noReconnect)⟩

/-- A run continues with an event of the stream that is in time. -/
theorem run_stream {stream : EventStream}
    (run : Relation.ReflTransGen TimelyStep first before)
    (steps : StreamSteps before.stream stream) (inTime : InTime before) :
    Relation.ReflTransGen TimelyStep first
      { before with stream := stream } :=
  run.tail ⟨.stream steps, fun _ => inTime⟩

end Runs

/-- A puller that starts without a reconnect, and hands off the first one. -/
theorem handsOff_sample : ∃ state,
    Relation.ReflTransGen TimelyStep sampleMoment state ∧
      state.control = .idle ∧ state.puller.streamGeneration = 1 := by
  have opened := run_statement .refl (@Statement.openStream sampleMoment
    sampleHighwater rfl rfl (List.cons_ne_nil _ _)) le_rfl
  have clockRead := run_statement opened (.readClock rfl) le_rfl
  have built := run_statement clockRead (.buildSessions rfl) le_rfl
  have ordered := run_statement built (.orderSessions rfl) le_rfl
  have stored := run_statement ordered (.storeGeneration rfl) le_rfl
  have started := run_statement stored (.finishStart rfl) le_rfl
  have lost := run_stream started (.disconnects rfl rfl) trivial
  have back := run_stream lost (.reconnects rfl rfl) trivial
  have read := run_statement back (.readGeneration rfl) le_rfl
  have recorded := run_statement read
    (.recordGeneration rfl (Nat.lt_succ_self 0)) le_rfl
  have timed := run_statement recorded (.readHandoffClock rfl) le_rfl
  have given := run_statement timed (.handOffSession rfl rfl rfl) le_rfl
  exact ⟨_, run_statement given (.finishHandoff rfl) le_rfl, rfl, rfl⟩

/-- Outside of `start` and of a handoff the invariant covers every reconnect. -/
theorem Invariant.covers {state : Moment} (invariant : Invariant state)
    (settled : state.control.givesScans = false) : Covers state := by
  have here := invariant.here
  cases reached : state.control with
  | idle =>
      rw [reached] at here
      exact here.1
  | generationStored =>
      rw [reached] at here
      exact here.1
  | generationRead generation =>
      rw [reached] at here
      exact here.1.1
  | _ =>
      rw [reached] at settled
      cases settled

/--
In every run, with reconnects between any two statements, in which no reconnect
completes out of time during `start`: whenever the puller is not about to give
scans, every reconnect that the recorded generation counts is covered by a
history scan in every session.
-/
theorem covers_of_timelySteps (provider : String)
    (config : ProviderSyncConfig) (clock : Int) {state : Moment}
    (reached : Relation.ReflTransGen TimelyStep
      (initialMoment provider config clock) state)
    (settled : state.control.givesScans = false) : Covers state :=
  ((invariant_initialMoment provider config clock).timelySteps
    reached).covers settled

/-- The first reconnect after a start is covered when its handoff is over. -/
theorem covers_of_timelySteps_sample : ∃ state,
    Relation.ReflTransGen TimelyStep sampleMoment state ∧
      state.puller.streamGeneration = 1 ∧ Covers state := by
  obtain ⟨state, reached, atRest, counted⟩ := handsOff_sample
  exact ⟨state, reached, counted,
    covers_of_timelySteps "lark" ⟨1000, 1000, 1000, 8⟩ 5 reached
      (by rw [atRest]; rfl)⟩

/-- A reconnect between the scans of `start` and its reading of the generation
is counted, and no later scan covers it. -/
theorem start_countsUncoveredReconnect : ∃ state,
    Relation.ReflTransGen Step sampleMoment state ∧
      state.control.givesScans = false ∧ ¬ Covers state := by
  have opened : Relation.ReflTransGen Step sampleMoment _ := .single
    (.statement (@Statement.openStream sampleMoment sampleHighwater rfl rfl
      (List.cons_ne_nil _ _)))
  have clockRead := opened.tail (.statement (.readClock rfl))
  have built := clockRead.tail (.statement (.buildSessions rfl))
  have lost := built.tail (.stream (.disconnects rfl rfl))
  have later := lost.tail
    (.stream (@StreamSteps.passes _ 9 (by decide)))
  have back := later.tail (.stream (.reconnects rfl rfl))
  have ordered := back.tail (.statement (.orderSessions rfl))
  have stored := ordered.tail (.statement (.storeGeneration rfl))
  have started := stored.tail (.statement (.finishStart rfl))
  refine ⟨_, started, rfl, ?_⟩
  intro covers
  obtain ⟨given, member, -, after, -⟩ :=
    covers 0 9 Nat.zero_lt_one rfl "oc1" List.mem_cons_self
  rw [List.mem_singleton.mp member] at after
  exact absurd after (Nat.not_lt_zero 0)

end OpenEventIm.Syncer.ReconnectHandoff
