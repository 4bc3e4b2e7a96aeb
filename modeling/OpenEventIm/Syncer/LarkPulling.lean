import OpenEventIm.Syncer.LarkServer
import OpenEventIm.Syncer.LarkStreams

/-!
# The puller on the Lark adapter

The puller checks what its adapter gives it: that the generation of the stream
does not fall, that events are of its provider and of a known session.  With the
Lark adapter none of these checks ever fails: a call of `take_message` raises
only when the stream has failed, or what a query of the history has raised.

A failure recorded before a call makes the call raise at once.
-/

namespace OpenEventIm.Syncer.LarkPulling

open OpenEventIm.Foundation
open OpenEventIm.Foundation.Interaction
open OpenEventIm.Foundation.Transcripts
open OpenEventIm.Sdk.Errors
open OpenEventIm.Service.Calls
open OpenEventIm.Syncer.Models
open OpenEventIm.Syncer.LarkMessages
open OpenEventIm.Syncer.LarkMessages.LarkOpenAPIAdapter
open OpenEventIm.Syncer.LiveStream
open OpenEventIm.Syncer.ProviderMessages
open OpenEventIm.Syncer.ProviderMessages.ProviderMessagePuller
open OpenEventIm.Syncer.PullerSessions
open OpenEventIm.Syncer.ReconnectHandoff
open OpenEventIm.Syncer.LarkStreams

/-! ## What a call raises -/

/-- The exception of `_raise_stream_error`. -/
def streamFailed (provider : String) (cause : PyError) : PyError :=
  .raisedFrom .runtimeError s!"{provider} event stream failed" cause

/-- What `take_message` raises, with the process at that moment: the stream's
last failure, its reconnect timeout when it has been disconnected for so long,
or what a query of the history has raised. -/
inductive Fault (provider : String) : PyError → LarkProcess → Prop where
  | recorded {cause after}
      (failed : lastFailure after.history = some cause) :
      Fault provider (streamFailed provider cause) after
  | timedOut {read after stream since}
      (running : read.eventStream = some stream)
      (disconnected : disconnectedSince read.history = some since)
      (waits : Threads read after)
      (passed : since + stream.reconnectTimeoutSeconds ≤ after.monotonic) :
      Fault provider (streamFailed provider reconnectTimeout) after
  | history {sessionId startMs endMs pageToken exc after}
      (fetched : FetchesPage after.adapter sessionId startMs endMs pageToken
        (.error exc))
      (permanent : exc.cls ≠ .transientProviderError) :
      Fault provider exc after

/-! ## The puller's view of the adapter -/

/-- A started puller and the adapter it has started. -/
structure Attached (puller : ProviderMessagePuller) (process : LarkProcess) :
    Prop where
  wellFormed : WellFormed puller
  provider : puller.provider = process.adapter.name
  running : process.eventStream.isSome = true
  counted : puller.streamGeneration ≤ process.eventStreamGeneration
  subscribed : ∀ sessionId ∈ process.adapter.allowedSessions,
    puller.sessions.contains sessionId = true
  own : ∀ event ∈ process.adapter.events, Own process.adapter event

variable {puller next : ProviderMessagePuller} {process after : LarkProcess}

/-- What the threads keep of an adapter. -/
structure SameAdapter (before after : LarkProcess) : Prop where
  name : after.adapter.name = before.adapter.name
  allowedSessions :
    after.adapter.allowedSessions = before.adapter.allowedSessions
  own : (∀ event ∈ before.adapter.events, Own before.adapter event) →
    ∀ event ∈ after.adapter.events, Own after.adapter event
  generation : before.eventStreamGeneration ≤ after.eventStreamGeneration
  running : before.eventStream.isSome = true → after.eventStream.isSome = true

theorem SameAdapter.attached (same : SameAdapter process after)
    (attached : Attached puller process) : Attached puller after where
  wellFormed := attached.wellFormed
  provider := attached.provider.trans same.name.symm
  running := same.running attached.running
  counted := attached.counted.trans same.generation
  subscribed sessionId member :=
    attached.subscribed sessionId (same.allowedSessions ▸ member)
  own := same.own attached.own

theorem sameAdapter_step (step : ThreadStep process after) :
    SameAdapter process after := by
  have running := running_step step
  cases step with
  | @returns stream data adapter event _ free handled enqueued =>
      rcases handleMessageEvent_eq_ok handled with rfl | ⟨given, rfl, own⟩
      · exact ⟨rfl, rfl, fun all => all, le_rfl, running⟩
      · refine ⟨rfl, rfl, ?_, le_rfl, running⟩
        intro all other member
        rcases List.mem_append.mp member with queued | last
        · exact ⟨(all other queued).provider, (all other queued).mapped⟩
        · cases List.mem_singleton.mp last
          exact ⟨own.provider, own.mapped⟩
  | @reconnecting stream isStream =>
      refine ⟨rfl, rfl, fun all => all, ?_, running⟩
      have same : (stream.onReconnecting process.monotonic).reconnectGeneration =
          stream.reconnectGeneration := by
        rw [LarkEventStream.onReconnecting]
        split <;> rfl
      simp [LarkProcess.eventStreamGeneration, LarkProcess.reconnecting,
        isStream, same]
  | reconnected isStream =>
      refine ⟨rfl, rfl, fun all => all, ?_, running⟩
      simp [LarkProcess.eventStreamGeneration, LarkProcess.reconnected,
        isStream, LarkEventStream.onReconnected]
  | records isStream | exitRecorded isStream =>
      refine ⟨rfl, rfl, fun all => all, ?_, running⟩
      simp [LarkProcess.eventStreamGeneration, LarkProcess.recorded,
        isStream, LarkEventStream.recorded]
  | passes | elapses | raises | exits =>
      exact ⟨rfl, rfl, fun all => all, le_rfl, running⟩

theorem stable_attached (puller : ProviderMessagePuller) :
    larkStreams.Stable (Attached puller) :=
  fun _ _ step attached => (sameAdapter_step step).attached attached

theorem attached_threads (threads : Threads process after)
    (attached : Attached puller process) : Attached puller after :=
  (stable_attached puller).evolves threads attached

/-- The puller after a step that leaves the generation alone. -/
theorem Attached.elsewhere (attached : Attached puller process)
    (wellFormed : WellFormed next) (provider : next.provider = puller.provider)
    (elsewhere : Elsewhere puller next) : Attached next process where
  wellFormed := wellFormed
  provider := provider.trans attached.provider
  running := attached.running
  counted := elsewhere.streamGeneration ▸ attached.counted
  subscribed sessionId member := by
    have known := attached.subscribed sessionId member
    rw [Dict.contains_iff] at known ⊢
    rwa [elsewhere.keys]
  own := attached.own

/-! ## The parts of a call -/

/-- The program raises faults only, and what it returns is as described. -/
abbrev Pulls {Result : Type} (provider : String)
    (returns : Result → LarkProcess → Prop) (program : Action Result)
    (process : LarkProcess) : Prop :=
  Safe larkStreams (fun _ => True) returns (Fault provider) program process

theorem yields_of_leaving {Result : Type} {property : Result → Prop}
    {program : Action Result}
    (yields : HandoffStatements.Yields property program) :
    program.Yields property := by
  induction program with
  | ret result => exact yields
  | fail failure => exact True.intro
  | call request next ih => exact fun answer => ih answer (yields.2 answer)

theorem fault_of_readsError {provider : String} {cause : PyError}
    (reads : ReadsError process (some cause) after) :
    Fault provider (streamFailed provider cause) after := by
  generalize same : some cause = exc at reads
  cases reads with
  | idle => cases same
  | @failed stream _ running failed =>
      cases same
      exact .recorded ((process.tracks stream running).error ▸ failed)
  | @compared _ later read _ _ _ _ still goesOn =>
      have tracked := (read.tracks later still).disconnectedAt
      unfold LarkEventStream.timeoutError at same
      split at same
      · cases same
      · next since disconnected =>
          split_ifs at same with passed
          cases same
          exact .timedOut still (tracked.symm.trans disconnected) goesOn passed

theorem pulls_raiseStreamError (attached : Attached puller process) :
    Pulls puller.provider (fun _ after => Attached puller after)
      puller.raiseStreamError process := by
  apply Safe.callBind (stable_attached puller) (fun _ _ => trivial) attached
  rintro ready answer answered holds ⟨exc, rfl, reads⟩
  cases exc with
  | none =>
      exact ⟨trivial, attached_threads (threads_readsError reads) holds⟩
  | some cause => exact ⟨trivial, fault_of_readsError reads⟩

theorem pulls_scheduleReconnectHandoff (attached : Attached puller process) :
    Pulls puller.provider Attached puller.scheduleReconnectHandoff process := by
  apply Safe.callBind (stable_attached puller) (fun _ _ => trivial) attached
  rintro ready answer answered holds ⟨rfl, rfl⟩
  simp only [Action.ofExcept_ok, Program.ret_bind]
  rw [if_neg (Nat.not_lt.mpr holds.counted)]
  split_ifs with same
  · exact ⟨trivial, holds⟩
  · have stable : larkStreams.Stable fun later : LarkProcess =>
        Attached puller later ∧
          answered.eventStreamGeneration ≤ later.eventStreamGeneration :=
      fun _ _ step given => ⟨stable_attached puller _ _ step given.1,
        given.2.trans (sameAdapter_step step).generation⟩
    apply Safe.callBind stable (fun _ _ => trivial) ⟨holds, le_rfl⟩
    rintro clocked nowMs later ⟨still, counted⟩ ⟨-, rfl⟩
    have took := took_handedOff still.wellFormed answered.eventStreamGeneration
      nowMs
    refine ⟨trivial, { still with
      wellFormed := took.wellFormed
      counted := counted
      subscribed := fun sessionId member => ?_ }⟩
    rw [took.contains still.wellFormed]
    exact still.subscribed sessionId member

/-- The adapter without the event that has been taken. -/
theorem Attached.taken (attached : Attached puller process) :
    Attached puller process.takeEvent.2 where
  wellFormed := attached.wellFormed
  provider := attached.provider
  running := attached.running
  counted := attached.counted
  subscribed := attached.subscribed
  own event member :=
    ⟨(attached.own event (List.mem_of_mem_tail member)).provider,
      (attached.own event (List.mem_of_mem_tail member)).mapped⟩

theorem pulls_collectLiveEvent (attached : Attached puller process) :
    Pulls puller.provider (fun _ after => Attached puller after)
      puller.collectLiveEvent process := by
  rw [collectLiveEvent]
  split_ifs with full
  · exact ⟨trivial, attached⟩
  · apply Safe.callBind (stable_attached puller) (fun _ _ => trivial) attached
    rintro ready answer answered holds ⟨rfl, same⟩
    have own := holds.own
    have taken : Attached puller answered := same ▸ holds.taken
    have first : ready.takeEvent.1 = ready.adapter.events.head? := rfl
    rw [first]
    cases queue : ready.adapter.events with
    | nil => exact ⟨trivial, taken⟩
    | cons event rest =>
        have isOwn := own event (by rw [queue]; exact List.mem_cons_self)
        simp only [List.head?_cons, Action.ofExcept_ok, Program.ret_bind]
        rw [if_neg (not_not.mpr (isOwn.provider.trans holds.provider.symm)),
          if_neg (by simp [holds.subscribed _ isOwn.mapped])]
        exact ⟨trivial, taken⟩

/-- The events of a page are of the adapter's provider and of the session. -/
theorem events_of_fetchesPage {adapter : LarkOpenAPIAdapter}
    {sessionId : String} {startMs endMs : Int} {pageToken : Option String}
    {page : HistoryPage}
    (fetches : FetchesPage adapter sessionId startMs endMs pageToken (.ok page)) :
    ∀ event ∈ page.events, event.provider = adapter.name ∧
      event.sessionId = sessionId := by
  rcases fetches with ⟨api, first, last, pageSize, run⟩
  rcases runs_call run with ⟨_, answer, _, _, _, rest⟩
  cases answer with
  | error exc =>
      dsimp only at rest
      split_ifs at rest <;> cases (runs_fail.mp rest).2
  | ok response =>
      dsimp only at rest
      split_ifs at rest
      · cases (runs_fail.mp rest).2
      · cases (runs_fail.mp rest).2
      · cases data : response.data with
        | none =>
            rw [data] at rest
            cases (runs_fail.mp rest).2
        | some found =>
            rw [data] at rest
            cases read : adapter.readHistoryPage sessionId found with
            | error exc =>
                simp only [read] at rest
                cases (runs_fail.mp rest).2
            | ok page =>
                simp only [read] at rest
                cases (runs_ret.mp rest).2
                intro event member
                rcases LarkServer.item_of_readHistoryPage read member with
                  ⟨item, -, made⟩
                rcases LarkServer.event_of_historyEvent made with
                  ⟨ofProvider, ofSession, -, -⟩
                exact ⟨ofProvider, ofSession⟩

variable {sessionId : String} {state : SessionPullState} {nowMs : Int}
  {index : Nat}

theorem pulls_fetchHistoryPageOf (attached : Attached puller process) :
    Pulls puller.provider (fun _ after => Attached puller after)
      (puller.fetchHistoryPageOf sessionId state nowMs) process := by
  rw [fetchHistoryPageOf]
  cases state.historyScan with
  | none => exact ⟨trivial, attached⟩
  | some scan =>
      apply Safe.call (stable_attached puller) (fun _ _ => trivial) attached
      rintro ready answer answered holds ⟨fetches, rfl⟩
      cases answer with
      | error exc =>
          dsimp only
          split_ifs with transient
          · exact ⟨trivial, holds⟩
          · exact ⟨trivial, .history fetches transient⟩
      | ok page =>
          dsimp only
          rw [if_neg]
          · exact ⟨trivial, holds⟩
          · rintro ⟨event, member, foreign | other⟩
            · exact foreign ((events_of_fetchesPage fetches event member).1.trans
                holds.provider.symm)
            · exact other (events_of_fetchesPage fetches event member).2

theorem pulls_serveSession (attached : Attached puller process) :
    Pulls puller.provider (fun _ after => Attached puller after)
      (puller.serveSession nowMs index sessionId state) process := by
  rw [serveSession]
  by_cases busy : state.inFlight.isSome = true
  · rw [if_pos busy]
    exact ⟨trivial, attached⟩
  · rw [if_neg busy]
    split
    · exact ⟨trivial, attached⟩
    · by_cases due : state.historyScan.isSome = true ∧
          state.nextHistoryAtMs ≤ nowMs
      · rw [if_pos due]
        apply Safe.bind (pulls_fetchHistoryPageOf attached)
        intro fetched later _ holds
        split
        · exact ⟨trivial, holds⟩
        · dsimp only
          cases (puller.advanced index sessionId fetched).deliverLive index
            sessionId fetched <;> exact ⟨trivial, holds⟩
      · rw [if_neg due]
        cases puller.deliverLive index sessionId state <;>
          exact ⟨trivial, attached⟩

/-- The loop finds every session it comes to. -/
theorem exists_session {offset : Nat} (wellFormed : WellFormed puller)
    (nonempty : 0 < puller.sessionOrder.length) :
    ∃ sessionId state,
      puller.sessionOrder[(puller.sessionCursor + offset) %
          puller.sessionOrder.length]? = some sessionId ∧
        puller.sessions.get? sessionId = some state := by
  have inside := Nat.mod_lt (puller.sessionCursor + offset) nonempty
  have known := (wellFormed.known _).mp (List.getElem_mem inside)
  rcases Option.isSome_iff_exists.mp known with ⟨state, found⟩
  exact ⟨_, state, List.getElem?_eq_getElem inside, found⟩

theorem pulls_serveSessions {offset remaining : Nat}
    (attached : Attached puller process)
    (within : remaining ≤ puller.sessionOrder.length) :
    Pulls puller.provider (fun result after => Attached result.2 after)
      (puller.serveSessions nowMs offset remaining) process := by
  induction remaining generalizing puller process offset with
  | zero => exact ⟨trivial, attached⟩
  | succ remaining ih =>
      rcases @exists_session _ offset attached.wellFormed (by omega) with
        ⟨sessionId, state, indexed, found⟩
      rw [serveSessions]
      simp only [indexed, found]
      apply Safe.bind (((pulls_serveSession attached).yields
        (yields_serveSession attached.wellFormed found)).yields
          (yields_of_leaving (HandoffStatements.yields_serveSession found)))
      rintro ⟨event, served⟩ later _ ⟨⟨holds, took⟩, elsewhere⟩
      have next := holds.elsewhere took.wellFormed took.provider elsewhere
      cases event with
      | some event => exact ⟨trivial, next⟩
      | none =>
          have rest := @ih served later (offset + 1) next
            (by rw [took.sessionOrder]; omega)
          rwa [took.provider] at rest

/-! ## Whole calls -/

/-- Every call of `take_message` keeps the puller attached or raises a fault. -/
theorem pulls_takeMessage (attached : Attached puller process)
    (started : puller.started = true) :
    Pulls puller.provider (fun result after => Attached result.2 after)
      puller.takeMessage process := by
  rw [takeMessage, if_neg (by simp [started])]
  apply Safe.bind (pulls_raiseStreamError attached)
  intro _ first _ attached
  apply Safe.bind ((pulls_scheduleReconnectHandoff attached).yields
    (yields_scheduleReconnectHandoff attached.wellFormed))
  rintro handed second _ ⟨attached, tookHanded⟩
  rw [← tookHanded.provider]
  apply Safe.bind (((pulls_collectLiveEvent attached).yields
    (yields_collectLiveEvent attached.wellFormed)).yields
      (yields_of_leaving HandoffStatements.yields_collectLiveEvent))
  rintro collected third _ ⟨⟨holds, tookCollected⟩, elsewhere⟩
  have attached := holds.elsewhere tookCollected.wellFormed
    tookCollected.provider elsewhere
  rw [← tookCollected.provider]
  apply Safe.bind (pulls_raiseStreamError attached)
  intro _ fourth _ attached
  apply Safe.bind ((pulls_scheduleReconnectHandoff attached).yields
    (yields_scheduleReconnectHandoff attached.wellFormed))
  rintro again fifth _ ⟨attached, tookAgain⟩
  rw [← tookAgain.provider]
  apply Safe.callBind (stable_attached again) (fun _ _ => trivial) attached
  rintro ready nowMs answered holds ⟨-, rfl⟩
  exact pulls_serveSessions holds le_rfl

/-! ## Starting -/

/-- The adapter of a stream that has just been started for the sessions. -/
structure Subscribed (name : String) (sessionIds : List String)
    (process : LarkProcess) : Prop where
  name : process.adapter.name = name
  running : process.eventStream.isSome = true
  allowedSessions : process.adapter.allowedSessions = sessionIds
  own : ∀ event ∈ process.adapter.events, Own process.adapter event

theorem stable_subscribed (name : String) (sessionIds : List String) :
    larkStreams.Stable (Subscribed name sessionIds) := by
  intro before after step subscribed
  have same := sameAdapter_step step
  exact ⟨same.name.trans subscribed.name, same.running subscribed.running,
    same.allowedSessions.trans subscribed.allowedSessions,
    same.own subscribed.own⟩

/-- The adapter before its stream has been started. -/
structure Unstarted (name : String) (process : LarkProcess) : Prop where
  name : process.adapter.name = name
  idle : process.eventStream = none
  empty : process.adapter.events = []

theorem stable_unstarted (name : String) :
    larkStreams.Stable (Unstarted name) := by
  intro before after step unstarted
  have idle := unstarted.idle
  cases step with
  | passes | elapses => exact ⟨unstarted.name, idle, unstarted.empty⟩
  | reconnecting running | reconnected running | returns running
  | raises running | records running | exits running | exitRecorded running =>
      rw [idle] at running
      cases running

theorem subscribed_of_starts {name : String} {sessionIds : List String}
    (unstarted : Unstarted name process)
    (starts : Starts process sessionIds (.ok ()) after) :
    Subscribed name sessionIds after := by
  generalize same : (Except.ok () : Except PyError Unit) = answer at starts
  cases starts with
  | again running =>
      rw [unstarted.idle] at running
      cases running
  | connects _ waits _ _ proceeds =>
      apply (stable_subscribed name sessionIds).evolves (waits.trans proceeds)
      refine ⟨unstarted.name, rfl, rfl, fun event member => ?_⟩
      have none : event ∈ process.adapter.events := member
      rw [unstarted.empty] at none
      cases none
  | fails | late => cases same

theorem attached_startedAt {name : String} {config : ProviderSyncConfig}
    {highwater : Dict String (Option Int)} {nowMs : Int}
    (subscribed : Subscribed name highwater.keys process) :
    Attached ((create name config).startedAt highwater nowMs
      process.eventStreamGeneration) process where
  wellFormed := wellFormed_startedAt rfl rfl
  provider := subscribed.name.symm
  running := subscribed.running
  counted := le_rfl
  subscribed sessionId member := by
    rw [subscribed.allowedSessions] at member
    rw [Dict.contains_iff, startedAt, Dict.keys_mapValues]
    exact member
  own := subscribed.own

theorem safe_start {name : String} {config : ProviderSyncConfig}
    {highwater : Dict String (Option Int)} (unstarted : Unstarted name process) :
    Safe larkStreams (fun _ => True)
      (fun next after => Attached next after ∧ next.started = true)
      (fun _ _ => True) ((create name config).start highwater) process := by
  rw [start, if_neg (by simp [create])]
  split_ifs with none
  · exact ⟨trivial, trivial⟩
  · apply Safe.callBind (stable_unstarted name) (fun _ _ => trivial) unstarted
    intro ready answer answered holds starts
    cases answer with
    | error => exact ⟨trivial, trivial⟩
    | ok done =>
        have subscribed := subscribed_of_starts holds starts
        apply Safe.callBind (stable_subscribed name highwater.keys)
          (fun _ _ => trivial) subscribed
        rintro clocked nowMs later holds ⟨-, rfl⟩
        apply Safe.callBind (stable_subscribed name highwater.keys)
          (fun _ _ => trivial) holds
        rintro counting generation last holds ⟨rfl, rfl⟩
        exact ⟨trivial, attached_startedAt holds, rfl⟩

/-! ## Runs -/

/-- The pullers on the Lark adapter, from a first start on. -/
inductive LarkRun (config : ProviderSyncConfig) :
    ProviderMessagePuller → LarkProcess → Prop where
  | starts {before after highwater} {next : ProviderMessagePuller}
      (idle : before.eventStream = none) (empty : before.adapter.events = [])
      (run : Runs larkStreams before
        ((create before.adapter.name config).start highwater) after
        (.ok next)) :
      LarkRun config next after
  | evolves {puller before after} (run : LarkRun config puller before)
      (threads : Threads before after) : LarkRun config puller after
  | takes {before after event} {puller next : ProviderMessagePuller}
      (run : LarkRun config puller before)
      (takes : Runs larkStreams before puller.takeMessage after
        (.ok (event, next))) :
      LarkRun config next after
  | acknowledges {state event} {puller next : ProviderMessagePuller}
      (run : LarkRun config puller state)
      (done : puller.acknowledge event = .ok next) :
      LarkRun config next state

theorem LarkRun.attached {config : ProviderSyncConfig}
    (run : LarkRun config puller process) :
    Attached puller process ∧ puller.started = true := by
  induction run with
  | starts idle empty run =>
      exact ((safe_start ⟨rfl, idle, empty⟩).runs_ok run).2
  | evolves _ threads ih => exact ⟨attached_threads threads ih.1, ih.2⟩
  | takes _ takes ih =>
      have safe := (pulls_takeMessage ih.1 ih.2).yields
        (yields_takeMessage ih.1.wellFormed)
      rcases (safe.runs_ok takes).2 with ⟨attached, took⟩
      exact ⟨attached, took.started.trans ih.2⟩
  | acknowledges _ done ih =>
      have acknowledged := acknowledged_of_eq_ok ih.1.wellFormed done
      exact ⟨ih.1.elsewhere acknowledged.wellFormed acknowledged.provider
        (HandoffStatements.elsewhere_acknowledge done),
        acknowledged.started.trans ih.2⟩

/-! ## Fail-stop -/

/-- A recorded failure is not taken back. -/
theorem lastFailure_threads (threads : Threads process after)
    (failed : (lastFailure process.history).isSome = true) :
    (lastFailure after.history).isSome = true := by
  induction threads with
  | refl => exact failed
  | tail _ step ih =>
      cases step with
      | reconnecting | reconnected =>
          simp only [LarkProcess.reconnecting, LarkProcess.reconnected,
            lastFailure_append]
          exact ih
      | records | exitRecorded =>
          simp only [LarkProcess.recorded, lastFailure_append]
          rfl
      | passes | elapses | returns | raises | exits => exact ih

/-- The stream's error is read as it is once a failure has been recorded. -/
theorem readsError_failed {exc : Option PyError}
    (running : process.eventStream.isSome = true)
    (failed : (lastFailure process.history).isSome = true)
    (reads : ReadsError process exc after) : ∃ cause, exc = some cause := by
  cases reads with
  | idle idle =>
      rw [idle] at running
      cases running
  | @failed stream cause => exact ⟨cause, rfl⟩
  | compared isStream clean =>
      rw [← (process.tracks _ isStream).error, clean] at failed
      cases failed

/-- What a call of `take_message` does on the Lark adapter. -/
structure FailStop (puller : ProviderMessagePuller) (before : LarkProcess)
    (exchanges : List (Exchanged service)) (after : LarkProcess)
    (outcome : Except PyError (Option ProviderEvent × ProviderMessagePuller)) :
    Prop where
  raises : ∀ exc, outcome = .error exc → Fault puller.provider exc after
  /-- Once a failure is recorded the call does nothing else than raise it. -/
  failed : (lastFailure before.history).isSome = true → ∃ cause,
    outcome = .error (streamFailed puller.provider cause) ∧
      exchanges = [⟨.eventStreamError puller.provider, .ok (some cause)⟩]
  /-- A call that returns has found the stream connected, or disconnected for
  less than the timeout. -/
  connected : ∀ result, outcome = .ok result → ∃ read compared stream,
    Threads before read ∧ Threads read compared ∧
      read.eventStream = some stream ∧
        ∀ since, disconnectedSince read.history = some since →
          compared.monotonic < since + stream.reconnectTimeoutSeconds

variable {exchanges : List (Exchanged service)}
  {outcome : Except PyError (Option ProviderEvent × ProviderMessagePuller)}

/-- A stream in which no error is found is connected, or not disconnected for
long. -/
theorem connected_of_readsError
    (running : process.eventStream.isSome = true)
    (reads : ReadsError process none after) :
    ∃ read stream, Threads process read ∧ Threads read after ∧
      read.eventStream = some stream ∧
        ∀ since, disconnectedSince read.history = some since →
          after.monotonic < since + stream.reconnectTimeoutSeconds := by
  generalize same : (none : Option PyError) = exc at reads
  cases reads with
  | idle idle =>
      rw [idle] at running
      cases running
  | failed => cases same
  | @compared _ later read _ _ _ waits still goesOn =>
      refine ⟨read, later, waits, goesOn, still, fun since disconnected => ?_⟩
      rw [← (read.tracks later still).disconnectedAt] at disconnected
      rw [disconnected, LarkEventStream.timeoutError] at same
      split_ifs at same with passed
      exact Nat.lt_of_not_le passed

/-- On the Lark adapter `take_message` raises only for a failed stream or a
failed query, and it is fail-stop. -/
theorem takeMessage_failStop {config : ProviderSyncConfig}
    (run : LarkRun config puller process)
    (transcript : Transcript larkStreams process puller.takeMessage exchanges
      after outcome) :
    FailStop puller process exchanges after outcome := by
  rcases run.attached with ⟨attached, started⟩
  have safe := pulls_takeMessage attached started
  have raises : ∀ exc, outcome = .error exc →
      Fault puller.provider exc after := by
    rintro exc rfl
    exact (safe.runs_error transcript.runs).2
  rw [takeMessage, if_neg (by simp [started])] at transcript
  rcases transcript_callBind transcript with
    ⟨ready, answer, checked, rest, rfl, waits, ⟨exc, rfl, reads⟩, tail⟩
  have running := running_threads waits attached.running
  refine ⟨raises, fun failed => ?_, ?_⟩
  · rcases readsError_failed running (lastFailure_threads waits failed) reads
      with ⟨cause, rfl⟩
    rcases transcript_fail tail with ⟨rfl, -, same⟩
    exact ⟨cause, same, rfl⟩
  · rintro result rfl
    cases exc with
    | some cause => cases (transcript_fail tail).2.2
    | none =>
        rcases connected_of_readsError running reads with
          ⟨read, stream, before, later, still, bound⟩
        exact ⟨read, checked, stream, waits.trans before, later, still, bound⟩

/-! ## A call after a malformed message -/

def sampleHighwater : Dict String (Option Int) :=
  (∅ : Dict String (Option Int)).set "oc1" none

def samplePuller : ProviderMessagePuller :=
  (create "lark" ⟨1000, 1000, 1000, 8⟩).startedAt sampleHighwater 0 0

theorem larkRun_sample :
    LarkRun ⟨1000, 1000, 1000, 8⟩ samplePuller failedProcess := by
  have opens : Starts unstartedProcess ["oc1"] (.ok ()) subscribedProcess :=
    .connects rfl .refl rfl rfl .refl
  have starts : Runs larkStreams unstartedProcess
      ((create "lark" ⟨1000, 1000, 1000, 8⟩).start sampleHighwater)
      subscribedProcess (.ok samplePuller) :=
    .call .refl opens (.call .refl ⟨rfl, rfl⟩ (.call .refl ⟨rfl, rfl⟩ .ret))
  have raises : ThreadStep subscribedProcess raisedProcess :=
    @ThreadStep.raises subscribedProcess (.create 300) malformedMessage
      malformedError rfl rfl rfl
  have records : ThreadStep raisedProcess failedProcess :=
    @ThreadStep.records raisedProcess (.create 300) malformedError rfl rfl
  exact .evolves (.starts rfl rfl starts)
    (.tail (.single raises) records)

theorem transcript_sample :
    Transcript larkStreams failedProcess samplePuller.takeMessage
      [⟨.eventStreamError "lark", .ok (some malformedError)⟩] failedProcess
      (.error (streamFailed "lark" malformedError)) := by
  have reads : ReadsError failedProcess (some malformedError) failedProcess :=
    .failed rfl rfl
  exact .call .refl ⟨_, rfl, reads⟩ .fail

/-- The puller does nothing else than raise the failure. -/
theorem takeMessage_failStop_malformed :
    (lastFailure failedProcess.history).isSome = true ∧
      FailStop samplePuller failedProcess
        [⟨.eventStreamError "lark", .ok (some malformedError)⟩] failedProcess
        (.error (streamFailed "lark" malformedError)) :=
  ⟨rfl, takeMessage_failStop larkRun_sample transcript_sample⟩

end OpenEventIm.Syncer.LarkPulling
