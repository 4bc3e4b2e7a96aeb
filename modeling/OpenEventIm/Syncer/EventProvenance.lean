import OpenEventIm.Foundation.GivenAnswers
import OpenEventIm.Syncer.Processor
import OpenEventIm.Syncer.PullerSessions
import OpenEventIm.Syncer.WorkerCalls

/-!
# Where events come from

The pullers and the processor hold no events but those that the providers have
delivered, through the subscription or through the history.
-/

namespace OpenEventIm.Syncer.EventProvenance

open OpenEventIm.Foundation
open OpenEventIm.Foundation.Interaction
open OpenEventIm.Foundation.GivenAnswers
open OpenEventIm.Sdk.Errors
open OpenEventIm.Service.Calls
open OpenEventIm.Service.World
open OpenEventIm.Syncer.Models
open OpenEventIm.Syncer.Mapping
open OpenEventIm.Syncer.State
open OpenEventIm.Syncer.HistoryReplay
open OpenEventIm.Syncer.ProviderMessages
open OpenEventIm.Syncer.ProviderMessages.ProviderMessagePuller
open OpenEventIm.Syncer.PullerSessions
open OpenEventIm.Syncer.Processor
open OpenEventIm.Syncer.Processor.SingleThreadProcessor
open OpenEventIm.Syncer.PollEvents
open OpenEventIm.Syncer.Worker
open OpenEventIm.Syncer.WorkerCalls

/-! ## Delivered events -/

/-- The events that an answer delivers. -/
def eventsIn : (request : Call) → Answer request → List ProviderEvent
  | .takeEvent _, .ok event => event.toList
  | .fetchHistoryPage .., .ok page => page.events
  | _, _ => []

/-- The event was in an answer of a provider. -/
def Delivered (trace : List Exchange) (event : ProviderEvent) : Prop :=
  ∃ exchange ∈ trace, event ∈ eventsIn exchange.request exchange.answer

theorem Delivered.mono {trace more : List Exchange} {event : ProviderEvent}
    (delivered : Delivered trace event) (grown : trace <+: more) :
    Delivered more event := by
  rcases delivered with ⟨exchange, member, inside⟩
  exact ⟨exchange, grown.subset member, inside⟩

/-- The answer delivers the event. -/
def Delivers (request : Call) (answer : Answer request)
    (event : ProviderEvent) : Prop :=
  event ∈ eventsIn request answer

theorem records_delivered {setting : Setting} :
    Records (world setting) (fun current => Delivered current.trace)
      Delivers where
  stable event before after step delivered :=
    delivered.mono step.grows.trace
  kept before request answer after answers event delivered :=
    delivered.mono answers.grows.trace
  tells before request answer after answers event inside := by
    refine ⟨⟨request, answer⟩, ?_, inside⟩
    rw [answers.trace]
    exact List.mem_append_right _ (List.mem_singleton_self _)

/-! ## Pullers -/

section Pullers

variable {known : ProviderEvent → Prop} {puller next : ProviderMessagePuller}
  {sessionId : String} {state : SessionPullState} {event : ProviderEvent}

/-- The programs that are told known events only. -/
abbrev GivenKnown {Result : Type} (known : ProviderEvent → Prop)
    (property : Result → Prop) (program : Action Result) : Prop :=
  YieldsGiven (TellsKnown Delivers known) property program

theorem given_trivial {Result : Type} (program : Action Result) :
    GivenKnown known (fun _ => True) program :=
  yieldsGiven_of_yields (yields_trivial program)

/-- The puller holds known events only. -/
structure HoldsKnown (known : ProviderEvent → Prop)
    (puller : ProviderMessagePuller) : Prop where
  live : ∀ event ∈ puller.liveEvents, known event
  history : ∀ sessionId state, puller.sessions.get? sessionId = some state →
    ∀ event ∈ state.historyEvents, known event

theorem HoldsKnown.mono {more : ProviderEvent → Prop}
    (holds : HoldsKnown known puller)
    (implies : ∀ event, known event → more event) : HoldsKnown more puller where
  live event member := implies event (holds.live event member)
  history sessionId state found event member :=
    implies event (holds.history sessionId state found event member)

theorem HoldsKnown.setSession (holds : HoldsKnown known puller)
    (history : ∀ event ∈ state.historyEvents, known event) :
    HoldsKnown known (puller.setSession sessionId state) where
  live := holds.live
  history other found isFound := by
    rw [get?_setSession] at isFound
    split_ifs at isFound
    · cases isFound
      exact history
    · exact holds.history other found isFound

theorem HoldsKnown.deliver (holds : HoldsKnown known puller)
    (history : ∀ event ∈ state.historyEvents, known event) (index : Nat) :
    HoldsKnown known (puller.deliver index sessionId state event) := by
  have kept : HoldsKnown known
      (puller.setSession sessionId { state with inFlight := some event }) :=
    holds.setSession history
  exact ⟨kept.live, kept.history⟩

theorem HoldsKnown.advanced (holds : HoldsKnown known puller)
    (history : ∀ event ∈ state.historyEvents, known event) (index : Nat) :
    HoldsKnown known (puller.advanced index sessionId state) := by
  have kept : HoldsKnown known (puller.setSession sessionId state) :=
    holds.setSession history
  exact ⟨kept.live, kept.history⟩

theorem HoldsKnown.handedOff (holds : HoldsKnown known puller)
    (generation : Nat) (nowMs : Int) :
    HoldsKnown known (puller.handedOff generation nowMs) where
  live := holds.live
  history other found isFound := by
    rw [ProviderMessagePuller.handedOff, Dict.get?_mapValues] at isFound
    rcases Option.map_eq_some_iff.mp isFound with ⟨old, wasFound, rfl⟩
    exact holds.history other old wasFound

/-- The sessions have no events at the start. -/
theorem HoldsKnown.startedAt (holds : HoldsKnown known puller)
    (highwater : Dict String (Option Int)) (nowMs : Int) (generation : Nat) :
    HoldsKnown known (puller.startedAt highwater nowMs generation) where
  live := holds.live
  history other found isFound := by
    rw [ProviderMessagePuller.startedAt, Dict.get?_mapValues] at isFound
    rcases Option.map_eq_some_iff.mp isFound with ⟨old, -, rfl⟩
    intro event member
    cases member

theorem holdsKnown_create (provider : String) (config : ProviderSyncConfig) :
    HoldsKnown known (.create provider config) where
  live _ member := by cases member
  history _ _ found := by cases found

/-- What a puller gives out and what it keeps is known. -/
def TakesKnown (known : ProviderEvent → Prop)
    (result : Option ProviderEvent × ProviderMessagePuller) : Prop :=
  (∀ event, result.1 = some event → known event) ∧ HoldsKnown known result.2

theorem takesKnown_none (holds : HoldsKnown known puller) :
    TakesKnown known (none, puller) :=
  ⟨fun _ impossible => (by cases impossible), holds⟩

theorem takesKnown_deliverLive {index : Nat}
    (holds : HoldsKnown known puller)
    (history : ∀ event ∈ state.historyEvents, known event)
    (delivered : puller.deliverLive index sessionId state =
      some (event, next)) : TakesKnown known (some event, next) := by
  rw [deliverLive] at delivered
  split_ifs at delivered
  rcases Option.map_eq_some_iff.mp delivered with ⟨⟨taken, rest⟩, live, same⟩
  cases same
  rcases takeLiveEvent_eq_some live with ⟨first, last, split, left, -⟩
  have isLive : ∀ event ∈ taken :: rest, known event := by
    intro other member
    apply holds.live
    rw [split]
    rw [left] at member
    simp only [List.mem_cons, List.mem_append] at member ⊢
    exact or_left_comm.mp member
  constructor
  · rintro other ⟨⟩
    exact isLive _ List.mem_cons_self
  · apply HoldsKnown.deliver _ history
    exact ⟨fun other member => isLive other (List.mem_cons_of_mem _ member),
      holds.history⟩

theorem given_fetchHistoryPageOf {nowMs : Int}
    (history : ∀ event ∈ state.historyEvents, known event) :
    GivenKnown known
      (fun next : SessionPullState => ∀ event ∈ next.historyEvents, known event)
      (puller.fetchHistoryPageOf sessionId state nowMs) := by
  rw [fetchHistoryPageOf]
  cases state.historyScan with
  | none => exact history
  | some scan =>
      intro answer isGiven
      cases answer with
      | error exc =>
          dsimp only
          split_ifs
          · exact history
          · exact True.intro
      | ok page =>
          dsimp only
          split_ifs
          · exact True.intro
          · intro event member
            rw [receivedPage_historyEvents] at member
            rcases List.mem_append.mp member with old | new
            · exact history event old
            · exact isGiven event new

/-- The two statements at the end of the loop body. -/
theorem given_serveLive {index : Nat} {sessionId : String}
    (holds : HoldsKnown known puller)
    (history : ∀ event ∈ state.historyEvents, known event) :
    GivenKnown known (TakesKnown known)
      (match puller.deliverLive index sessionId state with
      | some (event, next) => pure (some event, next)
      | none => pure (none, puller) :
        Action (Option ProviderEvent × ProviderMessagePuller)) := by
  cases delivered : puller.deliverLive index sessionId state with
  | none => exact takesKnown_none holds
  | some result => exact takesKnown_deliverLive holds history delivered

theorem given_serveSession {nowMs : Int} {index : Nat}
    (holds : HoldsKnown known puller)
    (history : ∀ event ∈ state.historyEvents, known event) :
    GivenKnown known (TakesKnown known)
      (puller.serveSession nowMs index sessionId state) := by
  -- the first event of the session's history is given out
  have queued {other : ProviderMessagePuller} {state : SessionPullState}
      {event : ProviderEvent} {rest : List ProviderEvent}
      (holds : HoldsKnown known other)
      (history : ∀ event ∈ state.historyEvents, known event)
      (split : state.historyEvents = event :: rest) :
      TakesKnown known (some event, other.deliver index sessionId
        { state with historyEvents := rest } event) := by
    rw [split] at history
    constructor
    · rintro _ ⟨⟩
      exact history event List.mem_cons_self
    · exact holds.deliver
        (fun other member => history other (List.mem_cons_of_mem _ member)) _
  rw [serveSession]
  by_cases busy : state.inFlight.isSome = true
  · rw [if_pos busy]
    exact takesKnown_none holds
  · rw [if_neg busy]
    cases split : state.historyEvents with
    | cons event rest => exact queued holds history split
    | nil =>
        dsimp only
        split_ifs
        · apply (given_fetchHistoryPageOf history).bind
          intro fetched isKnown
          have advanced : HoldsKnown known
              (puller.advanced index sessionId fetched) :=
            holds.advanced isKnown index
          cases received : fetched.historyEvents with
          | cons event rest => exact queued advanced isKnown received
          | nil => exact given_serveLive advanced isKnown
        · exact given_serveLive holds history

theorem given_serveSessions {nowMs : Int} {offset remaining : Nat}
    (holds : HoldsKnown known puller) :
    GivenKnown known (TakesKnown known)
      (puller.serveSessions nowMs offset remaining) := by
  induction remaining generalizing puller offset with
  | zero => exact takesKnown_none holds
  | succ remaining ih =>
      rw [serveSessions]
      cases puller.sessionOrder[(puller.sessionCursor + offset) %
          puller.sessionOrder.length]? with
      | none => exact True.intro
      | some sessionId =>
          dsimp only
          cases found : puller.sessions.get? sessionId with
          | none => exact True.intro
          | some state =>
              apply (given_serveSession holds
                (holds.history sessionId state found)).bind
              rintro ⟨event, next⟩ takes
              cases event with
              | none => exact ih takes.2
              | some event => exact takes

theorem given_scheduleReconnectHandoff (holds : HoldsKnown known puller) :
    GivenKnown known (HoldsKnown known) puller.scheduleReconnectHandoff := by
  intro answer _
  cases answer with
  | error => exact True.intro
  | ok generation =>
      simp only [Action.ofExcept_ok, Program.bind_eq, Program.ret_bind]
      split_ifs
      · exact True.intro
      · exact holds
      · exact fun nowMs _ => holds.handedOff generation nowMs

theorem given_collectLiveEvent (holds : HoldsKnown known puller) :
    GivenKnown known (HoldsKnown known) puller.collectLiveEvent := by
  rw [collectLiveEvent]
  split_ifs
  · exact holds
  · intro answer isGiven
    cases answer with
    | error => exact True.intro
    | ok taken =>
        cases taken with
        | none => exact holds
        | some event =>
            simp only [Action.ofExcept_ok, Program.bind_eq, Program.ret_bind]
            split_ifs
            · exact True.intro
            · exact True.intro
            · refine ⟨?_, holds.history⟩
              intro other member
              rcases List.mem_append.mp member with old | new
              · exact holds.live other old
              · rw [List.mem_singleton.mp new]
                exact isGiven event (List.mem_singleton_self _)

/-- A puller gives out what it has been told. -/
theorem given_takeMessage (holds : HoldsKnown known puller) :
    GivenKnown known (TakesKnown known) puller.takeMessage := by
  rw [takeMessage]
  split_ifs
  · exact True.intro
  · apply (given_trivial puller.raiseStreamError).bind
    intro _ _
    apply (given_scheduleReconnectHandoff holds).bind
    intro scheduled isScheduled
    apply (given_collectLiveEvent isScheduled).bind
    intro collected isCollected
    apply (given_trivial collected.raiseStreamError).bind
    intro _ _
    apply (given_scheduleReconnectHandoff isCollected).bind
    intro entry isEntry nowMs _
    exact given_serveSessions isEntry

theorem given_start (highwater : Dict String (Option Int))
    (holds : HoldsKnown known puller) :
    GivenKnown known (HoldsKnown known) (puller.start highwater) := by
  rw [start]
  split_ifs
  · exact holds
  · exact True.intro
  · apply (given_trivial (startEventStream _ _)).bind
    intro _ _
    apply (given_trivial currentTimeMs).bind
    intro nowMs _
    apply (given_trivial (eventStreamGeneration _)).bind
    intro generation _
    exact holds.startedAt highwater nowMs generation

theorem HoldsKnown.acknowledge (holds : HoldsKnown known puller)
    (acknowledged : puller.acknowledge event = .ok next) :
    HoldsKnown known next := by
  rw [ProviderMessagePuller.acknowledge] at acknowledged
  split_ifs at acknowledged
  cases found : puller.sessions.get? event.sessionId with
  | none =>
      rw [found] at acknowledged
      cases acknowledged
  | some state =>
      rw [found] at acknowledged
      dsimp only at acknowledged
      split_ifs at acknowledged
      cases acknowledged
      exact holds.setSession (holds.history _ state found)

end Pullers

/-! ## The processor -/

section Processing

variable {known : ProviderEvent → Prop}
  {pullers : List (String × ProviderMessagePuller)}
  {processor : SingleThreadProcessor} {event : ProviderEvent}

def PullersHold (known : ProviderEvent → Prop)
    (pullers : List (String × ProviderMessagePuller)) : Prop :=
  ∀ pair ∈ pullers, HoldsKnown known pair.2

/-- The processor and its pullers hold known events only. -/
structure ProcessorHolds (known : ProviderEvent → Prop)
    (processor : SingleThreadProcessor) : Prop where
  pending : ∀ event ∈ processor.pendingEvents, known event
  pullers : PullersHold known processor.messagePullers

theorem PullersHold.cons {provider : String} {puller : ProviderMessagePuller}
    (holds : HoldsKnown known puller) (others : PullersHold known pullers) :
    PullersHold known ((provider, puller) :: pullers) :=
  List.forall_mem_cons.mpr ⟨holds, others⟩

theorem ProcessorHolds.mono {more : ProviderEvent → Prop}
    (holds : ProcessorHolds known processor)
    (implies : ∀ event, known event → more event) :
    ProcessorHolds more processor where
  pending event member := implies event (holds.pending event member)
  pullers pair member := (holds.pullers pair member).mono implies

theorem given_collectFrom {limit : Nat} {pending : List ProviderEvent}
    (isKnown : ∀ event ∈ pending, known event)
    (holds : PullersHold known pullers) :
    GivenKnown known
      (fun result => (∀ event ∈ result.1, known event) ∧
        PullersHold known result.2)
      (collectFrom limit pending pullers) := by
  induction pullers generalizing pending with
  | nil => exact ⟨isKnown, holds⟩
  | cons head more ih =>
      rcases head with ⟨provider, puller⟩
      rcases List.forall_mem_cons.mp holds with ⟨first, others⟩
      rw [collectFrom]
      split_ifs
      · exact ⟨isKnown, holds⟩
      · have taken : GivenKnown known (TakesKnown known)
            (puller.takeMessage.handle fun exc => throw (fatalFrom (fun _ =>
              s!"{provider} provider message pull failed") exc)) :=
          (given_takeMessage first).handle fun _ => True.intro
        apply taken.bind
        rintro ⟨event, next⟩ ⟨isEvent, nextHolds⟩
        have all : ∀ other ∈ pending ++ event.toList, known other := by
          intro other member
          rcases List.mem_append.mp member with old | new
          · exact isKnown other old
          · exact isEvent other (Option.mem_toList.mp new)
        apply (ih all others).bind
        rintro ⟨collected, nexts⟩ ⟨collectedKnown, nextsHold⟩
        exact ⟨collectedKnown, PullersHold.cons nextHolds nextsHold⟩

theorem given_collectProviderMessages
    (holds : ProcessorHolds known processor) :
    GivenKnown known (ProcessorHolds known)
      (collectProviderMessages processor) := by
  rw [collectProviderMessages]
  apply (given_collectFrom holds.pending holds.pullers).bind
  rintro ⟨pending, pullers⟩ ⟨isKnown, pullersHold⟩
  exact ⟨isKnown, pullersHold⟩

theorem PullersHold.acknowledgeIn
    {nexts : List (String × ProviderMessagePuller)}
    (holds : PullersHold known pullers)
    (acknowledged : SingleThreadProcessor.acknowledgeIn event pullers =
      .ok nexts) :
    PullersHold known nexts := by
  induction pullers generalizing nexts with
  | nil => cases acknowledged
  | cons head more ih =>
      rcases head with ⟨provider, puller⟩
      rcases List.forall_mem_cons.mp holds with ⟨first, others⟩
      rw [SingleThreadProcessor.acknowledgeIn] at acknowledged
      split_ifs at acknowledged
      · rcases Checked.bind_eq_ok_iff.mp acknowledged with ⟨next, done, same⟩
        cases same
        exact PullersHold.cons (first.acknowledge done) others
      · rcases Checked.bind_eq_ok_iff.mp acknowledged with ⟨rest, done, same⟩
        cases same
        exact PullersHold.cons first (ih others done)

variable (syncer : P2PSyncer)

theorem given_processEvents (skipped events : List ProviderEvent)
    (isKnown : ∀ event ∈ skipped ++ events, known event)
    (holds : ProcessorHolds known processor) :
    GivenKnown known (fun result => ProcessorHolds known result.2)
      (processEvents syncer processor skipped events) := by
  induction events generalizing skipped with
  | nil => exact holds
  | cons event rest ih =>
      rw [processEvents]
      cases syncer.mapping.channelForProviderSession event.provider
          event.sessionId with
      | error exc => exact True.intro
      | ok channelId =>
          dsimp only
          split_ifs
          · apply ih
            rw [List.append_assoc]
            exact isKnown
          · apply (given_trivial (publishProviderEvent _ _ _ _)).bind
            intro state _
            cases done : SingleThreadProcessor.acknowledgeIn event
                processor.messagePullers with
            | error exc => exact True.intro
            | ok nexts =>
                refine ⟨?_, holds.pullers.acknowledgeIn done⟩
                intro other member
                apply isKnown
                rcases List.mem_append.mp member with old | new
                · exact List.mem_append_left _ old
                · exact List.mem_append_right _ (List.mem_cons_of_mem _ new)

theorem given_doWork (index : Nat)
    (holds : ProcessorHolds known processor) :
    GivenKnown known (fun result => ProcessorHolds known result.2)
      (doWork syncer processor index) := by
  rw [doWork]
  split_ifs
  · rw [processNextOutboundTask]
    rcases processor.state.nextPendingTask with ⟨selected, state⟩
    cases selected with
    | none => exact ⟨holds.pending, holds.pullers⟩
    | some task =>
        apply (given_trivial (processOutboundTask _ _ _)).bind
        intro next _
        exact ⟨holds.pending, holds.pullers⟩
  · exact given_processEvents syncer [] _ holds.pending holds

theorem given_workFrom (workTurn offset remaining : Nat)
    (holds : ProcessorHolds known processor) :
    GivenKnown known (fun result => ProcessorHolds known result.2)
      (workFrom syncer workTurn processor offset remaining) := by
  induction remaining generalizing processor offset with
  | zero => exact holds
  | succ remaining ih =>
      rw [workFrom]
      apply (given_doWork syncer _ holds).bind
      rintro ⟨worked, next⟩ nextHolds
      dsimp only
      split_ifs
      · exact ⟨nextHolds.pending, nextHolds.pullers⟩
      · exact ih _ nextHolds

/-- A tick leaves no events but those that were known or have been told. -/
theorem given_tick (holds : ProcessorHolds known processor) :
    GivenKnown known (fun result => ProcessorHolds known result.2)
      (tick syncer processor) := by
  rw [tick]
  intro stopped _
  simp only [Program.bind_eq, Program.ret_bind]
  split_ifs
  · exact holds
  · apply (given_collectProviderMessages holds).bind
    intro collected collectedHolds
    exact given_workFrom syncer _ _ _ collectedHolds

theorem given_startMessagePullers (state : RuntimeState)
    (holds : PullersHold known pullers) :
    GivenKnown known (PullersHold known)
      (startMessagePullers syncer state pullers) := by
  induction pullers with
  | nil => exact holds
  | cons head more ih =>
      rcases head with ⟨provider, puller⟩
      rcases List.forall_mem_cons.mp holds with ⟨first, others⟩
      rw [startMessagePullers]
      apply (given_trivial (Action.ofExcept _)).bind
      intro highwater _
      apply (given_start highwater first).bind
      intro started startedHolds
      apply (ih others).bind
      intro rest restHolds
      exact PullersHold.cons startedHolds restHolds

/-- Starting the pullers. -/
theorem given_launch (holds : ProcessorHolds known processor) :
    GivenKnown known (ProcessorHolds known)
      ((handlers syncer).launch processor) := by
  apply (given_startMessagePullers syncer _ holds.pullers).bind
  intro pullers pullersHold
  exact ⟨holds.pending, pullersHold⟩

/-- The processor holds delivered events only. -/
abbrev HoldsDelivered {setting : Setting} (processor : SingleThreadProcessor)
    (current : WorldState setting) : Prop :=
  ProcessorHolds (Delivered current.trace) processor

/-- A part of a tick, along an execution. -/
theorem safe_delivered {setting : Setting} {Result : Type}
    {current : WorldState setting} {program : Action Result}
    {processorOf : Result → SingleThreadProcessor}
    (holds : HoldsDelivered processor current)
    (yields : ∀ known, ProcessorHolds known processor →
      GivenKnown known (fun result => ProcessorHolds known (processorOf result))
        program) :
    Safe (world setting) (fun _ => True)
      (fun result after => HoldsDelivered (processorOf result) after)
      (fun _ _ => True) program current := by
  apply @safe_of_yieldsGiven _ _ _ _ _ _ _ records_delivered
    (fun known result => ProcessorHolds known (processorOf result))
  intro known whole
  exact yields known (holds.mono whole)

theorem processorHolds_created (created : createProcessor syncer =
    .ok processor) : ProcessorHolds known processor := by
  rw [createProcessor] at created
  rcases Checked.bind_eq_ok_iff.mp created with ⟨sizes, -, same⟩
  cases same
  constructor
  · intro event member
    cases member
  · intro pair member
    rcases List.mem_map.mp member with ⟨provider, -, rfl⟩
    exact holdsKnown_create provider.1 provider.2.sync

end Processing

end OpenEventIm.Syncer.EventProvenance
