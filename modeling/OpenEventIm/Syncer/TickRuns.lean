import OpenEventIm.Sdk.MessageReading
import OpenEventIm.Sdk.PublishNumbers
import OpenEventIm.Syncer.PendingQueue
import OpenEventIm.Syncer.PullerSessions
import OpenEventIm.Syncer.TickOutcomes

/-!
# Runs of ticks

The processor from the moment its pullers have started: ticks that return,
requests added between them, and anything that the others do.  Between ticks no
channel is blocked, the pending events are the events in flight in the pullers,
and every message counted as seen has a record: in the replayed history, or in
the log since the run began.
-/

namespace OpenEventIm.Syncer.TickRuns

open OpenEventIm.Foundation
open OpenEventIm.Foundation.Interaction
open OpenEventIm.Sdk.Errors
open OpenEventIm.Sdk.Codec
open OpenEventIm.Sdk.Client
open OpenEventIm.Sdk.MessageReading
open OpenEventIm.Sdk.PublishReconciliation
open OpenEventIm.Sdk.PublishNumbers
open OpenEventIm.Service.Calls
open OpenEventIm.Service.World
open OpenEventIm.Syncer.Models
open OpenEventIm.Syncer.Mapping
open OpenEventIm.Syncer.State
open OpenEventIm.Syncer.LogMeaning
open OpenEventIm.Syncer.HistoryReplay
open OpenEventIm.Syncer.HistoryReplay.P2PSyncer
open OpenEventIm.Syncer.PublishRetry
open OpenEventIm.Syncer.ProviderMessages
open OpenEventIm.Syncer.PullerSessions
open OpenEventIm.Syncer.PendingQueue
open OpenEventIm.Syncer.Processor
open OpenEventIm.Syncer.Processor.SingleThreadProcessor
open OpenEventIm.Syncer.TickOutcomes

variable {setting : Setting} {syncer : P2PSyncer}

/-! ## Runs -/

/-- The processor when the poll loop begins: the history has been replayed and
the pullers have been started. -/
structure Launched (syncer : P2PSyncer) (history : List Message)
    (processor : SingleThreadProcessor) : Prop where
  replayed : syncer.replay .initial history = .ok processor.state
  pending : processor.pendingEvents = []
  distinct : (processor.messagePullers.map Prod.fst).Nodup
  started : ∀ provider puller, (provider, puller) ∈ processor.messagePullers →
    ∃ config highwater nowMs generation,
      puller = (ProviderMessagePuller.create provider config).startedAt
        highwater nowMs generation

/-- The processor between two ticks. -/
inductive TickRun (setting : Setting) (syncer : P2PSyncer)
    (history : List Message) (first : WorldState setting) :
    SingleThreadProcessor → WorldState setting → Prop where
  | launched {processor} (launched : Launched syncer history processor) :
      TickRun setting syncer history first processor first
  | interferes {processor before after}
      (reached : TickRun setting syncer history first processor before)
      (step : Interferes before after) :
      TickRun setting syncer history first processor after
  /-- The poll loop adds a request, or finds that it conflicts. -/
  | request {processor world}
      (reached : TickRun setting syncer history first processor world)
      (parsed : ParsedMessage) :
      TickRun setting syncer history first
        { processor with state := (processor.state.addSendRequest parsed).2 }
        world
  | tick {processor before worked next after}
      (reached : TickRun setting syncer history first processor before)
      (run : Runs (world setting) before (tick syncer processor) after
        (.ok (worked, next))) :
      TickRun setting syncer history first next after

/-- The processor after the collection of a tick. -/
structure Collects (setting : Setting) (processor : SingleThreadProcessor)
    (before : WorldState setting) (collected : SingleThreadProcessor)
    (middle : WorldState setting) : Prop where
  run : ∃ ready started, (world setting).Evolves before ready ∧
    Answers ready .stopIsSet false started ∧
      Runs (world setting) started (collectProviderMessages processor) middle
        (.ok collected)

/-! ## The queue of requests between ticks -/

section Queue

variable {state next : RuntimeState} {parsed : ParsedMessage}

/-- The queue of requests when no request is being worked on. -/
structure Resting (state : RuntimeState) : Prop where
  linked : Linked state
  free : ∀ channelId, state.blockedByChannel.get? channelId = none

theorem resting_initial : Resting RuntimeState.initial :=
  ⟨linked_initial, fun _ => rfl⟩

theorem Resting.of_sameQueue (resting : Resting state)
    (same : SameQueue next state) : Resting next where
  linked := resting.linked.of_sameQueue same
  free := by
    rw [same.blocked]
    exact resting.free

theorem Resting.addSendRequest (resting : Resting state) :
    Resting (state.addSendRequest parsed).2 where
  linked := resting.linked.addSendRequest
  free := by
    have same : (state.addSendRequest parsed).2.blockedByChannel =
        state.blockedByChannel := by
      simp only [RuntimeState.addSendRequest]
      split
      · split_ifs <;> rfl
      · split_ifs <;> rfl
    rw [same]
    exact resting.free

theorem Resting.addSendResult (resting : Resting state)
    (provider sessionId : String) :
    Resting (state.addSendResult parsed provider sessionId).2 where
  linked := resting.linked.addSendResult provider sessionId
  free := by
    intro channelId
    rcases addSendResult_cases state parsed provider sessionId with
      same | ⟨-, task, found, stored⟩
    · rw [same]
      exact resting.free channelId
    · have own := resting.linked.ownId _ task found
      rw [stored, (@completes_storeSendResult parsed state task provider
        sessionId own.symm).blocked, get?_unblockChannel]
      split_ifs
      · rfl
      · exact resting.free channelId

theorem Resting.addMessage {session : Session} (resting : Resting state) :
    Resting (P2PSyncer.addMessage state parsed session).2 := by
  unfold P2PSyncer.addMessage
  cases parsed.kind with
  | sendRequest => exact resting.addSendRequest
  | sendResult => exact resting.addSendResult _ _
  | syncRecord =>
      show Resting (state.addSyncRecord parsed session.1 session.2).2
      rcases addSyncRecord_cases state parsed session.1 session.2 with
        same | ⟨-, stored⟩
      · rw [same]
        exact resting
      · rw [stored]
        exact resting.of_sameQueue (sameQueue_markSyncRecord _ _ _ _)

theorem Resting.processHistoryMessage {message : Message}
    (resting : Resting state)
    (processed : syncer.processHistoryMessage state message = .ok next) :
    Resting next := by
  unfold P2PSyncer.processHistoryMessage at processed
  cases read : parseMessage syncer.text message with
  | error exc =>
      rw [read] at processed
      cases processed
  | ok parsed =>
      simp only [read] at processed
      split_ifs at processed
      · cases processed
        exact resting
      · rcases Checked.bind_eq_ok_iff.mp processed with ⟨_, -, rest⟩
        rcases Checked.bind_eq_ok_iff.mp rest with ⟨session, -, done⟩
        rw [(finished_eq_ok_iff.mp done).2.symm]
        exact resting.addMessage

/-- The history leaves no channel blocked. -/
theorem resting_replay {messages : List Message}
    (replayed : syncer.replay .initial messages = .ok state) :
    Resting state :=
  Checked.foldlM_induct (fun _ state => Resting state) replayed
    resting_initial fun _ _ _ _ _ resting processed =>
      resting.processHistoryMessage processed

/-- Searching without a result changes the heap only. -/
theorem Resting.searched (resting : Resting state)
    (none : state.nextPendingTask.1 = none) :
    Resting state.nextPendingTask.2 where
  linked := resting.linked.nextPendingTask
  free := by
    intro channelId
    rw [resting.linked.selects.otherChannels channelId
      (fun task found => by rw [none] at found; cases found)]
    exact resting.free channelId

/-- Without blocked channels, nothing is found only when nothing is pending. -/
theorem Resting.pending_empty (resting : Resting state)
    (none : state.nextPendingTask.1 = none) (requestId : String) :
    state.requestsById.get? requestId = Option.none := by
  apply Option.eq_none_iff_forall_ne_some.mpr
  intro task pending
  rcases resting.linked.selects.exhausted.mp none requestId task pending with
    blocked | ⟨other, -, blocked⟩
  · rw [resting.free] at blocked
    cases blocked
  · rw [resting.free] at blocked
    cases blocked

/-- A request that is taken and marked as done leaves its channel again. -/
theorem Resting.marked {task : OutboundTask} (resting : Resting state)
    (selected : state.nextPendingTask.1 = some task)
    (provider sessionId providerMessageId : String) (seq : Nat) :
    Resting (state.nextPendingTask.2.markSendResultSuccess task provider
      sessionId providerMessageId seq) := by
  have selects := resting.linked.selects
  have completes := completes_markSendResultSuccess state.nextPendingTask.2
    task provider sessionId providerMessageId seq
  have pending := (selects.first task selected).1.pending
  have canonical := (resting.linked.pending_some pending).2
  rw [← state.nextPendingTask_spec.1.canonicalRequestsById] at canonical
  refine ⟨resting.linked.nextPendingTask.completes canonical completes, ?_⟩
  intro channelId
  rw [completes.blocked, get?_unblockChannel]
  split_ifs with unblocks
  · rfl
  · by_cases same : task.channelId = channelId
    · exact absurd ⟨same, (selects.first task selected).2.2⟩ unblocks
    · rw [selects.otherChannels channelId]
      · exact resting.free channelId
      · intro other found
        rw [selected] at found
        cases found
        exact same

end Queue

/-! ## The events in flight -/

section Flight

variable {pullers more : List (String × ProviderMessagePuller)}
  {provider : String} {puller next : ProviderMessagePuller}
  {event : ProviderEvent}

/-- The pullers of the processor, one for each provider. -/
structure PullersWellFormed (pullers : List (String × ProviderMessagePuller)) :
    Prop where
  distinct : (pullers.map Prod.fst).Nodup
  wellFormed : ∀ provider puller, (provider, puller) ∈ pullers →
    WellFormed puller ∧ puller.provider = provider

/-- The event is in flight in a session of a puller. -/
def InFlight (pullers : List (String × ProviderMessagePuller))
    (event : ProviderEvent) : Prop :=
  ∃ provider puller sessionId, (provider, puller) ∈ pullers ∧
    inFlightOf puller sessionId = some event

/-- An event in flight is in flight in its own session of its provider. -/
theorem inFlight_iff (good : PullersWellFormed pullers) :
    InFlight pullers event ↔ ∃ puller, (event.provider, puller) ∈ pullers ∧
      inFlightOf puller event.sessionId = some event := by
  constructor
  · rintro ⟨provider, puller, sessionId, member, inFlight⟩
    rcases good.wellFormed provider puller member with ⟨wellFormed, rfl⟩
    have belongs := wellFormed.belongs inFlight
    exact ⟨puller, by rw [belongs.provider]; exact member,
      by rw [belongs.sessionId]; exact inFlight⟩
  · rintro ⟨puller, member, inFlight⟩
    exact ⟨event.provider, puller, event.sessionId, member, inFlight⟩

theorem inFlight_cons : InFlight ((provider, puller) :: more) event ↔
    (∃ sessionId, inFlightOf puller sessionId = some event) ∨
      InFlight more event := by
  constructor
  · rintro ⟨other, otherPuller, sessionId, member, inFlight⟩
    rcases List.mem_cons.mp member with same | inside
    · cases same
      exact Or.inl ⟨sessionId, inFlight⟩
    · exact Or.inr ⟨other, otherPuller, sessionId, inside, inFlight⟩
  · rintro (⟨sessionId, inFlight⟩ | ⟨other, otherPuller, sessionId, member,
      inFlight⟩)
    · exact ⟨provider, puller, sessionId, List.mem_cons_self, inFlight⟩
    · exact ⟨other, otherPuller, sessionId, List.mem_cons_of_mem _ member,
        inFlight⟩

theorem PullersWellFormed.tail
    (good : PullersWellFormed ((provider, puller) :: more)) :
    PullersWellFormed more where
  distinct := (List.nodup_cons.mp good.distinct).2
  wellFormed other otherPuller member :=
    good.wellFormed other otherPuller (List.mem_cons_of_mem _ member)

theorem PullersWellFormed.head
    (good : PullersWellFormed ((provider, puller) :: more)) :
    WellFormed puller ∧ puller.provider = provider :=
  good.wellFormed provider puller List.mem_cons_self

/-- Exchanging a puller for another one of the provider. -/
theorem PullersWellFormed.replaced
    (good : PullersWellFormed ((provider, puller) :: more))
    {others : List (String × ProviderMessagePuller)}
    (wellFormed : WellFormed next) (sameProvider : next.provider = provider)
    (othersGood : PullersWellFormed others)
    (sameKeys : others.map Prod.fst = more.map Prod.fst) :
    PullersWellFormed ((provider, next) :: others) where
  distinct := by
    have distinct := good.distinct
    rw [List.map_cons, List.nodup_cons] at distinct ⊢
    rw [sameKeys]
    exact distinct
  wellFormed := by
    intro other otherPuller member
    rcases List.mem_cons.mp member with same | inside
    · cases same
      exact ⟨wellFormed, sameProvider⟩
    · exact othersGood.wellFormed other otherPuller inside

/-- An event that is taken comes into flight, and nothing else changes. -/
theorem inFlightOf_took {before after : ProviderMessagePuller}
    {taken : Option ProviderEvent} (took : Took before taken after) :
    (∃ sessionId, inFlightOf after sessionId = some event) ↔
      (∃ sessionId, inFlightOf before sessionId = some event) ∨
        taken = some event := by
  simp only [took.inFlight]
  constructor
  · rintro ⟨sessionId, inFlight⟩
    split_ifs at inFlight
    · exact Or.inr inFlight
    · exact Or.inl ⟨sessionId, inFlight⟩
  · rintro (⟨sessionId, inFlight⟩ | rfl)
    · refine ⟨sessionId, ?_⟩
      rw [if_neg]
      · exact inFlight
      · intro same
        rcases Option.map_eq_some_iff.mp same with ⟨given, isTaken, rfl⟩
        rw [(took.taken given isTaken).2.1] at inFlight
        cases inFlight
    · exact ⟨event.sessionId, if_pos rfl⟩

/-- The session of an event. -/
def sessionOf (event : ProviderEvent) : Session :=
  (event.provider, event.sessionId)

/-- What a collection takes: events for sessions without one in flight. -/
structure CollectedFrom (pullers : List (String × ProviderMessagePuller))
    (added : List ProviderEvent)
    (nexts : List (String × ProviderMessagePuller)) : Prop where
  good : PullersWellFormed nexts
  sameKeys : nexts.map Prod.fst = pullers.map Prod.fst
  inFlight : ∀ event, InFlight nexts event ↔
    InFlight pullers event ∨ event ∈ added
  idle : ∀ event ∈ added, event.provider ∈ pullers.map Prod.fst ∧
    ∀ puller, (event.provider, puller) ∈ pullers →
      inFlightOf puller event.sessionId = none
  distinct : (added.map sessionOf).Nodup

theorem CollectedFrom.none (good : PullersWellFormed pullers) :
    CollectedFrom pullers [] pullers where
  good := good
  sameKeys := rfl
  inFlight _ := by simp
  idle := nofun
  distinct := List.nodup_nil

/-- One more puller has been asked. -/
theorem CollectedFrom.cons {taken : Option ProviderEvent}
    {added : List ProviderEvent}
    {nexts : List (String × ProviderMessagePuller)}
    (good : PullersWellFormed ((provider, puller) :: more))
    (took : Took puller taken next)
    (collected : CollectedFrom more added nexts) :
    CollectedFrom ((provider, puller) :: more) (taken.toList ++ added)
      ((provider, next) :: nexts) where
  good := good.replaced took.wellFormed
    (took.provider.trans good.head.2) collected.good collected.sameKeys
  sameKeys := by
    rw [List.map_cons, List.map_cons, collected.sameKeys]
  inFlight event := by
    rw [inFlight_cons, inFlight_cons, inFlightOf_took took,
      collected.inFlight, List.mem_append, Option.mem_toList]
    exact or_or_or_comm
  idle event member := by
    rcases List.mem_append.mp member with isTaken | later
    · rcases took.taken event (Option.mem_toList.mp isTaken) with
        ⟨sameProvider, idle, -⟩
      have ofHead : event.provider = provider :=
        sameProvider.trans good.head.2
      refine ⟨by rw [ofHead]; exact List.mem_cons_self, ?_⟩
      intro other otherMember
      rcases List.mem_cons.mp otherMember with same | inside
      · cases same
        exact idle
      · rw [ofHead] at inside
        exact absurd (List.mem_map_of_mem inside)
          (List.nodup_cons.mp good.distinct).1
    · rcases collected.idle event later with ⟨inMore, idle⟩
      refine ⟨List.mem_cons_of_mem _ inMore, ?_⟩
      intro other otherMember
      rcases List.mem_cons.mp otherMember with same | inside
      · cases same
        exact absurd inMore (List.nodup_cons.mp good.distinct).1
      · exact idle other inside
  distinct := by
    rw [List.map_append]
    refine List.Nodup.append ?_ collected.distinct ?_
    · cases taken with
      | none => exact List.nodup_nil
      | some => exact List.nodup_singleton _
    · intro session isTaken later
      rcases List.mem_map.mp isTaken with ⟨event, member, rfl⟩
      rcases List.mem_map.mp later with ⟨other, otherMember, same⟩
      have ofHead : event.provider = provider :=
        (took.taken event (Option.mem_toList.mp member)).1.trans good.head.2
      have sameProvider : other.provider = event.provider :=
        congrArg Prod.fst same
      have inMore := (collected.idle other otherMember).1
      rw [sameProvider, ofHead] at inMore
      exact (List.nodup_cons.mp good.distinct).1 inMore

/-- The loop of the collection. -/
theorem yields_collectFrom {limit : Nat} {pending : List ProviderEvent}
    (good : PullersWellFormed pullers) :
    (collectFrom limit pending pullers).Yields fun result =>
      ∃ added, result.1 = pending ++ added ∧
        CollectedFrom pullers added result.2 := by
  induction pullers generalizing pending with
  | nil => exact ⟨[], (List.append_nil _).symm, .none good⟩
  | cons head more ih =>
      rcases head with ⟨provider, puller⟩
      rw [collectFrom]
      split_ifs with full
      · exact ⟨[], (List.append_nil _).symm, .none good⟩
      · have taken : (puller.takeMessage.handle fun exc =>
            throw (fatalFrom (fun _ =>
              s!"{provider} provider message pull failed") exc)).Yields
            fun result => Took puller result.1 result.2 :=
          (yields_takeMessage good.head.1).handle fun _ => True.intro
        apply taken.bind
        rintro ⟨event, next⟩ took
        apply (ih good.tail).bind
        rintro ⟨all, nexts⟩ ⟨added, rfl, collected⟩
        refine ⟨event.toList ++ added, ?_, .cons good took collected⟩
        exact List.append_assoc _ _ _

theorem InFlight.provider_mem (good : PullersWellFormed pullers)
    (inFlight : InFlight pullers event) :
    event.provider ∈ pullers.map Prod.fst := by
  rcases (inFlight_iff good).mp inFlight with ⟨puller, member, -⟩
  exact List.mem_map_of_mem member

/-- An acknowledged event leaves its puller's events in flight. -/
theorem inFlightOf_acknowledged {other : ProviderEvent}
    (wellFormed : WellFormed puller)
    (inFlight : inFlightOf puller event.sessionId = some event)
    (acknowledged : Acknowledged puller event next) :
    (∃ sessionId, inFlightOf next sessionId = some other) ↔
      (∃ sessionId, inFlightOf puller sessionId = some other) ∧
        other ≠ event := by
  simp only [acknowledged.inFlight]
  constructor
  · rintro ⟨sessionId, otherInFlight⟩
    split_ifs at otherInFlight with same
    refine ⟨⟨sessionId, otherInFlight⟩, ?_⟩
    rintro rfl
    exact same (wellFormed.belongs otherInFlight).sessionId
  · rintro ⟨⟨sessionId, otherInFlight⟩, different⟩
    refine ⟨sessionId, ?_⟩
    rw [if_neg]
    · exact otherInFlight
    · rintro rfl
      rw [inFlight] at otherInFlight
      exact different (Option.some.inj otherInFlight).symm

/--
The event in flight can be acknowledged, and afterwards exactly this event is
out of flight.
-/
theorem acknowledgeIn_inFlight (good : PullersWellFormed pullers)
    (inFlight : InFlight pullers event) :
    ∃ nexts, acknowledgeIn event pullers = .ok nexts ∧
      PullersWellFormed nexts ∧ nexts.map Prod.fst = pullers.map Prod.fst ∧
        ∀ other, InFlight nexts other ↔
          InFlight pullers other ∧ other ≠ event := by
  induction pullers with
  | nil =>
      rcases inFlight with ⟨_, _, _, member, -⟩
      cases member
  | cons head more ih =>
      rcases head with ⟨provider, puller⟩
      rcases good.head with ⟨wellFormed, ofProvider⟩
      rw [acknowledgeIn]
      by_cases same : provider = event.provider
      · subst same
        have notInMore : ∀ other, other.provider = event.provider →
            ¬InFlight more other := by
          intro other sameProvider inMore
          have present := inMore.provider_mem good.tail
          rw [sameProvider] at present
          exact (List.nodup_cons.mp good.distinct).1 present
        rcases inFlight_cons.mp inFlight with ⟨sessionId, inHead⟩ | inMore
        · have inOwn := inHead
          rw [← (wellFormed.belongs inHead).sessionId] at inOwn
          rcases acknowledge_inFlight wellFormed inOwn with ⟨next, done⟩
          have acknowledged := acknowledged_of_eq_ok wellFormed done
          refine ⟨(event.provider, next) :: more, ?_, ?_, rfl, ?_⟩
          · rw [if_pos rfl, done]
            rfl
          · exact good.replaced acknowledged.wellFormed
              (acknowledged.provider.trans ofProvider) good.tail rfl
          · intro other
            rw [inFlight_cons, inFlight_cons,
              inFlightOf_acknowledged wellFormed inOwn acknowledged]
            have otherwise : InFlight more other → other ≠ event := by
              rintro inMore rfl
              exact notInMore other rfl inMore
            rw [or_and_right, and_iff_left_of_imp otherwise]
        · exact absurd inMore (notInMore event rfl)
      · rcases inFlight_cons.mp inFlight with ⟨sessionId, inHead⟩ | inMore
        · exact absurd ((wellFormed.belongs inHead).provider.trans
            ofProvider).symm same
        · rcases ih good.tail inMore with
            ⟨nexts, done, nextsGood, sameKeys, rest⟩
          refine ⟨(provider, puller) :: nexts, ?_, ?_, ?_, ?_⟩
          · rw [if_neg same, done]
            rfl
          · exact good.replaced wellFormed ofProvider nextsGood sameKeys
          · rw [List.map_cons, List.map_cons, sameKeys]
          · intro other
            rw [inFlight_cons, inFlight_cons, rest]
            have otherwise : (∃ sessionId,
                inFlightOf puller sessionId = some other) →
                  other ≠ event := by
              rintro ⟨sessionId, inHead⟩ rfl
              exact same ((wellFormed.belongs inHead).provider.trans
                ofProvider).symm
            rw [or_and_right, and_iff_left_of_imp otherwise]

/-- The pending events are the events in flight, at most one of a session. -/
structure Mirrored (processor : SingleThreadProcessor) : Prop where
  inFlight : ∀ event, event ∈ processor.pendingEvents ↔
    InFlight processor.messagePullers event
  onePerSession : (processor.pendingEvents.map sessionOf).Nodup

/-- A collection adds what it takes on both sides. -/
theorem Mirrored.collects {processor : SingleThreadProcessor}
    (mirrored : Mirrored processor)
    (good : PullersWellFormed processor.messagePullers) :
    (collectProviderMessages processor).Yields fun collected =>
      collected.state = processor.state ∧
        PullersWellFormed collected.messagePullers ∧ Mirrored collected := by
  apply (yields_collectFrom good).bind
  rintro ⟨pending, nexts⟩ ⟨added, rfl, collected⟩
  refine ⟨rfl, collected.good, ?_, ?_⟩
  · intro event
    rw [collected.inFlight, ← mirrored.inFlight]
    exact List.mem_append
  · show ((processor.pendingEvents ++ added).map sessionOf).Nodup
    rw [List.map_append]
    refine List.Nodup.append mirrored.onePerSession collected.distinct ?_
    intro session isPending isAdded
    rcases List.mem_map.mp isPending with ⟨event, pending, rfl⟩
    rcases List.mem_map.mp isAdded with ⟨other, member, same⟩
    rcases (inFlight_iff good).mp ((mirrored.inFlight event).mp pending) with
      ⟨puller, inPullers, inFlight⟩
    have sameProvider : other.provider = event.provider :=
      congrArg Prod.fst same
    have sameSession : other.sessionId = event.sessionId :=
      congrArg Prod.snd same
    have idle := (collected.idle other member).2 puller
      (by rw [sameProvider]; exact inPullers)
    rw [sameSession, inFlight] at idle
    cases idle

/-- An acknowledgement removes the event on both sides. -/
theorem Mirrored.acknowledges {processor after : SingleThreadProcessor}
    {skipped rest : List ProviderEvent} (mirrored : Mirrored processor)
    (good : PullersWellFormed processor.messagePullers)
    (split : processor.pendingEvents = skipped ++ event :: rest)
    (remaining : after.pendingEvents = skipped ++ rest)
    (done : acknowledgeIn event processor.messagePullers =
      .ok after.messagePullers) :
    PullersWellFormed after.messagePullers ∧ Mirrored after := by
  have pending : event ∈ processor.pendingEvents := by
    rw [split]
    exact List.mem_append_right _ List.mem_cons_self
  rcases acknowledgeIn_inFlight good ((mirrored.inFlight event).mp pending) with
    ⟨nexts, result, nextsGood, -, inFlight⟩
  rw [result] at done
  have isNext : nexts = after.messagePullers := Except.ok.inj done
  subst isNext
  have distinct := mirrored.onePerSession
  rw [split, List.map_append, List.map_cons, List.nodup_middle,
    List.nodup_cons, ← List.map_append] at distinct
  refine ⟨nextsGood, ?_, ?_⟩
  · intro other
    rw [inFlight, ← mirrored.inFlight, split, remaining]
    have different : other ∈ skipped ++ rest → other ≠ event := by
      rintro member rfl
      exact distinct.1 (List.mem_map_of_mem member)
    constructor
    · intro kept
      have fewer := (List.sublist_cons_self event rest).append_left skipped
      exact ⟨fewer.subset kept, different kept⟩
    · rintro ⟨member, differs⟩
      rcases List.mem_append.mp member with earlier | later
      · exact List.mem_append_left _ earlier
      · exact List.mem_append_right _
          ((List.mem_cons.mp later).resolve_left differs)
  · rw [remaining]
    exact distinct.2

end Flight

/-! ## Publishes -/

section Publishes

variable {before after : WorldState setting}

/-- A message of the log carries a record of the provider message. -/
def CarriesRecord (syncer : P2PSyncer) (key : InboundKey)
    (entry : LogEntry) : Prop :=
  ∃ parsed, readMessage syncer.text entry.message = some parsed ∧
    parsed.kind = .syncRecord ∧ parsed.channelId = key.channelId ∧
      dataString "provider_message_id" parsed = key.providerMessageId ∧
        syncer.mapping.providerSession parsed.channelId =
          .ok (key.provider, key.sessionId)

/-- The log has got a record of the provider message since the first world. -/
def RecordedSince (syncer : P2PSyncer) (first : WorldState setting)
    (key : InboundKey) (current : WorldState setting) : Prop :=
  ∃ entry ∈ current.log.entries, first.log.last < entry.seq ∧
    CarriesRecord syncer key entry

theorem RecordedSince.grows {first : WorldState setting} {key : InboundKey}
    (recorded : RecordedSince syncer first key before)
    (grows : Grows before after) : RecordedSince syncer first key after := by
  rcases recorded with ⟨entry, member, above, carries⟩
  rcases grows.log with ⟨-, added, split, -⟩
  refine ⟨entry, ?_, above, carries⟩
  rw [split]
  exact List.mem_append_left _ member

/-- What the retry loop around a publish returns. -/
theorem runs_publishWithRetry {method : PublishMethod} {retry : RetryConfig}
    {seq : Nat}
    (run : Runs (world setting) before
      (publishWithRetry retry (method.publish syncer.text)) after
      (.ok seq)) :
    Holds syncer.text method seq after ∧ before.log.last < seq := by
  have holds : Safe (world setting)
      (CommittedAtMostOnce syncer.text method before)
      (Holds syncer.text method)
      (RetryFailed (ownAssertions syncer.text method before))
      (publishWithRetry retry (method.publish syncer.text)) before :=
    safe_publishAttempts ownAssertions_sound
      (publishes_own syncer.text method before) retry.publishMaxAttempts rfl
  have numbered : ∀ attempts state, HasReached before.log.last state →
      Numbered setting before.log.last (before.log.last < ·)
        (publishAttempts retry (method.publish syncer.text) attempts)
        state := by
    intro attempts
    induction attempts with
    | zero => exact fun state reached => ⟨reached, True.intro⟩
    | succ attempts ih =>
        intro state reached
        rw [publishAttempts]
        apply (numbered_publish reached).handle
        intro exc state within _
        split_ifs
        · exact ⟨within, True.intro⟩
        · exact ⟨within, True.intro⟩
        · exact ⟨within, True.intro⟩
        · apply numbered_call within
          intro _ stopped later _ late _
          simp only [Program.bind_eq, Program.ret_bind]
          split_ifs
          · exact ⟨late, True.intro⟩
          · exact ih later late
  exact ⟨(holds.runs_ok run).2,
    ((numbered _ before (Nat.le_refl _)).runs_ok run).2⟩

/-- A record that was published carries the event's message id. -/
theorem carriesRecord_of_holds {route : RecordRoute} {req : SyncRecordInput}
    {seq : Nat} {key : InboundKey}
    (content : req.contentRaw.WellFormed)
    (extra : (Json.obj req.extraData).WellFormed)
    (sameChannel : route.channelId = key.channelId)
    (sameMessage : req.providerMessageId = key.providerMessageId)
    (mapped : syncer.mapping.providerSession key.channelId =
      .ok (key.provider, key.sessionId))
    (holds : Holds syncer.text (recordMethod route req) seq after) :
    ∃ entry ∈ after.log.entries, entry.seq = seq ∧
      CarriesRecord syncer key entry := by
  rcases holds with ⟨entry, member, isSeq, recorded⟩
  rcases checkRecord_eq_ok_iff.mp recorded with
    ⟨encoded, -, ⟨-, -, -⟩, channel, -, -⟩
  rcases readMessage_syncRecord content extra encoded with
    ⟨parsed, read, kind, -, -, -, messageId⟩
  have channelId : parsed.channelId = key.channelId := by
    rw [(readMessage_envelope read).2.1, ← sameChannel]
    exact_mod_cast channel.symm
  refine ⟨entry, member, isSeq, parsed, read, kind, channelId, ?_, ?_⟩
  · rw [dataString, messageId, ← sameMessage]
    rfl
  · rw [channelId]
    exact mapped

/-- The record of one of the event's two inputs was published. -/
def PublishedRecord (syncer : P2PSyncer) (route : RecordRoute)
    (event : ProviderEvent) (prevSeq : Option Nat)
    (before after : WorldState setting) : Prop :=
  ∃ req seq, (∃ ingestedMs, req = fullRecordInput event prevSeq ingestedMs ∨
      req = degradedRecordInput event prevSeq ingestedMs) ∧
    Holds syncer.text (recordMethod route req) seq after ∧
      before.log.last < seq

/-- The publish of one input, when it returns. -/
theorem runs_publishInput {route : RecordRoute} {req : SyncRecordInput}
    (run : Runs (world setting) before
      ((do
        let _ ← publishSyncRecord syncer route req
        return ()) : Action Unit) after (.ok ())) :
    ∃ seq, Holds syncer.text (recordMethod route req) seq after ∧
      before.log.last < seq := by
  rcases runs_bind run with ⟨middle, seq, published, rest⟩ | ⟨_, _, failed⟩
  · rcases runs_ret.mp rest with ⟨rfl, -⟩
    exact ⟨seq, runs_publishWithRetry published⟩
  · cases failed

theorem runs_publishRecords {route : RecordRoute} {event : ProviderEvent}
    {prevSeq : Option Nat}
    (run : Runs (world setting) before
      (publishRecords syncer route event prevSeq) after (.ok ())) :
    PublishedRecord syncer route event prevSeq before after := by
  rcases runs_callBind run with
    ⟨ready, ingestedMs, timed, evolves, answers, rest⟩
  have grown : Grows before timed :=
    (evolves_grows evolves).trans answers.grows
  rcases runs_handle rest with ⟨_, full, returned⟩ |
    ⟨middle, error, failed, recover⟩
  · cases returned
    rcases runs_publishInput full with ⟨seq, holds, above⟩
    exact ⟨_, seq, ⟨ingestedMs, Or.inl rfl⟩, holds,
      grown.log.last_le.trans_lt above⟩
  · split_ifs at recover with refused
    · cases (runs_fail.mp recover).2
    · rcases runs_callBind recover with
        ⟨again, degradedMs, later, evolvesAgain, answersAgain, final⟩
      have grownLater : Grows before later :=
        (grown.trans (runs_grows failed)).trans
          ((evolves_grows evolvesAgain).trans answersAgain.grows)
      rcases runs_handle final with ⟨_, degraded, returned⟩ |
        ⟨_, _, -, gaveUp⟩
      · cases returned
        rcases runs_publishInput degraded with ⟨seq, holds, above⟩
        exact ⟨_, seq, ⟨degradedMs, Or.inr rfl⟩, holds,
          grownLater.log.last_le.trans_lt above⟩
      · split_ifs at gaveUp
        · cases (runs_fail.mp gaveUp).2
        · cases (runs_fail.mp gaveUp).2

/-- What publishing an event does: nothing more when it was seen, else it
publishes a record and marks the event. -/
theorem runs_publishProviderEvent {state next : RuntimeState} {channelId : Nat}
    {event : ProviderEvent}
    (run : Runs (world setting) before
      (publishProviderEvent syncer state channelId event) after (.ok next)) :
    (inboundKey channelId event ∈ state.inboundSeen ∧ next = state ∧
        after = before) ∨
      inboundKey channelId event ∉ state.inboundSeen ∧
        next = state.markSyncRecord (inboundKey channelId event) channelId
          event.eventMs ∧
        ∃ route, recordRoute syncer channelId event = .ok route ∧
          PublishedRecord syncer route event
            (state.sendResultByProviderMessage.get?
              (inboundKey channelId event)) before after := by
  rw [publishProviderEvent] at run
  split_ifs at run with seen
  · rcases runs_ret.mp run with ⟨rfl, returned⟩
    cases returned
    exact Or.inl ⟨seen, rfl, rfl⟩
  · refine Or.inr ⟨seen, ?_⟩
    cases routed : recordRoute syncer channelId event with
    | error =>
        rw [routed] at run
        cases (runs_fail.mp run).2
    | ok route =>
        rw [routed, Action.ofExcept_ok, Program.ret_bind] at run
        rcases runs_bind run with ⟨middle, _, published, rest⟩ | ⟨_, _, failed⟩
        · rcases runs_ret.mp rest with ⟨rfl, returned⟩
          cases returned
          exact ⟨rfl, route, rfl, runs_publishRecords published⟩
        · cases failed

theorem channelId_recordRoute {channelId : Nat} {event : ProviderEvent}
    {route : RecordRoute}
    (routed : recordRoute syncer channelId event = .ok route) :
    route.channelId = channelId := by
  rw [recordRoute] at routed
  split at routed
  · cases routed
  · rcases Checked.bind_eq_ok_iff.mp routed with ⟨token, -, returned⟩
    cases returned
    rfl

/-- A published record of an event is one of its provider message. -/
theorem PublishedRecord.recordedSince {route : RecordRoute} {channelId : Nat}
    {event : ProviderEvent} {prevSeq : Option Nat}
    (published : PublishedRecord syncer route event prevSeq before after)
    (routed : recordRoute syncer channelId event = .ok route)
    (mapped : syncer.mapping.channelForProviderSession event.provider
      event.sessionId = .ok channelId) :
    RecordedSince syncer before (inboundKey channelId event) after := by
  rcases published with ⟨req, seq, ⟨ingestedMs, input⟩, holds, above⟩
  have session : syncer.mapping.providerSession channelId =
      .ok (event.provider, event.sessionId) :=
    (P2PMappingIndex.channelForProviderSession_iff syncer.built).mp mapped
  have empty : (Json.obj []).WellFormed := by
    simp [Json.wellFormed_obj_iff]
  have omitted : (Json.obj (omittedContent event)).WellFormed := by
    simp [omittedContent, Json.wellFormed_obj_iff]
  have carried : ∃ entry ∈ after.log.entries, entry.seq = seq ∧
      CarriesRecord syncer (inboundKey channelId event) entry := by
    rcases input with rfl | rfl
    · exact carriesRecord_of_holds event.wellFormed empty
        (channelId_recordRoute routed) rfl session holds
    · exact carriesRecord_of_holds omitted empty
        (channelId_recordRoute routed) rfl session holds
  rcases carried with ⟨entry, member, rfl, carries⟩
  exact ⟨entry, member, above, carries⟩

/-- What processing a request does: it is sent, its result is published, and it
is marked as done. -/
theorem runs_processOutboundTask {state next : RuntimeState}
    {task : OutboundTask}
    (run : Runs (world setting) before
      (processOutboundTask syncer state task) after (.ok next)) :
    ∃ session providerMessageId eventMs seq,
      syncer.mapping.providerSession task.channelId = .ok session ∧
      next = state.markSendResultSuccess task session.1 session.2
        providerMessageId seq ∧
      Holds syncer.text (resultMethod syncer task providerMessageId eventMs)
        seq after ∧ before.log.last < seq := by
  rw [processOutboundTask] at run
  cases routed : sendRoute syncer task with
  | error =>
      rw [routed] at run
      cases (runs_fail.mp run).2
  | ok route =>
      rcases route with ⟨session, sender⟩
      rw [routed, Action.ofExcept_ok, Program.ret_bind] at run
      have known : syncer.mapping.providerSession task.channelId =
          .ok session := by
        rcases Checked.bind_eq_ok_iff.mp routed with ⟨found, known, rest⟩
        split at rest
        · cases rest
        · split_ifs at rest
          cases rest
          exact known
      rcases runs_bind run with ⟨sentWorld, messageId, sent, rest⟩ |
        ⟨_, _, failed⟩
      · rcases runs_callBind rest with
          ⟨ready, eventMs, timed, evolves, answers, tail⟩
        have grown : Grows before timed :=
          (runs_grows sent).trans
            ((evolves_grows evolves).trans answers.grows)
        rw [Program.ret_bind] at tail
        rcases runs_bind tail with ⟨final, seq, published, last⟩ |
          ⟨_, _, failed⟩
        · rcases runs_ret.mp last with ⟨rfl, returned⟩
          cases returned
          rcases runs_publishWithRetry published with ⟨holds, above⟩
          exact ⟨session, messageId, eventMs, seq, known, rfl, holds,
            grown.log.last_le.trans_lt above⟩
        · cases failed
      · cases failed

end Publishes

/-! ## The invariant -/

section Invariant

variable {history : List Message} {first before after : WorldState setting}
  {processor collected next : SingleThreadProcessor}

/-- A message counts as seen because it has a record: in the replayed history,
or in the log since the first world. -/
def SeenRecorded (syncer : P2PSyncer) (history : List Message)
    (first : WorldState setting) (state : RuntimeState)
    (current : WorldState setting) : Prop :=
  ∀ key ∈ state.inboundSeen,
    Recorded (factsOf (syncer.itemsOf history)) key ∨
      RecordedSince syncer first key current

theorem SeenRecorded.grows {state : RuntimeState}
    (seen : SeenRecorded syncer history first state before)
    (grows : Grows before after) :
    SeenRecorded syncer history first state after :=
  fun key member => (seen key member).imp_right fun since => since.grows grows

theorem SeenRecorded.of_same {state other : RuntimeState}
    (seen : SeenRecorded syncer history first state before)
    (same : other.inboundSeen = state.inboundSeen) :
    SeenRecorded syncer history first other before := by
  intro key member
  rw [same] at member
  exact seen key member

/-- What holds between two ticks. -/
structure BetweenTicks (syncer : P2PSyncer) (history : List Message)
    (first : WorldState setting) (processor : SingleThreadProcessor)
    (current : WorldState setting) : Prop where
  grown : Grows first current
  explained : Explained first current
  resting : Resting processor.state
  pullers : PullersWellFormed processor.messagePullers
  mirrored : Mirrored processor
  seen : SeenRecorded syncer history first processor.state current

theorem BetweenTicks.grows
    (between : BetweenTicks syncer history first processor before)
    (grows : Grows before after) (explained : Explained before after) :
    BetweenTicks syncer history first processor after where
  grown := between.grown.trans grows
  explained := between.explained.trans explained
  resting := between.resting
  pullers := between.pullers
  mirrored := between.mirrored
  seen := between.seen.grows grows

theorem betweenTicks_launched (launched : Launched syncer history processor) :
    BetweenTicks syncer history first processor first where
  grown := Grows.refl first
  explained := Explained.refl first
  resting := resting_replay launched.replayed
  pullers := by
    refine ⟨launched.distinct, ?_⟩
    intro provider puller member
    rcases launched.started provider puller member with
      ⟨config, highwater, nowMs, generation, rfl⟩
    exact ⟨wellFormed_startedAt rfl rfl, rfl⟩
  mirrored := by
    refine ⟨fun event => iff_of_false ?_ ?_, ?_⟩
    · rw [launched.pending]
      exact List.not_mem_nil
    · rintro ⟨provider, puller, sessionId, member, inFlight⟩
      rcases launched.started provider puller member with
        ⟨config, highwater, nowMs, generation, rfl⟩
      rw [inFlightOf_startedAt] at inFlight
      cases inFlight
    · rw [launched.pending]
      exact List.nodup_nil
  seen key member :=
    Or.inl (((replays_replay launched.replayed).reflects.seen key).mp member)

/-- The collection of a tick keeps what holds between ticks. -/
theorem BetweenTicks.collects
    (between : BetweenTicks syncer history first processor before)
    (collects : Collects setting processor before collected after) :
    BetweenTicks syncer history first collected after ∧
      collected.state = processor.state := by
  rcases collects.run with ⟨ready, started, evolves, answers, run⟩
  rcases (between.mirrored.collects between.pullers).runs run with
    ⟨same, good, mirrored⟩
  have grown : Grows before after :=
    (evolves_grows evolves).trans (answers.grows.trans (runs_grows run))
  have explained : Explained before after :=
    (evolves_explained evolves).trans
      (answers.explained.trans (runs_explained run))
  have later := between.grows grown explained
  exact ⟨{ later with
    resting := by rw [same]; exact later.resting
    pullers := good
    mirrored := mirrored
    seen := by rw [same]; exact later.seen }, same⟩

/-- The state after an event has been published. -/
theorem BetweenTicks.publishesEvent {channelId : Nat} {event : ProviderEvent}
    {state : RuntimeState}
    (between : BetweenTicks syncer history first collected before)
    (mapped : syncer.mapping.channelForProviderSession event.provider
      event.sessionId = .ok channelId)
    (run : Runs (world setting) before
      (publishProviderEvent syncer collected.state channelId event) after
      (.ok state)) :
    Resting state ∧ state.requestsById = collected.state.requestsById ∧
      SeenRecorded syncer history first state after ∧
        inboundKey channelId event ∈ state.inboundSeen := by
  rcases runs_publishProviderEvent run with ⟨seen, rfl, rfl⟩ |
    ⟨-, rfl, route, routed, published⟩
  · exact ⟨between.resting, rfl, between.seen, seen⟩
  · have same := sameQueue_markSyncRecord collected.state
      (inboundKey channelId event) channelId event.eventMs
    have inserted : (collected.state.markSyncRecord
        (inboundKey channelId event) channelId event.eventMs).inboundSeen =
          insert (inboundKey channelId event)
            collected.state.inboundSeen := by
      unfold RuntimeState.markSyncRecord RuntimeState.recordEventMs
      split
      · split_ifs <;> rfl
      · rfl
    refine ⟨between.resting.of_sameQueue same, same.pending, ?_, ?_⟩
    · intro key member
      rw [inserted, Finset.mem_insert] at member
      rcases member with rfl | old
      · rcases published.recordedSince routed mapped with
          ⟨entry, inLog, above, carries⟩
        exact Or.inr ⟨entry, inLog,
          between.grown.log.last_le.trans_lt above, carries⟩
      · exact (between.seen.grows (runs_grows run)) key old
    · rw [inserted]
      exact Finset.mem_insert_self _ _

theorem BetweenTicks.tookEvent {event : ProviderEvent}
    (between : BetweenTicks syncer history first collected before)
    (took : TookEvent (world setting) syncer collected before event next
      after) :
    BetweenTicks syncer history first next after := by
  rcases took.free with ⟨channelId, mapped, -, run⟩
  rcases between.publishesEvent mapped run with ⟨resting, -, seen, -⟩
  rcases took.removed with ⟨skipped, rest, split, remaining, -⟩
  rcases between.mirrored.acknowledges between.pullers split remaining
    took.acknowledged with ⟨good, mirrored⟩
  exact {
    grown := between.grown.trans (runs_grows run)
    explained := between.explained.trans (runs_explained run)
    resting := resting
    pullers := good
    mirrored := mirrored
    seen := seen }

theorem BetweenTicks.searches
    (between : BetweenTicks syncer history first collected before)
    (none : collected.state.nextPendingTask.1 = none) :
    BetweenTicks syncer history first (searched collected) before where
  grown := between.grown
  explained := between.explained
  resting := between.resting.searched none
  pullers := between.pullers
  mirrored := ⟨between.mirrored.inFlight, between.mirrored.onePerSession⟩
  seen := between.seen.of_same
    collected.state.nextPendingTask_spec.1.inboundSeen

theorem BetweenTicks.sentRequest {task : OutboundTask} {state : RuntimeState}
    {workTurn : Nat}
    (between : BetweenTicks syncer history first collected before)
    (sent : SentRequest (world setting) syncer collected before task state
      after) :
    BetweenTicks syncer history first { collected with state, workTurn }
      after := by
  rcases runs_processOutboundTask sent.run with
    ⟨session, messageId, eventMs, seq, -, rfl, -, -⟩
  have later := between.grows (runs_grows sent.run) (runs_explained sent.run)
  have stores := storesResult_markSendResultSuccess
    collected.state.nextPendingTask.2 task session.1 session.2 messageId
    (@rfl _ (⟨seq, 0, 0, [], task.requestId, none, "", none⟩ :
      TerminalResult).requestId)
  exact {
    grown := later.grown
    explained := later.explained
    resting := between.resting.marked sent.selected _ _ _ _
    pullers := later.pullers
    mirrored := ⟨later.mirrored.inFlight, later.mirrored.onePerSession⟩
    seen := later.seen.of_same (stores.inboundSeen.trans
      collected.state.nextPendingTask_spec.1.inboundSeen) }

/-- One piece of work keeps what holds between ticks. -/
theorem BetweenTicks.works {worked : Bool}
    (between : BetweenTicks syncer history first collected before)
    (works : Worked (world setting) syncer collected before worked next
      after) :
    BetweenTicks syncer history first next after := by
  rcases works with ⟨sent⟩ | ⟨took⟩ | ⟨none, took⟩ | ⟨none, -⟩
  · exact between.sentRequest sent
  · exact between.tookEvent took
  · exact (between.searches none).tookEvent took
  · exact between.searches none

/-- What holds between ticks holds in every run. -/
theorem TickRun.betweenTicks {current : WorldState setting}
    (reached : TickRun setting syncer history first processor current) :
    BetweenTicks syncer history first processor current := by
  induction reached with
  | launched launched => exact betweenTicks_launched launched
  | interferes _ step ih => exact ih.grows step.grows step.explained
  | @request processor world _ parsed ih =>
      have same : (processor.state.addSendRequest parsed).2.inboundSeen =
          processor.state.inboundSeen := by
        simp only [RuntimeState.addSendRequest]
        split
        · split_ifs <;> rfl
        · split_ifs <;> rfl
      exact {
        grown := ih.grown
        explained := ih.explained
        resting := ih.resting.addSendRequest
        pullers := ih.pullers
        mirrored := ⟨ih.mirrored.inFlight, ih.mirrored.onePerSession⟩
        seen := ih.seen.of_same same }
  | tick _ run ih =>
      cases ticked_of_runs run with
      | stopped evolves answers =>
          exact ih.grows
            ((evolves_grows evolves).trans (Answers.grows answers))
            ((evolves_explained evolves).trans (Answers.explained answers))
      | worked evolves answers collects works =>
          exact (ih.collects ⟨_, _, evolves, answers, collects⟩).1.works works

end Invariant

end OpenEventIm.Syncer.TickRuns
