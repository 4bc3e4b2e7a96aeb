import OpenEventIm.Syncer.TickRuns
import OpenEventIm.Syncer.WorkerRuns

/-!
# What ticks guarantee

Two results about every run of ticks.  An event that is acknowledged is durable:
its record was in the replayed history or has been committed since, and the
pending events always are the events in flight.  A tick conserves work: it
returns `False` only when nothing is left to do, and otherwise completes exactly
one request or one event.
-/

namespace OpenEventIm.Syncer.TickStatements

open OpenEventIm.Foundation
open OpenEventIm.Foundation.Interaction
open OpenEventIm.Sdk.Errors
open OpenEventIm.Sdk.Codec
open OpenEventIm.Sdk.Client
open OpenEventIm.Sdk.MessageReading
open OpenEventIm.Service.Calls
open OpenEventIm.Service.World
open OpenEventIm.Service.Scenes
open OpenEventIm.Syncer.Models
open OpenEventIm.Syncer.State
open OpenEventIm.Syncer.LogMeaning
open OpenEventIm.Syncer.HistoryReplay
open OpenEventIm.Syncer.PublishRetry
open OpenEventIm.Syncer.ProviderMessages
open OpenEventIm.Syncer.PendingQueue
open OpenEventIm.Syncer.Processor
open OpenEventIm.Syncer.Processor.SingleThreadProcessor
open OpenEventIm.Syncer.StartupCut
open OpenEventIm.Syncer.TickOutcomes
open OpenEventIm.Syncer.TickRuns
open OpenEventIm.Syncer.WorkerRuns

/-! ## Acknowledged events -/

section Acknowledged

variable {setting : Setting} {syncer : P2PSyncer} {history : List Message}
  {first before current middle after : WorldState setting}
  {processor collected next : SingleThreadProcessor} {worked : Bool}

/-- A record of the provider message was committed since the first world: by
the worker, or the very same record by others. -/
def CommittedSince (syncer : P2PSyncer) (first : WorldState setting)
    (key : InboundKey) (current : WorldState setting) : Prop :=
  ∃ entry ∈ current.log.entries, first.log.last < entry.seq ∧
    CarriesRecord syncer key entry ∧
      (entry.own = true ∨ ∃ log, setting.foreign log entry.message)

theorem committedSince_of_recordedSince {key : InboundKey}
    (between : BetweenTicks syncer history first processor current)
    (recorded : RecordedSince syncer first key current) :
    CommittedSince syncer first key current := by
  rcases recorded with ⟨entry, member, above, carries⟩
  refine ⟨entry, member, above, carries, ?_⟩
  rcases between.explained entry member with earlier | isNew
  · exact absurd (SequencedLog.number_le_last earlier) (Nat.not_le.mpr above)
  · exact isNew

/-- The event counts as seen, and its record is in the replayed history or has
been committed since the run began. -/
def Durable (syncer : P2PSyncer) (history : List Message)
    (first : WorldState setting) (state : RuntimeState)
    (current : WorldState setting) (event : ProviderEvent) : Prop :=
  ∃ channelId,
    syncer.mapping.channelForProviderSession event.provider event.sessionId =
      .ok channelId ∧
    inboundKey channelId event ∈ state.inboundSeen ∧
    (Recorded (factsOf (syncer.itemsOf history)) (inboundKey channelId event) ∨
      CommittedSince syncer first (inboundKey channelId event) current)

/-- The event that leaves flight when one is taken is the published one. -/
theorem durable_of_tookEvent {event other : ProviderEvent}
    (between : BetweenTicks syncer history first collected before)
    (took : TookEvent (world setting) syncer collected before event next after)
    (inFlight : InFlight collected.messagePullers other)
    (acknowledged : ¬InFlight next.messagePullers other) :
    Durable syncer history first next.state after other := by
  rcases took.free with ⟨channelId, mapped, -, run⟩
  rcases between.publishesEvent mapped run with ⟨-, -, seen, isSeen⟩
  have later := between.tookEvent took
  rcases took.removed with ⟨skipped, rest, split, remaining, -⟩
  rcases between.mirrored.acknowledges between.pullers split remaining
    took.acknowledged with ⟨-, mirrored⟩
  have same : other = event := by
    by_contra different
    apply acknowledged
    rw [← mirrored.inFlight, remaining]
    have pending := (between.mirrored.inFlight other).mpr inFlight
    rw [split] at pending
    simp only [List.mem_append, List.mem_cons, different, false_or] at pending
    exact List.mem_append.mpr pending
  subst same
  exact ⟨channelId, mapped, isSeen, (seen _ isSeen).imp_right fun recorded =>
    committedSince_of_recordedSince later recorded⟩

theorem durable_of_worked {event : ProviderEvent}
    (between : BetweenTicks syncer history first collected before)
    (works : Worked (world setting) syncer collected before worked next after)
    (inFlight : InFlight collected.messagePullers event)
    (acknowledged : ¬InFlight next.messagePullers event) :
    Durable syncer history first next.state after event := by
  rcases works with ⟨sent⟩ | ⟨took⟩ | ⟨none, took⟩ | ⟨none, -⟩
  · exact absurd inFlight acknowledged
  · exact durable_of_tookEvent between took inFlight acknowledged
  · exact durable_of_tookEvent (between.searches none) took inFlight
      acknowledged
  · exact absurd inFlight acknowledged

/--
In every run of ticks the pending events are the events in flight in the
pullers, one of a session at most, between ticks as well as after a tick's
collection.  Any of them can be acknowledged, and an event that a tick does
acknowledge counts as seen because it has a record.
-/
theorem acknowledged_durable
    (reached : TickRun setting syncer history first processor current) :
    Mirrored processor ∧
      ∀ collected middle, Collects setting processor current collected middle →
        Mirrored collected ∧
        (∀ event ∈ collected.pendingEvents, ∃ pullers,
          acknowledgeIn event collected.messagePullers = .ok pullers) ∧
        ∀ worked next after, Runs (world setting) middle
            (workFrom syncer processor.workTurn collected 0 2) after
            (.ok (worked, next)) →
          Mirrored next ∧
          ∀ event, InFlight collected.messagePullers event →
            ¬InFlight next.messagePullers event →
              Durable syncer history first next.state after event := by
  have between := reached.betweenTicks
  refine ⟨between.mirrored, fun collected middle collects => ?_⟩
  have afterwards := (between.collects collects).1
  refine ⟨afterwards.mirrored, ?_, ?_⟩
  · intro event pending
    rcases acknowledgeIn_inFlight afterwards.pullers
      ((afterwards.mirrored.inFlight event).mp pending) with ⟨pullers, done, -⟩
    exact ⟨pullers, done⟩
  · intro worked next after run
    have works := worked_of_runs run
    exact ⟨(afterwards.works works).mirrored, fun event =>
      durable_of_worked afterwards works⟩

end Acknowledged

/-! ### An event that is acknowledged -/

/-- The second process of the run with a crash, when it has started. -/
theorem launched_replayedProcessor :
    Launched sampleSyncer [requestMessage, resultMessage]
      (replayedProcessor chatPuller) where
  replayed := by
    dsimp only [replayedProcessor]
    exact replay_messages
  pending := rfl
  distinct := List.nodup_singleton _
  started := by
    intro provider puller member
    cases List.mem_singleton.mp member
    exact ⟨_, _, _, _, startedAt_chatPuller.symm⟩

/-- The calls until it has collected the message. -/
def collectedCalls : List Exchange :=
  secondCalls ++ [⟨.stopIsSet, false⟩] ++ collectCalls (some echoEvent)

def collectedWorld : WorldState requestSetting :=
  (⟨answeredLog, ()⟩ : Scene requestSetting).world collectedCalls

theorem collects_replayedProcessor :
    Collects requestSetting (replayedProcessor chatPuller) (replayedWorld ())
      echoProcessor collectedWorld :=
  ⟨_, _, .refl, replies_goesOn.answers secondCalls,
    hosts_requestSetting.collectsEcho (secondCalls ++ [⟨.stopIsSet, false⟩])⟩

/-- The message is acknowledged, and its record is in the log. -/
theorem acknowledged_durable_sample :
    InFlight echoProcessor.messagePullers echoEvent ∧
      ∃ (next : SingleThreadProcessor) (after : WorldState requestSetting),
        ¬InFlight next.messagePullers echoEvent ∧
          Durable sampleSyncer [requestMessage, resultMessage]
            (replayedWorld () : WorldState requestSetting) next.state after
            echoEvent := by
  have works : ∃ (next : SingleThreadProcessor)
      (after : WorldState requestSetting), next.pendingEvents = [] ∧
        Runs (world requestSetting) collectedWorld
          (workFrom sampleSyncer 0 echoProcessor 0 2) after
          (.ok (true, next)) := by
    rcases hosts_requestSetting.worksEcho with ⟨pullers, -, works⟩
    exact ⟨_, _, rfl, works collectedCalls⟩
  rcases works with ⟨next, after, nothing, works⟩
  have afterwards := (acknowledged_durable
    (.launched launched_replayedProcessor)).2 _ _ collects_replayedProcessor
  rcases afterwards.2.2 true next after works with ⟨mirrored, durable⟩
  have inFlight : InFlight echoProcessor.messagePullers echoEvent :=
    (afterwards.1.inFlight echoEvent).mp (List.mem_singleton_self _)
  have acknowledged : ¬InFlight next.messagePullers echoEvent := by
    rw [← mirrored.inFlight, nothing]
    exact List.not_mem_nil
  exact ⟨inFlight, next, after, acknowledged,
    durable echoEvent inFlight acknowledged⟩

/-! ## Work -/

section Work

variable {setting : Setting} {syncer : P2PSyncer} {history : List Message}
  {first before current middle after : WorldState setting}
  {processor collected next : SingleThreadProcessor} {worked : Bool}

/-- One request was completed: its result was published, and it left the
table of requests.  No event was touched. -/
def CompletedRequest (syncer : P2PSyncer) (collected next : SingleThreadProcessor)
    (middle after : WorldState setting) : Prop :=
  ∃ task providerMessageId eventMs seq,
    collected.state.requestsById.get? task.requestId = some task ∧
    next.state.requestsById =
      collected.state.requestsById.erase task.requestId ∧
    task.requestId ∈ next.state.completedRequestIds ∧
    Holds syncer.text (resultMethod syncer task providerMessageId eventMs) seq
      after ∧
    middle.log.last < seq ∧
    next.pendingEvents = collected.pendingEvents ∧
    next.messagePullers = collected.messagePullers

/-- One pending event was acknowledged and removed, and no request touched. -/
def CompletedEvent (collected next : SingleThreadProcessor) : Prop :=
  ∃ event skipped rest,
    collected.pendingEvents = skipped ++ event :: rest ∧
    next.pendingEvents = skipped ++ rest ∧
    acknowledgeIn event collected.messagePullers = .ok next.messagePullers ∧
    next.state.requestsById = collected.state.requestsById

theorem completedRequest_of_sent {task : OutboundTask} {state : RuntimeState}
    {workTurn : Nat} (resting : Resting collected.state)
    (sent : SentRequest (world setting) syncer collected before task state
      after) :
    CompletedRequest syncer collected { collected with state, workTurn } before
      after := by
  rcases runs_processOutboundTask sent.run with
    ⟨session, messageId, eventMs, seq, -, rfl, holds, above⟩
  have completes := completes_markSendResultSuccess
    collected.state.nextPendingTask.2 task session.1 session.2 messageId seq
  have same := collected.state.nextPendingTask_spec.1
  have eligible := (resting.linked.selects.first task sent.selected).1
  refine ⟨task, messageId, eventMs, seq, eligible.pending, ?_, ?_, holds, above,
    rfl, rfl⟩
  · show (RuntimeState.markSendResultSuccess _ _ _ _ _ _).requestsById = _
    rw [completes.pending, same.requestsById]
  · show task.requestId ∈
      (RuntimeState.markSendResultSuccess _ _ _ _ _ _).completedRequestIds
    rw [completes.completed]
    exact Finset.mem_insert_self _ _

theorem completedEvent_of_took {event : ProviderEvent}
    (between : BetweenTicks syncer history first collected before)
    (took : TookEvent (world setting) syncer collected before event next
      after) :
    CompletedEvent collected next := by
  rcases took.free with ⟨channelId, mapped, -, run⟩
  rcases took.removed with ⟨skipped, rest, split, remaining, -⟩
  exact ⟨event, skipped, rest, split, remaining, took.acknowledged,
    (between.publishesEvent mapped run).2.1⟩

/-- No event waits when no request is pending. -/
theorem not_waits {state : RuntimeState} {event : ProviderEvent}
    (empty : ∀ requestId, state.requestsById.get? requestId = none) :
    ¬Waits syncer state event := by
  rintro ⟨channelId, -, busy⟩
  have free : state.channelHasPending channelId = false := by
    rw [RuntimeState.channelHasPending_eq_false_iff]
    intro requestId task found
    rw [empty] at found
    cases found
  rw [free] at busy
  cases busy

theorem empty_of_idle (resting : Resting collected.state)
    (none : collected.state.nextPendingTask.1 = none)
    (waiting : (∀ event ∈ collected.pendingEvents,
        Waits syncer collected.state event) ∨
      ∀ event ∈ collected.pendingEvents,
        Waits syncer (searched collected).state event) :
    (∀ requestId, collected.state.requestsById.get? requestId = Option.none) ∧
      collected.pendingEvents = [] := by
  have empty := resting.pending_empty none
  refine ⟨empty, List.eq_nil_iff_forall_not_mem.mpr fun event member => ?_⟩
  rcases waiting with waiting | waiting
  · exact not_waits empty (waiting event member)
  · refine not_waits ?_ (waiting event member)
    show ∀ requestId,
      collected.state.nextPendingTask.2.requestsById.get? requestId = _
    rw [collected.state.nextPendingTask_spec.1.requestsById]
    exact empty

/--
A tick that returns while no stop has been requested returns `False` only if
after its collection there is neither a pending request nor a pending event;
otherwise it completes exactly one of them.
-/
theorem tick_conservesWork
    (reached : TickRun setting syncer history first processor before)
    (run : Runs (world setting) before (tick syncer processor) after
      (.ok (worked, next)))
    (notStopped : (⟨.stopIsSet, true⟩ : Exchange) ∉ after.trace) :
    ∃ collected middle, Collects setting processor before collected middle ∧
      match worked with
      | false =>
          (∀ requestId, collected.state.requestsById.get? requestId = none) ∧
            collected.pendingEvents = []
      | true =>
          CompletedRequest syncer collected next middle after ∨
            CompletedEvent collected next := by
  rcases ticked_of_runs run with ⟨evolves, answers⟩ |
    @⟨ready, started, middle, _, collected, _, _, evolves, answers, run, works⟩
  · apply absurd _ notStopped
    rw [Answers.trace answers]
    exact List.mem_append_right _ (List.mem_singleton_self _)
  · have collects : Collects setting processor before collected middle :=
      ⟨ready, started, evolves, answers, run⟩
    have between := (reached.betweenTicks.collects collects).1
    refine ⟨collected, middle, collects, ?_⟩
    rcases works with ⟨sent⟩ | ⟨took⟩ | ⟨none, took⟩ | ⟨none, waiting⟩
    · exact Or.inl (completedRequest_of_sent between.resting sent)
    · exact Or.inr (completedEvent_of_took between took)
    · rcases completedEvent_of_took (between.searches none) took with
        ⟨event, skipped, rest, split, remaining, acknowledged, same⟩
      refine Or.inr ⟨event, skipped, rest, split, remaining, acknowledged,
        same.trans ?_⟩
      exact collected.state.nextPendingTask_spec.1.requestsById
    · exact empty_of_idle between.resting none waiting

end Work

/-! ### A tick that completes a request -/

/-- The first process of the run with a crash, when it has read the request. -/
theorem reached_askedProcessor :
    TickRun requestSetting sampleSyncer [] (askedWorld ())
      { chatProcessor chatPuller with state := askedState } (askedWorld ()) := by
  refine @TickRun.request _ _ _ _ (chatProcessor chatPuller) _
    (.launched ⟨rfl, rfl, List.nodup_singleton _, ?_⟩) requestParsed
  intro provider puller member
  cases List.mem_singleton.mp member
  exact ⟨_, _, _, _, startedAt_chatPuller.symm⟩

/-- The request that was added is completed by the next tick. -/
theorem tick_conservesWork_sample :
    ∃ collected middle next,
      Collects requestSetting
          { chatProcessor chatPuller with state := askedState } (askedWorld ())
          collected middle ∧
        (CompletedRequest sampleSyncer collected next middle
            (answeredWorld () : WorldState requestSetting) ∨
          CompletedEvent collected next) := by
  rcases (@Hosts.tickSends requestSetting () () hosts_requestSetting) with
    ⟨next, ticks⟩
  rcases tick_conservesWork reached_askedProcessor (ticks firstCalls)
    (notStopped_of_goesOn rfl) with ⟨collected, middle, collects, completed⟩
  exact ⟨collected, middle, next, collects, completed⟩

end OpenEventIm.Syncer.TickStatements
