import OpenEventIm.Syncer.GaplessLog

/-!
# Ticks of a worker that leaves no gap

One puller of the only provider is started, and what it has acknowledged is in
the log.  Every call of a tick keeps this: the records that a tick publishes are
of messages that the puller has handed over.
-/

namespace OpenEventIm.Syncer.GaplessTicks

open OpenEventIm.Foundation
open OpenEventIm.Foundation.Interaction
open OpenEventIm.Foundation.PendingCalls
open OpenEventIm.Foundation.Transcripts
open OpenEventIm.Sdk.Errors
open OpenEventIm.Sdk.Client
open OpenEventIm.Sdk.PublishReconciliation
open OpenEventIm.Service.Calls
open OpenEventIm.Service.World
open OpenEventIm.Syncer.Models
open OpenEventIm.Syncer.State
open OpenEventIm.Syncer.LogMeaning
open OpenEventIm.Syncer.HistoryReplay
open OpenEventIm.Syncer.ProviderMessages
open OpenEventIm.Syncer.ProviderDelivery
open OpenEventIm.Syncer.PublishRetry
open OpenEventIm.Syncer.Processor
open OpenEventIm.Syncer.Processor.SingleThreadProcessor
open OpenEventIm.Syncer.PullerSessions
open OpenEventIm.Syncer.SessionDelivery
open OpenEventIm.Syncer.Watermark
open OpenEventIm.Syncer.TickRuns
open OpenEventIm.Syncer.WrittenLog
open OpenEventIm.Syncer.WorkerLedger
open OpenEventIm.Syncer.WorkerMessages
open OpenEventIm.Syncer.WorkerCalls
open OpenEventIm.Syncer.WorkerTicks
open OpenEventIm.Syncer.WorkerGuards
open OpenEventIm.Syncer.DeliveringWorld
open OpenEventIm.Syncer.GaplessLog

/-! ## Publishing under an assertion -/

section Publishing

variable {setting : Setting} {assertion : WorldState setting → Prop}
  {text : Foundation.JsonText} {method : PublishMethod} {retry : RetryConfig}
  {current : WorldState setting}

/-- An assertion that reads keep, and publishes of the method's record, holds
through all attempts. -/
theorem safe_publishWithRetry_kept (kept : KeptByReads assertion)
    (published : ∀ record, method.record text = .ok record →
      ∀ before token answer after, Answers before
        (.publishAutoSeq record.principal token record.channelId record.payload
          record.recipients) answer after →
        assertion before → assertion after)
    (holds : assertion current) :
    Safe (world setting) assertion (fun _ => assertion) (fun _ => assertion)
      (publishWithRetry retry (method.publish text)) current := by
  let assertions : PublishAssertions setting := {
    pending := assertion
    committed := fun _ => assertion
    pending_kept := kept
    committed_kept := fun _ => kept }
  have sound : Sound assertions assertion :=
    ⟨fun _ holds => holds, fun _ _ holds => holds⟩
  have undecided (state : WorldState setting)
      (either : assertions.Undecided state) : assertion state :=
    sound.undecided state either
  cases built : method.record text with
  | error exc =>
      exact (safe_publishAttempts sound (publishes_refused sound built) _
        holds).mono (fun _ _ _ holds => holds)
          (fun _ after _ failed => undecided after failed.undecided)
  | ok record =>
      have follow : assertions.FollowPublish record :=
        { rejected := fun before token answer after answers _ holds =>
            published record built before token answer after answers holds
          commits := fun before token answer after _ answers _ _ _ holds =>
            published record built before token answer after answers holds }
      apply (safe_publishAttempts sound
        (publishes_method sound built follow) _ holds).mono
      · rintro seq after - (⟨_, -, holds⟩ | ⟨either, -⟩)
        · exact holds
        · exact undecided after either
      · exact fun _ after _ failed => undecided after failed.undecided

end Publishing

/-! ## The log at a moment -/

variable {foreign : Log → Message → Prop} {committable : Message → Prop}
  {syncer : P2PSyncer} {provider : String} {config : ProviderSyncConfig}
  {floors handoffs : String → Int} {acknowledged : List ProviderMessage}
  {puller : ProviderMessagePuller}
  {before after current : ProcessWorld foreign committable}
  {request : Call} {answer : Answer request}

/-- The facts that the worker reads from the log. -/
abbrev factsAt (syncer : P2PSyncer)
    (current : ProcessWorld foreign committable) : List WorkerFact :=
  logFacts syncer current.log.entries

/-- Nobody else writes results or records. -/
structure SoleScribe (foreign : Log → Message → Prop)
    (committable : Message → Prop) (syncer : P2PSyncer) : Prop where
  results : SoleWriter (deliverySetting false foreign committable) syncer.text
    .sendResult
  records : SoleWriter (deliverySetting false foreign committable) syncer.text
    .syncRecord

theorem factsAt_interferes (sole : SoleScribe foreign committable syncer)
    (step : Interferes before after) :
    factsAt syncer after = factsAt syncer before := by
  cases step with
  | published allowed appends =>
      rw [factsAt, appends.2.1, logFacts_append,
        logFacts_foreign sole.results sole.records (foreign_singleton allowed),
        List.append_nil]
  | provider => rfl

theorem factsAt_answers (answers : Answers before request answer after)
    (quiet : Call.IsQuiet request) :
    factsAt syncer after = factsAt syncer before := by
  rw [factsAt, answers.entries_eq quiet]

theorem goesOn_interferes (step : Interferes before after) :
    GoesOn before.provider.world after.provider.world ∧
      (Dated before.provider.world → Dated after.provider.world) := by
  cases step with
  | published => exact ⟨GoesOn.of_same rfl rfl, id⟩
  | provider steps =>
      cases steps with
      | provider steps =>
          exact ⟨goesOn_steps steps, fun dated => dated.steps steps⟩
      | ends allowed => cases allowed

theorem same_answers (answers : Answers before request answer after) :
    after.provider.world.messages = before.provider.world.messages ∧
      after.provider.world.clock = before.provider.world.clock := by
  have provider := answers.provider
  split_ifs at provider with isProvider
  · have given := StreamedAnswers.provider provider
    exact ⟨messages_answers given, clock_answers given⟩
  · rw [provider]
    exact ⟨rfl, rfl⟩

/-- The log has no gap. -/
abbrev LogGapless (syncer : P2PSyncer) (floors : String → Int)
    (current : ProcessWorld foreign committable) : Prop :=
  Gapless floors (factsAt syncer current) current.provider.world

/-- What the log holds for the puller. -/
abbrev LogBacked (syncer : P2PSyncer) (provider : String)
    (floors handoffs : String → Int) (acknowledged : List ProviderMessage)
    (current : ProcessWorld foreign committable) : Prop :=
  Backed syncer provider floors handoffs acknowledged (factsAt syncer current)
    current.provider.world

theorem gapless_interferes (sole : SoleScribe foreign committable syncer)
    (step : Interferes before after)
    (gapless : LogGapless syncer floors before) :
    LogGapless syncer floors after := by
  rcases goesOn_interferes step with ⟨goesOn, dated⟩
  refine gapless.goesOn goesOn (dated gapless.dated) ?_
  rw [factsAt_interferes sole step]
  exact SameRecords.refl _

theorem gapless_answers (answers : Answers before request answer after)
    (quiet : Call.IsQuiet request)
    (gapless : LogGapless syncer floors before) :
    LogGapless syncer floors after := by
  rcases same_answers answers with ⟨messages, clock⟩
  refine gapless.goesOn (GoesOn.of_same messages clock)
    (gapless.dated.of_same messages clock) ?_
  rw [factsAt_answers answers quiet]
  exact SameRecords.refl _

theorem backed_interferes (sole : SoleScribe foreign committable syncer)
    (step : Interferes before after)
    (backed : LogBacked syncer provider floors handoffs acknowledged before) :
    LogBacked syncer provider floors handoffs acknowledged after := by
  rcases goesOn_interferes step with ⟨goesOn, dated⟩
  refine backed.goesOn goesOn (dated backed.gapless.dated) ?_
  rw [factsAt_interferes sole step]
  exact SameRecords.refl _

theorem backed_answers (answers : Answers before request answer after)
    (same : SameRecords (factsAt syncer before) (factsAt syncer after))
    (backed : LogBacked syncer provider floors handoffs acknowledged before) :
    LogBacked syncer provider floors handoffs acknowledged after := by
  rcases same_answers answers with ⟨messages, clock⟩
  exact backed.goesOn (GoesOn.of_same messages clock)
    (backed.gapless.dated.of_same messages clock) same

/-- A puller at work. -/
structure Pulling (syncer : P2PSyncer) (provider : String)
    (config : ProviderSyncConfig) (floors handoffs : String → Int)
    (acknowledged : List ProviderMessage) (puller : ProviderMessagePuller)
    (current : ProcessWorld foreign committable) : Prop where
  safe : PullerSafe config handoffs acknowledged (confirmedOf puller)
    current.provider.world puller
  backed : LogBacked syncer provider floors handoffs acknowledged current

section Kept

variable {record : Record} {token : String}

theorem Pulling.gapless (pulling : Pulling syncer provider config floors
    handoffs acknowledged puller current) :
    LogGapless syncer floors current :=
  pulling.backed.gapless

theorem Pulling.interferes (sole : SoleScribe foreign committable syncer)
    (step : Interferes before after)
    (pulling : Pulling syncer provider config floors handoffs acknowledged
      puller before) :
    Pulling syncer provider config floors handoffs acknowledged puller
      after where
  safe := by
    cases step with
    | published => exact pulling.safe
    | provider steps =>
        cases steps with
        | provider steps => exact pulling.safe.steps steps
        | ends allowed => cases allowed
  backed := backed_interferes sole step pulling.backed

/-- A call that leaves the provider as it is. -/
theorem Pulling.answered (answers : Answers before request answer after)
    (provider_eq : after.provider.world = before.provider.world)
    (same : SameRecords (factsAt syncer before) (factsAt syncer after))
    (pulling : Pulling syncer provider config floors handoffs acknowledged
      puller before) :
    Pulling syncer provider config floors handoffs acknowledged puller
      after where
  safe := by
    rw [provider_eq]
    exact pulling.safe
  backed := backed_answers answers same pulling.backed

theorem provider_eq_of_answers (answers : Answers before request answer after)
    (noProvider : request.isProvider = false) :
    after.provider = before.provider := by
  have provider := answers.provider
  rwa [if_neg (by rw [noProvider]; exact Bool.false_ne_true)] at provider

theorem pulling_kept (sole : SoleScribe foreign committable syncer) :
    KeptByReads (Pulling syncer provider config floors handoffs acknowledged
      puller : ProcessWorld foreign committable → Prop) where
  stable _ _ := Pulling.interferes sole
  reads before request answer after reads answers pulling := by
    refine pulling.answered answers
      (congrArg StreamedProvider.world (provider_eq_of_answers answers reads.2))
      ?_
    rw [factsAt_answers answers reads.1]
    exact SameRecords.refl _

/-- A publish of a record after which the log still backs the puller. -/
theorem Pulling.published {answer : Except PyError PublishResponse}
    (answers : Answers before (.publishAutoSeq record.principal token
      record.channelId record.payload record.recipients) answer after)
    (pulling : Pulling syncer provider config floors handoffs acknowledged
      puller before)
    (noted : ∀ message, recordOf message = record →
      Backed syncer provider floors handoffs acknowledged
        (factsAt syncer before ++ logFacts syncer [⟨message, true⟩])
        before.provider.world) :
    Pulling syncer provider config floors handoffs acknowledged puller
      after := by
  have provider_eq : after.provider.world = before.provider.world :=
    congrArg StreamedProvider.world (provider_eq_of_answers answers rfl)
  rcases entries_of_answers answers with same | ⟨message, published, appended⟩
  · refine pulling.answered answers provider_eq ?_
    rw [factsAt, factsAt, same]
    exact SameRecords.refl _
  · have recorded : recordOf message = record :=
      (Option.some.inj published).symm
    constructor
    · rw [provider_eq]
      exact pulling.safe
    · rw [LogBacked, factsAt, appended, logFacts_append, provider_eq]
      exact noted message recorded

end Kept

/-! ## Requests -/

section Requests

variable {state : RuntimeState} {task : OutboundTask} {session : Session}
  {providerMessageId : String} {eventMs : Int}

/-- The result of a request is no record. -/
theorem Pulling.result {record : Record} {token : String}
    {answer : Except PyError PublishResponse}
    (usable : providerMessageId ≠ "")
    (mapped : syncer.mapping.providerSession task.channelId = .ok session)
    (built : (resultMethod syncer task providerMessageId eventMs).record
      syncer.text = .ok record)
    (answers : Answers before (.publishAutoSeq record.principal token
      record.channelId record.payload record.recipients) answer after)
    (pulling : Pulling syncer provider config floors handoffs acknowledged
      puller before) :
    Pulling syncer provider config floors handoffs acknowledged puller
      after := by
  refine pulling.published answers fun message recorded => ?_
  rw [← recorded] at built
  rcases carriesResult_of_record usable mapped built with ⟨parsed, carries⟩
  refine pulling.backed.goesOn (GoesOn.of_same rfl rfl)
    pulling.backed.gapless.dated ?_
  rw [logFacts_result carries]
  constructor
  · exact fun _ => List.mem_append_left _
  · intro key prevSeq eventMs member
    rcases List.mem_append.mp member with old | isResult
    · exact old
    · cases List.mem_singleton.mp isResult

theorem safe_sendTask {user : String}
    (sole : SoleScribe foreign committable syncer)
    (pulling : Pulling syncer provider config floors handoffs acknowledged
      puller current) :
    Safe (world (deliverySetting false foreign committable))
      (LogGapless syncer floors)
      (fun providerMessageId after => providerMessageId ≠ "" ∧
        Pulling syncer provider config floors handoffs acknowledged puller
          after)
      (fun _ _ => True) (sendTask task session user) current := by
  have sent : Safe (world (deliverySetting false foreign committable))
      (LogGapless syncer floors)
      (fun _ => Pulling syncer provider config floors handoffs acknowledged
        puller)
      (fun _ _ => True)
      (sendMessage session.1 session.2 user task.msgType task.content
        task.requestId) current := by
    apply Safe.call (pulling_kept sole).stable (fun _ => Pulling.gapless)
      pulling
    intro ready answer answered isPulling answers
    have world : answered.provider.world = ready.provider.world :=
      StreamedAnswers.provider answers.provider
    have next := isPulling.answered answers world (by
      rw [factsAt_answers answers trivial]
      exact SameRecords.refl _)
    cases answer with
    | error exc => exact ⟨next.gapless, trivial⟩
    | ok result => exact ⟨next.gapless, next⟩
  rw [sendTask]
  apply (safe_rethrow sent _).bind
  intro result after gapless isPulling
  dsimp only
  cases found : sentMessageId result with
  | none => exact ⟨gapless, trivial⟩
  | some providerMessageId =>
      exact ⟨gapless, sentMessageId_ne_empty found, isPulling⟩

/-- The processing of a request. -/
theorem safe_processOutboundTask (sole : SoleScribe foreign committable syncer)
    (pulling : Pulling syncer provider config floors handoffs acknowledged
      puller current) :
    Safe (world (deliverySetting false foreign committable))
      (LogGapless syncer floors)
      (fun _ => Pulling syncer provider config floors handoffs acknowledged
        puller)
      (fun _ _ => True) (processOutboundTask syncer state task) current := by
  rw [processOutboundTask]
  cases routed : sendRoute syncer task with
  | error exc => exact ⟨pulling.gapless, trivial⟩
  | ok route =>
      rcases route with ⟨session, user⟩
      have mapped := providerSession_of_sendRoute routed
      rw [Action.ofExcept_ok, Program.ret_bind]
      apply (safe_sendTask sole pulling).bind
      rintro providerMessageId sent - ⟨usable, isPulling⟩
      rw [currentTimeMs]
      apply (pulling_kept sole).safe_callBind onlyReads_currentTimeMs
        (fun _ => Pulling.gapless) isPulling
      intro _ eventMs timed _ isPulling _
      rw [Program.ret_bind]
      have publishes := @safe_publishWithRetry_kept
        (deliverySetting false foreign committable)
        (Pulling syncer provider config floors handoffs acknowledged puller)
        syncer.text (resultMethod syncer task providerMessageId eventMs)
        syncer.config.retry timed (pulling_kept sole)
        (fun record built before token answer after answers holds =>
          holds.result usable mapped built answers) isPulling
      apply ((publishes.weaken fun _ => Pulling.gapless).mono
        (fun _ _ _ next => next) (fun _ _ _ _ => trivial)).bind
      intro seq after gapless next
      exact ⟨gapless, next⟩

end Requests

/-! ## Events -/

section Events

variable {state : RuntimeState} {event : ProviderEvent} {channelId : Nat}
  {prevSeq : Option Nat} {route : RecordRoute}

/-- The record of an event that the puller has handed over. -/
theorem Pulling.record {record : Record} {token : String}
    {answer : Except PyError PublishResponse} {req : Sdk.Codec.SyncRecordInput}
    (handed : InHand syncer provider puller channelId event)
    (routed : recordRoute syncer channelId event = .ok route)
    (input : RecordInput event prevSeq req)
    (built : (recordMethod route req).record syncer.text = .ok record)
    (answers : Answers before (.publishAutoSeq record.principal token
      record.channelId record.payload record.recipients) answer after)
    (pulling : Pulling syncer provider config floors handoffs acknowledged
      puller before) :
    Pulling syncer provider config floors handoffs acknowledged puller
      after := by
  refine pulling.published answers fun message recorded => ?_
  rw [← recorded] at built
  rcases carriesEvent_of_record routed handed.session input built with
    ⟨parsed, carries⟩
  rw [logFacts_record carries]
  exact pulling.backed.records handed pulling.safe

/-- The publishes for an event that the puller has handed over. -/
theorem safe_publishProviderEvent
    (sole : SoleScribe foreign committable syncer)
    (handed : InHand syncer provider puller channelId event)
    (pulling : Pulling syncer provider config floors handoffs acknowledged
      puller current) :
    Safe (world (deliverySetting false foreign committable))
      (LogGapless syncer floors)
      (fun _ => Pulling syncer provider config floors handoffs acknowledged
        puller)
      (fun _ _ => True) (publishProviderEvent syncer state channelId event)
      current := by
  have kept := @pulling_kept foreign committable syncer provider config floors
    handoffs acknowledged puller sole
  have published {route : RecordRoute} {req : Sdk.Codec.SyncRecordInput}
      {middle : ProcessWorld foreign committable}
      (routed : recordRoute syncer channelId event = .ok route)
      (input : RecordInput event (state.sendResultByProviderMessage.get?
        (inboundKey channelId event)) req)
      (isPulling : Pulling syncer provider config floors handoffs acknowledged
        puller middle) :
      Safe (world (deliverySetting false foreign committable))
        (LogGapless syncer floors)
        (fun _ => Pulling syncer provider config floors handoffs acknowledged
          puller)
        (fun _ => Pulling syncer provider config floors handoffs acknowledged
          puller)
        ((do
          let _ ← SingleThreadProcessor.publishSyncRecord syncer route req
          return ()) : Action Unit) middle := by
    have publishes := @safe_publishWithRetry_kept
      (deliverySetting false foreign committable)
      (Pulling syncer provider config floors handoffs acknowledged puller)
      syncer.text (recordMethod route req) syncer.config.retry middle kept
      (fun record built before token answer after answers holds =>
        holds.record handed routed input built answers) isPulling
    apply (publishes.weaken fun _ => Pulling.gapless).bind
    intro seq after gapless next
    exact ⟨gapless, next⟩
  rw [publishProviderEvent]
  split_ifs with seen
  · exact ⟨pulling.gapless, pulling⟩
  · cases routed : recordRoute syncer channelId event with
    | error exc => exact ⟨pulling.gapless, trivial⟩
    | ok route =>
        rw [Action.ofExcept_ok, Program.ret_bind]
        refine Safe.bind ?_ fun _ _ gapless next => ⟨gapless, next⟩
        rw [publishRecords, currentTimeMs]
        apply kept.safe_callBind onlyReads_currentTimeMs
          (fun _ => Pulling.gapless) pulling
        intro _ ingestedMs timed _ isPulling _
        rw [Program.ret_bind]
        apply (published routed ⟨ingestedMs, Or.inl rfl⟩ isPulling).handle
        intro exc failed gapless isPulling
        split_ifs with other
        · exact ⟨gapless, trivial⟩
        · apply kept.safe_callBind onlyReads_currentTimeMs
            (fun _ => Pulling.gapless) isPulling
          intro _ ingestedMs retimed _ isPulling _
          rw [Program.ret_bind]
          apply (published routed ⟨ingestedMs, Or.inr rfl⟩ isPulling).handle
          intro fallbackExc refused gapless _
          split_ifs <;> exact ⟨gapless, trivial⟩

end Events

/-! ## The processor -/

/-- The only puller is at work, the pending events are in flight there, and what
the processor has seen is recorded. -/
structure Holds (syncer : P2PSyncer) (provider : String)
    (config : ProviderSyncConfig) (floors : String → Int)
    (processor : SingleThreadProcessor)
    (current : ProcessWorld foreign committable) : Prop where
  pulling : ∃ puller handoffs acknowledged,
    processor.messagePullers = [(provider, puller)] ∧
      Pulling syncer provider config floors handoffs acknowledged puller current
  good : PullersWellFormed processor.messagePullers
  mirrored : Mirrored processor
  seen : ∀ key ∈ processor.state.inboundSeen,
    Recorded (factsAt syncer current) key

section Processor

variable {processor next : SingleThreadProcessor} {event : ProviderEvent}
  {channelId : Nat} {state : RuntimeState}

theorem Holds.gapless
    (holds : Holds syncer provider config floors processor current) :
    LogGapless syncer floors current := by
  rcases holds.pulling with ⟨_, _, _, -, pulling⟩
  exact pulling.gapless

theorem factsAt_grows (grows : Grows before after) :
    ∀ fact ∈ factsAt syncer before, fact ∈ factsAt syncer after := by
  rcases grows.log.isPrefix with ⟨more, split⟩
  intro fact member
  rw [factsAt, ← split, logFacts_append]
  exact List.mem_append_left _ member

theorem seen_grows (grows : Grows before after)
    (seen : ∀ key ∈ state.inboundSeen, Recorded (factsAt syncer before) key) :
    ∀ key ∈ state.inboundSeen, Recorded (factsAt syncer after) key :=
  fun key member => recorded_mono (factsAt_grows grows) (seen key member)

/-- Reads keep what holds of the processor. -/
theorem holds_kept (sole : SoleScribe foreign committable syncer) :
    KeptByReads (Holds syncer provider config floors processor :
      ProcessWorld foreign committable → Prop) where
  stable before after step holds := by
    rcases holds.pulling with ⟨puller, handoffs, acknowledged, same, pulling⟩
    exact {
      pulling := ⟨puller, handoffs, acknowledged, same,
        pulling.interferes sole step⟩
      good := holds.good
      mirrored := holds.mirrored
      seen := seen_grows step.grows holds.seen }
  reads before request answer after reads answers holds := by
    rcases holds.pulling with ⟨puller, handoffs, acknowledged, same, pulling⟩
    exact {
      pulling := ⟨puller, handoffs, acknowledged, same,
        (pulling_kept sole).reads _ _ _ _ reads answers pulling⟩
      good := holds.good
      mirrored := holds.mirrored
      seen := seen_grows answers.grows holds.seen }

/-- A pending event is one that the puller has handed over. -/
theorem Holds.inHand
    (holds : Holds syncer provider config floors processor current)
    (only : processor.messagePullers = [(provider, puller)])
    (pending : event ∈ processor.pendingEvents)
    (mapped : syncer.mapping.channelForProviderSession event.provider
      event.sessionId = .ok channelId) :
    InHand syncer provider puller channelId event := by
  have inverse := @Mapping.P2PMappingIndex.channelForProviderSession_iff
    syncer.config syncer.mapping syncer.built
  have session : syncer.mapping.providerSession channelId =
      .ok (event.provider, event.sessionId) := inverse.mp mapped
  rcases (inFlight_iff holds.good).mp
    ((holds.mirrored.inFlight event).mp pending) with
    ⟨other, member, inFlight⟩
  rw [only, List.mem_singleton] at member
  cases member
  exact ⟨rfl, session, inFlight⟩

theorem recorded_of_carries {current : ProcessWorld foreign committable}
    {key : InboundKey} {entry : LogEntry}
    (member : entry ∈ current.log.entries)
    (carries : CarriesRecord syncer key entry) :
    Recorded (factsAt syncer current) key := by
  rcases carries with ⟨parsed, read, kind, channel, messageId, mapped⟩
  have item := readItem?_record read mapped kind
  have named : RuntimeState.syncRecordKey parsed key.provider key.sessionId =
      key := by
    cases key
    cases channel
    cases messageId
    rfl
  rw [named] at item
  exact ⟨_, List.mem_filterMap.mpr
    ⟨_, List.mem_filterMap.mpr ⟨entry, member, item⟩, rfl⟩, rfl⟩

theorem inboundSeen_markSyncRecord (state : RuntimeState) (key : InboundKey)
    (channelId : Nat) (eventMs : Int) :
    (state.markSyncRecord key channelId eventMs).inboundSeen =
      insert key state.inboundSeen := by
  unfold RuntimeState.markSyncRecord RuntimeState.recordEventMs
  split
  · split_ifs <;> rfl
  · rfl

/-- After the publish of an event it is recorded, like all that is seen. -/
theorem seen_publishProviderEvent
    (mapped : syncer.mapping.channelForProviderSession event.provider
      event.sessionId = .ok channelId)
    (seen : ∀ key ∈ processor.state.inboundSeen,
      Recorded (factsAt syncer before) key)
    (run : Runs (world (deliverySetting false foreign committable)) before
      (publishProviderEvent syncer processor.state channelId event) after
      (.ok state)) :
    Recorded (factsAt syncer after) (inboundKey channelId event) ∧
      ∀ key ∈ state.inboundSeen, Recorded (factsAt syncer after) key := by
  rcases runs_publishProviderEvent run with ⟨known, rfl, rfl⟩ |
    ⟨-, rfl, route, routed, published⟩
  · exact ⟨seen _ known, seen⟩
  · rcases published.recordedSince routed mapped with
      ⟨entry, member, -, carries⟩
    have recorded := recorded_of_carries member carries
    refine ⟨recorded, fun key isSeen => ?_⟩
    rw [inboundSeen_markSyncRecord, Finset.mem_insert] at isSeen
    rcases isSeen with rfl | old
    · exact recorded
    · exact seen_grows (runs_grows run) seen key old

/-- Acknowledging at the only puller. -/
theorem acknowledgeIn_only {nexts : List (String × ProviderMessagePuller)}
    (ofProvider : event.provider = provider)
    (done : acknowledgeIn event [(provider, puller)] = .ok nexts) :
    ∃ next, puller.acknowledge event = .ok next ∧
      nexts = [(provider, next)] := by
  rw [acknowledgeIn, if_pos ofProvider.symm] at done
  rcases Checked.bind_eq_ok_iff.mp done with ⟨next, acknowledged, same⟩
  cases same
  exact ⟨next, acknowledged, rfl⟩

/-- The puller after the acknowledgement of what has been recorded. -/
theorem Pulling.acknowledges {next : ProviderMessagePuller}
    (pulling : Pulling syncer provider config floors handoffs acknowledged
      puller current)
    (handed : InHand syncer provider puller channelId event)
    (recorded : Recorded (factsAt syncer current) (inboundKey channelId event))
    (done : puller.acknowledge event = .ok next) :
    Pulling syncer provider config floors handoffs
      (acknowledged ++ [messageOf event]) next current where
  safe := pulling.safe.acknowledges (handed.reached pulling.safe).sent done
  backed := pulling.backed.acknowledges handed recorded

/-- The processor after an event has been published and acknowledged. -/
theorem Holds.took {nexts : List (String × ProviderMessagePuller)}
    {skipped rest : List ProviderEvent} {workTurn : Nat}
    (holds : Holds syncer provider config floors processor before)
    (only : processor.messagePullers = [(provider, puller)])
    (split : processor.pendingEvents = skipped ++ event :: rest)
    (mapped : syncer.mapping.channelForProviderSession event.provider
      event.sessionId = .ok channelId)
    (pulling : Pulling syncer provider config floors handoffs acknowledged
      puller after)
    (run : Runs (world (deliverySetting false foreign committable)) before
      (publishProviderEvent syncer processor.state channelId event) after
      (.ok state))
    (done : acknowledgeIn event processor.messagePullers = .ok nexts) :
    Holds syncer provider config floors { processor with
      state, workTurn
      messagePullers := nexts
      pendingEvents := skipped ++ rest } after := by
  have pending : event ∈ processor.pendingEvents := by
    rw [split]
    exact List.mem_append_right _ List.mem_cons_self
  have handed := holds.inHand only pending mapped
  rcases seen_publishProviderEvent mapped holds.seen run with ⟨recorded, seen⟩
  rcases @Mirrored.acknowledges event processor { processor with
    state, workTurn
    messagePullers := nexts
    pendingEvents := skipped ++ rest } skipped rest holds.mirrored holds.good
      split rfl done with ⟨good, mirrored⟩
  rw [only] at done
  rcases acknowledgeIn_only handed.ofProvider done with
    ⟨next, acknowledged, rfl⟩
  exact {
    pulling := ⟨next, handoffs, _, rfl,
      pulling.acknowledges handed recorded acknowledged⟩
    good := good
    mirrored := mirrored
    seen := seen }

/-! ## Work -/

theorem safe_processEvents (sole : SoleScribe foreign committable syncer)
    (skipped events : List ProviderEvent)
    (split : processor.pendingEvents = skipped ++ events)
    (holds : Holds syncer provider config floors processor current) :
    Safe (world (deliverySetting false foreign committable))
      (LogGapless syncer floors)
      (fun result => Holds syncer provider config floors result.2)
      (fun _ _ => True) (processEvents syncer processor skipped events)
      current := by
  induction events generalizing skipped with
  | nil => exact ⟨holds.gapless, holds⟩
  | cons event rest ih =>
      rw [processEvents]
      cases mapped : syncer.mapping.channelForProviderSession event.provider
          event.sessionId with
      | error exc => exact ⟨holds.gapless, trivial⟩
      | ok channelId =>
          dsimp only
          by_cases waits : processor.state.channelHasPending channelId = true
          · rw [if_pos waits]
            apply ih
            rw [split, List.append_assoc]
            rfl
          · rw [if_neg waits]
            rcases holds.pulling with
              ⟨puller, handoffs, acknowledged, only, pulling⟩
            have pending : event ∈ processor.pendingEvents := by
              rw [split]
              exact List.mem_append_right _ List.mem_cons_self
            have handed := holds.inHand only pending mapped
            apply (safe_runs
              (safe_publishProviderEvent sole handed pulling)).bind
            rintro state after gapless ⟨isPulling, run⟩
            cases done : acknowledgeIn event processor.messagePullers with
            | error exc => exact ⟨gapless, trivial⟩
            | ok nexts =>
                exact ⟨gapless, holds.took only split mapped isPulling run
                  done⟩

/-- The processor after a search, or after a request has been answered. -/
theorem Holds.withState {workTurn : Nat}
    (holds : Holds syncer provider config floors processor before)
    (only : processor.messagePullers = [(provider, puller)])
    (pulling : Pulling syncer provider config floors handoffs acknowledged
      puller after)
    (grows : Grows before after)
    (same : state.inboundSeen = processor.state.inboundSeen) :
    Holds syncer provider config floors { processor with state, workTurn }
      after where
  pulling := ⟨puller, handoffs, acknowledged, only, pulling⟩
  good := holds.good
  mirrored := ⟨holds.mirrored.inFlight, holds.mirrored.onePerSession⟩
  seen := by
    show ∀ key ∈ state.inboundSeen, _
    rw [same]
    exact seen_grows grows holds.seen

theorem safe_processNextOutboundTask
    (sole : SoleScribe foreign committable syncer)
    (holds : Holds syncer provider config floors processor current) :
    Safe (world (deliverySetting false foreign committable))
      (LogGapless syncer floors)
      (fun result => Holds syncer provider config floors result.2)
      (fun _ _ => True) (processNextOutboundTask syncer processor)
      current := by
  rcases holds.pulling with ⟨puller, handoffs, acknowledged, only, pulling⟩
  have searched := processor.state.nextPendingTask_spec.1.inboundSeen
  rw [processNextOutboundTask]
  rcases taken : processor.state.nextPendingTask with ⟨selected, state⟩
  rw [taken] at searched
  cases selected with
  | none =>
      exact ⟨holds.gapless,
        holds.withState only pulling (Grows.refl current) searched⟩
  | some task =>
      apply (safe_runs (safe_processOutboundTask sole pulling)).bind
      rintro next after gapless ⟨isPulling, run⟩
      rcases runs_processOutboundTask run with
        ⟨session, messageId, eventMs, seq, -, rfl, -, -⟩
      have stores := storesResult_markSendResultSuccess state task session.1
        session.2 messageId (@rfl _ (⟨seq, 0, 0, [], task.requestId, none, "",
          none⟩ : TerminalResult).requestId)
      exact ⟨gapless, holds.withState only isPulling (runs_grows run)
        (stores.inboundSeen.trans searched)⟩

theorem safe_workFrom (sole : SoleScribe foreign committable syncer)
    (workTurn offset remaining : Nat)
    (holds : Holds syncer provider config floors processor current) :
    Safe (world (deliverySetting false foreign committable))
      (LogGapless syncer floors)
      (fun result => Holds syncer provider config floors result.2)
      (fun _ _ => True)
      (workFrom syncer workTurn processor offset remaining) current := by
  induction remaining generalizing processor offset current with
  | zero => exact ⟨holds.gapless, holds⟩
  | succ remaining ih =>
      rw [workFrom]
      have worked : Safe (world (deliverySetting false foreign committable))
          (LogGapless syncer floors)
          (fun result => Holds syncer provider config floors result.2)
          (fun _ _ => True)
          (doWork syncer processor ((workTurn + offset) % 2)) current := by
        rw [doWork]
        split_ifs
        · exact safe_processNextOutboundTask sole holds
        · exact safe_processEvents sole [] _ rfl holds
      apply worked.bind
      rintro ⟨found, next⟩ after gapless nextHolds
      cases found with
      | false => exact ih _ nextHolds
      | true =>
          exact ⟨gapless, {
            pulling := nextHolds.pulling
            good := nextHolds.good
            mirrored := ⟨nextHolds.mirrored.inFlight,
              nextHolds.mirrored.onePerSession⟩
            seen := nextHolds.seen }⟩

end Processor

/-! ## Ticks -/

/-- The puller takes a message while the log stands behind it. -/
theorem Pulling.takes (sole : SoleScribe foreign committable syncer)
    (pulling : Pulling syncer provider config floors handoffs acknowledged
      puller current) :
    Safe (delivering foreign committable) (LogGapless syncer floors)
      (fun taken => Pulling syncer provider config floors handoffs acknowledged
        taken.2)
      (fun _ _ => True) puller.takeMessage current := by
  have backs : Safe (delivering foreign committable) (LogGapless syncer floors)
      (fun _ => LogBacked syncer provider floors handoffs acknowledged)
      (fun _ => LogBacked syncer provider floors handoffs acknowledged)
      puller.takeMessage current := by
    apply Safe.ofCalls (fun _ _ => backed_interferes sole)
      (fun _ backed => backed.gapless) _ (calls_takeMessage puller)
      pulling.backed
    intro before request answer after inert answers backed
    refine backed_answers answers.1 ?_ backed
    rw [factsAt_answers answers.1 inert.1]
    exact SameRecords.refl _
  apply (safe_runs backs).mono _ (fun _ _ _ _ => trivial)
  rintro ⟨taken, next⟩ after - ⟨backed, run⟩
  have served := (safe_takeMessage pulling.safe).runs_ok (toProvider.runs run)
  have safe := served.2.safe
  rw [← safe.recorded] at safe
  exact ⟨safe, backed⟩

section Ticks

variable {processor : SingleThreadProcessor}

theorem safe_collectProviderMessages
    (sole : SoleScribe foreign committable syncer)
    (holds : Holds syncer provider config floors processor current) :
    Safe (delivering foreign committable) (LogGapless syncer floors)
      (Holds syncer provider config floors) (fun _ _ => True)
      (collectProviderMessages processor) current := by
  rcases holds.pulling with ⟨puller, handoffs, acknowledged, only, pulling⟩
  have asks : Safe (delivering foreign committable) (LogGapless syncer floors)
      (fun result after => ∃ next, result.2 = [(provider, next)] ∧
        Pulling syncer provider config floors handoffs acknowledged next after)
      (fun _ _ => True)
      (collectFrom processor.pendingEventLimit processor.pendingEvents
        processor.messagePullers) current := by
    rw [only, collectFrom]
    split_ifs with full
    · exact ⟨pulling.gapless, puller, rfl, pulling⟩
    · apply (safe_rethrow (pulling.takes sole) _).bind
      rintro ⟨event, next⟩ after gapless isPulling
      exact ⟨gapless, next, rfl, isPulling⟩
  have collects : Safe (delivering foreign committable)
      (LogGapless syncer floors)
      (fun collected after => ∃ next,
        collected.messagePullers = [(provider, next)] ∧
          Pulling syncer provider config floors handoffs acknowledged next
            after)
      (fun _ _ => True) (collectProviderMessages processor) current := by
    rw [collectProviderMessages]
    apply asks.bind
    intro result after gapless started
    exact ⟨gapless, started⟩
  apply (safe_runs collects).mono _ (fun _ _ _ _ => trivial)
  rintro collected after - ⟨⟨next, single, isPulling⟩, run⟩
  obtain ⟨sameState, good, mirrored⟩ :=
    (holds.mirrored.collects holds.good).runs run
  exact {
    pulling := ⟨next, handoffs, acknowledged, single, isPulling⟩
    good := good
    mirrored := mirrored
    seen := by
      rw [sameState]
      exact seen_grows (runs_grows (toProcess.runs run)) holds.seen }

theorem safe_stopIsSet (sole : SoleScribe foreign committable syncer)
    (holds : Holds syncer provider config floors processor current) :
    Safe (world (deliverySetting false foreign committable))
      (LogGapless syncer floors)
      (fun _ => Holds syncer provider config floors processor)
      (fun _ _ => True) stopIsSet current :=
  (holds_kept sole).safe_call ⟨trivial, rfl⟩ (fun _ => Holds.gapless) holds
    fun _ _ _ _ isHeld _ => ⟨isHeld.gapless, isHeld⟩

/-- One tick leaves no gap. -/
theorem safe_tick (sole : SoleScribe foreign committable syncer)
    (holds : Holds syncer provider config floors processor current) :
    Safe (delivering foreign committable) (LogGapless syncer floors)
      (fun result => Holds syncer provider config floors result.2)
      (fun _ _ => True) (tick syncer processor) current := by
  rw [tick]
  apply (toProcess.safe (safe_stopIsSet sole holds)).bind
  intro stopped after gapless isHeld
  split_ifs
  · exact ⟨gapless, isHeld⟩
  · apply (safe_collectProviderMessages sole isHeld).bind
    intro collected later _ isCollected
    exact toProcess.safe (safe_workFrom sole _ _ _ isCollected)

end Ticks

end OpenEventIm.Syncer.GaplessTicks
