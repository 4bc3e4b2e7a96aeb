import OpenEventIm.Syncer.DeliveringWorld

/-!
# A log without gaps

Every record of the log is of a message at the provider, and all earlier
messages of its session, from the session's floor on, have records too.  What a
started puller has acknowledged is in the log, and so is everything between the
floor and its first handoff; hence the record of a message that it hands over
leaves no gap.
-/

namespace OpenEventIm.Syncer.GaplessLog

open OpenEventIm.Foundation
open OpenEventIm.Foundation.Interaction
open OpenEventIm.Sdk.Errors
open OpenEventIm.Service.Calls
open OpenEventIm.Service.World
open OpenEventIm.Syncer.Models
open OpenEventIm.Syncer.State
open OpenEventIm.Syncer.LogMeaning
open OpenEventIm.Syncer.HistoryReplay
open OpenEventIm.Syncer.ProviderMessages
open OpenEventIm.Syncer.ProviderDelivery
open OpenEventIm.Syncer.Processor
open OpenEventIm.Syncer.Processor.SingleThreadProcessor
open OpenEventIm.Syncer.PullerSessions
open OpenEventIm.Syncer.SessionDelivery
open OpenEventIm.Syncer.Watermark
open OpenEventIm.Syncer.TickRuns
open OpenEventIm.Syncer.WrittenLog
open OpenEventIm.Syncer.WorkerLedger
open OpenEventIm.Syncer.DeliveringWorld

/-! ## Messages at the provider -/

/-- Messages are in the order of their times, under keys of their own, and none
is later than the clock. -/
structure Dated (world : ProviderWorld) : Prop where
  ordered : world.messages.Pairwise fun first second =>
    first.eventMs ≤ second.eventMs ∧ first.key ≠ second.key
  past : ∀ message ∈ world.messages, message.eventMs ≤ world.clock

/-- The messages stay, and new ones are not earlier than the clock was. -/
structure GoesOn (before after : ProviderWorld) : Prop where
  clock : before.clock ≤ after.clock
  kept : ∀ message ∈ before.messages, message ∈ after.messages
  fresh : ∀ message ∈ after.messages,
    message ∈ before.messages ∨ before.clock ≤ message.eventMs

section Messages

variable {before after world : ProviderWorld} {live : List ProviderEvent}

theorem GoesOn.of_same (messages : after.messages = before.messages)
    (clock : after.clock = before.clock) : GoesOn before after where
  clock := clock.ge
  kept message member := by
    rw [messages]
    exact member
  fresh message member := by
    rw [messages] at member
    exact Or.inl member

theorem goesOn_steps {reconnecting : Bool}
    (steps : ProviderSteps reconnecting before after) :
    GoesOn before after := by
  have grown := @grown_steps before after [] reconnecting steps
  exact ⟨grown.clock, grown.kept, fun message member =>
    (grown.fresh message member).imp_right And.left⟩

theorem allBelow_goesOn {sessionId : String} {floorMs boundMs : Int}
    {holds : ProviderMessage → Prop}
    (below : AllBelow before sessionId floorMs boundMs holds)
    (goesOn : GoesOn before after) (floor : 0 ≤ floorMs)
    (passed : boundMs ≤ max 0 before.clock) :
    AllBelow after sessionId floorMs boundMs holds := by
  intro message owed early
  rcases goesOn.fresh message owed.sent with old | late
  · have owedBefore : Owed before sessionId floorMs message :=
      ⟨old, owed.ofSession, owed.aboveFloor⟩
    exact below message owedBefore early
  · have above := owed.aboveFloor
    omega

theorem Dated.steps {reconnecting : Bool} (dated : Dated before)
    (steps : ProviderSteps reconnecting before after) : Dated after := by
  cases steps with
  | passes later =>
      exact ⟨dated.ordered, fun message member =>
        (dated.past message member).trans later⟩
  | disconnects => exact ⟨dated.ordered, dated.past⟩
  | reconnects => exact ⟨dated.ordered, dated.past⟩
  | @sends event stamped fresh =>
      have split : before.messages ++ [messageOf event] =
          (before.sent ++ [(⟨messageOf event,
            before.running && !before.connected, before.generation⟩ :
              Sent)]).map Sent.message := by
        rw [List.map_append]
        rfl
      constructor
      · show (List.map Sent.message _).Pairwise _
        rw [← split, List.pairwise_append]
        refine ⟨dated.ordered, List.pairwise_singleton _ _, ?_⟩
        intro message member last isLast
        rw [List.mem_singleton.mp isLast]
        exact ⟨(dated.past message member).trans stamped.ge,
          fresh message member⟩
      · intro message member
        have inside : message ∈ before.messages ++ [messageOf event] := by
          rw [split]
          exact member
        rcases List.mem_append.mp inside with old | isLast
        · exact dated.past message old
        · rw [List.mem_singleton.mp isLast]
          exact stamped.le

theorem Dated.of_same (dated : Dated before)
    (messages : after.messages = before.messages)
    (clock : after.clock = before.clock) : Dated after where
  ordered := by
    rw [messages]
    exact dated.ordered
  past := by
    rw [messages, clock]
    exact dated.past

theorem messages_ended : (ended world).messages = world.messages := by
  rw [ProviderWorld.messages, ended, List.map_map]
  rfl

/-- Without a stream, order and times are all that consistency asks for. -/
theorem consistent_ended (dated : Dated world) :
    Consistent (ended world) [] where
  ordered := by
    have ordered := List.pairwise_map.mp dated.ordered
    refine List.pairwise_map.mpr (ordered.imp ?_)
    intro first second precedes
    exact ⟨precedes.1, precedes.2, nofun⟩
  past sent member := by
    rcases List.mem_map.mp member with ⟨old, inside, rfl⟩
    exact ⟨dated.past _ (mem_messages_iff.mpr ⟨old, inside, rfl⟩), le_rfl⟩
  missed sent member missed := by
    rcases List.mem_map.mp member with ⟨old, -, rfl⟩
    cases missed
  streamed _ member := absurd member List.not_mem_nil
  inOrder := .nil

end Messages

/-- No call changes the clock. -/
theorem clock_answers {before after : ProviderWorld} {request : Call}
    {answer : Answer request}
    (answers : ProviderAnswers before request answer after) :
    after.clock = before.clock := by
  cases request with
  | currentTimeMs => exact congrArg ProviderWorld.clock answers.2
  | startEventStream =>
      cases answer with
      | error => exact congrArg ProviderWorld.clock answers
      | ok => exact @congrArg _ _ _ (before.opened _) ProviderWorld.clock answers
  | eventStreamGeneration =>
      cases answer with
      | error => exact congrArg ProviderWorld.clock answers
      | ok => exact congrArg ProviderWorld.clock answers.2
  | takeEvent =>
      cases answer with
      | error => exact congrArg ProviderWorld.clock answers
      | ok taken =>
          cases taken with
          | none => exact congrArg ProviderWorld.clock answers
          | some =>
              rcases answers with ⟨_, _, same⟩
              rw [same]
  | fetchHistoryPage provider sessionId startMs endMs token =>
      cases (answers : HistoryAnswers before sessionId startMs endMs token
        answer after) <;> rfl
  | _ => exact congrArg ProviderWorld.clock answers

theorem messages_answers {before after : ProviderWorld} {request : Call}
    {answer : Answer request}
    (answers : ProviderAnswers before request answer after) :
    after.messages = before.messages :=
  congrArg (List.map Sent.message) (sent_answers answers)

/-! ## The log -/

/-- The key of a provider message on a channel. -/
def keyOn (channelId : Nat) (message : ProviderMessage) : InboundKey where
  provider := message.key.1
  sessionId := message.key.2.1
  channelId := channelId
  providerMessageId := message.key.2.2

/-- The facts hold a record of the message on the channel. -/
abbrev RecordedOn (facts : List WorkerFact) (channelId : Nat)
    (message : ProviderMessage) : Prop :=
  Recorded facts (keyOn channelId message)

/-- The records are of messages at the provider, and leave no gap. -/
structure Gapless (floors : String → Int) (facts : List WorkerFact)
    (world : ProviderWorld) : Prop where
  floor : ∀ sessionId, 0 ≤ floors sessionId
  dated : Dated world
  real : ∀ key prevSeq eventMs, .record key prevSeq eventMs ∈ facts →
    ⟨(key.provider, key.sessionId, key.providerMessageId), eventMs⟩ ∈
      world.messages
  noGap : ∀ key prevSeq eventMs, .record key prevSeq eventMs ∈ facts →
    AllBelow world key.sessionId (floors key.sessionId) eventMs
      (RecordedOn facts key.channelId)

/-- Later facts: the earlier ones are among them, and no new record. -/
structure SameRecords (before after : List WorkerFact) : Prop where
  kept : ∀ fact ∈ before, fact ∈ after
  old : ∀ key prevSeq eventMs, .record key prevSeq eventMs ∈ after →
    WorkerFact.record key prevSeq eventMs ∈ before

section Gaps

variable {floors : String → Int} {facts more : List WorkerFact}
  {world after : ProviderWorld} {key : InboundKey} {prevSeq : Option Nat}
  {eventMs : Int}

theorem SameRecords.refl (facts : List WorkerFact) : SameRecords facts facts :=
  ⟨fun _ member => member, fun _ _ _ member => member⟩

theorem recorded_mono (kept : ∀ fact ∈ facts, fact ∈ more)
    (recorded : Recorded facts key) : Recorded more key := by
  rcases recorded with ⟨fact, member, isRecord⟩
  exact ⟨fact, kept fact member, isRecord⟩

theorem gapless_nil (dated : Dated world) : Gapless (fun _ => 0) [] world where
  floor _ := le_rfl
  dated := dated
  real _ _ _ member := absurd member List.not_mem_nil
  noGap _ _ _ member := absurd member List.not_mem_nil

theorem Gapless.eventMs_le (gapless : Gapless floors facts world)
    (member : .record key prevSeq eventMs ∈ facts) : eventMs ≤ world.clock :=
  gapless.dated.past _ (gapless.real key prevSeq eventMs member)

/-- The provider goes on, and the log goes on without records. -/
theorem Gapless.goesOn (gapless : Gapless floors facts world)
    (goesOn : GoesOn world after) (dated : Dated after)
    (same : SameRecords facts more) : Gapless floors more after where
  floor := gapless.floor
  dated := dated
  real key prevSeq eventMs member :=
    goesOn.kept _ (gapless.real _ _ _ (same.old _ _ _ member))
  noGap key prevSeq eventMs member := by
    have old := same.old _ _ _ member
    have passed : eventMs ≤ max 0 world.clock :=
      (gapless.eventMs_le old).trans (le_max_right _ _)
    exact (allBelow_goesOn (gapless.noGap _ _ _ old) goesOn
      (gapless.floor _) passed).mono fun _ => recorded_mono same.kept

/-- A record of a message of which no earlier one is missing. -/
theorem Gapless.records (gapless : Gapless floors facts world)
    (sent : ⟨(key.provider, key.sessionId, key.providerMessageId), eventMs⟩ ∈
      world.messages)
    (below : AllBelow world key.sessionId (floors key.sessionId) eventMs
      (RecordedOn facts key.channelId)) :
    Gapless floors (facts ++ [.record key prevSeq eventMs]) world where
  floor := gapless.floor
  dated := gapless.dated
  real other otherPrev otherMs member := by
    rcases List.mem_append.mp member with old | isNew
    · exact gapless.real _ _ _ old
    · cases List.mem_singleton.mp isNew
      exact sent
  noGap other otherPrev otherMs member := by
    have kept : ∀ fact ∈ facts, fact ∈ facts ++ [.record key prevSeq eventMs] :=
      fun _ => List.mem_append_left _
    rcases List.mem_append.mp member with old | isNew
    · exact (gapless.noGap _ _ _ old).mono fun _ => recorded_mono kept
    · cases List.mem_singleton.mp isNew
      exact below.mono fun _ => recorded_mono kept

/-- Other floors, where no record has been written. -/
theorem Gapless.withFloors {next : String → Int}
    (gapless : Gapless floors facts world)
    (floor : ∀ sessionId, 0 ≤ next sessionId)
    (same : ∀ key prevSeq eventMs, .record key prevSeq eventMs ∈ facts →
      next key.sessionId = floors key.sessionId) :
    Gapless next facts world where
  floor := floor
  dated := gapless.dated
  real := gapless.real
  noGap key prevSeq eventMs member := by
    rw [same _ _ _ member]
    exact gapless.noGap _ _ _ member

end Gaps

/-! ## A started puller -/

/-- What the log holds for a puller with these first handoffs that has
acknowledged these messages. -/
structure Backed (syncer : P2PSyncer) (provider : String)
    (floors handoffs : String → Int) (acknowledged : List ProviderMessage)
    (facts : List WorkerFact) (world : ProviderWorld) : Prop where
  gapless : Gapless floors facts world
  acknowledged : ∀ message ∈ acknowledged, message.key.1 = provider ∧
    ∃ channelId, syncer.mapping.providerSession channelId =
        .ok (provider, message.sessionId) ∧
      RecordedOn facts channelId message
  handedOff : ∀ channelId sessionId,
    syncer.mapping.providerSession channelId = .ok (provider, sessionId) →
      handoffs sessionId ≤ max 0 world.clock ∧
        AllBelow world sessionId (floors sessionId) (handoffs sessionId)
          (RecordedOn facts channelId)

section Pullers

variable {syncer : P2PSyncer} {provider : String}
  {floors handoffs : String → Int} {acknowledged : List ProviderMessage}
  {facts more : List WorkerFact} {world after : ProviderWorld}
  {config : ProviderSyncConfig} {confirmed : String → Option Int}
  {puller : ProviderMessagePuller} {event : ProviderEvent} {channelId : Nat}

theorem Backed.goesOn
    (backed : Backed syncer provider floors handoffs acknowledged facts world)
    (goesOn : GoesOn world after) (dated : Dated after)
    (same : SameRecords facts more) :
    Backed syncer provider floors handoffs acknowledged more after where
  gapless := backed.gapless.goesOn goesOn dated same
  acknowledged message member := by
    rcases backed.acknowledged message member with
      ⟨ofProvider, channelId, mapped, recorded⟩
    exact ⟨ofProvider, channelId, mapped, recorded_mono same.kept recorded⟩
  handedOff channelId sessionId mapped := by
    rcases backed.handedOff channelId sessionId mapped with ⟨passed, below⟩
    have clock := goesOn.clock
    refine ⟨by omega, ?_⟩
    exact (allBelow_goesOn below goesOn (backed.gapless.floor _)
      passed).mono fun _ => recorded_mono same.kept

/-- An event that is in flight, on the channel of its session. -/
structure InHand (syncer : P2PSyncer) (provider : String)
    (puller : ProviderMessagePuller) (channelId : Nat) (event : ProviderEvent) :
    Prop where
  ofProvider : event.provider = provider
  mapped : syncer.mapping.providerSession channelId =
    .ok (provider, event.sessionId)
  inFlight : inFlightOf puller event.sessionId = some event

theorem InHand.session
    (handed : InHand syncer provider puller channelId event) :
    syncer.mapping.providerSession channelId =
      .ok (event.provider, event.sessionId) := by
  rw [handed.ofProvider]
  exact handed.mapped

theorem InHand.reached
    (handed : InHand syncer provider puller channelId event)
    (safe : PullerSafe config handoffs acknowledged confirmed world puller) :
    Reached world event.sessionId (handoffs event.sessionId)
      (· ∈ acknowledged) (messageOf event) := by
  rcases Option.bind_eq_some_iff.mp handed.inFlight with ⟨state, known, isEvent⟩
  exact (safe.sessions _ state known).inFlight event isEvent

/-- No message below one that a puller has handed over is missing. -/
theorem InHand.below
    (handed : InHand syncer provider puller channelId event)
    (safe : PullerSafe config handoffs acknowledged confirmed world puller)
    (backed : Backed syncer provider floors handoffs acknowledged facts
      world) :
    AllBelow world event.sessionId (floors event.sessionId) event.eventMs
      (RecordedOn facts channelId) := by
  intro message owed early
  by_cases early' : message.eventMs < handoffs event.sessionId
  · exact (backed.handedOff _ _ handed.mapped).2 message owed early'
  · have owedHere : Owed world event.sessionId (handoffs event.sessionId)
        message := ⟨owed.sent, owed.ofSession, not_lt.mp early'⟩
    have done := (handed.reached safe).below message owedHere early
    rcases backed.acknowledged message done with ⟨-, other, mapped, recorded⟩
    rw [owed.ofSession] at mapped
    have inverse := @Mapping.P2PMappingIndex.channelForProviderSession_iff
      syncer.config syncer.mapping syncer.built
    have same : other = channelId := Except.ok.inj
      ((inverse.mpr mapped).symm.trans (inverse.mpr handed.mapped))
    rw [← same]
    exact recorded

/-- The record of a message that the puller has handed over. -/
theorem Backed.records {prevSeq : Option Nat}
    (backed : Backed syncer provider floors handoffs acknowledged facts world)
    (handed : InHand syncer provider puller channelId event)
    (safe : PullerSafe config handoffs acknowledged confirmed world puller) :
    Backed syncer provider floors handoffs acknowledged
      (facts ++ [.record (inboundKey channelId event) prevSeq event.eventMs])
      world := by
  have kept : ∀ fact ∈ facts, fact ∈ facts ++
      [.record (inboundKey channelId event) prevSeq event.eventMs] :=
    fun _ => List.mem_append_left _
  constructor
  · exact backed.gapless.records (handed.reached safe).sent
      (handed.below safe backed)
  · intro message member
    rcases backed.acknowledged message member with
      ⟨ofProvider, other, mapped, recorded⟩
    exact ⟨ofProvider, other, mapped, recorded_mono kept recorded⟩
  · intro other sessionId mapped
    rcases backed.handedOff other sessionId mapped with ⟨passed, below⟩
    exact ⟨passed, below.mono fun _ => recorded_mono kept⟩

/-- An acknowledged message has been recorded. -/
theorem Backed.acknowledges
    (backed : Backed syncer provider floors handoffs acknowledged facts world)
    (handed : InHand syncer provider puller channelId event)
    (recorded : Recorded facts (inboundKey channelId event)) :
    Backed syncer provider floors handoffs (acknowledged ++ [messageOf event])
      facts world where
  gapless := backed.gapless
  acknowledged message member := by
    rcases List.mem_append.mp member with old | isNew
    · exact backed.acknowledged message old
    · rw [List.mem_singleton.mp isNew]
      exact ⟨handed.ofProvider, channelId, handed.mapped, recorded⟩
  handedOff := backed.handedOff

end Pullers

end OpenEventIm.Syncer.GaplessLog
