import OpenEventIm.Syncer.Processor
import OpenEventIm.Syncer.PublishOutcomes

/-!
# When the degraded record is published

`_publish_provider_event` against arbitrary outcomes.  The calls of a run are
those for the full record and, once the clock has been read again, those for
the degraded one.  The processor falls back to the degraded record after any
publish error whose causes end in `RESOURCE_EXHAUSTED`; besides a rejected
record this is also a `GetStatus` that was refused before the publish.
-/

namespace OpenEventIm.Syncer.DegradedRecord

open OpenEventIm.Foundation
open OpenEventIm.Foundation.Interaction
open OpenEventIm.Foundation.Transcripts
open OpenEventIm.Sdk.Errors
open OpenEventIm.Sdk.Normalizer
open OpenEventIm.Sdk.Codec
open OpenEventIm.Sdk.Client
open OpenEventIm.Service.Calls
open OpenEventIm.Service.World
open OpenEventIm.Service.Outcomes
open OpenEventIm.Syncer.Models
open OpenEventIm.Syncer.State
open OpenEventIm.Syncer.HistoryReplay
open OpenEventIm.Syncer.PublishRetry
open OpenEventIm.Syncer.PublishOutcomes
open OpenEventIm.Syncer.Processor
open OpenEventIm.Syncer.Processor.SingleThreadProcessor

/-! ## The two publishes -/

/-- The publish of the full record. -/
def fullMethod (route : RecordRoute) (event : ProviderEvent)
    (prevSeq : Option Nat) (ingestedMs : Int) : PublishMethod :=
  recordMethod route (fullRecordInput event prevSeq ingestedMs)

/-- The publish of the degraded record. -/
def degradedMethod (route : RecordRoute) (event : ProviderEvent)
    (prevSeq : Option Nat) (ingestedMs : Int) : PublishMethod :=
  recordMethod route (degradedRecordInput event prevSeq ingestedMs)

/-- The calls of `_publish_sync_record`; arguments that the client refuses lead
to no call. -/
def RecordPublishing (text : JsonText) (method : PublishMethod)
    (after : List Message) (exchanges : List (Exchanged service))
    (outcome : Except PyError Nat) : Prop :=
  (∃ record, method.record text = .ok record ∧
    Publishing method.token record after exchanges outcome) ∨
  exchanges = [] ∧ ∃ raised, outcome = .error raised ∧
    raised.isPublishFailedError = false

section Publishes

variable {text : JsonText} {method : PublishMethod} {before after : List Message}
  {exchanges : List (Exchanged service)} {outcome : Except PyError Nat}

/-- A publish that fails before its first call ends the retry loop. -/
theorem transcript_publishAttempts_fail {retry : RetryConfig}
    {remaining : Nat} {error : PyError}
    (noStatus : causeStatusCode error = none)
    (transcript : Transcript outcomes before
      (publishAttempts retry (.fail error) remaining) exchanges after
      outcome) :
    exchanges = [] ∧ ∃ raised, outcome = .error raised ∧
      raised.isPublishFailedError = false := by
  have notExhausted : isResourceExhausted error = false := by
    simp [isResourceExhausted, noStatus]
  have notRetryable : isRetryable error = false := by
    simp [isRetryable, isTransientPublishError, noStatus]
  cases remaining with
  | zero =>
      rcases transcript_fail transcript with ⟨rfl, -, rfl⟩
      exact ⟨rfl, _, rfl, rfl⟩
  | succ remaining =>
      rw [publishAttempts, Program.handle_fail, notExhausted,
        notRetryable] at transcript
      rcases transcript_fail transcript with ⟨rfl, -, rfl⟩
      exact ⟨rfl, _, rfl, rfl⟩

theorem transcript_publishWithRetry {retry : RetryConfig}
    (transcript : Transcript outcomes before
      (publishWithRetry retry (method.publish text)) exchanges after
      outcome) :
    RecordPublishing text method after exchanges outcome := by
  rw [publishWithRetry, PublishMethod.publish_eq] at transcript
  cases checked : method.record text with
  | error error =>
      obtain ⟨message, rfl⟩ := method.raisesMalformed_record text _ checked
      rw [checked] at transcript
      exact Or.inr (transcript_publishAttempts_fail rfl transcript)
  | ok record =>
      rw [checked] at transcript
      exact Or.inl ⟨record, checked, transcript_publishAttempts transcript⟩

theorem RecordPublishing.noClock
    (publishing : RecordPublishing text method after exchanges outcome) :
    ∀ exchange ∈ exchanges, isClockReading exchange = false := by
  rcases publishing with ⟨record, -, publishing⟩ | ⟨rfl, -⟩
  · exact publishing.noClock
  · exact fun _ member => absurd member List.not_mem_nil

/-- An outcome taken for a size rejection comes from a record. -/
theorem RecordPublishing.of_taken
    (publishing : RecordPublishing text method after exchanges outcome)
    (taken : TakenForSizeRejection outcome) :
    ∃ record, method.record text = .ok record ∧
      Publishing method.token record after exchanges outcome := by
  rcases publishing with publishing | ⟨-, raised, rfl, other⟩
  · exact publishing
  · refine absurd taken (not_taken_of_class ?_)
    rintro _ ⟨⟩
    exact other

theorem RecordPublishing.committed {seq : Nat}
    (publishing : RecordPublishing text method after exchanges (.ok seq)) :
    ∃ record, method.record text = .ok record ∧ Committed after record seq := by
  rcases publishing with ⟨record, checked, publishing⟩ | ⟨-, _, ⟨⟩, -⟩
  exact ⟨record, checked, publishing.committed seq rfl⟩

end Publishes

/-! ## The calls of a run -/

/-- The calls for the full record: those before the clock is read again. -/
def fullCalls (exchanges : List (Exchanged service)) :
    List (Exchanged service) :=
  exchanges.tail.takeWhile fun exchange => !isClockReading exchange

/-- The calls for the degraded record, from the second clock reading on. -/
def degradedCalls (exchanges : List (Exchanged service)) :
    List (Exchanged service) :=
  exchanges.tail.dropWhile fun exchange => !isClockReading exchange

theorem fullCalls_cons {first : Exchanged service}
    {calls rest : List (Exchanged service)}
    (noClock : ∀ exchange ∈ calls, isClockReading exchange = false)
    (next : ∀ exchange ∈ rest.head?, isClockReading exchange = true) :
    fullCalls (first :: (calls ++ rest)) = calls ∧
      degradedCalls (first :: (calls ++ rest)) = rest := by
  have reads : ∀ exchange ∈ calls, (!isClockReading exchange) = true :=
    fun exchange member => by rw [noClock exchange member]; rfl
  constructor
  · rw [fullCalls, List.tail_cons, List.takeWhile_append_of_pos reads]
    cases rest with
    | nil => exact List.append_nil _
    | cons head tail =>
        rw [List.takeWhile_cons_of_neg (by rw [next head rfl]; decide),
          List.append_nil]
  · rw [degradedCalls, List.tail_cons, List.dropWhile_append_of_pos reads]
    cases rest with
    | nil => rfl
    | cons head tail =>
        rw [List.dropWhile_cons_of_neg (by rw [next head rfl]; decide)]

/-- What the publishes of one event can do: their calls, and how they end. -/
inductive RecordsShape (syncer : P2PSyncer) (route : RecordRoute)
    (event : ProviderEvent) (prevSeq : Option Nat) (after : List Message) :
    List (Exchanged service) → Except PyError Unit → Prop where
  | full {ingestedMs : Int} {calls : List (Exchanged service)}
      {published : Except PyError Nat} {outcome : Except PyError Unit}
      (publishing : RecordPublishing syncer.text
        (fullMethod route event prevSeq ingestedMs) after calls published)
      (notTaken : ¬ TakenForSizeRejection published)
      (returned : outcome = .ok () → ∃ seq, published = .ok seq) :
      RecordsShape syncer route event prevSeq after
        (⟨.currentTimeMs, ingestedMs⟩ :: (calls ++ [])) outcome
  | degraded {ingestedMs degradedMs : Int}
      {calls fallback : List (Exchanged service)} {middle : List Message}
      {published fallbackPublished : Except PyError Nat}
      {outcome : Except PyError Unit}
      (publishing : RecordPublishing syncer.text
        (fullMethod route event prevSeq ingestedMs) middle calls published)
      (taken : TakenForSizeRejection published)
      (fallbackPublishing : RecordPublishing syncer.text
        (degradedMethod route event prevSeq degradedMs) after fallback
        fallbackPublished)
      (returned : outcome = .ok () → ∃ seq, fallbackPublished = .ok seq) :
      RecordsShape syncer route event prevSeq after
        (⟨.currentTimeMs, ingestedMs⟩ ::
          (calls ++ ⟨.currentTimeMs, degradedMs⟩ :: fallback)) outcome

section Runs

variable {syncer : P2PSyncer} {before after : List Message}
  {exchanges : List (Exchanged service)}

/-- A publish whose number is not used. -/
theorem transcript_publishSyncRecord {route : RecordRoute}
    {req : SyncRecordInput} {outcome : Except PyError Unit}
    (transcript : Transcript outcomes before
      ((do
        let _ ← publishSyncRecord syncer route req
        return ()) : Action Unit) exchanges after outcome) :
    ∃ published, RecordPublishing syncer.text (recordMethod route req) after
        exchanges published ∧
      ((∃ seq, published = .ok seq ∧ outcome = .ok ()) ∨
        ∃ exc, published = .error exc ∧ outcome = .error exc) := by
  rcases transcript_bind transcript with
    ⟨middle, seq, first, last, rfl, publish, returned⟩ | ⟨exc, rfl, publish⟩
  · rcases transcript_ret returned with ⟨rfl, rfl, rfl⟩
    rw [List.append_nil]
    exact ⟨_, transcript_publishWithRetry publish, Or.inl ⟨seq, rfl, rfl⟩⟩
  · exact ⟨_, transcript_publishWithRetry publish, Or.inr ⟨exc, rfl, rfl⟩⟩

theorem transcript_publishRecords {route : RecordRoute}
    {event : ProviderEvent} {prevSeq : Option Nat}
    {outcome : Except PyError Unit}
    (transcript : Transcript outcomes before
      (publishRecords syncer route event prevSeq) exchanges after outcome) :
    RecordsShape syncer route event prevSeq after exchanges outcome := by
  rcases transcript_callBind transcript with
    ⟨_, ingestedMs, _, calls, rfl, -, -, publishes⟩
  rw [Program.ret_bind] at publishes
  rcases transcript_handle publishes with ⟨result, rfl, publish⟩ |
    ⟨middle, exc, first, rest, rfl, publish, handler⟩
  · obtain ⟨_, publishing, ⟨seq, rfl, -⟩ | ⟨_, -, ⟨⟩⟩⟩ :=
      transcript_publishSyncRecord publish
    rw [← List.append_nil calls]
    exact .full publishing (fun ⟨_, equal, _⟩ => nomatch equal)
      fun _ => ⟨seq, rfl⟩
  · obtain ⟨_, publishing, ⟨_, -, ⟨⟩⟩ | ⟨_, rfl, same⟩⟩ :=
      transcript_publishSyncRecord publish
    cases same
    split_ifs at handler with other
    · -- any other error is raised again
      rcases transcript_fail handler with ⟨rfl, rfl, rfl⟩
      refine .full publishing ?_ nofun
      rintro ⟨_, ⟨⟩, failed, exhausted⟩
      rw [failed, exhausted] at other
      cases other
    · have taken : TakenForSizeRejection (.error exc) := by
        simp only [Bool.or_eq_true, Bool.not_eq_true', not_or,
          Bool.not_eq_false] at other
        exact ⟨exc, rfl, other⟩
      rcases transcript_callBind handler with
        ⟨_, degradedMs, _, fallback, rfl, -, -, fallbackPublishes⟩
      rw [Program.ret_bind] at fallbackPublishes
      rcases transcript_handle fallbackPublishes with ⟨result, rfl, again⟩ |
        ⟨settled, fallbackExc, fallbackFirst, last, rfl, again, reraised⟩
      · obtain ⟨_, fallbackPublishing, ⟨seq, rfl, -⟩ | ⟨_, -, ⟨⟩⟩⟩ :=
          transcript_publishSyncRecord again
        exact .degraded publishing taken fallbackPublishing
          fun _ => ⟨seq, rfl⟩
      · obtain ⟨_, fallbackPublishing, -⟩ :=
          transcript_publishSyncRecord again
        have ended : last = [] ∧ after = settled ∧ ∃ raised,
            outcome = .error raised := by
          split_ifs at reraised with still
          · rcases transcript_fail reraised with ⟨rfl, stays, rfl⟩
            exact ⟨rfl, stays, _, rfl⟩
          · rcases transcript_fail reraised with ⟨rfl, stays, rfl⟩
            exact ⟨rfl, stays, _, rfl⟩
        rcases ended with ⟨rfl, rfl, raised, rfl⟩
        rw [List.append_nil]
        exact .degraded publishing taken fallbackPublishing nofun

end Runs

/-! ## Degraded records -/

/-- Two events that differ at most in their content. -/
structure SameButContent (left right : ProviderEvent) : Prop where
  provider : left.provider = right.provider
  sessionId : left.sessionId = right.sessionId
  providerMessageId : left.providerMessageId = right.providerMessageId
  senderExternalUserId : left.senderExternalUserId = right.senderExternalUserId
  msgType : left.msgType = right.msgType
  eventMs : left.eventMs = right.eventMs
  senderIdentityType : left.senderIdentityType = right.senderIdentityType

/-- Two records of the same participants. -/
structure SameParticipants (left right : Record) : Prop where
  principal : left.principal = right.principal
  channelId : left.channelId = right.channelId
  recipients : left.recipients = right.recipients

/-- The degraded record is like the full one, without its content. -/
structure LikeFull (event : ProviderEvent) (prevSeq : Option Nat)
    (ingestedMs degradedMs : Int) (degraded : SyncRecordInput) : Prop where
  sameMessageId : degraded.providerMessageId =
    (fullRecordInput event prevSeq ingestedMs).providerMessageId
  sameMsgType : degraded.msgType =
    (fullRecordInput event prevSeq ingestedMs).msgType
  sameEventMs : degraded.eventMs =
    (fullRecordInput event prevSeq ingestedMs).eventMs
  samePrevSeq : degraded.prevSeq =
    (fullRecordInput event prevSeq ingestedMs).prevSeq
  independent : ∀ other, SameButContent event other →
    degradedRecordInput other prevSeq degradedMs = degraded

/-- `_publish_provider_event` degrades a record only for its size, keeps all but
its content, and marks the event only when one of the two is committed. -/
structure DegradesProperly (syncer : P2PSyncer) (state : RuntimeState)
    (channelId : Nat) (event : ProviderEvent) (after : List Message)
    (exchanges : List (Exchanged service))
    (outcome : Except PyError RuntimeState) : Prop where
  sizeRejected : degradedCalls exchanges ≠ [] →
    ∃ route ingestedMs full, recordRoute syncer channelId event = .ok route ∧
      exchanges.head? = some ⟨.currentTimeMs, ingestedMs⟩ ∧
      (fullMethod route event (state.sendResultByProviderMessage.get?
        (inboundKey channelId event)) ingestedMs).record syncer.text =
          .ok full ∧
      Rejected route.token full (fullCalls exchanges)
  sameRecord : ∀ exchange ∈ degradedCalls exchanges,
    isPublish exchange = true →
      ∃ route ingestedMs degradedMs full degraded,
        recordRoute syncer channelId event = .ok route ∧
        exchanges.head? = some ⟨.currentTimeMs, ingestedMs⟩ ∧
        (degradedCalls exchanges).head? = some ⟨.currentTimeMs, degradedMs⟩ ∧
        (fullMethod route event (state.sendResultByProviderMessage.get?
          (inboundKey channelId event)) ingestedMs).record syncer.text =
            .ok full ∧
        (degradedMethod route event (state.sendResultByProviderMessage.get?
          (inboundKey channelId event)) degradedMs).record syncer.text =
            .ok degraded ∧
        exchange.1 = publishCall route.token degraded ∧
        SameParticipants degraded full ∧
        LikeFull event (state.sendResultByProviderMessage.get?
          (inboundKey channelId event)) ingestedMs degradedMs
          (degradedRecordInput event (state.sendResultByProviderMessage.get?
            (inboundKey channelId event)) degradedMs)
  changes : ∀ final, outcome = .ok final →
    final.inboundSeen ≠ state.inboundSeen ∨
        final.latestEventMsByChannel ≠ state.latestEventMsByChannel →
      ∃ route ingestedMs record seq,
        recordRoute syncer channelId event = .ok route ∧
        (exchanges.head? = some ⟨.currentTimeMs, ingestedMs⟩ ∧
            (fullMethod route event (state.sendResultByProviderMessage.get?
              (inboundKey channelId event)) ingestedMs).record syncer.text =
                .ok record ∨
          (degradedCalls exchanges).head? =
              some ⟨.currentTimeMs, ingestedMs⟩ ∧
            (degradedMethod route event (state.sendResultByProviderMessage.get?
              (inboundKey channelId event)) ingestedMs).record syncer.text =
                .ok record) ∧
        Committed after record seq

section Degrades

variable {syncer : P2PSyncer} {route : RecordRoute} {event : ProviderEvent}
  {prevSeq : Option Nat}

theorem likeFull_degradedRecordInput (ingestedMs degradedMs : Int) :
    LikeFull event prevSeq ingestedMs degradedMs
      (degradedRecordInput event prevSeq degradedMs) where
  sameMessageId := rfl
  sameMsgType := rfl
  sameEventMs := rfl
  samePrevSeq := rfl
  independent := by
    intro other same
    simp only [degradedRecordInput, omittedContent, same.provider,
      same.sessionId, same.providerMessageId, same.senderExternalUserId,
      same.msgType, same.eventMs, same.senderIdentityType]

/-- The participants of a record are those of its route. -/
theorem sameParticipants {text : JsonText} {left right : SyncRecordInput}
    {leftRecord rightRecord : Record}
    (leftChecked : (recordMethod route left).record text = .ok leftRecord)
    (rightChecked : (recordMethod route right).record text = .ok rightRecord) :
    SameParticipants leftRecord rightRecord := by
  obtain ⟨-, leftRecipients, ⟨leftPrincipal, -⟩, leftChannel, -⟩ :=
    checkRecord_eq_ok_iff.mp leftChecked
  obtain ⟨-, rightRecipients, ⟨rightPrincipal, -⟩, rightChannel, -⟩ :=
    checkRecord_eq_ok_iff.mp rightChecked
  refine ⟨?_, ?_, ?_⟩
  · exact Int.ofNat.inj (leftPrincipal.symm.trans rightPrincipal)
  · exact Int.ofNat.inj (leftChannel.symm.trans rightChannel)
  · exact Except.ok.inj (leftRecipients.symm.trans rightRecipients)

/-- The calls of a run, divided at the second clock reading. -/
theorem RecordsShape.exhausted_iff {after : List Message}
    {exchanges : List (Exchanged service)} {outcome : Except PyError Unit}
    (shape : RecordsShape syncer route event prevSeq after exchanges outcome)
    (direct : RaisesDirectly exchanges) :
    (degradedCalls exchanges ≠ [] →
      ∃ ingestedMs full, exchanges.head? = some ⟨.currentTimeMs, ingestedMs⟩ ∧
        (fullMethod route event prevSeq ingestedMs).record syncer.text =
          .ok full ∧
        Rejected route.token full (fullCalls exchanges)) ↔
      statusExhausted false (fullCalls exchanges) = false := by
  cases shape with
  | @full ingestedMs calls published outcome publishing notTaken returned =>
      obtain ⟨callsEq, noneLeft⟩ := @fullCalls_cons
        ⟨.currentTimeMs, ingestedMs⟩ calls [] publishing.noClock nofun
      have callsDirect : RaisesDirectly calls := fun exchange member =>
        direct exchange
          (List.mem_cons_of_mem _ (List.mem_append_left _ member))
      rw [callsEq, noneLeft]
      refine iff_of_true (fun impossible => absurd rfl impossible) ?_
      rcases publishing with ⟨record, -, publishing⟩ | ⟨rfl, -⟩
      · rw [publishing.exhausted callsDirect, not_or] at notTaken
        exact Bool.eq_false_of_not_eq_true notTaken.1
      · rfl
  | @degraded ingestedMs degradedMs calls fallback middle published
      fallbackPublished outcome publishing taken fallbackPublishing returned =>
      obtain ⟨callsEq, restEq⟩ := @fullCalls_cons
        ⟨.currentTimeMs, ingestedMs⟩ calls
        (⟨.currentTimeMs, degradedMs⟩ :: fallback) publishing.noClock
        (by rintro _ ⟨⟩; rfl)
      have callsDirect : RaisesDirectly calls := fun exchange member =>
        direct exchange
          (List.mem_cons_of_mem _ (List.mem_append_left _ member))
      obtain ⟨record, checked, publishing⟩ := publishing.of_taken taken
      rw [callsEq, restEq]
      constructor
      · intro rejected
        obtain ⟨_, full, head, fullChecked, fullRejected⟩ :=
          rejected (List.cons_ne_nil _ _)
        cases head
        rw [checked] at fullChecked
        cases fullChecked
        -- the two kinds of rejection exclude each other
        have notBoth := publishing.single callsDirect
        exact Bool.eq_false_of_not_eq_true fun exhausted =>
          notBoth ⟨exhausted, fullRejected⟩
      · intro noStatus _
        rcases (publishing.exhausted callsDirect).mp taken with
          exhausted | rejected
        · rw [noStatus] at exhausted
          cases exhausted
        · exact ⟨ingestedMs, record, rfl, checked, rejected⟩

/-- A publish after the second clock reading is one of the degraded record. -/
theorem RecordsShape.sameRecord {after : List Message}
    {exchanges : List (Exchanged service)} {outcome : Except PyError Unit}
    (shape : RecordsShape syncer route event prevSeq after exchanges
      outcome) :
    ∀ exchange ∈ degradedCalls exchanges, isPublish exchange = true →
      ∃ ingestedMs degradedMs full degraded,
        exchanges.head? = some ⟨.currentTimeMs, ingestedMs⟩ ∧
        (degradedCalls exchanges).head? = some ⟨.currentTimeMs, degradedMs⟩ ∧
        (fullMethod route event prevSeq ingestedMs).record syncer.text =
          .ok full ∧
        (degradedMethod route event prevSeq degradedMs).record syncer.text =
          .ok degraded ∧
        exchange.1 = publishCall route.token degraded ∧
        SameParticipants degraded full ∧
        LikeFull event prevSeq ingestedMs degradedMs
          (degradedRecordInput event prevSeq degradedMs) := by
  intro exchange member publishes
  cases shape with
  | @full ingestedMs calls published outcome publishing notTaken returned =>
      obtain ⟨-, noneLeft⟩ := @fullCalls_cons
        ⟨.currentTimeMs, ingestedMs⟩ calls [] publishing.noClock nofun
      rw [noneLeft] at member
      exact absurd member List.not_mem_nil
  | @degraded ingestedMs degradedMs calls fallback middle published
      fallbackPublished outcome publishing taken fallbackPublishing returned =>
      obtain ⟨-, restEq⟩ := @fullCalls_cons
        ⟨.currentTimeMs, ingestedMs⟩ calls
        (⟨.currentTimeMs, degradedMs⟩ :: fallback) publishing.noClock
        (by rintro _ ⟨⟩; rfl)
      rw [restEq] at member ⊢
      rcases List.mem_cons.mp member with rfl | member
      · cases publishes
      · obtain ⟨full, fullChecked, -⟩ := publishing.of_taken taken
        rcases fallbackPublishing with ⟨record, checked, fallbackPublishing⟩ |
          ⟨rfl, -⟩
        · exact ⟨ingestedMs, degradedMs, full, record, rfl, rfl, fullChecked,
            checked, fallbackPublishing.own exchange member publishes,
            sameParticipants checked fullChecked,
            likeFull_degradedRecordInput ingestedMs degradedMs⟩
        · exact absurd member List.not_mem_nil

/-- The publishes return only when one of the two records is committed. -/
theorem RecordsShape.committed {after : List Message}
    {exchanges : List (Exchanged service)}
    (shape : RecordsShape syncer route event prevSeq after exchanges
      (.ok ())) :
    ∃ ingestedMs record seq,
      (exchanges.head? = some ⟨.currentTimeMs, ingestedMs⟩ ∧
          (fullMethod route event prevSeq ingestedMs).record syncer.text =
            .ok record ∨
        (degradedCalls exchanges).head? = some ⟨.currentTimeMs, ingestedMs⟩ ∧
          (degradedMethod route event prevSeq ingestedMs).record syncer.text =
            .ok record) ∧
      Committed after record seq := by
  cases shape with
  | full publishing _ returned =>
      obtain ⟨seq, rfl⟩ := returned rfl
      obtain ⟨record, checked, committed⟩ := publishing.committed
      exact ⟨_, record, seq, Or.inl ⟨rfl, checked⟩, committed⟩
  | @degraded ingestedMs degradedMs calls fallback _ _ _ _ publishing _
      fallbackPublishing returned =>
      obtain ⟨seq, rfl⟩ := returned rfl
      obtain ⟨record, checked, committed⟩ := fallbackPublishing.committed
      obtain ⟨-, restEq⟩ := @fullCalls_cons
        ⟨.currentTimeMs, ingestedMs⟩ calls
        (⟨.currentTimeMs, degradedMs⟩ :: fallback) publishing.noClock
        (by rintro _ ⟨⟩; rfl)
      rw [restEq]
      exact ⟨degradedMs, record, seq, Or.inr ⟨rfl, checked⟩, committed⟩

/-- A run that makes no call degrades nothing. -/
theorem degradesProperly_nil {state : RuntimeState} {channelId : Nat}
    {after : List Message} {outcome : Except PyError RuntimeState}
    (same : ∀ final, outcome = .ok final → final = state) :
    DegradesProperly syncer state channelId event after [] outcome where
  sizeRejected attempted := absurd rfl attempted
  sameRecord _ member := absurd member List.not_mem_nil
  changes := by
    intro final returned changed
    rw [same final returned] at changed
    exact absurd changed (not_or.mpr ⟨fun differ => differ rfl,
      fun differ => differ rfl⟩)

end Degrades

/-! ## Two small runs -/

def sampleEvent : ProviderEvent where
  provider := "lark"
  sessionId := "oc1"
  providerMessageId := "om1"
  senderExternalUserId := "ou7"
  msgType := "text"
  contentRaw := []
  eventMs := 4
  text := none
  senderIdentityType := "user"
  wellFormed := Json.wellFormed_empty

/-- The route of its records. -/
def sampleRoute : RecordRoute where
  principal := 7
  token := "user"
  channelId := 3
  recipients := [8]

/-- An error of the RPC library. -/
def refusal : PyError := .raised (.rpcError (some .resourceExhausted)) "limit"

theorem recordRoute_sample :
    recordRoute sampleSyncer 3 sampleEvent = .ok sampleRoute := by
  have peers : (sampleMapping.peerPrincipals 3 7).1 = [8].mergeSort := rfl
  rw [List.mergeSort_singleton] at peers
  have routed : recordRoute sampleSyncer 3 sampleEvent =
      .ok ⟨7, "user", 3, (sampleMapping.peerPrincipals 3 7).1⟩ := rfl
  rw [routed, peers]
  rfl

theorem normalizeRecipients_sample :
    normalizeRecipients (some (sampleRoute.recipients.map Int.ofNat)) true =
      .ok [8] := by
  have normalized : normalizeRecipients
      (some (sampleRoute.recipients.map Int.ofNat)) true =
        .ok (sortedSet [8]) := rfl
  have once : [8].dedup = [8] := rfl
  rw [normalized, sortedSet, once, List.mergeSort_singleton]

/-- The record that a payload makes on the route. -/
def sampleRecord (payload : JsonObject) : Record where
  principal := 7
  channelId := 3
  recipients := [8]
  payload := encodePayload JsonText.compact payload

theorem record_sample {req : SyncRecordInput} {payload : JsonObject}
    (built : syncRecordPayload req = .ok payload) :
    (recordMethod sampleRoute req).record sampleSyncer.text =
      .ok (sampleRecord payload) := by
  have encoded : encodeSyncRecord JsonText.compact req =
      .ok (encodePayload JsonText.compact payload) := by
    rw [encodeSyncRecord, built]
    rfl
  exact checkRecord_eq_ok_iff.mpr
    ⟨encoded, normalizeRecipients_sample, ⟨rfl, by decide, Nat.succ_pos 6⟩, rfl,
      by decide, Nat.succ_pos 2⟩

/-- The message of a record under the first number. -/
def firstMessage (record : Record) : Message where
  seq := 1
  channelId := record.channelId
  principal := record.principal
  recipients := record.recipients
  payload := record.payload

theorem committed_first (record : Record) (token : String) :
    Truthful [firstMessage record] (publishCall token record)
      (.ok ⟨some 1⟩) := by
  rintro _ ⟨⟩ - -
  exact ⟨_, List.mem_singleton_self _, rfl, rfl⟩

/-- The processor publishes the records of the sample event. -/
theorem publishProviderEvent_sample :
    publishProviderEvent sampleSyncer .initial 3 sampleEvent =
      (publishRecords sampleSyncer sampleRoute sampleEvent none >>= fun _ =>
        .ret (RuntimeState.initial.markSyncRecord (inboundKey 3 sampleEvent) 3
          4)) := by
  have unseen : inboundKey 3 sampleEvent ∉
      RuntimeState.initial.inboundSeen := Finset.notMem_empty _
  rw [publishProviderEvent, if_neg unseen, recordRoute_sample]
  rfl

theorem publishSyncRecord_sample {req : SyncRecordInput} {record : Record}
    (checked : (recordMethod sampleRoute req).record sampleSyncer.text =
      .ok record) :
    SingleThreadProcessor.publishSyncRecord sampleSyncer sampleRoute req =
      publishAttempts sampleConfig.retry (publishRecord "user" record) 2 := by
  rw [SingleThreadProcessor.publishSyncRecord, publishWithRetry,
    PublishMethod.publish_eq, checked]
  rfl

/-- The calls of a run whose first `GetStatus` is refused. -/
def refusedCalls (degraded : Record) : List (Exchanged service) := [
  ⟨.currentTimeMs, (5 : Int)⟩,
  ⟨.getStatus 7 "user", .error refusal⟩,
  ⟨.currentTimeMs, (6 : Int)⟩,
  ⟨.getStatus 7 "user", .ok ⟨0⟩⟩,
  ⟨publishCall "user" degraded, .ok ⟨some 1⟩⟩]

/-- The calls of a run whose full record is rejected. -/
def rejectedCalls (full degraded : Record) : List (Exchanged service) := [
  ⟨.currentTimeMs, (5 : Int)⟩,
  ⟨.getStatus 7 "user", .ok ⟨0⟩⟩,
  ⟨publishCall "user" full, .error refusal⟩,
  ⟨.currentTimeMs, (6 : Int)⟩,
  ⟨.getStatus 7 "user", .ok ⟨0⟩⟩,
  ⟨publishCall "user" degraded, .ok ⟨some 1⟩⟩]

theorem raisesDirectly_refusedCalls (degraded : Record) :
    RaisesDirectly (refusedCalls degraded) := by
  intro exchange member error raised
  simp only [refusedCalls, List.mem_cons, List.not_mem_nil, or_false] at member
  rcases member with rfl | rfl | rfl | rfl | rfl
  · cases raised
  · cases raised
    rfl
  · cases raised
  · cases raised
  · cases raised

theorem transcript_refusedCalls : ∃ degraded final,
    Transcript outcomes []
      (publishProviderEvent sampleSyncer .initial 3 sampleEvent)
      (refusedCalls degraded) [firstMessage degraded] (.ok final) := by
  obtain ⟨fullPayload, fullBuilt⟩ : ∃ payload,
      syncRecordPayload (fullRecordInput sampleEvent none 5) = .ok payload :=
    ⟨_, rfl⟩
  obtain ⟨payload, built⟩ : ∃ payload,
      syncRecordPayload (degradedRecordInput sampleEvent none 6) =
        .ok payload := ⟨_, rfl⟩
  refine ⟨sampleRecord payload, RuntimeState.initial.markSyncRecord
    (inboundKey 3 sampleEvent) 3 4, ?_⟩
  rw [publishProviderEvent_sample]
  unfold publishRecords
  have full := publishSyncRecord_sample (record_sample fullBuilt)
  have degraded := publishSyncRecord_sample (record_sample built)
  refine .call .refl ⟨List.prefix_rfl, trivial⟩ ?_
  simp only [Program.bind_eq, Program.ret_bind, full]
  refine .call .refl ⟨List.prefix_rfl, trivial⟩ ?_
  refine .call .refl ⟨List.prefix_rfl, trivial⟩ ?_
  simp only [Program.bind_eq, Program.ret_bind, degraded]
  refine .call .refl ⟨List.prefix_rfl, trivial⟩ ?_
  exact .call .refl ⟨List.nil_prefix, committed_first _ _⟩ .ret

theorem transcript_rejectedCalls : ∃ full degraded final,
    Transcript outcomes []
      (publishProviderEvent sampleSyncer .initial 3 sampleEvent)
      (rejectedCalls full degraded) [firstMessage degraded] (.ok final) := by
  obtain ⟨fullPayload, fullBuilt⟩ : ∃ payload,
      syncRecordPayload (fullRecordInput sampleEvent none 5) = .ok payload :=
    ⟨_, rfl⟩
  obtain ⟨payload, built⟩ : ∃ payload,
      syncRecordPayload (degradedRecordInput sampleEvent none 6) =
        .ok payload := ⟨_, rfl⟩
  have full := publishSyncRecord_sample (record_sample fullBuilt)
  have degraded := publishSyncRecord_sample (record_sample built)
  refine ⟨sampleRecord fullPayload, sampleRecord payload,
    RuntimeState.initial.markSyncRecord (inboundKey 3 sampleEvent) 3 4, ?_⟩
  rw [publishProviderEvent_sample]
  unfold publishRecords
  refine .call .refl ⟨List.prefix_rfl, trivial⟩ ?_
  simp only [Program.bind_eq, Program.ret_bind, full]
  refine .call .refl ⟨List.prefix_rfl, trivial⟩ ?_
  refine .call .refl ⟨List.prefix_rfl, trivial⟩ ?_
  refine .call .refl ⟨List.prefix_rfl, trivial⟩ ?_
  simp only [Program.bind_eq, Program.ret_bind, degraded]
  refine .call .refl ⟨List.prefix_rfl, trivial⟩ ?_
  exact .call .refl ⟨List.nil_prefix, committed_first _ _⟩ .ret

theorem raisesDirectly_rejectedCalls (full degraded : Record) :
    RaisesDirectly (rejectedCalls full degraded) := by
  intro exchange member error raised
  simp only [rejectedCalls, List.mem_cons, List.not_mem_nil, or_false]
    at member
  rcases member with rfl | rfl | rfl | rfl | rfl | rfl
  · cases raised
  · cases raised
  · cases raised
    rfl
  · cases raised
  · cases raised
  · cases raised

/-! ## The condition -/

/--
Against every sequence of outcomes of an OpenEvent client that raises its
errors directly, `_publish_provider_event` degrades properly if and only if no
`GetStatus` that precedes a publish of the full record is refused with
`RESOURCE_EXHAUSTED`.
-/
theorem publishProviderEvent_degradesProperly_iff (syncer : P2PSyncer)
    (state : RuntimeState) (channelId : Nat) (event : ProviderEvent)
    {before after : List Message} {exchanges : List (Exchanged service)}
    {outcome : Except PyError RuntimeState}
    (transcript : Transcript outcomes before
      (publishProviderEvent syncer state channelId event) exchanges after
      outcome)
    (direct : RaisesDirectly exchanges) :
    DegradesProperly syncer state channelId event after exchanges outcome ↔
      statusExhausted false (fullCalls exchanges) = false := by
  unfold publishProviderEvent at transcript
  split_ifs at transcript with seen
  · rcases transcript_ret transcript with ⟨rfl, -, rfl⟩
    refine iff_of_true (degradesProperly_nil ?_) rfl
    rintro _ ⟨⟩
    rfl
  · cases routed : recordRoute syncer channelId event with
    | error error =>
        rw [routed] at transcript
        rcases transcript_fail transcript with ⟨rfl, -, rfl⟩
        exact iff_of_true (degradesProperly_nil (by rintro _ ⟨⟩)) rfl
    | ok route =>
        rw [routed, Action.ofExcept_ok, Program.ret_bind] at transcript
        have split : ∃ published, RecordsShape syncer route event
            (state.sendResultByProviderMessage.get?
              (inboundKey channelId event)) after exchanges published ∧
              ∀ final, outcome = .ok final → published = .ok () := by
          rcases transcript_bind transcript with
            ⟨middle, done, first, last, rfl, publishes, marked⟩ |
              ⟨exc, rfl, publishes⟩
          · rcases transcript_ret marked with ⟨rfl, rfl, rfl⟩
            rw [List.append_nil]
            exact ⟨_, transcript_publishRecords publishes, fun _ _ => rfl⟩
          · exact ⟨_, transcript_publishRecords publishes, by rintro _ ⟨⟩⟩
        obtain ⟨published, shape, returned⟩ := split
        rw [← shape.exhausted_iff direct]
        constructor
        · intro degrades attempted
          obtain ⟨_, ingestedMs, full, same, rest⟩ :=
            degrades.sizeRejected attempted
          rw [routed] at same
          cases same
          exact ⟨ingestedMs, full, rest⟩
        · intro rejected
          refine ⟨?_, ?_, ?_⟩
          · intro attempted
            obtain ⟨ingestedMs, full, rest⟩ := rejected attempted
            exact ⟨route, ingestedMs, full, routed, rest⟩
          · intro exchange member publishes
            obtain ⟨ingestedMs, degradedMs, full, degraded, rest⟩ :=
              shape.sameRecord exchange member publishes
            exact ⟨route, ingestedMs, degradedMs, full, degraded, routed,
              rest⟩
          · intro final returnedFinal _
            rw [returned final returnedFinal] at shape
            obtain ⟨ingestedMs, record, seq, checked, committed⟩ :=
              shape.committed
            exact ⟨route, ingestedMs, record, seq, routed, checked, committed⟩

/-- A record that was rejected for its size is properly degraded. -/
theorem publishProviderEvent_degradesProperly_iff_rejected :
    ∃ full degraded final,
      DegradesProperly sampleSyncer .initial 3 sampleEvent
        [firstMessage degraded] (rejectedCalls full degraded) (.ok final) := by
  obtain ⟨full, degraded, final, transcript⟩ := transcript_rejectedCalls
  exact ⟨full, degraded, final,
    (publishProviderEvent_degradesProperly_iff sampleSyncer .initial 3
      sampleEvent transcript
      (raisesDirectly_rejectedCalls full degraded)).mpr rfl⟩

/-- A refused `GetStatus` replaces a record that was never published. -/
theorem publishProviderEvent_degradesUnpublished :
    ∃ degraded final,
      Transcript outcomes []
        (publishProviderEvent sampleSyncer .initial 3 sampleEvent)
        (refusedCalls degraded) [firstMessage degraded] (.ok final) ∧
      RaisesDirectly (refusedCalls degraded) ∧
      ¬ DegradesProperly sampleSyncer .initial 3 sampleEvent
        [firstMessage degraded] (refusedCalls degraded) (.ok final) := by
  obtain ⟨degraded, final, transcript⟩ := transcript_refusedCalls
  refine ⟨degraded, final, transcript, raisesDirectly_refusedCalls degraded,
    ?_⟩
  intro degrades
  obtain ⟨_, _, _, -, -, -, error, member, -⟩ :=
    degrades.sizeRejected (List.cons_ne_nil _ _)
  have onlyStatus : fullCalls (refusedCalls degraded) =
      [⟨.getStatus 7 "user", .error refusal⟩] := rfl
  rw [onlyStatus] at member
  cases List.mem_singleton.mp member

end OpenEventIm.Syncer.DegradedRecord
