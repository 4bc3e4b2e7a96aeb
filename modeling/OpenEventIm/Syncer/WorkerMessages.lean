import OpenEventIm.Syncer.WorkerMemory

/-!
# The messages that a process publishes

What the published results and records say when they are read back, and that
they are legal where they come to stand in the log.
-/

namespace OpenEventIm.Syncer.WorkerMessages

open OpenEventIm.Foundation
open OpenEventIm.Sdk.Errors
open OpenEventIm.Sdk.Normalizer
open OpenEventIm.Sdk.Codec
open OpenEventIm.Sdk.Client
open OpenEventIm.Sdk.MessageReading
open OpenEventIm.Service.Calls
open OpenEventIm.Service.World
open OpenEventIm.Syncer.Models
open OpenEventIm.Syncer.Mapping
open OpenEventIm.Syncer.State
open OpenEventIm.Syncer.LogMeaning
open OpenEventIm.Syncer.HistoryReplay
open OpenEventIm.Syncer.HistoryReplay.P2PSyncer
open OpenEventIm.Syncer.Processor
open OpenEventIm.Syncer.Processor.SingleThreadProcessor
open OpenEventIm.Syncer.WrittenLog

variable {syncer : P2PSyncer} {task : OutboundTask} {message : Message}
  {session : Session}

/-! ## Bounds -/

/-- The numbers of a committed message fit the protocol. -/
theorem bounded_of_record {payload : Except PyError ByteArray}
    {recipients : Except PyError (List Nat)} {principal channelId : Int}
    (recorded : checkRecord payload recipients principal channelId =
      .ok (recordOf message))
    (small : ∀ recipient ∈ message.recipients,
      (recipient : Int) ≤ uint64Max)
    (seq : message.seq ≤ uint64Limit) : Bounded message := by
  rcases checkRecord_eq_ok_iff.mp recorded with
    ⟨-, -, ⟨samePrincipal, principalSmall, principalPositive⟩,
      sameChannel, channelSmall, channelPositive⟩
  constructor
  · exact Sdk.PublishReconciliation.le_uint64Limit_iff.mpr seq
  · rw [sameChannel] at channelSmall
    exact ⟨channelSmall, channelPositive⟩
  · rw [samePrincipal] at principalSmall
    exact ⟨principalSmall, principalPositive⟩
  · exact small

/-! ## Results -/

/-- The provider message that the result of a task reports. -/
def reportedKey (task : OutboundTask) (session : Session)
    (providerMessageId : String) : InboundKey where
  provider := session.1
  sessionId := session.2
  channelId := task.channelId
  providerMessageId := providerMessageId

/-- What a message says that carries the result of a task. -/
structure CarriesResult (syncer : P2PSyncer) (task : OutboundTask)
    (session : Session) (providerMessageId : String) (message : Message)
    (parsed : ParsedMessage) : Prop where
  read : readMessage syncer.text message = some parsed
  mapped : syncer.mapping.providerSession parsed.channelId = .ok session
  kind : parsed.kind = .sendResult
  roles : syncer.validateMessageRoles parsed = .ok ()
  seq : parsed.seq = message.seq
  resultOf : ResultOf task (.ofParsed parsed)
  key : resultKey parsed session =
    some (reportedKey task session providerMessageId)
  bounded : message.seq ≤ uint64Limit → Bounded message

theorem validateMessageRoles_sendResult {parsed : ParsedMessage}
    (kind : parsed.kind = .sendResult)
    (isWorker : parsed.principal = syncer.config.worker.principal) :
    syncer.validateMessageRoles parsed = .ok () := by
  rw [validateMessageRoles, kind]
  exact if_pos isWorker

theorem carriesResult_of_record {providerMessageId : String} {eventMs : Int}
    (usable : providerMessageId ≠ "")
    (mapped : syncer.mapping.providerSession task.channelId = .ok session)
    (recorded : (resultMethod syncer task providerMessageId eventMs).record
      syncer.text = .ok (recordOf message)) :
    ∃ parsed, CarriesResult syncer task session providerMessageId message
      parsed := by
  rcases checkRecord_eq_ok_iff.mp recorded with
    ⟨encoded, normalized, ⟨principal, -, -⟩, channel, -, -⟩
  rcases readMessage_sendResult encoded with
    ⟨parsed, read, kind, requestId, prevSeq, -, status, messageId⟩
  have envelope := readMessage_envelope read
  have sameChannel : parsed.channelId = task.channelId := by
    rw [envelope.2.1]
    exact_mod_cast channel.symm
  have recipients := (@normalizeRecipients_natCast_iff [task.principal] _).mp
    normalized
  have sameRecipients : parsed.recipients = [task.principal] :=
    envelope.2.2.2.trans recipients.1
  have isSuccess : (TerminalResult.ofParsed parsed).status = "SUCCESS" := by
    show ((Items.get? "status" parsed.data).bind Json.str?).getD "" = _
    rw [status]
    rfl
  refine ⟨parsed, read, ?_, kind, ?_, envelope.1, ⟨?_, ?_, sameChannel,
    sameRecipients⟩, ?_, ?_⟩
  · rw [sameChannel]
    exact mapped
  · apply validateMessageRoles_sendResult kind
    rw [envelope.2.2.1]
    exact_mod_cast principal.symm
  · show parsed.requestId.getD "" = task.requestId
    rw [requestId]
    rfl
  · show parsed.prevSeq = some task.seq
    rw [prevSeq]
    rfl
  · have id : (TerminalResult.ofParsed parsed).providerMessageId =
        some (.str providerMessageId) := messageId
    rw [resultKey, if_neg (not_not.mpr isSuccess), id, usableMessageId,
      if_neg usable, sameChannel]
    rfl
  · apply bounded_of_record recorded
    rw [show message.recipients = [task.principal] from recipients.1]
    exact recipients.2

/-! ## Records -/

/-- The inputs of the records of an event. -/
def RecordInput (event : ProviderEvent) (prevSeq : Option Nat)
    (req : SyncRecordInput) : Prop :=
  ∃ ingestedMs, req = fullRecordInput event prevSeq ingestedMs ∨
    req = degradedRecordInput event prevSeq ingestedMs

/-- What a message says that carries a record of an event. -/
structure CarriesEvent (syncer : P2PSyncer) (channelId : Nat)
    (event : ProviderEvent) (prevSeq : Option Nat) (message : Message)
    (parsed : ParsedMessage) : Prop where
  read : readMessage syncer.text message = some parsed
  mapped : syncer.mapping.providerSession parsed.channelId =
    .ok (event.provider, event.sessionId)
  kind : parsed.kind = .syncRecord
  roles : syncer.validateMessageRoles parsed = .ok ()
  key : RuntimeState.syncRecordKey parsed event.provider event.sessionId =
    inboundKey channelId event
  prevSeq : parsed.prevSeq = prevSeq
  eventMs : parsed.eventMs = event.eventMs
  bounded : message.seq ≤ uint64Limit → Bounded message

/-- A single recipient stays what it is. -/
theorem normalizeRecipients_single {recipient : Nat} {result : List Nat}
    (normalized : normalizeRecipients
      (some ([recipient].map Int.ofNat)) true = .ok result) :
    result = [recipient] ∧ (recipient : Int) ≤ uint64Max := by
  rw [normalizeRecipients] at normalized
  rcases Checked.bind_eq_ok_iff.mp normalized with ⟨values, checked, sorted⟩
  have plain : normalizeRecipients
      (some ([recipient].map fun item : Nat => (item : Int))) false =
        .ok values := by
    rw [normalizeRecipients]
    exact Checked.bind_eq_ok_iff.mpr ⟨values, checked, rfl⟩
  rcases normalizeRecipients_natCast_iff.mp plain with ⟨rfl, small⟩
  cases sorted
  refine ⟨?_, small recipient (List.mem_singleton.mpr rfl)⟩
  rw [sortedSet, List.dedup_eq_self.mpr (List.nodup_singleton recipient)]
  exact List.mergeSort_singleton recipient

/-- The participants that the event determines are those of the channel. -/
theorem roles_of_recordRoute {channelId : Nat} {event : ProviderEvent}
    {route : RecordRoute} {parsed : ParsedMessage}
    (routed : recordRoute syncer channelId event = .ok route)
    (kind : parsed.kind = .syncRecord)
    (channel : parsed.channelId = route.channelId)
    (principal : parsed.principal = route.principal)
    (normalized : normalizeRecipients
      (some (route.recipients.map Int.ofNat)) true = .ok parsed.recipients) :
    syncer.validateMessageRoles parsed = .ok () ∧
      route.channelId = channelId ∧
        ∀ recipient ∈ parsed.recipients, (recipient : Int) ≤ uint64Max := by
  rw [recordRoute] at routed
  cases found : syncer.mapping.principalForExternalUser channelId
      event.provider event.senderExternalUserId event.senderIdentityType with
  | error exc =>
      rw [found] at routed
      cases routed
  | ok sender =>
      rw [found] at routed
      rcases Checked.bind_eq_ok_iff.mp routed with ⟨token, -, returned⟩
      cases returned
      rcases P2PMappingIndex.principalForExternalUser_mem syncer.built found
        with ⟨entries, present, member⟩
      rcases P2PMappingIndex.peerPrincipals_eq_singleton syncer.built present
        member with ⟨peer, peers⟩
      rw [peers] at normalized
      rcases normalizeRecipients_single normalized with ⟨recipients, small⟩
      refine ⟨?_, rfl, by
        rw [recipients]
        exact List.forall_mem_singleton.mpr small⟩
      have read : (syncer.mapping.entriesForChannel channelId).1 =
          entries := by
        rw [P2PMappingIndex.entriesForChannel, P2PMappingIndex.readChannel,
          present]
      dsimp only at channel principal
      rw [validateMessageRoles, kind]
      dsimp only
      rw [channel, principal, recipients, read, peers]
      apply Checked.bind_eq_ok_iff.mpr
      exact ⟨(), if_pos member, if_pos rfl⟩

theorem carriesEvent_of_record {channelId : Nat} {event : ProviderEvent}
    {prevSeq : Option Nat} {route : RecordRoute} {req : SyncRecordInput}
    (routed : recordRoute syncer channelId event = .ok route)
    (mapped : syncer.mapping.providerSession channelId =
      .ok (event.provider, event.sessionId))
    (input : RecordInput event prevSeq req)
    (recorded : (recordMethod route req).record syncer.text =
      .ok (recordOf message)) :
    ∃ parsed, CarriesEvent syncer channelId event prevSeq message parsed := by
  rcases checkRecord_eq_ok_iff.mp recorded with
    ⟨encoded, normalized, ⟨principal, -, -⟩, channel, -, -⟩
  have empty : (Json.obj []).WellFormed := by
    simp [Json.wellFormed_obj_iff]
  have omitted : (Json.obj (omittedContent event)).WellFormed := by
    simp [omittedContent, Json.wellFormed_obj_iff]
  have said : ∃ parsed, readMessage syncer.text message = some parsed ∧
      parsed.kind = .syncRecord ∧ parsed.prevSeq = prevSeq ∧
        parsed.eventMs = event.eventMs ∧
          Items.get? "provider_message_id" parsed.data =
            some (.str event.providerMessageId) := by
    have back : (prevSeq.map Int.ofNat).map Int.toNat = prevSeq := by
      cases prevSeq <;> rfl
    rcases input with ⟨ingestedMs, rfl | rfl⟩
    · rcases readMessage_syncRecord event.wellFormed empty encoded with
        ⟨parsed, read, kind, prev, -, eventMs, messageId⟩
      exact ⟨parsed, read, kind, prev.trans back, eventMs, messageId⟩
    · rcases readMessage_syncRecord omitted empty encoded with
        ⟨parsed, read, kind, prev, -, eventMs, messageId⟩
      exact ⟨parsed, read, kind, prev.trans back, eventMs, messageId⟩
  rcases said with ⟨parsed, read, kind, prev, eventMs, messageId⟩
  have envelope := readMessage_envelope read
  have sameChannel : parsed.channelId = route.channelId := by
    rw [envelope.2.1]
    exact_mod_cast channel.symm
  have samePrincipal : parsed.principal = route.principal := by
    rw [envelope.2.2.1]
    exact_mod_cast principal.symm
  have sameRecipients : normalizeRecipients
      (some (route.recipients.map Int.ofNat)) true =
        .ok parsed.recipients := by
    rw [envelope.2.2.2]
    exact normalized
  rcases roles_of_recordRoute routed kind sameChannel samePrincipal
    sameRecipients with ⟨roles, isChannel, small⟩
  rw [isChannel] at sameChannel
  have id : dataString "provider_message_id" parsed =
      event.providerMessageId := by
    rw [dataString, messageId]
    rfl
  exact ⟨parsed, {
    read, kind, roles, eventMs
    mapped := by
      rw [sameChannel]
      exact mapped
    key := by
      rw [RuntimeState.syncRecordKey, inboundKey, sameChannel, id]
    prevSeq := prev
    bounded := by
      apply bounded_of_record recorded
      rw [← envelope.2.2.2]
      exact small }⟩

/-- The record is one that is published for the event. -/
def EventRecord (syncer : P2PSyncer) (channelId : Nat) (event : ProviderEvent)
    (prevSeq : Option Nat) (record : Record) : Prop :=
  ∃ route req, recordRoute syncer channelId event = .ok route ∧
    RecordInput event prevSeq req ∧
      (recordMethod route req).record syncer.text = .ok record

theorem EventRecord.carries {channelId : Nat} {event : ProviderEvent}
    {prevSeq : Option Nat}
    (isRecord : EventRecord syncer channelId event prevSeq (recordOf message))
    (mapped : syncer.mapping.providerSession channelId =
      .ok (event.provider, event.sessionId)) :
    ∃ parsed, CarriesEvent syncer channelId event prevSeq message parsed := by
  rcases isRecord with ⟨route, req, routed, input, recorded⟩
  exact carriesEvent_of_record routed mapped input recorded

end OpenEventIm.Syncer.WorkerMessages
