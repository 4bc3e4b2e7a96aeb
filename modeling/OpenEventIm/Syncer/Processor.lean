import OpenEventIm.Syncer.HistoryReplay
import OpenEventIm.Syncer.ProviderMessages
import OpenEventIm.Syncer.PublishRetry

/-!
# The single-thread processor

`SingleThreadProcessor`: one `tick` collects provider events and does one piece
of work, an outbound request or a provider event.  The processor is passed along
explicitly and holds the runtime state and the pullers.
-/

namespace OpenEventIm.Syncer.Processor

open OpenEventIm.Foundation
open OpenEventIm.Foundation.Interaction
open OpenEventIm.Sdk.Errors
open OpenEventIm.Sdk.Codec
open OpenEventIm.Sdk.Client
open OpenEventIm.Service.Calls
open OpenEventIm.Syncer.Models
open OpenEventIm.Syncer.Mapping
open OpenEventIm.Syncer.State
open OpenEventIm.Syncer.HistoryReplay
open OpenEventIm.Syncer.ProviderMessages
open OpenEventIm.Syncer.PublishRetry

structure SingleThreadProcessor where
  state : RuntimeState
  messagePullers : List (String × ProviderMessagePuller)
  pendingEvents : List ProviderEvent
  pendingEventLimit : Nat
  workTurn : Nat

def fatal (message : String) : PyError := .raised .fatalSyncerError message

/-- `except Exception as exc: raise FatalSyncerError(...) from exc`. -/
def fatalFrom (message : PyError → String) (exc : PyError) : PyError :=
  .raisedFrom .fatalSyncerError (message exc) exc

namespace SingleThreadProcessor

variable (syncer : P2PSyncer)

/-! ## Inputs of the publish methods -/

/-- The input of the full record of an event. -/
def fullRecordInput (event : ProviderEvent) (prevSeq : Option Nat)
    (ingestedMs : Int) : SyncRecordInput where
  providerMessageId := event.providerMessageId
  msgType := event.msgType
  contentRaw := .obj event.contentRaw
  eventMs := event.eventMs
  ingestedMs := ingestedMs
  prevSeq := prevSeq.map Int.ofNat
  text := event.text
  isInit := none
  contentOmitted := none
  omitReason := none
  textPreview := none
  extraData := []

/-- The content that replaces the one of a message that is too large. -/
def omittedContent (event : ProviderEvent) : JsonObject :=
  [("omitted", .bool true),
    ("reason", .str "message_too_large"),
    ("metadata", .obj [
      ("provider", .str event.provider),
      ("session_id", .str event.sessionId),
      ("sender_identity_type", .str event.senderIdentityType),
      ("sender_external_user_id", .str event.senderExternalUserId),
      ("msg_type", .str event.msgType)])]

/-- The input of the degraded record of an event. -/
def degradedRecordInput (event : ProviderEvent) (prevSeq : Option Nat)
    (ingestedMs : Int) : SyncRecordInput where
  providerMessageId := event.providerMessageId
  msgType := event.msgType
  contentRaw := .obj (omittedContent event)
  eventMs := event.eventMs
  ingestedMs := ingestedMs
  prevSeq := prevSeq.map Int.ofNat
  text := none
  isInit := none
  contentOmitted := some true
  omitReason := some "message_too_large"
  textPreview := none
  extraData := []

/-- The input of the result of a sent request. -/
def successResultInput (task : OutboundTask) (providerMessageId : String)
    (eventMs : Int) : SendResultInput where
  requestId := task.requestId
  prevSeq := task.seq
  status := "SUCCESS"
  eventMs := eventMs
  providerMessageId := some providerMessageId
  errorCode := none
  errorMessage := none

/-- The key of an event on a channel. -/
def inboundKey (channelId : Nat) (event : ProviderEvent) : InboundKey where
  provider := event.provider
  sessionId := event.sessionId
  channelId := channelId
  providerMessageId := event.providerMessageId

/-! ## Provider events -/

/-- A record's participants, as an event determines them. -/
structure RecordRoute where
  principal : Nat
  token : String
  channelId : Nat
  recipients : List Nat

/-- The publish call of a record. -/
def recordMethod (route : RecordRoute) (req : SyncRecordInput) :
    PublishMethod :=
  .syncRecord route.principal route.token route.channelId
    (route.recipients.map Int.ofNat) req

/-- `_publish_sync_record`. -/
def publishSyncRecord (route : RecordRoute) (req : SyncRecordInput) :
    Action Nat :=
  publishWithRetry syncer.config.retry
    ((recordMethod route req).publish syncer.text)

/-- The lookups of `_publish_provider_event` that precede the publish. -/
def recordRoute (channelId : Nat) (event : ProviderEvent) :
    Except PyError RecordRoute :=
  match syncer.mapping.principalForExternalUser channelId event.provider
      event.senderExternalUserId event.senderIdentityType with
  | .error _ => .error (fatal
      s!"provider sender mapping missing for {event.provider}/{event.sessionId}")
  | .ok principal => do
      let token ← syncer.mapping.userToken principal
      return {
        principal, token, channelId
        recipients := (syncer.mapping.peerPrincipals channelId principal).1 }

/-- The publishes of `_publish_provider_event`: the full record, and after a
size rejection the degraded one. -/
def publishRecords (route : RecordRoute) (event : ProviderEvent)
    (prevSeq : Option Nat) : Action Unit := do
  let ingestedMs ← currentTimeMs
  ((do
    let _ ← publishSyncRecord syncer route
      (fullRecordInput event prevSeq ingestedMs)
    return ()) : Action Unit).handle fun exc =>
      if !exc.isPublishFailedError || !isResourceExhausted exc then
        throw exc
      else do
        let ingestedMs ← currentTimeMs
        ((do
          let _ ← publishSyncRecord syncer route
            (degradedRecordInput event prevSeq ingestedMs)
          return ()) : Action Unit).handle fun fallbackExc =>
            if fallbackExc.isPublishFailedError &&
                isResourceExhausted fallbackExc then
              throw (fatalFrom (fun _ =>
                "degraded sync.record still exceeds the OpenEvent payload limit")
                fallbackExc)
            else
              throw fallbackExc

/-- `_publish_provider_event`. -/
def publishProviderEvent (state : RuntimeState) (channelId : Nat)
    (event : ProviderEvent) : Action RuntimeState :=
  if inboundKey channelId event ∈ state.inboundSeen then
    return state
  else do
    let route ← Action.ofExcept (recordRoute syncer channelId event)
    publishRecords syncer route event
      (state.sendResultByProviderMessage.get? (inboundKey channelId event))
    return state.markSyncRecord (inboundKey channelId event) channelId
      event.eventMs

/-- `puller.acknowledge(event)` for the puller of the event's provider. -/
def acknowledgeIn (event : ProviderEvent) :
    List (String × ProviderMessagePuller) →
      Except PyError (List (String × ProviderMessagePuller))
  | [] => .error (fatal s!"provider message puller missing: {event.provider}")
  | (provider, puller) :: rest =>
      if provider = event.provider then do
        let puller ← puller.acknowledge event
        return (provider, puller) :: rest
      else do
        let rest ← acknowledgeIn event rest
        return (provider, puller) :: rest

/-- The loop of `_process_next_provider_event` over the events from `skipped`
on; the events before it belong to channels with a pending request. -/
def processEvents (processor : SingleThreadProcessor)
    (skipped : List ProviderEvent) :
    List ProviderEvent → Action (Bool × SingleThreadProcessor)
  | [] => return (false, processor)
  | event :: rest =>
      match syncer.mapping.channelForProviderSession event.provider
          event.sessionId with
      | .error _ => throw (fatal
          s!"provider event session is not mapped: {event.provider}/{event.sessionId}")
      | .ok channelId =>
          if processor.state.channelHasPending channelId then
            processEvents processor (skipped ++ [event]) rest
          else do
            let state ← publishProviderEvent syncer processor.state channelId
              event
            let pullers ← Action.ofExcept
              (acknowledgeIn event processor.messagePullers)
            return (true, { processor with
              state
              messagePullers := pullers
              pendingEvents := skipped ++ rest })

/-- `_process_next_provider_event`. -/
def processNextProviderEvent (processor : SingleThreadProcessor) :
    Action (Bool × SingleThreadProcessor) :=
  processEvents syncer processor [] processor.pendingEvents

/-! ## Outbound requests -/

def sendFailed (task : OutboundTask) (result : SendResult) : PyError :=
  let code := (result.errorCode.filter (· ≠ "")).getD "PROVIDER_SEND_FAILED"
  let message := (result.errorMessage.filter (· ≠ "")).getD
    "Provider send failed without provider_message_id"
  fatal
    s!"provider send failed: request_id={task.requestId} channel_id={task.channelId} error_code={code} error={message}"

/-- The adapter's answer names the message it has sent. -/
def sentMessageId (result : SendResult) : Option String :=
  if result.success then result.providerMessageId.filter (· ≠ "") else none

/-- The call of a send, and what `_process_outbound_task` makes of its answer. -/
def sendTask (task : OutboundTask) (session : Session)
    (senderExternalUserId : String) : Action String :=
  ((sendMessage session.1 session.2 senderExternalUserId task.msgType
      task.content task.requestId).handle fun exc =>
    throw (fatalFrom (fun exc =>
      s!"provider send raised: request_id={task.requestId} channel_id={task.channelId} error={exc.cls.name}: {exc.message}")
      exc)) >>= fun result =>
    match sentMessageId result with
    | none => throw (sendFailed task result)
    | some providerMessageId => return providerMessageId

/-- The publish call of a result. -/
def resultMethod (task : OutboundTask) (providerMessageId : String)
    (eventMs : Int) : PublishMethod :=
  .sendResult syncer.config.worker.principal syncer.config.worker.token
    task.channelId [Int.ofNat task.principal]
    (successResultInput task providerMessageId eventMs)

/-- The lookups of `_process_outbound_task` that precede the send. -/
def sendRoute (task : OutboundTask) : Except PyError (Session × String) := do
  let session ← syncer.mapping.providerSession task.channelId
  match syncer.mapping.senderExternalUserId task.channelId task.principal
      (some "bot") with
  | .error exc => .error (fatalFrom (fun _ =>
      s!"send.request principal has no bot mapping: request_id={task.requestId} channel_id={task.channelId} principal={task.principal}")
      exc)
  | .ok senderExternalUserId =>
      if syncer.config.providers.contains session.1 then
        return (session, senderExternalUserId)
      else
        .error (.raised .keyError session.1)

/-- `_process_outbound_task`. -/
def processOutboundTask (state : RuntimeState) (task : OutboundTask) :
    Action RuntimeState := do
  let (session, senderExternalUserId) ←
    Action.ofExcept (sendRoute syncer task)
  let providerMessageId ← sendTask task session senderExternalUserId
  let eventMs ← currentTimeMs
  let seq ← publishWithRetry syncer.config.retry
    ((resultMethod syncer task providerMessageId eventMs).publish syncer.text)
  return state.markSendResultSuccess task session.1 session.2
    providerMessageId seq

/-- `_process_next_outbound_task`. -/
def processNextOutboundTask (processor : SingleThreadProcessor) :
    Action (Bool × SingleThreadProcessor) :=
  match processor.state.nextPendingTask with
  | (none, state) => return (false, { processor with state })
  | (some task, state) => do
      let state ← processOutboundTask syncer state task
      return (true, { processor with state })

/-! ## One tick -/

/-- The loop of `_collect_provider_messages` over the pullers. -/
def collectFrom (limit : Nat) (pending : List ProviderEvent) :
    List (String × ProviderMessagePuller) →
      Action (List ProviderEvent × List (String × ProviderMessagePuller))
  | [] => return (pending, [])
  | (provider, puller) :: rest =>
      if pending.length ≥ limit then
        return (pending, (provider, puller) :: rest)
      else do
        let (event, puller) ← puller.takeMessage.handle fun exc =>
          throw (fatalFrom
            (fun _ => s!"{provider} provider message pull failed") exc)
        let (pending, rest) ←
          collectFrom limit (pending ++ event.toList) rest
        return (pending, (provider, puller) :: rest)

/-- `_collect_provider_messages`. -/
def collectProviderMessages (processor : SingleThreadProcessor) :
    Action SingleThreadProcessor := do
  let (pendingEvents, messagePullers) ← collectFrom
    processor.pendingEventLimit processor.pendingEvents
    processor.messagePullers
  return { processor with pendingEvents, messagePullers }

/-- One of the two kinds of work. -/
def doWork (processor : SingleThreadProcessor) (index : Nat) :
    Action (Bool × SingleThreadProcessor) :=
  if index = 0 then
    processNextOutboundTask syncer processor
  else
    processNextProviderEvent syncer processor

/-- The loop of `tick` over the kinds of work. -/
def workFrom (workTurn : Nat) (processor : SingleThreadProcessor)
    (offset : Nat) : Nat → Action (Bool × SingleThreadProcessor)
  | 0 => return (false, processor)
  | remaining + 1 => do
      let index := (workTurn + offset) % 2
      let (worked, processor) ← doWork syncer processor index
      if worked then
        return (true, { processor with workTurn := (index + 1) % 2 })
      else
        workFrom workTurn processor (offset + 1) remaining

/-- `tick`, with the value it returns. -/
def tick (processor : SingleThreadProcessor) :
    Action (Bool × SingleThreadProcessor) := do
  if ← stopIsSet then
    return (false, processor)
  else do
    let processor ← collectProviderMessages processor
    workFrom syncer processor.workTurn processor 0 2

end SingleThreadProcessor

end OpenEventIm.Syncer.Processor
