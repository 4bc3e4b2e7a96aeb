import OpenEventIm.Service.World
import OpenEventIm.Sdk.Codec

/-!
# The SDK client

`ImProtocolClient`: the three `publish_*` methods with their reconciliation,
and `parse_message`.

A publish reads the last sequence number first.  When the outcome of
`publish_auto_seq` is uncertain, the client reads it again and looks for its
message between the two numbers, page by page.
-/

namespace OpenEventIm.Sdk.Client

open OpenEventIm.Foundation
open OpenEventIm.Foundation.Checked
open OpenEventIm.Foundation.Interaction
open OpenEventIm.Sdk.Errors
open OpenEventIm.Sdk.Normalizer
open OpenEventIm.Sdk.Codec
open OpenEventIm.Service.Calls
open OpenEventIm.Service.World

/-! ## Publishing -/

/-- `raise PublishFailedError(...) from cause`. -/
def publishFailed {Result : Type} (message : String)
    (retrySafe outcomeUnknown : Bool) (cause : PyError) : Action Result :=
  .fail (.raisedFrom (.publishFailedError retrySafe outcomeUnknown) message
    cause)

/-- `require_uint64` on a field of a response. -/
def requireResponseUint64 (value : Nat) (fieldName : String)
    (positive : Bool) : Action Nat :=
  Action.ofExcept (requireUint64 (some (.int value)) fieldName positive)

/-- `_matches_publish`. -/
def matchesPublish (message : Message) (record : Record) : Bool :=
  message.principal = record.principal ∧
    message.channelId = record.channelId ∧
    message.recipients = record.recipients ∧
    message.payload = record.payload

/-- The loop over the messages of one page of the reconciliation. -/
def findPublished (record : Record) (reconcileMaxSeq : Nat) :
    List Message → Option Message
  | [] => none
  | message :: rest =>
      if message.seq > reconcileMaxSeq then
        findPublished record reconcileMaxSeq rest
      else if matchesPublish message record then
        some message
      else
        findPublished record reconcileMaxSeq rest

/-- `_get_pre_publish_max_seq`. -/
def getPrePublishMaxSeq (principal : Nat) (token : String) : Action Nat :=
  (do
    let response ← getStatus principal token
    requireResponseUint64 response.maxSeq "max_seq" false).handle fun exc =>
      publishFailed s!"failed to read pre-publish max_seq: {exc.message}"
        true false exc

/-- The page loop of the reconciliation; `none` when no page has a match. -/
def reconcilePages (token : String) (record : Record)
    (reconcileMaxSeq fromSeq : Nat) : Action (Option Nat) :=
  if fromSeq ≤ reconcileMaxSeq then do
    let response ← fetch record.principal token fromSeq [record.channelId]
    match findPublished record reconcileMaxSeq response.messages with
    | some message =>
        let seq ← requireResponseUint64 message.seq "message.seq" true
        return some seq
    | none =>
        let nextSeq ← requireResponseUint64 response.nextSeq "next_seq" true
        if nextSeq ≤ fromSeq then
          throw (.raised .runtimeError
            "Fetch did not advance during publish reconciliation")
        else
          reconcilePages token record reconcileMaxSeq nextSeq
  else
    return none
termination_by reconcileMaxSeq + 1 - fromSeq

/-- The part of `_reconcile_uncertain_publish` inside its `try`. -/
def searchPublished (token : String) (record : Record)
    (prePublishMaxSeq : Nat) : Action (Option Nat) := do
  let status ← getStatus record.principal token
  let reconcileMaxSeq ← requireResponseUint64 status.maxSeq "max_seq" false
  if reconcileMaxSeq < prePublishMaxSeq then
    throw (.raised .runtimeError
      "GetStatus max_seq moved backwards during publish reconciliation")
  else
    reconcilePages token record reconcileMaxSeq (prePublishMaxSeq + 1)

/-- The message when the reconciliation itself fails. -/
def outcomeUnknown (exc : PyError) : String :=
  "PublishAutoSeq outcome is unknown and reconciliation failed: " ++
    exc.message

/-- The message when the reconciliation finds nothing. -/
def provedNotCommitted (publishError : PyError) : String :=
  "PublishAutoSeq failed but reconciliation proved it was not committed: " ++
    publishError.message

/-- `_reconcile_uncertain_publish`. -/
def reconcileUncertainPublish (token : String) (record : Record)
    (prePublishMaxSeq : Nat) (publishError : PyError) : Action Nat := do
  let found ← (searchPublished token record prePublishMaxSeq).handle
    fun exc => publishFailed (outcomeUnknown exc) false true publishError
  match found with
  | some seq => return seq
  | none =>
      publishFailed (provedNotCommitted publishError) true false publishError

/-- The call of `publish_auto_seq` and the checks of its response. -/
def publishOnce (token : String) (record : Record) : Action Nat := do
  let response ← publishAutoSeq record.principal token record.channelId
    record.payload record.recipients
  match response.seq with
  | none => throw (.raised .runtimeError "PublishAutoSeq response missing seq")
  | some seq => requireResponseUint64 seq "seq" true

/-- `_publish` after its arguments have been checked. -/
def publishRecord (token : String) (record : Record) : Action Nat := do
  let prePublishMaxSeq ← getPrePublishMaxSeq record.principal token
  (publishOnce token record).handle fun exc =>
    if ProvesNotCommitted exc then
      publishFailed exc.message false false exc
    else
      reconcileUncertainPublish token record prePublishMaxSeq exc

/-- `_publish`. -/
def publish (principal : Int) (token : String) (channelId : Int)
    (payload : ByteArray) (recipients : List Nat) : Action Nat := do
  let principal ← Action.ofExcept
    (requireUint64 (some (.int principal)) "principal" true)
  let channelId ← Action.ofExcept
    (requireUint64 (some (.int channelId)) "channel_id" true)
  publishRecord token { principal, channelId, recipients, payload }

section Methods

variable (text : JsonText)

/-- `publish_send_request`. -/
def publishSendRequest (principal : Int) (token : String) (channelId : Int)
    (req : SendRequestInput) (recipients : Option (List Int)) :
    Action Nat := do
  let payload ← Action.ofExcept (encodeSendRequest text req)
  let recipients ← Action.ofExcept (normalizeRecipients recipients false)
  publish principal token channelId payload recipients

/-- `publish_send_result`. -/
def publishSendResult (principal : Int) (token : String) (channelId : Int)
    (recipients : List Int) (req : SendResultInput) : Action Nat := do
  let payload ← Action.ofExcept (encodeSendResult text req)
  let recipients ← Action.ofExcept
    (normalizeRecipients (some recipients) false)
  publish principal token channelId payload recipients

/-- `publish_sync_record`. -/
def publishSyncRecord (principal : Int) (token : String) (channelId : Int)
    (recipients : List Int) (req : SyncRecordInput) : Action Nat := do
  let payload ← Action.ofExcept (encodeSyncRecord text req)
  let recipients ← Action.ofExcept
    (normalizeRecipients (some recipients) true)
  publish principal token channelId payload recipients

/-- The record of a publish, checked in the order of the code. -/
def checkRecord (payload : Except PyError ByteArray)
    (recipients : Except PyError (List Nat)) (principal channelId : Int) :
    Except PyError Record := do
  let payload ← payload
  let recipients ← recipients
  let principal ← requireUint64 (some (.int principal)) "principal" true
  let channelId ← requireUint64 (some (.int channelId)) "channel_id" true
  return { principal, channelId, recipients, payload }

theorem checkRecord_eq_ok_iff {payload : Except PyError ByteArray}
    {recipients : Except PyError (List Nat)} {principal channelId : Int}
    {record : Record} :
    checkRecord payload recipients principal channelId = .ok record ↔
      payload = .ok record.payload ∧ recipients = .ok record.recipients ∧
        (principal = record.principal ∧ (principal : Int) ≤ uint64Max ∧
          0 < record.principal) ∧
        channelId = record.channelId ∧ (channelId : Int) ≤ uint64Max ∧
          0 < record.channelId := by
  simp only [checkRecord, bind_eq_ok_iff, requireUint64_eq_ok_iff,
    Option.some.injEq, Json.int.injEq]
  constructor
  · rintro ⟨_, rfl, _, rfl, _, ⟨rfl, small, isPositive⟩, _,
      ⟨rfl, channelSmall, channelPositive⟩, ⟨⟩⟩
    exact ⟨rfl, rfl, ⟨rfl, small, isPositive trivial⟩, rfl, channelSmall,
      channelPositive trivial⟩
  · rintro ⟨rfl, rfl, ⟨rfl, small, isPositive⟩, rfl, channelSmall,
      channelPositive⟩
    exact ⟨_, rfl, _, rfl, _, ⟨rfl, small, fun _ => isPositive⟩, _,
      ⟨rfl, channelSmall, fun _ => channelPositive⟩, rfl⟩

/-- A call of one of the `publish_*` methods. -/
inductive PublishMethod where
  | sendRequest (principal : Int) (token : String) (channelId : Int)
      (req : SendRequestInput) (recipients : Option (List Int))
  | sendResult (principal : Int) (token : String) (channelId : Int)
      (recipients : List Int) (req : SendResultInput)
  | syncRecord (principal : Int) (token : String) (channelId : Int)
      (recipients : List Int) (req : SyncRecordInput)

namespace PublishMethod

def token : PublishMethod → String
  | .sendRequest _ token _ _ _ => token
  | .sendResult _ token _ _ _ => token
  | .syncRecord _ token _ _ _ => token

/-- The record that the method tries to commit. -/
def record : PublishMethod → Except PyError Record
  | .sendRequest principal _ channelId req recipients =>
      checkRecord (encodeSendRequest text req)
        (normalizeRecipients recipients false) principal channelId
  | .sendResult principal _ channelId recipients req =>
      checkRecord (encodeSendResult text req)
        (normalizeRecipients (some recipients) false) principal channelId
  | .syncRecord principal _ channelId recipients req =>
      checkRecord (encodeSyncRecord text req)
        (normalizeRecipients (some recipients) true) principal channelId

def publish : PublishMethod → Action Nat
  | .sendRequest principal token channelId req recipients =>
      publishSendRequest text principal token channelId req recipients
  | .sendResult principal token channelId recipients req =>
      publishSendResult text principal token channelId recipients req
  | .syncRecord principal token channelId recipients req =>
      publishSyncRecord text principal token channelId recipients req

theorem publish_checked (payload : Except PyError ByteArray)
    (recipients : Except PyError (List Nat)) (principal channelId : Int)
    (token : String) :
    (do
      let payload ← Action.ofExcept payload
      let recipients ← Action.ofExcept recipients
      Client.publish principal token channelId payload recipients) =
    (Action.ofExcept (checkRecord payload recipients principal channelId) >>=
      publishRecord token) := by
  unfold Client.publish checkRecord
  cases payload with
  | error error => rfl
  | ok payload =>
      cases recipients with
      | error error => rfl
      | ok recipients =>
          cases requireUint64 (some (.int principal)) "principal" true with
          | error error => rfl
          | ok principal =>
              cases requireUint64 (some (.int channelId)) "channel_id" true with
              | error error => rfl
              | ok channelId => rfl

/-- Every method checks its arguments and publishes the record. -/
theorem publish_eq (method : PublishMethod) :
    method.publish text =
      (Action.ofExcept (method.record text) >>=
        publishRecord method.token) := by
  cases method with
  | sendRequest => exact publish_checked _ _ _ _ _
  | sendResult => exact publish_checked _ _ _ _ _
  | syncRecord => exact publish_checked _ _ _ _ _

/-- Arguments that are refused are malformed. -/
theorem raisesMalformed_record (method : PublishMethod) :
    RaisesMalformed (method.record text) := by
  have checked : ∀ {payload : Except PyError ByteArray} {recipients}
      {principal channelId : Int}, RaisesMalformed payload →
        RaisesMalformed recipients →
          RaisesMalformed
            (checkRecord payload recipients principal channelId) := by
    intro payload recipients principal channelId payloadChecked
      recipientsChecked
    apply payloadChecked.bind
    intro _
    apply recipientsChecked.bind
    intro _
    apply (raisesMalformed_requireUint64 _ _ _).bind
    intro _
    exact (raisesMalformed_requireUint64 _ _ _).bind
      fun _ => raisesMalformed_ok _
  cases method with
  | sendRequest =>
      exact checked (raisesMalformed_encodeSendRequest text _)
        (raisesMalformed_normalizeRecipients _ _)
  | sendResult =>
      exact checked (raisesMalformed_encodeSendResult text _)
        (raisesMalformed_normalizeRecipients _ _)
  | syncRecord =>
      exact checked (raisesMalformed_encodeSyncRecord text _)
        (raisesMalformed_normalizeRecipients _ _)

end PublishMethod

end Methods

/-! ## Parsing messages -/

/-- `ParsedMessage`, each field at the type that the parser has checked. -/
structure ParsedMessage where
  seq : Nat
  channelId : Nat
  principal : Nat
  recipients : List Nat
  kind : Kind
  payload : JsonObject
  data : JsonObject
  eventMs : Int
  ingestedMs : Option Int
  requestId : Option String
  prevSeq : Option Nat

/-- `fields[key]`, read at a type. -/
def subscript {Value : Type} (read : Json → Option Value) (key : String)
    (fields : JsonObject) : Except PyError Value :=
  match (Items.get? key fields).bind read with
  | some value => .ok value
  | none => .error (.raised .keyError key)

/-- The kind that a JSON value names. -/
def kind? (value : Json) : Option Kind := value.str?.bind Kind.ofText?

/-- The sequence number that a JSON value is. -/
def seq? (value : Json) : Option Nat := value.int?.map Int.toNat

/-- `parse_message`. -/
def parseMessage (text : JsonText) (message : Message) :
    Except PyError ParsedMessage := do
  let payload ← decodePayload text message.payload
  let timestamps ← subscript Json.obj? "timestamps" payload
  let seq ← requireUint64 (some (.int message.seq)) "message.seq" false
  let channelId ← requireUint64 (some (.int message.channelId))
    "message.channel_id" true
  let principal ← requireUint64 (some (.int message.principal))
    "message.principal" true
  let recipients ← normalizeRecipients
    (some (message.recipients.map fun item : Nat => (item : Int))) false
  let kind ← subscript kind? "kind" payload
  let data ← subscript Json.obj? "data" payload
  let eventMs ← subscript Json.int? "event_ms" timestamps
  return {
    seq, channelId, principal, recipients, kind, payload, data, eventMs
    ingestedMs := (Items.get? "ingested_ms" timestamps).bind Json.int?
    requestId := (Items.get? "request_id" payload).bind Json.str?
    prevSeq := (Items.get? "prev_seq" payload).bind seq? }

end OpenEventIm.Sdk.Client
