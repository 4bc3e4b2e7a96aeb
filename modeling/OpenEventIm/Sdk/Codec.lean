import OpenEventIm.Foundation.Checked
import OpenEventIm.Foundation.JsonText
import OpenEventIm.Sdk.Normalizer

/-!
# Payload encoding and parsing

The payloads of the three `im.v1` kinds: the inputs the SDK encodes, the
encoders, and the parser that every reader of the log applies.  Bytes are the
UTF-8 encoding of the text that a JSON library prints.

`parsePayloadObject_eq_ok_iff` states what the parser accepts as one predicate
on the payload, `ValidEnvelope`.
-/

namespace OpenEventIm.Sdk.Codec

open OpenEventIm.Foundation
open OpenEventIm.Foundation.Checked
open OpenEventIm.Sdk.Errors
open OpenEventIm.Sdk.Normalizer

/-! ## Data model -/

/-- `VALID_KINDS`. -/
inductive Kind where
  | syncRecord
  | sendRequest
  | sendResult
deriving DecidableEq, Repr

/-- The text of a kind in a payload. -/
def Kind.text : Kind → String
  | .syncRecord => "sync.record"
  | .sendRequest => "send.request"
  | .sendResult => "send.result"

def Kind.ofText? (text : String) : Option Kind :=
  if text = "sync.record" then some .syncRecord
  else if text = "send.request" then some .sendRequest
  else if text = "send.result" then some .sendResult
  else none

theorem Kind.ofText?_eq_some_iff {text : String} {kind : Kind} :
    Kind.ofText? text = some kind ↔ text = kind.text := by
  unfold Kind.ofText?
  constructor
  · intro found
    split_ifs at found with record request result
    all_goals cases found; assumption
  · rintro rfl
    cases kind <;> decide

@[simp]
theorem Kind.ofText?_text (kind : Kind) :
    Kind.ofText? kind.text = some kind :=
  Kind.ofText?_eq_some_iff.mpr rfl

structure SendRequestInput where
  requestId : String
  msgType : String
  content : Json
  eventMs : Int
  prevSeq : Option Int

structure SendResultInput where
  requestId : String
  prevSeq : Int
  status : String
  eventMs : Int
  providerMessageId : Option String
  errorCode : Option String
  errorMessage : Option String

structure SyncRecordInput where
  providerMessageId : String
  msgType : String
  contentRaw : Json
  eventMs : Int
  ingestedMs : Int
  prevSeq : Option Int
  text : Option String
  isInit : Option Bool
  contentOmitted : Option Bool
  omitReason : Option String
  textPreview : Option String
  extraData : JsonObject

/-! ## Parser -/

/-- The check of `kind` before its value is looked up. -/
def requireKindText (value : Option Json) : Except PyError String :=
  match value with
  | some (.str text) => .ok text
  | _ => malformed "kind must be a string"

/-- The membership check in `VALID_KINDS`. -/
def requireKind (text : String) : Except PyError Kind :=
  match Kind.ofText? text with
  | some kind => .ok kind
  | none => .error (.raised .invalidKindError s!"invalid kind: {text}")

/-- The checks of a `sync.record`. -/
def requireSyncRecord (data timestamps : JsonObject) :
    Except PyError Unit := do
  verify (requireTimestampMs (Items.get? "ingested_ms" timestamps)
    "timestamps.ingested_ms")
  verify (requireNonEmptyStr (Items.get? "provider_message_id" data)
    "data.provider_message_id")
  verify (requireNonEmptyStr (Items.get? "msg_type" data) "data.msg_type")
  verify (requireObject (Items.get? "content_raw" data) "data.content_raw")

/-- The checks of a `send.request`'s data. -/
def requireSendRequest (data : JsonObject) : Except PyError Unit := do
  verify (requireNonEmptyStr (Items.get? "msg_type" data) "data.msg_type")
  verify (requireObject (Items.get? "content" data) "data.content")

/-- The checks of a `send.result`'s reference and data. -/
def requireSendResult (payload data : JsonObject) : Except PyError Unit := do
  verify (requireUint64 (Items.get? "prev_seq" payload) "prev_seq" false)
  let status ← requireNonEmptyStr (Items.get? "status" data) "data.status"
  require (status = "SUCCESS" ∨ status = "FAILED")
    (.raised .malformedPayloadError "data.status must be SUCCESS or FAILED")

/-- `parse_payload_object`. -/
def parsePayloadObject (value : Json) : Except PyError JsonObject := do
  let payload ← requireObject (some value) "payload"
  rejectSourcePrincipal (.obj payload)
  let kindText ← requireKindText (Items.get? "kind" payload)
  let kind ← requireKind kindText
  let data ← requireObject (Items.get? "data" payload) "data"
  let timestamps ← requireObject (Items.get? "timestamps" payload)
    "timestamps"
  verify (requireTimestampMs (Items.get? "event_ms" timestamps)
    "timestamps.event_ms")
  whenever (kind = .syncRecord) (requireSyncRecord data timestamps)
  whenever (Items.get? "prev_seq" payload ≠ none)
    (verify (requireUint64 (Items.get? "prev_seq" payload) "prev_seq" false))
  whenever (kind = .sendRequest ∨ kind = .sendResult)
    (verify (requireNonEmptyStr (Items.get? "request_id" payload)
      "request_id"))
  whenever (kind = .sendRequest) (requireSendRequest data)
  whenever (kind = .sendResult) (requireSendResult payload data)
  return payload

/-! ## Bytes -/

section Text

variable (text : JsonText)

/-- `encode_payload`. -/
def encodePayload (payload : JsonObject) : ByteArray :=
  (text.dumps (.obj payload)).toUTF8

/-- The decoding step of `decode_payload`, before the parser. -/
def loadPayload (payload : ByteArray) : Except PyError Json :=
  match (String.fromUTF8? payload).bind text.loads with
  | some value => .ok value
  | none => malformed "payload must be UTF-8 JSON"

/-- `decode_payload`. -/
def decodePayload (payload : ByteArray) : Except PyError JsonObject := do
  let value ← loadPayload text payload
  parsePayloadObject value

theorem loadPayload_encodePayload {payload : JsonObject}
    (wellFormed : (Json.obj payload).WellFormed) :
    loadPayload text (encodePayload text payload) = .ok (.obj payload) := by
  have decoded : String.fromUTF8? (text.dumps (.obj payload)).toUTF8 =
      some (text.dumps (.obj payload)) := by
    have valid : (text.dumps (.obj payload)).toUTF8.IsValidUTF8 :=
      (text.dumps (.obj payload)).isValidUTF8
    unfold String.fromUTF8?
    rw [dif_pos valid]
    rfl
  unfold loadPayload encodePayload
  rw [decoded, Option.bind_some, text.loads_dumps _ wellFormed]

/-! ## Encoders -/

/-- Set a key only when the optional field is present. -/
def setOptional (key : String) (value : Option Json) (fields : JsonObject) :
    JsonObject :=
  match value with
  | some value => Items.set key value fields
  | none => fields

/-- Check an optional field when it is present. -/
def checkOptional {Value Result : Type}
    (check : Value → Except PyError Result) (value : Option Value) :
    Except PyError (Option Result) :=
  match value with
  | some value => (check value).map some
  | none => .ok none

/-- The payload dictionary that `encode_send_request` builds. -/
def sendRequestPayload (req : SendRequestInput) :
    Except PyError JsonObject := do
  let requestId ← requireNonEmptyStr (some (.str req.requestId)) "request_id"
  let msgType ← requireNonEmptyStr (some (.str req.msgType)) "data.msg_type"
  let content ← requireObject (some req.content) "data.content"
  let eventMs ← requireTimestampMs (some (.int req.eventMs))
    "timestamps.event_ms"
  let prevSeq ← checkOptional
    (fun seq => requireUint64 (some (.int seq)) "prev_seq" false) req.prevSeq
  return setOptional "prev_seq" (prevSeq.map fun seq : Nat => Json.int seq)
    [("kind", .str "send.request"),
      ("request_id", .str requestId),
      ("data", .obj [("msg_type", .str msgType), ("content", .obj content)]),
      ("timestamps", .obj [("event_ms", .int eventMs)])]

/-- `encode_send_request`. -/
def encodeSendRequest (req : SendRequestInput) : Except PyError ByteArray := do
  let payload ← sendRequestPayload req
  return encodePayload text payload

/-- The payload dictionary that `encode_send_result` builds. -/
def sendResultPayload (req : SendResultInput) :
    Except PyError JsonObject := do
  let requestId ← requireNonEmptyStr (some (.str req.requestId)) "request_id"
  let prevSeq ← requireUint64 (some (.int req.prevSeq)) "prev_seq" false
  let status ← requireNonEmptyStr (some (.str req.status)) "data.status"
  require (status = "SUCCESS" ∨ status = "FAILED")
    (.raised .malformedPayloadError "data.status must be SUCCESS or FAILED")
  let eventMs ← requireTimestampMs (some (.int req.eventMs))
    "timestamps.event_ms"
  let providerMessageId ← checkOptional
    (fun value => requireNonEmptyStr (some (.str value))
      "data.provider_message_id") req.providerMessageId
  let errorCode ← checkOptional
    (fun value => requireNonEmptyStr (some (.str value)) "data.error_code")
    req.errorCode
  let errorMessage ← checkOptional
    (fun value => requireNonEmptyStr (some (.str value))
      "data.error_message") req.errorMessage
  return [("kind", .str "send.result"),
    ("prev_seq", .int prevSeq),
    ("request_id", .str requestId),
    ("data", .obj
      (setOptional "error_message" (errorMessage.map .str)
        (setOptional "error_code" (errorCode.map .str)
          (setOptional "provider_message_id" (providerMessageId.map .str)
            [("status", .str status)])))),
    ("timestamps", .obj [("event_ms", .int eventMs)])]

/-- `encode_send_result`. -/
def encodeSendResult (req : SendResultInput) : Except PyError ByteArray := do
  let payload ← sendResultPayload req
  return encodePayload text payload

/-- The `data` dictionary that `encode_sync_record` builds. -/
def syncRecordData (req : SyncRecordInput) (contentRaw : JsonObject)
    (omitReason : Option String) : JsonObject :=
  setOptional "text_preview" (req.textPreview.map .str)
    (setOptional "omit_reason" (omitReason.map .str)
      (setOptional "content_omitted" (req.contentOmitted.map .bool)
        (setOptional "is_init" (req.isInit.map .bool)
          (setOptional "text" (req.text.map .str)
            (Items.update req.extraData
              [("provider_message_id", .str req.providerMessageId),
                ("msg_type", .str req.msgType),
                ("content_raw", .obj contentRaw)])))))

/-- The payload dictionary that `encode_sync_record` builds. -/
def syncRecordPayload (req : SyncRecordInput) :
    Except PyError JsonObject := do
  verify (requireNonEmptyStr (some (.str req.providerMessageId))
    "data.provider_message_id")
  verify (requireNonEmptyStr (some (.str req.msgType)) "data.msg_type")
  let contentRaw ← requireObject (some req.contentRaw) "data.content_raw"
  let eventMs ← requireTimestampMs (some (.int req.eventMs))
    "timestamps.event_ms"
  let ingestedMs ← requireTimestampMs (some (.int req.ingestedMs))
    "timestamps.ingested_ms"
  let omitReason ← checkOptional
    (fun value => requireNonEmptyStr (some (.str value)) "data.omit_reason")
    req.omitReason
  let prevSeq ← checkOptional
    (fun seq => requireUint64 (some (.int seq)) "prev_seq" false) req.prevSeq
  return setOptional "prev_seq" (prevSeq.map fun seq : Nat => Json.int seq)
    [("kind", .str "sync.record"),
      ("data", .obj (syncRecordData req contentRaw omitReason)),
      ("timestamps", .obj
        [("event_ms", .int eventMs), ("ingested_ms", .int ingestedMs)])]

/-- `encode_sync_record`. -/
def encodeSyncRecord (req : SyncRecordInput) : Except PyError ByteArray := do
  let payload ← syncRecordPayload req
  return encodePayload text payload

/-! ## What an encoder raises -/

theorem raisesMalformed_checkOptional {Value Result : Type}
    {check : Value → Except PyError Result}
    (each : ∀ value, RaisesMalformed (check value)) (value : Option Value) :
    RaisesMalformed (checkOptional check value) := by
  cases value with
  | none => exact raisesMalformed_ok _
  | some value => exact (each value).map some

theorem raisesMalformed_verify {Result : Type}
    {check : Except PyError Result} (each : RaisesMalformed check) :
    RaisesMalformed (verify check) := each.map fun _ => ()

theorem raisesMalformed_require {condition : Prop} [Decidable condition]
    (message : String) :
    RaisesMalformed (require condition
      (.raised .malformedPayloadError message)) := by
  unfold require
  split_ifs
  · exact raisesMalformed_ok _
  · exact raisesMalformed_malformed _

theorem raisesMalformed_encodeSendRequest (req : SendRequestInput) :
    RaisesMalformed (encodeSendRequest text req) := by
  apply RaisesMalformed.bind _ fun _ => raisesMalformed_ok _
  apply (raisesMalformed_requireNonEmptyStr _ _).bind
  intro requestId
  apply (raisesMalformed_requireNonEmptyStr _ _).bind
  intro msgType
  apply (raisesMalformed_requireObject _ _).bind
  intro content
  apply (raisesMalformed_requireTimestampMs _ _).bind
  intro eventMs
  exact (raisesMalformed_checkOptional
    (fun _ => raisesMalformed_requireUint64 _ _ _) _).bind
      fun _ => raisesMalformed_ok _

theorem raisesMalformed_encodeSendResult (req : SendResultInput) :
    RaisesMalformed (encodeSendResult text req) := by
  have optional : ∀ fieldName value, RaisesMalformed (checkOptional
      (fun value => requireNonEmptyStr (some (.str value)) fieldName)
      value) := fun _ value => raisesMalformed_checkOptional
    (fun _ => raisesMalformed_requireNonEmptyStr _ _) value
  apply RaisesMalformed.bind _ fun _ => raisesMalformed_ok _
  apply (raisesMalformed_requireNonEmptyStr _ _).bind
  intro requestId
  apply (raisesMalformed_requireUint64 _ _ _).bind
  intro prevSeq
  apply (raisesMalformed_requireNonEmptyStr _ _).bind
  intro status
  apply (raisesMalformed_require _).bind
  intro _
  apply (raisesMalformed_requireTimestampMs _ _).bind
  intro eventMs
  apply (optional _ _).bind
  intro providerMessageId
  apply (optional _ _).bind
  intro errorCode
  exact (optional _ _).bind fun _ => raisesMalformed_ok _

theorem raisesMalformed_encodeSyncRecord (req : SyncRecordInput) :
    RaisesMalformed (encodeSyncRecord text req) := by
  apply RaisesMalformed.bind _ fun _ => raisesMalformed_ok _
  apply (raisesMalformed_verify (raisesMalformed_requireNonEmptyStr _ _)).bind
  intro _
  apply (raisesMalformed_verify (raisesMalformed_requireNonEmptyStr _ _)).bind
  intro _
  apply (raisesMalformed_requireObject _ _).bind
  intro contentRaw
  apply (raisesMalformed_requireTimestampMs _ _).bind
  intro eventMs
  apply (raisesMalformed_requireTimestampMs _ _).bind
  intro ingestedMs
  apply (raisesMalformed_checkOptional
    (fun _ => raisesMalformed_requireNonEmptyStr _ _) _).bind
  intro omitReason
  exact (raisesMalformed_checkOptional
    (fun _ => raisesMalformed_requireUint64 _ _ _) _).bind
      fun _ => raisesMalformed_ok _

end Text

/-! ## What the parser accepts -/

/-- The fields that a `sync.record` must carry. -/
structure ValidSyncRecord (data timestamps : JsonObject) : Prop where
  ingestedMs : ∃ ms, Items.get? "ingested_ms" timestamps = some (.int ms) ∧
    0 ≤ ms
  providerMessageId : ∃ value,
    Items.get? "provider_message_id" data = some (.str value) ∧ value ≠ ""
  msgType : ∃ value,
    Items.get? "msg_type" data = some (.str value) ∧ value ≠ ""
  contentRaw : ∃ fields, Items.get? "content_raw" data = some (.obj fields)

/-- The fields that a `send.request`'s data must carry. -/
structure ValidSendRequest (data : JsonObject) : Prop where
  msgType : ∃ value,
    Items.get? "msg_type" data = some (.str value) ∧ value ≠ ""
  content : ∃ fields, Items.get? "content" data = some (.obj fields)

/-- The reference and status that a `send.result` must carry. -/
structure ValidSendResult (payload data : JsonObject) : Prop where
  prevSeq : Items.get? "prev_seq" payload ≠ none
  status : Items.get? "status" data = some (.str "SUCCESS") ∨
    Items.get? "status" data = some (.str "FAILED")

/-- The `im.v1` envelope, for one kind and its nested objects. -/
structure ValidEnvelope (payload : JsonObject) (kind : Kind)
    (data timestamps : JsonObject) : Prop where
  noSourcePrincipal : ¬(Json.obj payload).MentionsKey "source_principal"
  kindField : Items.get? "kind" payload = some (.str kind.text)
  dataField : Items.get? "data" payload = some (.obj data)
  timestampsField :
    Items.get? "timestamps" payload = some (.obj timestamps)
  eventMs : ∃ ms, Items.get? "event_ms" timestamps = some (.int ms) ∧ 0 ≤ ms
  prevSeq : ∀ value, Items.get? "prev_seq" payload = some value →
    ∃ seq : Nat, value = .int seq ∧ (seq : Int) ≤ uint64Max
  requestId : kind = .sendRequest ∨ kind = .sendResult →
    ∃ value, Items.get? "request_id" payload = some (.str value) ∧
      value ≠ ""
  syncRecord : kind = .syncRecord → ValidSyncRecord data timestamps
  sendRequest : kind = .sendRequest → ValidSendRequest data
  sendResult : kind = .sendResult → ValidSendResult payload data

theorem requireKindText_eq_ok_iff {value : Option Json} {text : String} :
    requireKindText value = .ok text ↔ value = some (.str text) := by
  unfold requireKindText
  split
  · simp
  · rename_i notStr
    simp only [malformed, reduceCtorEq, false_iff]
    rintro rfl
    exact notStr _ rfl

theorem requireKind_eq_ok_iff {text : String} {kind : Kind} :
    requireKind text = .ok kind ↔ text = kind.text := by
  rw [← Kind.ofText?_eq_some_iff]
  unfold requireKind
  split
  · rename_i found
    simp [found]
  · rename_i missing
    simp [missing]

theorem requireSyncRecord_eq_ok_iff {data timestamps : JsonObject} :
    requireSyncRecord data timestamps = .ok () ↔
      ValidSyncRecord data timestamps := by
  simp only [requireSyncRecord, unit_bind_eq_ok_iff, verify_eq_ok_iff,
    requireTimestampMs_eq_ok_iff, requireNonEmptyStr_eq_ok_iff,
    requireObject_eq_ok_iff]
  constructor
  · rintro ⟨ingested, messageId, msgType, content⟩
    exact ⟨ingested, messageId, msgType, content⟩
  · intro valid
    exact ⟨valid.ingestedMs, valid.providerMessageId, valid.msgType,
      valid.contentRaw⟩

theorem requireSendRequest_eq_ok_iff {data : JsonObject} :
    requireSendRequest data = .ok () ↔ ValidSendRequest data := by
  simp only [requireSendRequest, unit_bind_eq_ok_iff, verify_eq_ok_iff,
    requireNonEmptyStr_eq_ok_iff, requireObject_eq_ok_iff]
  constructor
  · rintro ⟨msgType, content⟩
    exact ⟨msgType, content⟩
  · intro valid
    exact ⟨valid.msgType, valid.content⟩

theorem requireSendResult_eq_ok_iff {payload data : JsonObject}
    (prevSeq : ∀ value, Items.get? "prev_seq" payload = some value →
      ∃ seq : Nat, value = .int seq ∧ (seq : Int) ≤ uint64Max) :
    requireSendResult payload data = .ok () ↔
      ValidSendResult payload data := by
  rw [requireSendResult, unit_bind_eq_ok_iff, bind_eq_ok_iff]
  simp only [verify_eq_ok_iff, requireUint64_eq_ok_iff,
    requireNonEmptyStr_eq_ok_iff, require_eq_ok_iff]
  constructor
  · rintro ⟨⟨seq, found, -⟩, status, ⟨stored, -⟩, rfl | rfl⟩
    · exact ⟨by simp [found], Or.inl stored⟩
    · exact ⟨by simp [found], Or.inr stored⟩
  · intro valid
    obtain ⟨value, found⟩ := Option.ne_none_iff_exists'.mp valid.prevSeq
    obtain ⟨seq, rfl, small⟩ := prevSeq value found
    refine ⟨⟨seq, found, small, by simp⟩, ?_⟩
    rcases valid.status with stored | stored
    · exact ⟨_, ⟨stored, by decide⟩, Or.inl rfl⟩
    · exact ⟨_, ⟨stored, by decide⟩, Or.inr rfl⟩

private theorem verify_prevSeq_iff {payload : JsonObject} :
    whenever (Items.get? "prev_seq" payload ≠ none)
        (verify (requireUint64 (Items.get? "prev_seq" payload) "prev_seq"
          false)) = .ok () ↔
      ∀ value, Items.get? "prev_seq" payload = some value →
        ∃ seq : Nat, value = .int seq ∧ (seq : Int) ≤ uint64Max := by
  simp only [whenever_eq_ok_iff, verify_eq_ok_iff, requireUint64_eq_ok_iff]
  constructor
  · intro checked value found
    obtain ⟨seq, equal, small, -⟩ := checked (by simp [found])
    rw [found, Option.some.injEq] at equal
    exact ⟨seq, equal, small⟩
  · intro checked present
    obtain ⟨value, found⟩ := Option.ne_none_iff_exists'.mp present
    obtain ⟨seq, rfl, small⟩ := checked value found
    exact ⟨seq, found, small, by simp⟩

/-- The parser returns its argument, exactly on the objects with an envelope. -/
theorem parsePayloadObject_eq_ok_iff {value : Json} {payload : JsonObject} :
    parsePayloadObject value = .ok payload ↔
      value = .obj payload ∧
        ∃ kind data timestamps, ValidEnvelope payload kind data timestamps := by
  simp only [parsePayloadObject, bind_eq_ok_iff, ↓unit_bind_eq_ok_iff,
    requireObject_eq_ok_iff, Option.some.injEq,
    rejectSourcePrincipal_eq_ok_iff, requireKindText_eq_ok_iff,
    requireKind_eq_ok_iff, verify_prevSeq_iff]
  constructor
  · rintro ⟨found, rfl, clean, text, kindFound, kind, rfl, data, dataFound,
      timestamps, timestampsFound, eventMs, record, prevSeq, requestId,
      request, result, returned⟩
    cases returned
    rw [verify_eq_ok_iff] at eventMs
    simp only [requireTimestampMs_eq_ok_iff] at eventMs
    rw [whenever_eq_ok_iff, requireSyncRecord_eq_ok_iff] at record
    rw [whenever_eq_ok_iff, verify_eq_ok_iff] at requestId
    simp only [requireNonEmptyStr_eq_ok_iff] at requestId
    rw [whenever_eq_ok_iff, requireSendRequest_eq_ok_iff] at request
    rw [whenever_eq_ok_iff, requireSendResult_eq_ok_iff prevSeq] at result
    exact ⟨rfl, kind, data, timestamps,
      ⟨clean, kindFound, dataFound, timestampsFound, eventMs, prevSeq,
        requestId, record, request, result⟩⟩
  · rintro ⟨rfl, kind, data, timestamps, valid⟩
    refine ⟨payload, rfl, valid.noSourcePrincipal, kind.text,
      valid.kindField, kind, rfl, data, valid.dataField, timestamps,
      valid.timestampsField, ?_, ?_,
      valid.prevSeq, ?_, ?_, ?_, rfl⟩
    · rw [verify_eq_ok_iff]
      simpa only [requireTimestampMs_eq_ok_iff] using valid.eventMs
    · rw [whenever_eq_ok_iff, requireSyncRecord_eq_ok_iff]
      exact valid.syncRecord
    · rw [whenever_eq_ok_iff, verify_eq_ok_iff]
      simpa only [requireNonEmptyStr_eq_ok_iff] using valid.requestId
    · rw [whenever_eq_ok_iff, requireSendRequest_eq_ok_iff]
      exact valid.sendRequest
    · rw [whenever_eq_ok_iff, requireSendResult_eq_ok_iff valid.prevSeq]
      exact valid.sendResult

/-! ## What the parser raises -/

/-- The computation fails, if at all, with an `ImProtocolError`. -/
def RaisesProtocolError {Result : Type} (check : Except PyError Result) :
    Prop :=
  ∀ error, check = .error error → error.cls.isImProtocolError = true

section Raises

variable {Result Next : Type}

theorem raisesProtocolError_ok (result : Result) :
    RaisesProtocolError (.ok result) := by
  rintro error ⟨⟩

theorem raisesProtocolError_of_malformed {check : Except PyError Result}
    (malformed : RaisesMalformed check) : RaisesProtocolError check := by
  intro error failed
  rcases malformed error failed with ⟨message, rfl⟩
  rfl

theorem RaisesProtocolError.bind {check : Except PyError Result}
    {continuation : Result → Except PyError Next}
    (first : RaisesProtocolError check)
    (rest : ∀ result, RaisesProtocolError (continuation result)) :
    RaisesProtocolError (check >>= continuation) := by
  cases check with
  | error error =>
      rintro raised ⟨⟩
      exact first error rfl
  | ok result => exact rest result

theorem raisesMalformed_whenever {condition : Prop} [Decidable condition]
    {check : Except PyError Unit} (malformed : RaisesMalformed check) :
    RaisesMalformed (whenever condition check) := by
  unfold whenever
  split_ifs
  · exact malformed
  · exact raisesMalformed_ok _

mutual

theorem raisesMalformed_rejectSourcePrincipal (value : Json) :
    RaisesMalformed (rejectSourcePrincipal value) := by
  cases value with
  | obj fields =>
      rw [rejectSourcePrincipal]
      split_ifs
      · exact raisesMalformed_malformed _
      · exact raisesMalformed_rejectSourcePrincipalValues fields
  | arr items =>
      rw [rejectSourcePrincipal]
      exact raisesMalformed_rejectSourcePrincipalItems items
  | null => exact raisesMalformed_ok _
  | bool => exact raisesMalformed_ok _
  | int => exact raisesMalformed_ok _
  | float => exact raisesMalformed_ok _
  | str => exact raisesMalformed_ok _

theorem raisesMalformed_rejectSourcePrincipalValues (fields : JsonObject) :
    RaisesMalformed (rejectSourcePrincipalValues fields) := by
  cases fields with
  | nil => exact raisesMalformed_ok _
  | cons field rest =>
      have head := raisesMalformed_rejectSourcePrincipal field.2
      have tail := raisesMalformed_rejectSourcePrincipalValues rest
      rw [rejectSourcePrincipalValues]
      cases checked : rejectSourcePrincipal field.2 with
      | ok => exact tail
      | error error =>
          rw [checked] at head
          exact head

theorem raisesMalformed_rejectSourcePrincipalItems (items : List Json) :
    RaisesMalformed (rejectSourcePrincipalItems items) := by
  cases items with
  | nil => exact raisesMalformed_ok _
  | cons item rest =>
      have head := raisesMalformed_rejectSourcePrincipal item
      have tail := raisesMalformed_rejectSourcePrincipalItems rest
      rw [rejectSourcePrincipalItems]
      cases checked : rejectSourcePrincipal item with
      | ok => exact tail
      | error error =>
          rw [checked] at head
          exact head

end

theorem raisesMalformed_requireSyncRecord (data timestamps : JsonObject) :
    RaisesMalformed (requireSyncRecord data timestamps) := by
  apply (raisesMalformed_verify (raisesMalformed_requireTimestampMs _ _)).bind
  intro _
  apply (raisesMalformed_verify (raisesMalformed_requireNonEmptyStr _ _)).bind
  intro _
  apply (raisesMalformed_verify (raisesMalformed_requireNonEmptyStr _ _)).bind
  intro _
  exact raisesMalformed_verify (raisesMalformed_requireObject _ _)

theorem raisesMalformed_requireSendRequest (data : JsonObject) :
    RaisesMalformed (requireSendRequest data) := by
  apply (raisesMalformed_verify (raisesMalformed_requireNonEmptyStr _ _)).bind
  intro _
  exact raisesMalformed_verify (raisesMalformed_requireObject _ _)

theorem raisesMalformed_requireSendResult (payload data : JsonObject) :
    RaisesMalformed (requireSendResult payload data) := by
  apply (raisesMalformed_verify (raisesMalformed_requireUint64 _ _ _)).bind
  intro _
  apply (raisesMalformed_requireNonEmptyStr _ _).bind
  intro status
  exact raisesMalformed_require _

theorem raisesMalformed_requireKindText (value : Option Json) :
    RaisesMalformed (requireKindText value) := by
  unfold requireKindText
  split
  · exact raisesMalformed_ok _
  · exact raisesMalformed_malformed _

theorem raisesProtocolError_requireKind (text : String) :
    RaisesProtocolError (requireKind text) := by
  unfold requireKind
  split
  · exact raisesProtocolError_ok _
  · rintro error ⟨⟩
    rfl

theorem raisesProtocolError_parsePayloadObject (value : Json) :
    RaisesProtocolError (parsePayloadObject value) := by
  have malformed : ∀ {Value : Type} {check : Except PyError Value},
      RaisesMalformed check → RaisesProtocolError check :=
    fun raises => raisesProtocolError_of_malformed raises
  apply (malformed (raisesMalformed_requireObject _ _)).bind
  intro payload
  apply (malformed (raisesMalformed_rejectSourcePrincipal _)).bind
  intro _
  apply (malformed (raisesMalformed_requireKindText _)).bind
  intro kindText
  apply (raisesProtocolError_requireKind _).bind
  intro kind
  apply (malformed (raisesMalformed_requireObject _ _)).bind
  intro data
  apply (malformed (raisesMalformed_requireObject _ _)).bind
  intro timestamps
  apply (malformed (raisesMalformed_verify
    (raisesMalformed_requireTimestampMs _ _))).bind
  intro _
  apply (malformed (raisesMalformed_whenever
    (raisesMalformed_requireSyncRecord _ _))).bind
  intro _
  apply (malformed (raisesMalformed_whenever (raisesMalformed_verify
    (raisesMalformed_requireUint64 _ _ _)))).bind
  intro _
  apply (malformed (raisesMalformed_whenever (raisesMalformed_verify
    (raisesMalformed_requireNonEmptyStr _ _)))).bind
  intro _
  apply (malformed (raisesMalformed_whenever
    (raisesMalformed_requireSendRequest _))).bind
  intro _
  apply (malformed (raisesMalformed_whenever
    (raisesMalformed_requireSendResult _ _))).bind
  intro _
  exact raisesProtocolError_ok _

end Raises

/--
The parser accepts exactly the values with an envelope, and returns them
unchanged.  Every other value raises an `ImProtocolError`.
-/
theorem parsePayloadObject_acceptsEnvelopes (value : Json) :
    (∀ payload, parsePayloadObject value = .ok payload ↔
      value = .obj payload ∧
        ∃ kind data timestamps, ValidEnvelope payload kind data timestamps) ∧
      ((¬∃ payload, value = .obj payload ∧
        ∃ kind data timestamps,
          ValidEnvelope payload kind data timestamps) →
        ∃ error, parsePayloadObject value = .error error ∧
          error.cls.isImProtocolError = true) := by
  constructor
  · intro payload
    exact parsePayloadObject_eq_ok_iff
  · intro invalid
    cases parsed : parsePayloadObject value with
    | ok payload =>
        exact absurd ⟨payload, parsePayloadObject_eq_ok_iff.mp parsed⟩ invalid
    | error error =>
        exact ⟨error, rfl, raisesProtocolError_parsePayloadObject value error
          parsed⟩

end OpenEventIm.Sdk.Codec
