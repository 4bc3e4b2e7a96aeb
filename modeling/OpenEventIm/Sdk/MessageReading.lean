import OpenEventIm.Sdk.Client
import OpenEventIm.Sdk.CodecAcceptance

/-!
# What a message says

`parse_message` rejects some payloads that the encoders produce, so what a
message says is defined apart from what the parser accepts: `readMessage` reads
the fields of any JSON object.  An accepted message says what it was parsed to,
and a message with an encoded payload says what was encoded.

`parseMessage_published` puts the two together: the values of a published input
come back from the stored message unchanged.
-/

namespace OpenEventIm.Sdk.MessageReading

open OpenEventIm.Foundation
open OpenEventIm.Foundation.Checked
open OpenEventIm.Sdk.Errors
open OpenEventIm.Sdk.Normalizer
open OpenEventIm.Sdk.Codec
open OpenEventIm.Sdk.CodecAcceptance
open OpenEventIm.Sdk.Client
open OpenEventIm.Service.Calls
open OpenEventIm.Service.World

/-- The fields of a message with the given payload. -/
def readPayload (message : Message) (payload : JsonObject) :
    Option ParsedMessage := do
  let timestamps ← (Items.get? "timestamps" payload).bind Json.obj?
  let kind ← (Items.get? "kind" payload).bind kind?
  let data ← (Items.get? "data" payload).bind Json.obj?
  let eventMs ← (Items.get? "event_ms" timestamps).bind Json.int?
  return {
    seq := message.seq
    channelId := message.channelId
    principal := message.principal
    recipients := message.recipients
    kind, payload, data, eventMs
    ingestedMs := (Items.get? "ingested_ms" timestamps).bind Json.int?
    requestId := (Items.get? "request_id" payload).bind Json.str?
    prevSeq := (Items.get? "prev_seq" payload).bind seq? }

/-- What a message says, whether or not the parser accepts it. -/
def readMessage (text : JsonText) (message : Message) :
    Option ParsedMessage := do
  let value ← (loadPayload text message.payload).toOption
  let payload ← value.obj?
  readPayload message payload

/-- The numbers of a message fit the protocol. -/
structure Bounded (message : Message) : Prop where
  seq : (message.seq : Int) ≤ uint64Max
  channelId : (message.channelId : Int) ≤ uint64Max ∧ 0 < message.channelId
  principal : (message.principal : Int) ≤ uint64Max ∧ 0 < message.principal
  recipients : ∀ recipient ∈ message.recipients,
    (recipient : Int) ≤ uint64Max

variable {text : JsonText} {message : Message} {parsed : ParsedMessage}

theorem decodePayload_eq_ok_iff {bytes : ByteArray} {payload : JsonObject} :
    decodePayload text bytes = .ok payload ↔
      loadPayload text bytes = .ok (.obj payload) ∧ Accepts text bytes := by
  simp only [Accepts, decodePayload, bind_eq_ok_iff]
  constructor
  · rintro ⟨value, loaded, accepted⟩
    have isObject := (parsePayloadObject_eq_ok_iff.mp accepted).1
    subst isObject
    exact ⟨loaded, payload, _, loaded, accepted⟩
  · rintro ⟨loaded, other, value, otherLoaded, accepted⟩
    have isObject := (parsePayloadObject_eq_ok_iff.mp accepted).1
    subst isObject
    rw [loaded] at otherLoaded
    cases otherLoaded
    exact ⟨_, loaded, accepted⟩

theorem normalizeRecipients_natCast_iff {recipients result : List Nat} :
    normalizeRecipients
        (some (recipients.map fun item : Nat => (item : Int))) false =
          .ok result ↔
      result = recipients ∧
        ∀ recipient ∈ recipients, (recipient : Int) ≤ uint64Max := by
  simp only [normalizeRecipients, bind_eq_ok_iff, Bool.false_eq_true, if_false]
  constructor
  · rintro ⟨_, checked, ⟨⟩⟩
    obtain ⟨same, small⟩ := mem_of_mapM_requireUint64 checked
    have equal : recipients = result :=
      List.map_injective_iff.mpr Nat.cast_injective same
    subst equal
    exact ⟨rfl, small⟩
  · rintro ⟨rfl, small⟩
    exact ⟨_, mapM_requireUint64_natCast small, rfl⟩

theorem subscript_eq_ok_iff {Value : Type} {read : Json → Option Value}
    {key : String} {fields : JsonObject} {value : Value} :
    subscript read key fields = .ok value ↔
      (Items.get? key fields).bind read = some value := by
  rw [subscript]
  cases (Items.get? key fields).bind read with
  | none => simp
  | some found => simp

/-- A payload that decodes is read. -/
theorem readMessage_of_accepts (accepts : Accepts text message.payload) :
    ∃ parsed, readMessage text message = some parsed := by
  rcases accepts with ⟨payload, decoded⟩
  simp only [decodePayload, bind_eq_ok_iff] at decoded
  rcases decoded with ⟨value, loaded, accepted⟩
  rcases parsePayloadObject_eq_ok_iff.mp accepted with
    ⟨rfl, kind, data, timestamps, valid⟩
  rcases valid.eventMs with ⟨eventMs, found, -⟩
  have isKind : (Items.get? "kind" payload).bind kind? = some kind := by
    rw [valid.kindField]
    exact Kind.ofText?_text kind
  rw [readMessage, loaded]
  show ∃ parsed, readPayload message payload = some parsed
  simp [readPayload, isKind, valid.dataField, valid.timestampsField, found,
    Json.obj?, Json.int?]

/-- The parser accepts a message and returns what it says. -/
theorem parseMessage_eq_ok_iff :
    parseMessage text message = .ok parsed ↔
      readMessage text message = some parsed ∧
        Accepts text message.payload ∧ Bounded message := by
  simp only [parseMessage, bind_eq_ok_iff, decodePayload_eq_ok_iff,
    subscript_eq_ok_iff, requireUint64_eq_ok_iff, Option.some.injEq,
    Json.int.injEq, Nat.cast_inj, normalizeRecipients_natCast_iff, readMessage,
    readPayload, Option.bind_eq_bind, Option.bind_eq_some_iff]
  constructor
  · rintro ⟨payload, ⟨loaded, accepted⟩, timestamps, timestampsFound, seq,
      ⟨rfl, seqSmall, -⟩, channelId, ⟨rfl, channelSmall, channelPositive⟩,
      principal, ⟨rfl, principalSmall, principalPositive⟩, recipients,
      ⟨rfl, recipientsSmall⟩, kind, kindFound, data, dataFound, eventMs,
      eventMsFound, returned⟩
    cases returned
    exact ⟨⟨.obj payload, by rw [loaded]; rfl, payload, rfl, timestamps,
      timestampsFound, kind, kindFound, data, dataFound, eventMs,
      eventMsFound, rfl⟩, accepted,
      ⟨seqSmall, ⟨channelSmall, channelPositive trivial⟩,
        ⟨principalSmall, principalPositive trivial⟩, recipientsSmall⟩⟩
  · rintro ⟨⟨value, loaded, payload, isObject, timestamps, timestampsFound,
      kind, kindFound, data, dataFound, eventMs, eventMsFound, returned⟩,
      accepted, bounded⟩
    cases returned
    have loadedObject : loadPayload text message.payload =
        .ok (.obj payload) := by
      cases result : loadPayload text message.payload with
      | error error =>
          rw [result] at loaded
          cases loaded
      | ok other =>
          rw [result] at loaded
          cases loaded
          cases value with
          | obj fields =>
              cases isObject
              rfl
          | _ => cases isObject
    exact ⟨payload, ⟨loadedObject, accepted⟩, timestamps, timestampsFound,
      message.seq, ⟨rfl, bounded.seq, by simp⟩, message.channelId,
      ⟨rfl, bounded.channelId.1, fun _ => bounded.channelId.2⟩,
      message.principal,
      ⟨rfl, bounded.principal.1, fun _ => bounded.principal.2⟩,
      message.recipients, ⟨rfl, bounded.recipients⟩, kind, kindFound, data,
      dataFound, eventMs, eventMsFound, rfl⟩

/-- The envelope of a read message is the message's own. -/
theorem readMessage_envelope (read : readMessage text message = some parsed) :
    parsed.seq = message.seq ∧ parsed.channelId = message.channelId ∧
      parsed.principal = message.principal ∧
        parsed.recipients = message.recipients := by
  simp only [readMessage, readPayload, Option.bind_eq_bind,
    Option.bind_eq_some_iff] at read
  obtain ⟨_, -, _, -, _, -, _, -, _, -, _, -, returned⟩ := read
  cases returned
  exact ⟨rfl, rfl, rfl, rfl⟩

/-- The payload is read in the same way at another position of the log. -/
theorem parseMessage_moved {seq : Nat} (small : (seq : Int) ≤ uint64Max)
    (read : parseMessage text message = .ok parsed) :
    parseMessage text { message with seq := seq } =
      .ok { parsed with seq := seq } := by
  rw [parseMessage_eq_ok_iff] at read ⊢
  refine ⟨?_, read.2.1, { read.2.2 with seq := small }⟩
  have whole := read.1
  simp only [readMessage, readPayload, Option.bind_eq_bind,
    Option.bind_eq_some_iff] at whole ⊢
  rcases whole with ⟨value, loaded, payload, isObject, timestamps,
    timestampsFound, kind, kindFound, data, dataFound, eventMs, eventMsFound,
    returned⟩
  cases returned
  exact ⟨value, loaded, payload, isObject, timestamps, timestampsFound, kind,
    kindFound, data, dataFound, eventMs, eventMsFound, rfl⟩

/-- The `data` of a read message has distinct keys throughout. -/
theorem readMessage_wellFormed (read : readMessage text message = some parsed) :
    (Json.obj parsed.data).WellFormed := by
  simp only [readMessage, readPayload, Option.bind_eq_bind,
    Option.bind_eq_some_iff] at read
  obtain ⟨value, loaded, payload, isObject, _, -, _, -, data, dataFound, _, -,
    returned⟩ := read
  cases returned
  have decoded : (String.fromUTF8? message.payload).bind text.loads =
      some value := by
    rw [loadPayload] at loaded
    cases found : (String.fromUTF8? message.payload).bind text.loads with
    | none =>
        rw [found] at loaded
        cases loaded
    | some other =>
        rw [found] at loaded
        exact loaded
  rcases Option.bind_eq_some_iff.mp decoded with ⟨_, -, parses⟩
  have valueGood := text.loads_wellFormed _ _ parses
  rcases dataFound with ⟨inner, found, isData⟩
  cases value with
  | obj fields =>
      cases isObject
      cases inner with
      | obj =>
          cases isData
          exact (Json.wellFormed_obj_iff.mp valueGood).2 _
            (Items.mem_of_get? found)
      | _ => cases isData
  | _ => cases isObject

theorem parseMessage_wellFormed
    (read : parseMessage text message = .ok parsed) :
    (Json.obj parsed.data).WellFormed :=
  readMessage_wellFormed (parseMessage_eq_ok_iff.mp read).1

theorem parseMessage_envelope
    (read : parseMessage text message = .ok parsed) :
    parsed.seq = message.seq ∧ parsed.channelId = message.channelId ∧
      parsed.principal = message.principal ∧
        parsed.recipients = message.recipients :=
  readMessage_envelope (parseMessage_eq_ok_iff.mp read).1

/-! ## Encoded payloads -/

theorem readMessage_of_encoded {payload : JsonObject}
    (encoded : message.payload = encodePayload text payload)
    (wellFormed : (Json.obj payload).WellFormed) :
    readMessage text message = readPayload message payload := by
  simp only [readMessage, encoded, loadPayload_encodePayload text wellFormed]
  rfl

theorem encodeSendResult_of_payload (text : JsonText)
    {req : SendResultInput} {payload : JsonObject}
    (built : sendResultPayload req = .ok payload) :
    encodeSendResult text req = .ok (encodePayload text payload) := by
  rw [encodeSendResult, built]
  rfl

theorem encodeSyncRecord_of_payload (text : JsonText)
    {req : SyncRecordInput} {payload : JsonObject}
    (built : syncRecordPayload req = .ok payload) :
    encodeSyncRecord text req = .ok (encodePayload text payload) := by
  rw [encodeSyncRecord, built]
  rfl

/-- The values that an encoder's input sets. -/
structure InputValues where
  kind : Kind
  requestId : Option String
  prevSeq : Option Int
  eventMs : Int
  ingestedMs : Option Int
  /-- The fields of `data` that the input has set. -/
  named : JsonObject
  /-- The free-form fields of `data`. -/
  extraData : JsonObject

/-- The field of an optional value, when the input has set it. -/
def optionalField (key : String) (value : Option Json) : JsonObject :=
  (value.map fun value => (key, value)).toList

def inputValues : EncoderInput → InputValues
  | .sendRequest req =>
      { kind := .sendRequest
        requestId := some req.requestId
        prevSeq := req.prevSeq
        eventMs := req.eventMs
        ingestedMs := none
        named := [("msg_type", .str req.msgType), ("content", req.content)]
        extraData := [] }
  | .sendResult req =>
      { kind := .sendResult
        requestId := some req.requestId
        prevSeq := some req.prevSeq
        eventMs := req.eventMs
        ingestedMs := none
        named := ("status", .str req.status) ::
          (optionalField "provider_message_id"
              (req.providerMessageId.map .str) ++
            optionalField "error_code" (req.errorCode.map .str) ++
            optionalField "error_message" (req.errorMessage.map .str))
        extraData := [] }
  | .syncRecord req =>
      { kind := .syncRecord
        requestId := none
        prevSeq := req.prevSeq
        eventMs := req.eventMs
        ingestedMs := some req.ingestedMs
        named := ("provider_message_id", .str req.providerMessageId) ::
          ("msg_type", .str req.msgType) ::
          ("content_raw", req.contentRaw) ::
          (optionalField "text" (req.text.map .str) ++
            optionalField "is_init" (req.isInit.map .bool) ++
            optionalField "content_omitted" (req.contentOmitted.map .bool) ++
            optionalField "omit_reason" (req.omitReason.map .str) ++
            optionalField "text_preview" (req.textPreview.map .str))
        extraData := req.extraData }

/--
A parsed message has the values of an input, its `data` the named fields over
the free-form ones and no others.
-/
structure Carries (values : InputValues) (parsed : ParsedMessage) :
    Prop where
  kind : parsed.kind = values.kind
  requestId : parsed.requestId = values.requestId
  prevSeq : parsed.prevSeq.map (Nat.cast : Nat → Int) = values.prevSeq
  eventMs : parsed.eventMs = values.eventMs
  ingestedMs : parsed.ingestedMs = values.ingestedMs
  data : ∀ key, Items.get? key parsed.data =
    (Items.get? key values.named).or (Items.get? key values.extraData)

theorem get?_optionalField_append {key other : String} {value : Option Json}
    {rest : JsonObject} :
    Items.get? other (optionalField key value ++ rest) =
      if key = other then value.or (Items.get? other rest)
      else Items.get? other rest := by
  cases value with
  | none => simp [optionalField]
  | some value => simp [optionalField, Items.get?_cons]

theorem get?_optionalField {key other : String} {value : Option Json} :
    Items.get? other (optionalField key value) =
      if key = other then value else none := by
  cases value with
  | none => simp [optionalField]
  | some value => simp [optionalField, Items.get?_cons]

theorem readMessage_encodeSendRequest {req : SendRequestInput}
    (wellFormed : req.content.WellFormed)
    (encoded : encodeSendRequest text req = .ok message.payload) :
    ∃ parsed, readMessage text message = some parsed ∧
      Carries (inputValues (.sendRequest req)) parsed := by
  simp only [encodeSendRequest, sendRequestPayload, bind_eq_ok_iff,
    requireNonEmptyStr_eq_ok_iff, requireObject_eq_ok_iff,
    requireTimestampMs_eq_ok_iff, checkOptional_seq_eq_ok_iff] at encoded
  obtain ⟨payload, ⟨requestId, ⟨requestIdEq, -⟩, msgType, ⟨msgTypeEq, -⟩,
    content, contentEq, eventMs, ⟨eventMsEq, -⟩, prevSeq, ⟨prevSeqEq, -⟩,
    built⟩, bytesEq⟩ := encoded
  simp only [Option.some.injEq, Json.str.injEq, Json.int.injEq]
    at requestIdEq msgTypeEq contentEq eventMsEq
  cases built
  rw [contentEq] at wellFormed
  have dataWellFormed : (Json.obj
      [("msg_type", .str msgType), ("content", .obj content)]).WellFormed := by
    rw [Json.wellFormed_obj_iff]
    simp [wellFormed]
  have timestampsWellFormed :
      (Json.obj [("event_ms", .int eventMs)]).WellFormed := by
    simp [Json.wellFormed_obj_iff]
  have payloadWellFormed : (Json.obj (setOptional "prev_seq"
      (prevSeq.map fun seq : Nat => Json.int seq)
      [("kind", .str "send.request"), ("request_id", .str requestId),
        ("data", .obj [("msg_type", .str msgType), ("content", .obj content)]),
        ("timestamps", .obj [("event_ms", .int eventMs)])])).WellFormed := by
    apply wellFormed_setOptional_seq
    rw [Json.wellFormed_obj_iff]
    simp [dataWellFormed, timestampsWellFormed]
  have payloadEq := (Except.ok.inj bytesEq).symm
  rw [readMessage_of_encoded payloadEq payloadWellFormed]
  cases prevSeq with
  | none =>
      refine ⟨_, rfl, rfl, ?_, ?_, eventMsEq.symm, rfl, ?_⟩
      · simp [inputValues, requestIdEq, setOptional, Json.str?]
      · simp [inputValues, prevSeqEq, setOptional]
      · intro key
        simp [inputValues, msgTypeEq, contentEq]
  | some seq =>
      refine ⟨_, rfl, rfl, ?_, ?_, eventMsEq.symm, rfl, ?_⟩
      · simp [inputValues, requestIdEq, setOptional, Json.str?,
          Items.get?_set]
      · simp [inputValues, prevSeqEq, setOptional, seq?, Json.int?,
          Items.get?_set]
      · intro key
        simp [inputValues, msgTypeEq, contentEq]

theorem readMessage_encodeSendResult {req : SendResultInput}
    (encoded : encodeSendResult text req = .ok message.payload) :
    ∃ parsed, readMessage text message = some parsed ∧
      Carries (inputValues (.sendResult req)) parsed := by
  simp only [encodeSendResult, sendResultPayload, bind_eq_ok_iff,
    requireNonEmptyStr_eq_ok_iff, requireUint64_eq_ok_iff,
    requireTimestampMs_eq_ok_iff] at encoded
  obtain ⟨payload, ⟨requestId, ⟨requestIdEq, -⟩, prevSeq,
    ⟨prevSeqEq, -, -⟩, status, ⟨statusEq, -⟩, ⟨⟩, -, eventMs,
    ⟨eventMsEq, -⟩, providerMessageId, messageIdChecked, errorCode,
    errorCodeChecked, errorMessage, errorMessageChecked, built⟩,
    bytesEq⟩ := encoded
  simp only [Option.some.injEq, Json.str.injEq, Json.int.injEq]
    at requestIdEq prevSeqEq statusEq eventMsEq
  cases built
  have messageIdEq := checkOptional_str_eq_ok messageIdChecked
  have errorCodeEq := checkOptional_str_eq_ok errorCodeChecked
  have errorMessageEq := checkOptional_str_eq_ok errorMessageChecked
  have dataWellFormed : (Json.obj (setOptional "error_message"
      (errorMessage.map .str) (setOptional "error_code"
        (errorCode.map .str) (setOptional "provider_message_id"
          (providerMessageId.map .str)
          [("status", .str status)])))).WellFormed := by
    apply wellFormed_setOptional _ wellFormed_of_map_str
    apply wellFormed_setOptional _ wellFormed_of_map_str
    apply wellFormed_setOptional _ wellFormed_of_map_str
    simp [Json.wellFormed_obj_iff]
  have wellFormed : (Json.obj [("kind", .str "send.result"),
      ("prev_seq", .int prevSeq), ("request_id", .str requestId),
      ("data", .obj (setOptional "error_message"
        (errorMessage.map .str) (setOptional "error_code"
          (errorCode.map .str) (setOptional "provider_message_id"
            (providerMessageId.map .str) [("status", .str status)])))),
      ("timestamps", .obj [("event_ms", .int eventMs)])]).WellFormed := by
    have timestampsWellFormed :
        (Json.obj [("event_ms", .int eventMs)]).WellFormed := by
      simp [Json.wellFormed_obj_iff]
    rw [Json.wellFormed_obj_iff]
    simp [dataWellFormed, timestampsWellFormed]
  have payloadEq := (Except.ok.inj bytesEq).symm
  rw [readMessage_of_encoded payloadEq wellFormed]
  refine ⟨_, rfl, rfl, ?_, ?_, eventMsEq.symm, rfl, ?_⟩
  · simp [inputValues, requestIdEq, Json.str?]
  · simp [inputValues, prevSeqEq, seq?, Json.int?]
  · intro key
    by_cases known : key ∈
        ["status", "provider_message_id", "error_code", "error_message"]
    · simp only [List.mem_cons, List.not_mem_nil, or_false] at known
      rcases known with rfl | rfl | rfl | rfl
      · simp [inputValues, get?_setOptional, statusEq]
      · simp [inputValues, get?_setOptional, get?_optionalField_append,
          get?_optionalField, messageIdEq]
      · simp [inputValues, get?_setOptional, get?_optionalField_append,
          get?_optionalField, errorCodeEq]
      · simp [inputValues, get?_setOptional, get?_optionalField_append,
          get?_optionalField, errorMessageEq]
    · simp only [List.mem_cons, List.not_mem_nil, or_false, not_or] at known
      obtain ⟨status, messageId, code, errorText⟩ := known
      simp [inputValues, get?_setOptional, get?_optionalField_append,
        get?_optionalField, Items.get?_cons, Ne.symm status,
        Ne.symm messageId, Ne.symm code, Ne.symm errorText]

/-- The `data` of a record has the named fields over the free-form ones. -/
theorem get?_syncRecordData_named {req : SyncRecordInput}
    {contentRaw : JsonObject} (contentEq : req.contentRaw = .obj contentRaw)
    (key : String) :
    Items.get? key (syncRecordData req contentRaw req.omitReason) =
      (Items.get? key (inputValues (.syncRecord req)).named).or
        (Items.get? key req.extraData) := by
  by_cases known : key ∈
      ["provider_message_id", "msg_type", "content_raw", "text", "is_init",
        "content_omitted", "omit_reason", "text_preview"]
  · simp only [List.mem_cons, List.not_mem_nil, or_false] at known
    rcases known with rfl | rfl | rfl | rfl | rfl | rfl | rfl | rfl <;>
      simp [syncRecordData, inputValues, get?_setOptional, Items.update,
        Items.get?_set, get?_optionalField_append, get?_optionalField,
        contentEq]
  · simp only [List.mem_cons, List.not_mem_nil, or_false, not_or] at known
    obtain ⟨messageId, msgType, content, textField, isInit, omitted, reason,
      preview⟩ := known
    simp [syncRecordData, inputValues, get?_setOptional, Items.update,
      Items.get?_set, Items.get?_cons, get?_optionalField_append,
      get?_optionalField, Ne.symm messageId, Ne.symm msgType, Ne.symm content,
      Ne.symm textField, Ne.symm isInit, Ne.symm omitted, Ne.symm reason,
      Ne.symm preview]

theorem readMessage_encodeSyncRecord {req : SyncRecordInput}
    (contentWellFormed : req.contentRaw.WellFormed)
    (extraWellFormed : (Json.obj req.extraData).WellFormed)
    (encoded : encodeSyncRecord text req = .ok message.payload) :
    ∃ parsed, readMessage text message = some parsed ∧
      Carries (inputValues (.syncRecord req)) parsed := by
  simp only [encodeSyncRecord, syncRecordPayload, bind_eq_ok_iff,
    requireObject_eq_ok_iff, requireTimestampMs_eq_ok_iff,
    checkOptional_seq_eq_ok_iff] at encoded
  obtain ⟨payload, ⟨⟨⟩, -, ⟨⟩, -, contentRaw, contentEq, eventMs,
    ⟨eventMsEq, -⟩, ingestedMs, ⟨ingestedMsEq, -⟩, omitReason, omitChecked,
    prevSeq, ⟨prevSeqEq, -⟩, built⟩, bytesEq⟩ := encoded
  have omitEq := checkOptional_str_eq_ok omitChecked
  simp only [Option.some.injEq, Json.int.injEq]
    at contentEq eventMsEq ingestedMsEq
  subst omitEq
  cases built
  rw [contentEq] at contentWellFormed
  have dataWellFormed :=
    wellFormed_syncRecordData contentWellFormed extraWellFormed
  have timestampsWellFormed : (Json.obj
      [("event_ms", .int eventMs), ("ingested_ms", .int ingestedMs)]).WellFormed
      := by
    simp [Json.wellFormed_obj_iff]
  have wellFormed : (Json.obj (setOptional "prev_seq"
      (prevSeq.map fun seq : Nat => Json.int seq)
      [("kind", .str "sync.record"),
        ("data", .obj (syncRecordData req contentRaw req.omitReason)),
        ("timestamps", .obj [("event_ms", .int eventMs),
          ("ingested_ms", .int ingestedMs)])])).WellFormed := by
    apply wellFormed_setOptional_seq
    rw [Json.wellFormed_obj_iff]
    simp [dataWellFormed, timestampsWellFormed]
  have payloadEq := (Except.ok.inj bytesEq).symm
  have data := get?_syncRecordData_named contentEq
  rw [readMessage_of_encoded payloadEq wellFormed]
  cases prevSeq with
  | none =>
      refine ⟨_, rfl, rfl, ?_, ?_, eventMsEq.symm, ?_, data⟩
      · simp [inputValues, setOptional]
      · simp [inputValues, prevSeqEq, setOptional]
      · simp [inputValues, ingestedMsEq, Json.int?]
  | some seq =>
      refine ⟨_, rfl, rfl, ?_, ?_, eventMsEq.symm, ?_, data⟩
      · simp [inputValues, setOptional, Items.get?_set]
      · simp [inputValues, prevSeqEq, setOptional, seq?, Json.int?,
          Items.get?_set]
      · simp [inputValues, ingestedMsEq, Json.int?]

/-- A message that carries an encoded input says its values. -/
theorem readMessage_encode {input : EncoderInput}
    (wellFormed : input.WellFormed)
    (encoded : input.encode text = .ok message.payload) :
    ∃ parsed, readMessage text message = some parsed ∧
      Carries (inputValues input) parsed := by
  cases input with
  | sendRequest req => exact readMessage_encodeSendRequest wellFormed encoded
  | sendResult req => exact readMessage_encodeSendResult encoded
  | syncRecord req =>
      exact readMessage_encodeSyncRecord wellFormed.1 wellFormed.2 encoded

/-- A message that carries an encoded `send.result` says its fields. -/
theorem readMessage_sendResult {req : SendResultInput}
    (encoded : encodeSendResult text req = .ok message.payload) :
    ∃ parsed, readMessage text message = some parsed ∧
      parsed.kind = .sendResult ∧ parsed.requestId = some req.requestId ∧
        parsed.prevSeq = some req.prevSeq.toNat ∧ 0 ≤ req.prevSeq ∧
          Items.get? "status" parsed.data = some (.str req.status) ∧
            Items.get? "provider_message_id" parsed.data =
              req.providerMessageId.map .str := by
  rcases readMessage_encodeSendResult encoded with ⟨parsed, read, carries⟩
  rcases Option.map_eq_some_iff.mp carries.prevSeq with
    ⟨seq, prevSeq, castEq⟩
  refine ⟨parsed, read, carries.kind, carries.requestId, ?_, ?_, ?_, ?_⟩
  · rw [prevSeq, ← castEq, Int.toNat_natCast]
  · rw [← castEq]
    exact Int.natCast_nonneg _
  · rw [carries.data]
    simp [inputValues]
  · rw [carries.data]
    simp [inputValues, Items.get?_cons, get?_optionalField_append,
      get?_optionalField]

/-- A message that carries an encoded `sync.record` says its fields. -/
theorem readMessage_syncRecord {req : SyncRecordInput}
    (contentWellFormed : req.contentRaw.WellFormed)
    (extraWellFormed : (Json.obj req.extraData).WellFormed)
    (encoded : encodeSyncRecord text req = .ok message.payload) :
    ∃ parsed, readMessage text message = some parsed ∧
      parsed.kind = .syncRecord ∧
        parsed.prevSeq = req.prevSeq.map Int.toNat ∧
          (∀ seq, req.prevSeq = some seq → 0 ≤ seq) ∧
            parsed.eventMs = req.eventMs ∧
              Items.get? "provider_message_id" parsed.data =
                some (.str req.providerMessageId) := by
  rcases readMessage_encodeSyncRecord contentWellFormed extraWellFormed
    encoded with ⟨parsed, read, carries⟩
  have prevSeq : parsed.prevSeq.map (Nat.cast : Nat → Int) = req.prevSeq :=
    carries.prevSeq
  refine ⟨parsed, read, carries.kind, ?_, ?_, carries.eventMs, ?_⟩
  · rw [← prevSeq]
    simp [Function.comp_def]
  · intro seq found
    rw [found, Option.map_eq_some_iff] at prevSeq
    rcases prevSeq with ⟨natural, -, rfl⟩
    exact Int.natCast_nonneg _
  · rw [carries.data]
    simp [inputValues, Items.get?_cons]

/-! ## Published messages -/

/-- What a publish method encodes. -/
def encodedInput : PublishMethod → EncoderInput
  | .sendRequest _ _ _ req _ => .sendRequest req
  | .sendResult _ _ _ _ req => .sendResult req
  | .syncRecord _ _ _ _ req => .syncRecord req

theorem normalizeRecipients_small {recipients : Option (List Int)}
    {sortUnique : Bool} {result : List Nat}
    (normalized : normalizeRecipients recipients sortUnique = .ok result) :
    ∀ recipient ∈ result, (recipient : Int) ≤ uint64Max := by
  cases recipients with
  | none =>
      cases normalized
      intro recipient member
      exact absurd member List.not_mem_nil
  | some items =>
      simp only [normalizeRecipients, bind_eq_ok_iff] at normalized
      rcases normalized with ⟨values, checked, returned⟩
      have small := (mem_of_mapM_requireUint64 checked).2
      cases returned
      intro recipient member
      apply small
      split_ifs at member
      · rwa [sortedSet, List.mem_mergeSort, List.mem_dedup] at member
      · exact member

theorem record_eq_ok {method : PublishMethod} {record : Record}
    (published : method.record text = .ok record) :
    (encodedInput method).encode text = .ok record.payload ∧
      ((record.channelId : Int) ≤ uint64Max ∧ 0 < record.channelId) ∧
        ((record.principal : Int) ≤ uint64Max ∧ 0 < record.principal) ∧
          ∀ recipient ∈ record.recipients,
            (recipient : Int) ≤ uint64Max := by
  cases method with
  | sendRequest =>
      rcases checkRecord_eq_ok_iff.mp published with
        ⟨payload, recipients, ⟨rfl, principal⟩, rfl, channelId⟩
      exact ⟨payload, channelId, principal,
        normalizeRecipients_small recipients⟩
  | sendResult =>
      rcases checkRecord_eq_ok_iff.mp published with
        ⟨payload, recipients, ⟨rfl, principal⟩, rfl, channelId⟩
      exact ⟨payload, channelId, principal,
        normalizeRecipients_small recipients⟩
  | syncRecord =>
      rcases checkRecord_eq_ok_iff.mp published with
        ⟨payload, recipients, ⟨rfl, principal⟩, rfl, channelId⟩
      exact ⟨payload, channelId, principal,
        normalizeRecipients_small recipients⟩

/--
The stored message of a publish whose payload decodes is parsed to its own
envelope and to the values of the input.
-/
theorem parseMessage_published (text : JsonText) (method : PublishMethod)
    (message : Message) (wellFormed : (encodedInput method).WellFormed)
    (published : method.record text = .ok (recordOf message))
    (decodes : Accepts text message.payload)
    (seqSmall : (message.seq : Int) ≤ uint64Max) :
    ∃ parsed, parseMessage text message = .ok parsed ∧
      parsed.seq = message.seq ∧ parsed.channelId = message.channelId ∧
        parsed.principal = message.principal ∧
          parsed.recipients = message.recipients ∧
            Carries (inputValues (encodedInput method)) parsed := by
  rcases record_eq_ok published with
    ⟨encoded, channelId, principal, recipients⟩
  have bounded : Bounded message :=
    ⟨seqSmall, channelId, principal, recipients⟩
  rcases readMessage_encode wellFormed encoded with ⟨parsed, read, carries⟩
  rcases readMessage_envelope read with
    ⟨seq, sameChannel, samePrincipal, sameRecipients⟩
  exact ⟨parsed, parseMessage_eq_ok_iff.mpr ⟨read, decodes, bounded⟩, seq,
    sameChannel, samePrincipal, sameRecipients, carries⟩

/-- A record with a free-form field and one that a named field overrides. -/
def sampleRecordInput : SyncRecordInput where
  providerMessageId := "om_1"
  msgType := "text"
  contentRaw := .obj []
  eventMs := 5
  ingestedMs := 6
  prevSeq := some 3
  text := none
  isInit := some false
  contentOmitted := none
  omitReason := none
  textPreview := none
  extraData := [("msg_type", .str "image"), ("source", .str "live")]

def samplePayload : JsonObject :=
  [("kind", .str "sync.record"),
    ("data", .obj [("msg_type", .str "text"), ("source", .str "live"),
      ("provider_message_id", .str "om_1"), ("content_raw", .obj []),
      ("is_init", .bool false)]),
    ("timestamps", .obj [("event_ms", .int 5), ("ingested_ms", .int 6)]),
    ("prev_seq", .int 3)]

def sampleStored (payload : ByteArray) : Message where
  seq := 4
  channelId := 7
  principal := 1
  recipients := [20]
  payload := payload

theorem parseMessage_published_sample :
    ∃ parsed, parseMessage JsonText.compact
        (sampleStored (encodePayload JsonText.compact samplePayload)) =
          .ok parsed ∧
      parsed.recipients = [20] ∧ parsed.prevSeq = some 3 ∧
        Items.get? "msg_type" parsed.data = some (.str "text") ∧
          Items.get? "source" parsed.data = some (.str "live") := by
  have wellFormed : (EncoderInput.syncRecord sampleRecordInput).WellFormed := by
    simp [EncoderInput.WellFormed, sampleRecordInput, Json.wellFormed_obj_iff]
  have built : syncRecordPayload sampleRecordInput = .ok samplePayload := rfl
  have encoded := encodeSyncRecord_of_payload JsonText.compact built
  -- The bytes stay opaque, so that no step below evaluates them.
  generalize encodePayload JsonText.compact samplePayload = bytes at encoded ⊢
  have published : (PublishMethod.syncRecord 1 "token" 7 [20]
      sampleRecordInput).record JsonText.compact =
        .ok (recordOf (sampleStored bytes)) := by
    rw [PublishMethod.record, checkRecord_eq_ok_iff]
    refine ⟨encoded, ?_, ⟨rfl, by decide, Nat.zero_lt_one⟩, rfl, by decide,
      Nat.zero_lt_succ 6⟩
    show normalizeRecipients (some [20]) true = .ok [20]
    simp only [normalizeRecipients, bind_eq_ok_iff]
    have small : ∀ value ∈ [20], ((value : Nat) : Int) ≤ uint64Max := by
      decide
    refine ⟨[20], mapM_requireUint64_natCast small, ?_⟩
    rw [if_pos True.intro, sortedSet_singleton]
    rfl
  have decodes : Accepts JsonText.compact bytes := by
    apply (accepts_encode_iff JsonText.compact
      (.syncRecord sampleRecordInput) _ wellFormed encoded).mpr
    simp [EncoderInput.FreeOfSourcePrincipal, sampleRecordInput,
      Json.mentionsKey_obj_iff]
  have seqSmall : ((4 : Nat) : Int) ≤ uint64Max := by decide
  rcases parseMessage_published JsonText.compact
    (.syncRecord 1 "token" 7 [20] sampleRecordInput) (sampleStored bytes)
    wellFormed published decodes seqSmall with
    ⟨parsed, read, -, -, -, recipients, carries⟩
  rcases Option.map_eq_some_iff.mp carries.prevSeq with
    ⟨seq, prevSeq, castEq⟩
  have seqEq : seq = 3 := Nat.cast_inj.mp castEq
  refine ⟨parsed, read, recipients, by rw [prevSeq, seqEq], ?_, ?_⟩
  · rw [carries.data]
    rfl
  · rw [carries.data]
    rfl

end OpenEventIm.Sdk.MessageReading
