import OpenEventIm.Sdk.Codec

/-!
# Which encoded payloads the parser accepts

The encoders and the parser check their fields separately, and only the parser
looks for the forbidden key `source_principal` inside nested objects.  An
encoded payload is therefore accepted exactly when that key does not reach it,
and this module states the condition on the encoder's input: on the content of
a request, and on the raw content and the surviving extra data of a record.
-/

namespace OpenEventIm.Sdk.CodecAcceptance

open OpenEventIm.Foundation
open OpenEventIm.Foundation.Checked
open OpenEventIm.Sdk.Errors
open OpenEventIm.Sdk.Normalizer
open OpenEventIm.Sdk.Codec

/-! ## Inputs of the encoders -/

/-- An input of one of the three encoders. -/
inductive EncoderInput where
  | sendRequest (req : SendRequestInput)
  | sendResult (req : SendResultInput)
  | syncRecord (req : SyncRecordInput)

namespace EncoderInput

def encode (text : JsonText) : EncoderInput → Except PyError ByteArray
  | .sendRequest req => encodeSendRequest text req
  | .sendResult req => encodeSendResult text req
  | .syncRecord req => encodeSyncRecord text req

/-- Every dictionary inside the input has distinct keys. -/
def WellFormed : EncoderInput → Prop
  | .sendRequest req => req.content.WellFormed
  | .sendResult _ => True
  | .syncRecord req =>
      req.contentRaw.WellFormed ∧ (Json.obj req.extraData).WellFormed

/-- The keys of `extra_data` that `encode_sync_record` replaces. -/
def replacedKeys (req : SyncRecordInput) : List String :=
  ["provider_message_id", "msg_type", "content_raw"] ++
    (if req.text.isSome then ["text"] else []) ++
    (if req.isInit.isSome then ["is_init"] else []) ++
    (if req.contentOmitted.isSome then ["content_omitted"] else []) ++
    (if req.omitReason.isSome then ["omit_reason"] else []) ++
    (if req.textPreview.isSome then ["text_preview"] else [])

/--
No part of the input that reaches the payload has the key `source_principal`.
-/
def FreeOfSourcePrincipal : EncoderInput → Prop
  | .sendRequest req => ¬req.content.MentionsKey "source_principal"
  | .sendResult _ => True
  | .syncRecord req =>
      ¬req.contentRaw.MentionsKey "source_principal" ∧
        ∀ field ∈ req.extraData, field.1 ∉ replacedKeys req →
          field.1 ≠ "source_principal" ∧
            ¬field.2.MentionsKey "source_principal"

end EncoderInput

/-- The parser accepts the bytes of a payload. -/
def Accepts (text : JsonText) (bytes : ByteArray) : Prop :=
  ∃ payload, decodePayload text bytes = .ok payload

/-! ## The key under updates of an object -/

/--
Apart from the fields under the skipped keys, an object has no field that is or
mentions the key.
-/
def FreeExcept (key : String) (skipped : List String)
    (fields : JsonObject) : Prop :=
  ∀ field ∈ fields, field.1 ∉ skipped →
    field.1 ≠ key ∧ ¬field.2.MentionsKey key

theorem not_mentionsKey_obj_iff {key : String} {fields : JsonObject} :
    ¬(Json.obj fields).MentionsKey key ↔ FreeExcept key [] fields := by
  rw [Json.mentionsKey_obj_iff]
  constructor
  · intro absent field member _
    refine ⟨fun equal => absent (Or.inl ?_), fun mentioned =>
      absent (Or.inr ⟨field, member, mentioned⟩)⟩
    exact equal ▸ List.mem_map_of_mem member
  · rintro free (present | ⟨field, member, mentioned⟩)
    · obtain ⟨field, member, equal⟩ := List.mem_map.mp present
      exact (free field member List.not_mem_nil).1 equal
    · exact (free field member List.not_mem_nil).2 mentioned

theorem freeExcept_nil {key : String} {skipped : List String} :
    FreeExcept key skipped [] := by
  intro field member
  cases member

theorem freeExcept_cons {key : String} {skipped : List String}
    {field : String × Json} {rest : JsonObject} :
    FreeExcept key skipped (field :: rest) ↔
      (field.1 ∉ skipped → field.1 ≠ key ∧ ¬field.2.MentionsKey key) ∧
        FreeExcept key skipped rest :=
  List.forall_mem_cons

/-- Setting a key hides what the object had under it. -/
theorem freeExcept_set {key changed : String} {skipped : List String}
    {value : Json} {fields : JsonObject}
    (distinct : (fields.map Prod.fst).Nodup) :
    FreeExcept key skipped (Items.set changed value fields) ↔
      (changed ∉ skipped → changed ≠ key ∧ ¬value.MentionsKey key) ∧
        FreeExcept key (changed :: skipped) fields := by
  constructor
  · intro free
    refine ⟨free (changed, value) (Items.mem_set_self changed value fields),
      fun field member kept => ?_⟩
    rw [List.mem_cons, not_or] at kept
    exact free field (Items.mem_set_of_ne kept.1 member) kept.2
  · rintro ⟨head, rest⟩ field member kept
    rcases Items.mem_set_cases member with rfl | old
    · exact head kept
    · by_cases same : field.1 = changed
      · have value_eq : field.2 = value := by
          have found :=
            Items.get?_of_mem (Items.nodup_keys_set distinct) member
          rw [Items.get?_set, if_pos same.symm] at found
          exact (Option.some.inj found).symm
        rw [same] at kept ⊢
        rw [value_eq]
        exact head kept
      · exact rest field old (by simp [same, kept])

/-- Setting an optional plain field hides what the object had under it. -/
theorem freeExcept_setOptional {key changed : String}
    {skipped : List String} {value : Option Json} {fields : JsonObject}
    (distinct : (fields.map Prod.fst).Nodup) (different : changed ≠ key)
    (plain : ∀ stored, value = some stored → ¬stored.MentionsKey key) :
    FreeExcept key skipped (setOptional changed value fields) ↔
      FreeExcept key
        ((if value.isSome then [changed] else []) ++ skipped) fields := by
  cases value with
  | none => rfl
  | some stored =>
      rw [setOptional, freeExcept_set distinct]
      exact and_iff_right fun _ => ⟨different, plain stored rfl⟩

theorem nodup_keys_setOptional {key : String} {value : Option Json}
    {fields : JsonObject} (distinct : (fields.map Prod.fst).Nodup) :
    ((setOptional key value fields).map Prod.fst).Nodup := by
  cases value with
  | none => exact distinct
  | some stored => exact Items.nodup_keys_set distinct

theorem wellFormed_setOptional {key : String} {value : Option Json}
    {fields : JsonObject} (wellFormed : (Json.obj fields).WellFormed)
    (good : ∀ stored, value = some stored → stored.WellFormed) :
    (Json.obj (setOptional key value fields)).WellFormed := by
  cases value with
  | none => exact wellFormed
  | some stored => exact wellFormed.set (good stored rfl)

theorem get?_setOptional {key other : String} {value : Option Json}
    {fields : JsonObject} :
    Items.get? other (setOptional key value fields) =
      if key = other then value.or (Items.get? other fields)
      else Items.get? other fields := by
  cases value with
  | none => simp [setOptional]
  | some stored =>
      rw [setOptional, Items.get?_set]
      rfl

/-! ## What a successful encoding establishes -/

theorem checkOptional_eq_ok_iff {Value Result : Type}
    {check : Value → Except PyError Result} {value : Option Value}
    {result : Option Result} :
    checkOptional check value = .ok result ↔
      (value = none ∧ result = none) ∨
        ∃ given checked, value = some given ∧ check given = .ok checked ∧
          result = some checked := by
  cases value with
  | none =>
      constructor
      · intro returned
        exact Or.inl ⟨rfl, (Except.ok.inj returned).symm⟩
      · rintro (⟨-, equal⟩ | ⟨given, checked, absent, -⟩)
        · rw [equal]
          rfl
        · cases absent
  | some given =>
      constructor
      · intro returned
        cases checked : check given with
        | error error => simp [checkOptional, checked, Except.map] at returned
        | ok value =>
            refine Or.inr ⟨given, value, rfl, checked, ?_⟩
            simp only [checkOptional, checked, Except.map, Except.ok.injEq]
              at returned
            exact returned.symm
      · rintro (⟨absent, -⟩ | ⟨_, checked, ⟨⟩, equal, rfl⟩)
        · cases absent
        · simp [checkOptional, equal, Except.map]

/-- The optional reference of a payload, checked as a sequence number. -/
theorem checkOptional_seq_eq_ok_iff {value : Option Int}
    {result : Option Nat} :
    checkOptional
        (fun seq => requireUint64 (some (.int seq)) "prev_seq" false)
        value = .ok result ↔
      value = result.map (Nat.cast : Nat → Int) ∧
        ∀ seq, result = some seq → (seq : Int) ≤ uint64Max := by
  rw [checkOptional_eq_ok_iff]
  constructor
  · rintro (⟨rfl, rfl⟩ | ⟨given, checked, rfl, accepted, rfl⟩)
    · simp
    · obtain ⟨equal, small, -⟩ := requireUint64_eq_ok_iff.mp accepted
      simp only [Option.some.injEq, Json.int.injEq] at equal
      simp [equal, small]
  · rintro ⟨rfl, small⟩
    cases result with
    | none => exact Or.inl ⟨rfl, rfl⟩
    | some seq =>
        exact Or.inr ⟨seq, seq, rfl,
          requireUint64_natCast (small seq rfl) (by simp), rfl⟩

/-- An optional text passes its check unchanged. -/
theorem checkOptional_str_eq_ok {fieldName : String}
    {value : Option String} {result : Option String}
    (checked : checkOptional
      (fun text => requireNonEmptyStr (some (.str text)) fieldName)
      value = .ok result) : result = value := by
  rcases checkOptional_eq_ok_iff.mp checked with
    ⟨rfl, rfl⟩ | ⟨given, text, rfl, accepted, rfl⟩
  · rfl
  · obtain ⟨equal, -⟩ := requireNonEmptyStr_eq_ok_iff.mp accepted
    simp only [Option.some.injEq, Json.str.injEq] at equal
    rw [equal]

/--
The parser's verdict on encoded bytes is its verdict on the payload: when the
envelope is otherwise valid, only the forbidden key matters.
-/
theorem accepts_encodePayload_iff {text : JsonText} {payload : JsonObject}
    (wellFormed : (Json.obj payload).WellFormed)
    (envelope : ¬(Json.obj payload).MentionsKey "source_principal" →
      ∃ kind data timestamps, ValidEnvelope payload kind data timestamps) :
    Accepts text (encodePayload text payload) ↔
      FreeExcept "source_principal" [] payload := by
  have loaded := loadPayload_encodePayload text wellFormed
  rw [← not_mentionsKey_obj_iff]
  simp only [Accepts, decodePayload, bind_eq_ok_iff, loaded,
    Except.ok.injEq, exists_eq_left']
  constructor
  · rintro ⟨parsed, accepted⟩
    obtain ⟨equal, kind, data, timestamps, valid⟩ :=
      parsePayloadObject_eq_ok_iff.mp accepted
    cases equal
    exact valid.noSourcePrincipal
  · intro clean
    exact ⟨payload, parsePayloadObject_eq_ok_iff.mpr ⟨rfl, envelope clean⟩⟩

/-! ## The three encoders -/

section Encoders

variable {text : JsonText} {bytes : ByteArray}

/-- A reference added to a payload does not matter. -/
theorem freeExcept_setOptional_seq {prevSeq : Option Nat}
    {fields : JsonObject} (distinct : (fields.map Prod.fst).Nodup)
    (absent : "prev_seq" ∉ fields.map Prod.fst) :
    FreeExcept "source_principal" []
        (setOptional "prev_seq"
          (prevSeq.map fun seq : Nat => Json.int seq) fields) ↔
      FreeExcept "source_principal" [] fields := by
  rw [freeExcept_setOptional distinct (by decide)]
  · constructor
    · intro free field member _
      apply free field member
      split_ifs
      · have : field.1 ≠ "prev_seq" := fun equal =>
          absent (equal ▸ List.mem_map_of_mem member)
        simpa using this
      · exact List.not_mem_nil
    · intro free field member _
      exact free field member List.not_mem_nil
  · intro stored found
    obtain ⟨seq, -, rfl⟩ := Option.map_eq_some_iff.mp found
    exact Json.not_mentionsKey_int

theorem wellFormed_setOptional_seq {prevSeq : Option Nat}
    {fields : JsonObject} (wellFormed : (Json.obj fields).WellFormed) :
    (Json.obj (setOptional "prev_seq"
      (prevSeq.map fun seq : Nat => Json.int seq) fields)).WellFormed := by
  apply wellFormed_setOptional wellFormed
  intro stored found
  obtain ⟨seq, -, rfl⟩ := Option.map_eq_some_iff.mp found
  exact Json.wellFormed_int

/-- The parser's check of an optional reference accepts what was checked. -/
theorem validSeq_setOptional {prevSeq : Option Nat} {fields : JsonObject}
    (absent : Items.get? "prev_seq" fields = none)
    (small : ∀ seq, prevSeq = some seq → (seq : Int) ≤ uint64Max) :
    ∀ value, Items.get? "prev_seq" (setOptional "prev_seq"
        (prevSeq.map fun seq : Nat => Json.int seq) fields) = some value →
      ∃ seq : Nat, value = .int seq ∧ (seq : Int) ≤ uint64Max := by
  intro value found
  rw [get?_setOptional, if_pos rfl, absent, Option.or_none] at found
  obtain ⟨seq, present, equal⟩ := Option.map_eq_some_iff.mp found
  exact ⟨seq, equal.symm, small seq present⟩

theorem accepts_encodeSendRequest_iff {req : SendRequestInput}
    (wellFormed : req.content.WellFormed)
    (encoded : encodeSendRequest text req = .ok bytes) :
    Accepts text bytes ↔
      ¬req.content.MentionsKey "source_principal" := by
  simp only [encodeSendRequest, sendRequestPayload, bind_eq_ok_iff,
    requireNonEmptyStr_eq_ok_iff, requireObject_eq_ok_iff,
    requireTimestampMs_eq_ok_iff, checkOptional_seq_eq_ok_iff] at encoded
  obtain ⟨payload, ⟨requestId, ⟨-, requestIdNe⟩, msgType, ⟨-, msgTypeNe⟩,
    content, contentEq, eventMs, ⟨-, eventMsPos⟩, prevSeq, ⟨-, prevSeqSmall⟩,
    built⟩, bytesEq⟩ := encoded
  cases built
  cases bytesEq
  rw [Option.some.injEq] at contentEq
  rw [contentEq] at wellFormed
  rw [contentEq, accepts_encodePayload_iff, freeExcept_setOptional_seq]
  · simp [freeExcept_cons, freeExcept_nil, not_mentionsKey_obj_iff]
  · simp
  · simp
  · apply wellFormed_setOptional_seq
    rw [Json.wellFormed_obj_iff] at wellFormed
    simpa [Json.wellFormed_obj_iff] using wellFormed
  · intro clean
    exact ⟨.sendRequest, _, _, {
      noSourcePrincipal := clean
      kindField := by simp [get?_setOptional, Kind.text]
      dataField := by simp [get?_setOptional]; rfl
      timestampsField := by simp [get?_setOptional]; rfl
      eventMs := ⟨eventMs, by simp, eventMsPos⟩
      prevSeq := validSeq_setOptional (by simp) prevSeqSmall
      requestId := fun _ => ⟨requestId, by simp [get?_setOptional], requestIdNe⟩
      syncRecord := by simp
      sendRequest := fun _ => {
        msgType := ⟨msgType, by simp, msgTypeNe⟩
        content := ⟨content, by simp⟩ }
      sendResult := by simp }⟩

/-- Optional texts neither are nor mention a key. -/
theorem not_mentionsKey_of_map_str {key : String} {value : Option String} :
    ∀ stored, value.map Json.str = some stored →
      ¬stored.MentionsKey key := by
  intro stored found
  obtain ⟨_, -, rfl⟩ := Option.map_eq_some_iff.mp found
  exact Json.not_mentionsKey_str

theorem wellFormed_of_map_str {value : Option String} :
    ∀ stored, value.map Json.str = some stored → stored.WellFormed := by
  intro stored found
  obtain ⟨_, -, rfl⟩ := Option.map_eq_some_iff.mp found
  exact Json.wellFormed_str

theorem accepts_encodeSendResult {req : SendResultInput}
    (encoded : encodeSendResult text req = .ok bytes) :
    Accepts text bytes := by
  simp only [encodeSendResult, sendResultPayload, bind_eq_ok_iff,
    requireNonEmptyStr_eq_ok_iff, requireUint64_eq_ok_iff,
    requireTimestampMs_eq_ok_iff] at encoded
  obtain ⟨payload, ⟨requestId, ⟨-, requestIdNe⟩, prevSeq,
    ⟨-, prevSeqSmall, -⟩, status, -, ⟨⟩, known, eventMs,
    ⟨-, eventMsPos⟩, providerMessageId, -, errorCode, -, errorMessage, -,
    built⟩, bytesEq⟩ := encoded
  rw [require_eq_ok_iff] at known
  cases built
  cases bytesEq
  have statusDistinct :
      (([("status", Json.str status)] : JsonObject).map Prod.fst).Nodup := by
    simp
  rw [accepts_encodePayload_iff]
  · simp only [freeExcept_cons, freeExcept_nil, not_mentionsKey_obj_iff]
    rw [freeExcept_setOptional
        (nodup_keys_setOptional (nodup_keys_setOptional statusDistinct))
        (by decide) not_mentionsKey_of_map_str,
      freeExcept_setOptional (nodup_keys_setOptional statusDistinct)
        (by decide) not_mentionsKey_of_map_str,
      freeExcept_setOptional statusDistinct (by decide)
        not_mentionsKey_of_map_str]
    simp [freeExcept_cons, freeExcept_nil]
  · have dataWellFormed : (Json.obj (setOptional "error_message"
        (errorMessage.map .str) (setOptional "error_code"
          (errorCode.map .str) (setOptional "provider_message_id"
            (providerMessageId.map .str)
            [("status", .str status)])))).WellFormed := by
      apply wellFormed_setOptional _ wellFormed_of_map_str
      apply wellFormed_setOptional _ wellFormed_of_map_str
      apply wellFormed_setOptional _ wellFormed_of_map_str
      simp [Json.wellFormed_obj_iff]
    have timestampsWellFormed :
        (Json.obj [("event_ms", .int eventMs)]).WellFormed := by
      simp [Json.wellFormed_obj_iff]
    rw [Json.wellFormed_obj_iff]
    simp [dataWellFormed, timestampsWellFormed]
  · intro clean
    exact ⟨.sendResult, _, _, {
      noSourcePrincipal := clean
      kindField := by simp [Kind.text]
      dataField := by simp; rfl
      timestampsField := by simp; rfl
      eventMs := ⟨eventMs, by simp, eventMsPos⟩
      prevSeq := by
        intro value found
        exact ⟨prevSeq, by simpa using found.symm, prevSeqSmall⟩
      requestId := fun _ => ⟨requestId, by simp, requestIdNe⟩
      syncRecord := by simp
      sendRequest := by simp
      sendResult := fun _ => {
        prevSeq := by simp
        status := by
          rcases known with rfl | rfl
          · exact Or.inl (by simp [get?_setOptional])
          · exact Or.inr (by simp [get?_setOptional]) } }⟩

section SyncRecord

variable {req : SyncRecordInput} {contentRaw : JsonObject}

theorem wellFormed_syncRecordData
    (contentWellFormed : (Json.obj contentRaw).WellFormed)
    (extraWellFormed : (Json.obj req.extraData).WellFormed) :
    (Json.obj (syncRecordData req contentRaw req.omitReason)).WellFormed := by
  have updated : (Json.obj (Items.update req.extraData
      [("provider_message_id", .str req.providerMessageId),
        ("msg_type", .str req.msgType),
        ("content_raw", .obj contentRaw)])).WellFormed := by
    simp only [Items.update, List.foldl_cons, List.foldl_nil]
    exact ((extraWellFormed.set Json.wellFormed_str).set
      Json.wellFormed_str).set contentWellFormed
  have plain : ∀ {value : Option Bool} stored,
      value.map Json.bool = some stored → stored.WellFormed := by
    intro value stored found
    obtain ⟨_, -, rfl⟩ := Option.map_eq_some_iff.mp found
    exact Json.wellFormed_bool
  unfold syncRecordData
  apply wellFormed_setOptional _ wellFormed_of_map_str
  apply wellFormed_setOptional _ wellFormed_of_map_str
  apply wellFormed_setOptional _ plain
  apply wellFormed_setOptional _ plain
  apply wellFormed_setOptional _ wellFormed_of_map_str
  exact updated

/-- The key reaches the data through the raw content or the kept extra data. -/
theorem freeExcept_syncRecordData_iff
    (distinct : (req.extraData.map Prod.fst).Nodup) :
    FreeExcept "source_principal" []
        (syncRecordData req contentRaw req.omitReason) ↔
      ¬(Json.obj contentRaw).MentionsKey "source_principal" ∧
        FreeExcept "source_principal" (EncoderInput.replacedKeys req)
          req.extraData := by
  have plain : ∀ {value : Option Bool} stored,
      value.map Json.bool = some stored →
        ¬stored.MentionsKey "source_principal" := by
    intro value stored found
    obtain ⟨_, -, rfl⟩ := Option.map_eq_some_iff.mp found
    exact Json.not_mentionsKey_bool
  have updated : ((Items.update req.extraData
      [("provider_message_id", .str req.providerMessageId),
        ("msg_type", .str req.msgType),
        ("content_raw", .obj contentRaw)]).map Prod.fst).Nodup :=
    Items.nodup_keys_set
      (Items.nodup_keys_set (Items.nodup_keys_set distinct))
  unfold syncRecordData
  rw [freeExcept_setOptional _ (by decide) not_mentionsKey_of_map_str,
    freeExcept_setOptional _ (by decide) not_mentionsKey_of_map_str,
    freeExcept_setOptional _ (by decide) plain,
    freeExcept_setOptional _ (by decide) plain,
    freeExcept_setOptional updated (by decide) not_mentionsKey_of_map_str,
    Items.update, List.foldl_cons, List.foldl_cons, List.foldl_cons,
    List.foldl_nil,
    freeExcept_set (Items.nodup_keys_set (Items.nodup_keys_set distinct)),
    freeExcept_set (Items.nodup_keys_set distinct),
    freeExcept_set distinct]
  · simp [EncoderInput.replacedKeys]
  all_goals repeat apply nodup_keys_setOptional
  all_goals exact updated

theorem get?_syncRecordData {key : String}
    (different : key ∉
      ["text", "is_init", "content_omitted", "omit_reason", "text_preview"]) :
    Items.get? key (syncRecordData req contentRaw req.omitReason) =
      Items.get? key (Items.update req.extraData
        [("provider_message_id", .str req.providerMessageId),
          ("msg_type", .str req.msgType),
          ("content_raw", .obj contentRaw)]) := by
  simp only [List.mem_cons, List.not_mem_nil, or_false, not_or] at different
  obtain ⟨text, isInit, contentOmitted, omitReason, textPreview⟩ := different
  unfold syncRecordData
  simp only [get?_setOptional, Ne.symm text, Ne.symm isInit,
    Ne.symm contentOmitted, Ne.symm omitReason, Ne.symm textPreview, if_false]

theorem accepts_encodeSyncRecord_iff
    (contentWellFormed : req.contentRaw.WellFormed)
    (extraWellFormed : (Json.obj req.extraData).WellFormed)
    (encoded : encodeSyncRecord text req = .ok bytes) :
    Accepts text bytes ↔
      ¬req.contentRaw.MentionsKey "source_principal" ∧
        FreeExcept "source_principal" (EncoderInput.replacedKeys req)
          req.extraData := by
  simp only [encodeSyncRecord, syncRecordPayload, bind_eq_ok_iff,
    requireObject_eq_ok_iff, requireTimestampMs_eq_ok_iff,
    checkOptional_seq_eq_ok_iff] at encoded
  obtain ⟨payload, ⟨⟨⟩, messageId, ⟨⟩, msgType, contentRaw, contentEq, eventMs,
    ⟨-, eventMsPos⟩, ingestedMs, ⟨-, ingestedMsPos⟩, omitReason, omitChecked,
    prevSeq, ⟨-, prevSeqSmall⟩, built⟩, bytesEq⟩ := encoded
  rw [verify_eq_ok_iff] at messageId msgType
  simp only [requireNonEmptyStr_eq_ok_iff, Option.some.injEq,
    Json.str.injEq] at messageId msgType
  obtain ⟨_, rfl, messageIdNe⟩ := messageId
  obtain ⟨_, rfl, msgTypeNe⟩ := msgType
  have omitEq := checkOptional_str_eq_ok omitChecked
  subst omitEq
  cases built
  cases bytesEq
  rw [Option.some.injEq] at contentEq
  rw [contentEq] at contentWellFormed
  have dataWellFormed :=
    wellFormed_syncRecordData contentWellFormed extraWellFormed
  rw [contentEq, accepts_encodePayload_iff, freeExcept_setOptional_seq]
  · have dataFree := @freeExcept_syncRecordData_iff req contentRaw
      (Json.wellFormed_obj_iff.mp extraWellFormed).1
    simp only [freeExcept_cons, freeExcept_nil, not_mentionsKey_obj_iff]
    rw [not_mentionsKey_obj_iff] at dataFree
    rw [dataFree]
    simp
  · simp
  · simp
  · apply wellFormed_setOptional_seq
    have timestampsWellFormed : (Json.obj [("event_ms", .int eventMs),
        ("ingested_ms", .int ingestedMs)]).WellFormed := by
      simp [Json.wellFormed_obj_iff]
    rw [Json.wellFormed_obj_iff]
    simp [dataWellFormed, timestampsWellFormed]
  · intro clean
    exact ⟨.syncRecord, _, _, {
      noSourcePrincipal := clean
      kindField := by simp [get?_setOptional, Kind.text]
      dataField := by simp [get?_setOptional]; rfl
      timestampsField := by simp [get?_setOptional]; rfl
      eventMs := ⟨eventMs, by simp, eventMsPos⟩
      prevSeq := validSeq_setOptional (by simp) prevSeqSmall
      requestId := by simp
      syncRecord := fun _ => {
        ingestedMs := ⟨ingestedMs, by simp, ingestedMsPos⟩
        providerMessageId := ⟨req.providerMessageId, by
          rw [get?_syncRecordData (by decide)]
          simp [Items.update, Items.get?_set], messageIdNe⟩
        msgType := ⟨req.msgType, by
          rw [get?_syncRecordData (by decide)]
          simp [Items.update, Items.get?_set], msgTypeNe⟩
        contentRaw := ⟨contentRaw, by
          rw [get?_syncRecordData (by decide)]
          simp [Items.update, Items.get?_set]⟩ }
      sendRequest := by simp
      sendResult := by simp }⟩

end SyncRecord

end Encoders

/-! ## Acceptance of encoded payloads -/

/--
The parser accepts what an encoder returns exactly when the key
`source_principal` does not reach the payload.
-/
theorem accepts_encode_iff (text : JsonText) (input : EncoderInput)
    (bytes : ByteArray) (wellFormed : input.WellFormed)
    (encoded : input.encode text = .ok bytes) :
    Accepts text bytes ↔ input.FreeOfSourcePrincipal := by
  cases input with
  | sendRequest req => exact accepts_encodeSendRequest_iff wellFormed encoded
  | sendResult req =>
      exact iff_of_true (accepts_encodeSendResult encoded) True.intro
  | syncRecord req =>
      exact accepts_encodeSyncRecord_iff wellFormed.1 wellFormed.2 encoded

/-- A request whose content is a nested object with one field. -/
def nestedRequest (key : String) : EncoderInput :=
  .sendRequest
    { requestId := "r1"
      msgType := "text"
      content := .obj [("meta", .obj [(key, .int 7)])]
      eventMs := 0
      prevSeq := none }

/-- The payload of such a request. -/
def nestedPayload (key : String) : JsonObject :=
  [("kind", .str "send.request"),
    ("request_id", .str "r1"),
    ("data", .obj [("msg_type", .str "text"),
      ("content", .obj [("meta", .obj [(key, .int 7)])])]),
    ("timestamps", .obj [("event_ms", .int 0)])]

/-- An ordinary nested key is accepted. -/
theorem accepts_encode_iff_nested :
    Accepts JsonText.compact
      (encodePayload JsonText.compact (nestedPayload "mention")) := by
  have decided := accepts_encode_iff JsonText.compact
    (nestedRequest "mention") _
    (by simp [EncoderInput.WellFormed, nestedRequest, Json.wellFormed_obj_iff])
    rfl
  apply decided.mpr
  simp [EncoderInput.FreeOfSourcePrincipal, nestedRequest,
    Json.mentionsKey_obj_iff]

/-- The encoder returns a request that the parser rejects. -/
theorem encode_returns_rejected_payload :
    (nestedRequest "source_principal").WellFormed ∧
      (nestedRequest "source_principal").encode JsonText.compact =
        .ok (encodePayload JsonText.compact
          (nestedPayload "source_principal")) ∧
      ¬Accepts JsonText.compact
        (encodePayload JsonText.compact
          (nestedPayload "source_principal")) := by
  have wellFormed : (nestedRequest "source_principal").WellFormed := by
    simp [EncoderInput.WellFormed, nestedRequest, Json.wellFormed_obj_iff]
  refine ⟨wellFormed, rfl, ?_⟩
  intro accepted
  have clean := (accepts_encodeSendRequest_iff wellFormed rfl).mp accepted
  apply clean
  simp [Json.mentionsKey_obj_iff]

end OpenEventIm.Sdk.CodecAcceptance
