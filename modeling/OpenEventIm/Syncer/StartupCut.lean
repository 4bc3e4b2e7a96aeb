import OpenEventIm.Sdk.MessageReading
import OpenEventIm.Syncer.HistoryReplay

/-!
# The startup cut

At startup the worker replays the log up to the number it read from `GetStatus`
and processes everything later as live messages.  The live processing takes
requests only, so a result or a record after the cut has no effect unless its
request or provider message was settled before the cut.
-/

namespace OpenEventIm.Syncer.StartupCut

open OpenEventIm.Foundation
open OpenEventIm.Foundation.Checked
open OpenEventIm.Sdk.Errors
open OpenEventIm.Sdk.Codec
open OpenEventIm.Sdk.CodecAcceptance
open OpenEventIm.Sdk.Client
open OpenEventIm.Sdk.MessageReading
open OpenEventIm.Service.Calls
open OpenEventIm.Syncer.Models
open OpenEventIm.Syncer.Mapping
open OpenEventIm.Syncer.State
open OpenEventIm.Syncer.LogMeaning
open OpenEventIm.Syncer.HistoryReplay
open OpenEventIm.Syncer.HistoryReplay.P2PSyncer

/-! ## Live processing -/

section Live

variable {syncer : P2PSyncer} {state : RuntimeState}
  {requests : List OutboundTask} {facts : List WorkerFact}
  {message : Message} {parsed : ParsedMessage}

/-- The live processing of a message that can be read, by its kind. -/
theorem processLiveMessage_eq
    (read : parseMessage syncer.text message = .ok parsed)
    (owned : syncer.mapping.ownsChannel parsed.channelId = true)
    (roles : syncer.validateMessageRoles parsed = .ok ()) :
    syncer.processLiveMessage state message =
      if parsed.kind ≠ .sendRequest then
        .ok state
      else
        fatalOnConflict
          s!"conflicting live OpenEvent state at seq={parsed.seq}"
          (finished (state.addSendRequest parsed)) := by
  simp only [processLiveMessage, read, owned, roles, Bool.not_true,
    Bool.false_eq_true, if_false]
  rfl

theorem fatalOnConflict_eq_ok_iff {Result : Type} {text : String}
    {computed : Except PyError Result} {result : Result} :
    fatalOnConflict text computed = .ok result ↔ computed = .ok result := by
  cases computed with
  | ok value => exact Iff.rfl
  | error exc =>
      rw [fatalOnConflict]
      split_ifs
      · simp
      · simp

/-- What the live processing adds to the requests of a log. -/
def liveItems (syncer : P2PSyncer) (messages : List Message) :
    List OutboundTask :=
  requestsOf (syncer.itemsOf messages)

/-- A message that the history would accept is processed live as well. -/
theorem processLiveMessage_follows
    (reflects : Reflects state requests facts)
    (readable : syncer.Readable message)
    (admits : ∀ task, syncer.itemOf? message = some (.request task) →
      AdmitsRequest requests task) :
    ∃ next, syncer.processLiveMessage state message = .ok next ∧
      Reflects next (requests ++ liveItems syncer [message]) facts := by
  obtain ⟨parsed, read, roles⟩ := readable
  rw [liveItems, itemsOf_singleton]
  cases owned : syncer.mapping.ownsChannel parsed.channelId with
  | false =>
      refine ⟨state, ?_, ?_⟩
      · simp only [processLiveMessage, read, owned, Bool.not_false, if_true]
      · rw [itemOf?_eq_none read owned]
        simpa [requestsOf] using reflects
  | true =>
      obtain ⟨session, known⟩ := exists_session owned
      have item := itemOf?_eq_some read known
      rw [processLiveMessage_eq read owned (roles owned), item]
      cases kind : parsed.kind with
      | sendRequest =>
          have isRequest : itemOf parsed session =
              .request (.ofParsed parsed) := by
            simp only [itemOf, kind]
          rw [isRequest] at item ⊢
          have accepted := reflects.addSendRequest_ok_iff.mpr
            (admits _ item)
          refine ⟨(state.addSendRequest parsed).2, ?_, ?_⟩
          · rw [if_neg (by simp), fatalOnConflict_eq_ok_iff,
              finished_eq_ok_iff]
            exact ⟨accepted, rfl⟩
          · exact reflects.addSendRequest accepted
      | sendResult =>
          refine ⟨state, if_pos (by simp), ?_⟩
          simpa [itemOf, kind] using reflects
      | syncRecord =>
          refine ⟨state, if_pos (by simp), ?_⟩
          simpa [itemOf, kind] using reflects

/-- The live processing of the rest of a log that can be replayed. -/
theorem followLive_follows {before after : List Message}
    (readable : ∀ message ∈ after, syncer.Readable message)
    (replayable : Replayable (syncer.itemsOf (before ++ after)))
    (reflects : Reflects state (requestsOf (syncer.itemsOf before)) facts) :
    ∃ next, syncer.followLive state after = .ok next ∧
      Reflects next (requestsOf (syncer.itemsOf (before ++ after))) facts := by
  induction after generalizing before state with
  | nil =>
      rw [List.append_nil]
      exact ⟨state, rfl, reflects⟩
  | cons message after ih =>
      have split : before ++ message :: after =
          (before ++ [message]) ++ after := by simp
      rw [split] at replayable ⊢
      have admits : ∀ task, syncer.itemOf? message = some (.request task) →
          AdmitsRequest (requestsOf (syncer.itemsOf before)) task := by
        intro task item
        refine replayable (syncer.itemsOf before) (.request task) ?_
        rw [itemsOf_append, itemsOf_append, itemsOf_singleton, item]
        exact List.prefix_append _ _
      obtain ⟨middle, processed, middleReflects⟩ :=
        processLiveMessage_follows reflects
          (readable message List.mem_cons_self) admits
      rw [liveItems, ← requestsOf_append, ← itemsOf_append] at middleReflects
      obtain ⟨next, followed, nextReflects⟩ :=
        ih (fun other member => readable other
          (List.mem_cons_of_mem message member)) replayable middleReflects
      refine ⟨next, ?_, nextReflects⟩
      rw [followLive, List.foldlM_cons, processed]
      exact followed

end Live

/-! ## The cut -/

variable (syncer : P2PSyncer)

/-- The first `cut` messages through the history, the others live. -/
def startWithCut (messages : List Message) (cut : Nat) :
    Except PyError RuntimeState := do
  let state ← syncer.replay .initial (messages.take cut)
  syncer.followLive state (messages.drop cut)

/-- The same unfinished requests, seen messages and reported messages. -/
structure SameProgress (left right : RuntimeState) : Prop where
  requestsById : left.requestsById.Agrees right.requestsById
  inboundSeen : left.inboundSeen = right.inboundSeen
  sendResultByProviderMessage :
    left.sendResultByProviderMessage.Agrees right.sendResultByProviderMessage

/-- The parsed messages of a log. -/
def parsedMessages (messages : List Message) : List ParsedMessage :=
  messages.filterMap fun message =>
    (parseMessage syncer.text message).toOption

/-- An earlier message settles the request or the provider message. -/
def Settles (parsed earlier : ParsedMessage) : Prop :=
  match parsed.kind with
  | .sendRequest => False
  | .sendResult => earlier.kind = .sendResult ∧
      earlier.requestId.getD "" = parsed.requestId.getD ""
  | .syncRecord => earlier.kind = .syncRecord ∧
      earlier.channelId = parsed.channelId ∧
        dataString "provider_message_id" earlier =
          dataString "provider_message_id" parsed

/--
Whatever is settled after the cut was settled before: every `send.result` after
the cut repeats one before it for the same request, and every `sync.record`
after the cut one before it for the same provider message.
-/
def SettledBeforeCut (messages : List Message) (cut : Nat) : Prop :=
  ∀ parsed ∈ parsedMessages syncer (messages.drop cut),
    parsed.kind ≠ .sendRequest →
      ∃ earlier ∈ parsedMessages syncer (messages.take cut),
        Settles parsed earlier

variable {syncer} {messages : List Message} {message : Message}
  {parsed : ParsedMessage}

theorem mem_parsedMessages :
    parsed ∈ parsedMessages syncer messages ↔
      ∃ message ∈ messages, parseMessage syncer.text message = .ok parsed := by
  simp only [parsedMessages, List.mem_filterMap]
  constructor
  · rintro ⟨message, member, read⟩
    refine ⟨message, member, ?_⟩
    cases result : parseMessage syncer.text message with
    | error error =>
        rw [result] at read
        cases read
    | ok value =>
        rw [result] at read
        cases read
        rfl
  · rintro ⟨message, member, read⟩
    exact ⟨message, member, by rw [read]; rfl⟩

/-- The messages are those of mapped channels. -/
def Mapped (syncer : P2PSyncer) (messages : List Message) : Prop :=
  ∀ message ∈ messages, syncer.mapping.ownsChannel message.channelId = true

theorem Mapped.exists_session (mapped : Mapped syncer messages)
    (member : parsed ∈ parsedMessages syncer messages) :
    ∃ session,
      syncer.mapping.providerSession parsed.channelId = .ok session ∧
        ∃ message ∈ messages,
          syncer.itemOf? message = some (itemOf parsed session) := by
  obtain ⟨message, inside, read⟩ := mem_parsedMessages.mp member
  have owned := mapped message inside
  rw [← (parseMessage_envelope read).2.1] at owned
  obtain ⟨session, known⟩ := P2PSyncer.exists_session owned
  exact ⟨session, known, message, inside, itemOf?_eq_some read known⟩

/-- The facts of a log of mapped channels are those of its parsed messages. -/
theorem mem_factsOf {fact : WorkerFact}
    (member : fact ∈ factsOf (syncer.itemsOf messages)) :
    ∃ parsed ∈ parsedMessages syncer messages, ∃ session,
      syncer.mapping.providerSession parsed.channelId = .ok session ∧
        itemOf parsed session = .fact fact := by
  simp only [factsOf, itemsOf, List.mem_filterMap] at member
  obtain ⟨item, ⟨message, inside, read⟩, isFact⟩ := member
  rw [itemOf?] at read
  cases parsedAs : parseMessage syncer.text message with
  | error error =>
      rw [parsedAs] at read
      cases read
  | ok parsed =>
      rw [parsedAs] at read
      cases known : syncer.mapping.providerSession parsed.channelId with
      | error error => simp [known] at read
      | ok session =>
          simp only [known, Option.some.injEq] at read
          refine ⟨parsed, mem_parsedMessages.mpr ⟨message, inside, parsedAs⟩,
            session, known, ?_⟩
          rw [read]
          cases item with
          | request task => cases isFact
          | fact other =>
              cases isFact
              rfl

theorem mem_factsOf_of_item {item : LogItem} {fact : WorkerFact}
    (inside : message ∈ messages) (read : syncer.itemOf? message = some item)
    (isFact : item = .fact fact) :
    fact ∈ factsOf (syncer.itemsOf messages) := by
  subst isFact
  exact List.mem_filterMap.mpr
    ⟨_, List.mem_filterMap.mpr ⟨message, inside, read⟩, rfl⟩

/-- Settling, in terms of the facts before and after the cut. -/
structure FactsSettled (before after : List WorkerFact) : Prop where
  result : ∀ result key, .result result key ∈ after →
    firstResult before result.requestId ≠ none
  record : ∀ key prevSeq eventMs, .record key prevSeq eventMs ∈ after →
    Recorded before key

theorem settledBeforeCut_iff {cut : Nat} (mapped : Mapped syncer messages) :
    SettledBeforeCut syncer messages cut ↔
      FactsSettled (factsOf (syncer.itemsOf (messages.take cut)))
        (factsOf (syncer.itemsOf (messages.drop cut))) := by
  have mappedBefore : Mapped syncer (messages.take cut) :=
    fun message member => mapped message (List.mem_of_mem_take member)
  have mappedAfter : Mapped syncer (messages.drop cut) :=
    fun message member => mapped message (List.mem_of_mem_drop member)
  constructor
  · intro settled
    refine ⟨fun result key member => ?_, fun key prevSeq eventMs member => ?_⟩
    · obtain ⟨parsed, inside, session, -, item⟩ := mem_factsOf member
      obtain ⟨kind, rfl, -⟩ := itemOf_eq_result_iff.mp item
      obtain ⟨earlier, earlierInside, settles⟩ :=
        settled parsed inside (by simp [kind])
      simp only [Settles, kind] at settles
      obtain ⟨otherSession, -, message, there, read⟩ :=
        mappedBefore.exists_session earlierInside
      exact firstResult_ne_none_iff.mpr
        ⟨.ofParsed earlier, resultKey earlier otherSession,
          mem_factsOf_of_item there read
            (itemOf_eq_result_iff.mpr ⟨settles.1, rfl, rfl⟩), settles.2⟩
    · obtain ⟨parsed, inside, session, known, item⟩ := mem_factsOf member
      obtain ⟨kind, sameKey, -⟩ := itemOf_eq_record_iff.mp item
      obtain ⟨earlier, earlierInside, settles⟩ :=
        settled parsed inside (by simp [kind])
      simp only [Settles, kind] at settles
      obtain ⟨otherSession, otherKnown, message, there, read⟩ :=
        mappedBefore.exists_session earlierInside
      -- one channel has one session
      rw [settles.2.1, known] at otherKnown
      cases otherKnown
      have isKey : key =
          RuntimeState.syncRecordKey earlier session.1 session.2 := by
        rw [sameKey, RuntimeState.syncRecordKey, RuntimeState.syncRecordKey,
          settles.2.1, settles.2.2]
      exact recorded_iff.mpr ⟨earlier.prevSeq, earlier.eventMs,
        mem_factsOf_of_item there read
          (itemOf_eq_record_iff.mpr ⟨settles.1, isKey, rfl, rfl⟩)⟩
  · intro settled parsed member notRequest
    obtain ⟨session, known, message, inside, read⟩ :=
      mappedAfter.exists_session member
    cases kind : parsed.kind with
    | sendRequest => exact absurd kind notRequest
    | sendResult =>
        have isFact : .result (.ofParsed parsed) (resultKey parsed session) ∈
            factsOf (syncer.itemsOf (messages.drop cut)) :=
          mem_factsOf_of_item inside read
            (itemOf_eq_result_iff.mpr ⟨kind, rfl, rfl⟩)
        obtain ⟨result, key, there, same⟩ :=
          firstResult_ne_none_iff.mp (settled.result _ _ isFact)
        obtain ⟨earlier, earlierInside, otherSession, -, item⟩ :=
          mem_factsOf there
        obtain ⟨earlierKind, rfl, -⟩ := itemOf_eq_result_iff.mp item
        refine ⟨earlier, earlierInside, ?_⟩
        simp only [Settles, kind]
        exact ⟨earlierKind, same⟩
    | syncRecord =>
        have isFact : .record
            (RuntimeState.syncRecordKey parsed session.1 session.2)
            parsed.prevSeq parsed.eventMs ∈
              factsOf (syncer.itemsOf (messages.drop cut)) :=
          mem_factsOf_of_item inside read
            (itemOf_eq_record_iff.mpr ⟨kind, rfl, rfl, rfl⟩)
        obtain ⟨prevSeq, eventMs, there⟩ :=
          recorded_iff.mp (settled.record _ _ _ isFact)
        obtain ⟨earlier, earlierInside, otherSession, -, item⟩ :=
          mem_factsOf there
        obtain ⟨earlierKind, sameKey, -⟩ := itemOf_eq_record_iff.mp item
        have sameParts := InboundKey.mk.inj sameKey
        refine ⟨earlier, earlierInside, ?_⟩
        simp only [Settles, kind]
        exact ⟨earlierKind, sameParts.2.2.1.symm, sameParts.2.2.2.symm⟩

/--
Two states that reflect the same requests, one of them without the facts after
the cut, show the same progress exactly when those facts were settled before.
-/
theorem sameProgress_iff {live full : RuntimeState}
    {requests : List OutboundTask} {before after : List WorkerFact}
    (liveReflects : Reflects live requests before)
    (fullReflects : Reflects full requests (before ++ after))
    (answered : ∀ result key, .result result key ∈ after →
      ∃ task, firstRequest requests result.requestId = some task) :
    SameProgress live full ↔ FactsSettled before after := by
  constructor
  · intro same
    refine ⟨fun result key member unsettled => ?_,
      fun key prevSeq eventMs member => ?_⟩
    · -- the request is finished after the replay but pending after the cut
      obtain ⟨task, found⟩ := answered result key member
      have agree := same.requestsById result.requestId
      have finished : firstResult (before ++ after) result.requestId ≠ none :=
        firstResult_ne_none_iff.mpr
          ⟨result, key, List.mem_append_right _ member, rfl⟩
      rw [liveReflects.pending, fullReflects.pending, unsettled, found,
        if_pos (Option.isSome_iff_ne_none.mpr finished)] at agree
      cases agree
    · rw [← liveReflects.seen, same.inboundSeen, fullReflects.seen]
      exact recorded_iff.mpr
        ⟨prevSeq, eventMs, List.mem_append_right _ member⟩
  · intro settled
    have sameResults : ∀ requestId,
        (firstResult (before ++ after) requestId).isSome =
          (firstResult before requestId).isSome := by
      intro requestId
      rw [firstResult_append]
      cases first : firstResult before requestId with
      | some result => rfl
      | none =>
          cases later : firstResult after requestId with
          | none => rfl
          | some result =>
              obtain ⟨other, key, member, same⟩ :=
                firstResult_ne_none_iff.mp
                  (by rw [later]; exact Option.some_ne_none result)
              have isSettled := settled.result other key member
              rw [same, first] at isSettled
              exact absurd rfl isSettled
    refine ⟨fun requestId => ?_, ?_, fun key => ?_⟩
    · rw [liveReflects.pending, fullReflects.pending, sameResults]
    · apply Finset.ext
      intro key
      rw [liveReflects.seen, fullReflects.seen, recorded_iff, recorded_iff]
      constructor
      · rintro ⟨prevSeq, eventMs, member⟩
        exact ⟨prevSeq, eventMs, List.mem_append_left _ member⟩
      · rintro ⟨prevSeq, eventMs, member⟩
        rcases List.mem_append.mp member with inside | isLater
        · exact ⟨prevSeq, eventMs, inside⟩
        · exact recorded_iff.mp (settled.record key prevSeq eventMs isLater)
    · rw [liveReflects.reported, fullReflects.reported]
      exact (reportedSeq_append_settled fun result member =>
        settled.result result _ member).symm

/-- The startup reflects all requests, but only the facts before the cut. -/
theorem startWithCut_reflects {full : RuntimeState} (cut : Nat)
    (accepted : syncer.replay .initial messages = .ok full) :
    ∃ live, startWithCut syncer messages cut = .ok live ∧
      Reflects live (requestsOf (syncer.itemsOf messages))
        (factsOf (syncer.itemsOf (messages.take cut))) := by
  have split := List.take_append_drop cut messages
  obtain ⟨readable, replayable⟩ := replay_ok_iff.mp ⟨full, accepted⟩
  rw [← split, replay_append, bind_eq_ok_iff] at accepted
  obtain ⟨middle, early, -⟩ := accepted
  rw [← split] at replayable
  obtain ⟨live, followed, reflects⟩ := followLive_follows
    (fun message member => readable message (List.mem_of_mem_drop member))
    replayable (replays_replay early).reflects
  rw [split] at reflects
  refine ⟨live, ?_, reflects⟩
  rw [startWithCut, early]
  exact followed

theorem startWithCut_sameProgress {full : RuntimeState} (cut : Nat)
    (accepted : syncer.replay .initial messages = .ok full) :
    (∃ live, startWithCut syncer messages cut = .ok live ∧
        SameProgress live full) ↔
      FactsSettled (factsOf (syncer.itemsOf (messages.take cut)))
        (factsOf (syncer.itemsOf (messages.drop cut))) := by
  obtain ⟨live, started, liveReflects⟩ := startWithCut_reflects cut accepted
  obtain ⟨-, replayable⟩ := replay_ok_iff.mp ⟨full, accepted⟩
  have fullReflects := (replays_replay accepted).reflects
  have factsSplit : factsOf (syncer.itemsOf messages) =
      factsOf (syncer.itemsOf (messages.take cut)) ++
        factsOf (syncer.itemsOf (messages.drop cut)) := by
    rw [← factsOf_append, ← itemsOf_append, List.take_append_drop]
  rw [factsSplit] at fullReflects
  rw [← sameProgress_iff liveReflects fullReflects, started]
  · simp
  · intro result key member
    have inside : .result result key ∈ factsOf (syncer.itemsOf messages) := by
      rw [factsSplit]
      exact List.mem_append_right _ member
    rcases replayable.answers inside with ⟨task, found, -⟩
    exact ⟨task, found⟩

/--
For a log of mapped channels that the history accepts, a startup cut keeps the
unfinished requests, the seen messages and the reported messages of the full
replay exactly when everything settled after the cut was settled before it.
-/
theorem startWithCut_sameProgress_iff (syncer : P2PSyncer)
    (messages : List Message) (cut : Nat) (full : RuntimeState)
    (mapped : Mapped syncer messages)
    (accepted : syncer.replay .initial messages = .ok full) :
    (∃ live, startWithCut syncer messages cut = .ok live ∧
        SameProgress live full) ↔
      SettledBeforeCut syncer messages cut := by
  rw [settledBeforeCut_iff mapped]
  exact startWithCut_sameProgress cut accepted

/-! ## A result that commits late -/

/-- The payload of a request. -/
def requestPayload : JsonObject :=
  [("kind", .str "send.request"), ("request_id", .str "r1"),
    ("data", .obj [("msg_type", .str "text"), ("content", .obj [])]),
    ("timestamps", .obj [("event_ms", .int 0)])]

/-- The payload of its result. -/
def resultPayload : JsonObject :=
  [("kind", .str "send.result"), ("prev_seq", .int 1),
    ("request_id", .str "r1"),
    ("data", .obj
      [("status", .str "SUCCESS"), ("provider_message_id", .str "om1")]),
    ("timestamps", .obj [("event_ms", .int 0)])]

def requestMessage : Message where
  seq := 1
  channelId := 3
  principal := 8
  recipients := []
  payload := encodePayload JsonText.compact requestPayload

def resultMessage : Message where
  seq := 2
  channelId := 3
  principal := 9
  recipients := [8]
  payload := encodePayload JsonText.compact resultPayload

def requestParsed : ParsedMessage where
  seq := 1
  channelId := 3
  principal := 8
  recipients := []
  kind := .sendRequest
  payload := requestPayload
  data := [("msg_type", .str "text"), ("content", .obj [])]
  eventMs := 0
  ingestedMs := none
  requestId := some "r1"
  prevSeq := none

def resultParsed : ParsedMessage where
  seq := 2
  channelId := 3
  principal := 9
  recipients := [8]
  kind := .sendResult
  payload := resultPayload
  data := [("status", .str "SUCCESS"), ("provider_message_id", .str "om1")]
  eventMs := 0
  ingestedMs := none
  requestId := some "r1"
  prevSeq := some 1

theorem parse_requestMessage :
    parseMessage sampleSyncer.text requestMessage = .ok requestParsed := by
  have wellFormed : (Json.obj requestPayload).WellFormed := by
    simp [requestPayload, Json.wellFormed_obj_iff]
  have accepted : Accepts JsonText.compact requestMessage.payload := by
    refine (@accepts_encodeSendRequest_iff JsonText.compact _
      ⟨"r1", "text", .obj [], 0, none⟩ ?_ rfl).mpr ?_
    · simp [Json.wellFormed_obj_iff]
    · simp [Json.mentionsKey_obj_iff]
  refine parseMessage_eq_ok_iff.mpr ⟨?_, accepted, ?_⟩
  · exact (readMessage_of_encoded rfl wellFormed).trans rfl
  · exact ⟨by decide, by decide, by decide, by decide⟩

set_option maxRecDepth 4000 in
theorem sendResultPayload_sample :
    sendResultPayload ⟨"r1", 1, "SUCCESS", 0, some "om1", none, none⟩ =
      .ok resultPayload := rfl

theorem parse_resultMessage :
    parseMessage sampleSyncer.text resultMessage = .ok resultParsed := by
  have wellFormed : (Json.obj resultPayload).WellFormed := by
    simp [resultPayload, Json.wellFormed_obj_iff]
  have encoded : resultMessage.payload =
      encodePayload sampleSyncer.text resultPayload := by
    simp only [resultMessage, sampleSyncer]
  have accepted : Accepts sampleSyncer.text resultMessage.payload := by
    rw [encoded]
    exact accepts_encodeSendResult
      (encodeSendResult_of_payload sampleSyncer.text sendResultPayload_sample)
  refine parseMessage_eq_ok_iff.mpr ⟨?_, accepted, ?_⟩
  · exact (readMessage_of_encoded encoded wellFormed).trans rfl
  · refine ⟨by decide, by decide, by decide, ?_⟩
    intro recipient member
    rw [List.mem_singleton.mp member]
    decide

/-- The result, committed a second time. -/
def repeatedResult : Message := { resultMessage with seq := 3 }

theorem parse_repeatedResult :
    parseMessage sampleSyncer.text repeatedResult =
      .ok { resultParsed with seq := 3 } :=
  parseMessage_moved (by decide) parse_resultMessage

theorem itemsOf_requestMessage :
    sampleSyncer.itemsOf [requestMessage] =
      [.request (.ofParsed requestParsed)] := by
  rw [itemsOf_singleton, itemOf?_eq_some parse_requestMessage rfl]
  rfl

theorem itemsOf_resultMessage :
    sampleSyncer.itemsOf [resultMessage] =
      [.fact (.result (.ofParsed resultParsed)
        (some ⟨"lark", "oc1", 3, "om1"⟩))] := by
  rw [itemsOf_singleton, itemOf?_eq_some parse_resultMessage rfl]
  rfl

theorem itemsOf_repeatedResult :
    sampleSyncer.itemsOf [repeatedResult] =
      [.fact (.result (.ofParsed { resultParsed with seq := 3 })
        (some ⟨"lark", "oc1", 3, "om1"⟩))] := by
  rw [itemsOf_singleton, itemOf?_eq_some parse_repeatedResult rfl]
  rfl

/-- The request with its result. -/
def answeredMessages : List Message := [requestMessage, resultMessage]

/-- The result has been committed twice. -/
def repeatedMessages : List Message := answeredMessages ++ [repeatedResult]

theorem mapped_repeatedMessages : Mapped sampleSyncer repeatedMessages := by
  intro message member
  rcases List.mem_append.mp member with first | again
  · rcases List.mem_pair.mp first with rfl | rfl
    · rfl
    · rfl
  · cases List.mem_singleton.mp again
    rfl

theorem mapped_answeredMessages : Mapped sampleSyncer answeredMessages :=
  fun message member => mapped_repeatedMessages message
    (List.mem_append_left _ member)

theorem itemsOf_answeredMessages :
    sampleSyncer.itemsOf answeredMessages =
      [.request (.ofParsed requestParsed)] ++
        [.fact (.result (.ofParsed resultParsed)
          (some ⟨"lark", "oc1", 3, "om1"⟩))] := by
  rw [← itemsOf_requestMessage, ← itemsOf_resultMessage, ← itemsOf_append]
  rfl

theorem replayable_answeredMessages :
    Replayable (sampleSyncer.itemsOf answeredMessages) := by
  rw [itemsOf_answeredMessages, replayable_append,
    ← List.nil_append [LogItem.request _], replayable_append]
  refine ⟨⟨replayable_nil, ?_⟩, _, rfl, rfl, rfl, rfl⟩
  intro existing found
  cases found

theorem readable_answeredMessages :
    ∀ message ∈ answeredMessages, sampleSyncer.Readable message := by
  intro message member
  rcases List.mem_pair.mp member with rfl | rfl
  · exact ⟨_, parse_requestMessage, fun _ => rfl⟩
  · exact ⟨_, parse_resultMessage, fun _ => rfl⟩

/-- The history accepts the request and its result. -/
theorem replay_answeredMessages :
    ∃ full, sampleSyncer.replay .initial answeredMessages = .ok full :=
  replay_ok_iff.mpr ⟨readable_answeredMessages, replayable_answeredMessages⟩

/-- The history accepts the result once more. -/
theorem replay_repeatedMessages :
    ∃ full, sampleSyncer.replay .initial repeatedMessages = .ok full := by
  refine replay_ok_iff.mpr ⟨?_, ?_⟩
  · intro message member
    rcases List.mem_append.mp member with first | again
    · exact readable_answeredMessages message first
    · cases List.mem_singleton.mp again
      exact ⟨_, parse_repeatedResult, fun _ => rfl⟩
  · rw [repeatedMessages, itemsOf_append, itemsOf_repeatedResult,
      replayable_append]
    refine ⟨replayable_answeredMessages, ?_⟩
    rw [itemsOf_answeredMessages]
    rfl

/-- A cut before the repeated result keeps the progress. -/
theorem startWithCut_sameProgress_iff_sample :
    ∃ full live,
      sampleSyncer.replay .initial repeatedMessages = .ok full ∧
        startWithCut sampleSyncer repeatedMessages 2 = .ok live ∧
          SameProgress live full := by
  obtain ⟨full, accepted⟩ := replay_repeatedMessages
  have decided := startWithCut_sameProgress_iff sampleSyncer repeatedMessages 2
    full mapped_repeatedMessages accepted
  have settled : SettledBeforeCut sampleSyncer repeatedMessages 2 := by
    intro parsed member notRequest
    obtain ⟨message, after, read⟩ := mem_parsedMessages.mp member
    cases List.mem_singleton.mp after
    rw [parse_repeatedResult] at read
    cases read
    refine ⟨resultParsed, mem_parsedMessages.mpr
      ⟨resultMessage, List.mem_cons_of_mem _ List.mem_cons_self,
        parse_resultMessage⟩, rfl, rfl⟩
  obtain ⟨live, started, same⟩ := decided.mpr settled
  exact ⟨full, live, accepted, started, same⟩

/-- A cut between a request and its result loses the result. -/
theorem startWithCut_losesLateResult :
    Mapped sampleSyncer answeredMessages ∧
      ∃ full, sampleSyncer.replay .initial answeredMessages = .ok full ∧
        ¬∃ live, startWithCut sampleSyncer answeredMessages 1 = .ok live ∧
          SameProgress live full := by
  obtain ⟨full, accepted⟩ := replay_answeredMessages
  refine ⟨mapped_answeredMessages, full, accepted, ?_⟩
  rw [startWithCut_sameProgress 1 accepted]
  intro settled
  have late : .result (.ofParsed resultParsed)
      (some ⟨"lark", "oc1", 3, "om1"⟩) ∈
        factsOf (sampleSyncer.itemsOf [resultMessage]) := by
    rw [itemsOf_resultMessage]
    exact List.mem_singleton_self _
  apply settled.result _ _ late
  show firstResult (factsOf (sampleSyncer.itemsOf [requestMessage])) _ = none
  rw [itemsOf_requestMessage]
  rfl

end OpenEventIm.Syncer.StartupCut
