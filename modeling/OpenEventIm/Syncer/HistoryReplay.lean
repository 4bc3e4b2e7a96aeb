import OpenEventIm.Syncer.LogMeaning
import OpenEventIm.Syncer.Mapping

/-!
# History replay and live processing

The two dispatchers over OpenEvent messages: `_process_history_message` rebuilds
the runtime state from the log, `_process_live_message` takes new requests.

A replay succeeds exactly when every message can be read and every item of the
log may follow the ones before it; the state it leaves reflects the log.
-/

namespace OpenEventIm.Syncer.HistoryReplay

open OpenEventIm.Foundation
open OpenEventIm.Foundation.Checked
open OpenEventIm.Sdk.Errors
open OpenEventIm.Sdk.Client
open OpenEventIm.Service.Calls
open OpenEventIm.Syncer.Models
open OpenEventIm.Syncer.Mapping
open OpenEventIm.Syncer.State
open OpenEventIm.Syncer.LogMeaning

/-- What `P2PSyncer` keeps unchanged: its configuration and the index of it. -/
structure P2PSyncer where
  text : JsonText
  config : SyncerConfig
  mapping : P2PMappingIndex
  built : P2PMappingIndex.build config = .ok mapping

/-- The state after an operation that did not raise. -/
def finished (outcome : Outcome) : Except PyError RuntimeState :=
  outcome.1.map fun _ => outcome.2

theorem finished_eq_ok_iff {outcome : Outcome} {state : RuntimeState} :
    finished outcome = .ok state ↔
      outcome.1 = .ok () ∧ outcome.2 = state := by
  obtain ⟨result, after⟩ := outcome
  cases result with
  | error => simp [finished, Except.map]
  | ok => simp [finished, Except.map]

def stateConflict (message : String) : PyError :=
  .raised .stateConflictError message

namespace P2PSyncer

variable (syncer : P2PSyncer)

/-! ## The two dispatchers -/

/--
`_validate_message_roles`, for a message of an owned channel; there the two
reads of the channel table leave the index as it is.
-/
def validateMessageRoles (parsed : ParsedMessage) : Except PyError Unit :=
  match parsed.kind with
  | .syncRecord => do
      require (parsed.principal ∈
          (syncer.mapping.entriesForChannel parsed.channelId).1.map
            MappingEntry.principal)
        (stateConflict "sync.record principal is not a channel participant")
      require (parsed.recipients =
          (syncer.mapping.peerPrincipals parsed.channelId
            parsed.principal).1)
        (stateConflict "sync.record recipients do not match the P2P peer")
  | .sendResult =>
      require (parsed.principal = syncer.config.worker.principal)
        (stateConflict "send.result principal is not the sync worker")
  | .sendRequest => .ok ()

/-- The operation that the history makes of a message. -/
def addMessage (state : RuntimeState) (parsed : ParsedMessage)
    (session : Session) : Outcome :=
  match parsed.kind with
  | .sendRequest => state.addSendRequest parsed
  | .sendResult => state.addSendResult parsed session.1 session.2
  | .syncRecord => state.addSyncRecord parsed session.1 session.2

/-- `_process_history_message`. -/
def processHistoryMessage (state : RuntimeState) (message : Message) :
    Except PyError RuntimeState :=
  match parseMessage syncer.text message with
  | .error exc => .error (.raisedFrom .runtimeError
      s!"failed to parse OpenEvent history message seq={message.seq}" exc)
  | .ok parsed =>
      if !syncer.mapping.ownsChannel parsed.channelId then
        .ok state
      else do
        syncer.validateMessageRoles parsed
        let session ← syncer.mapping.providerSession parsed.channelId
        finished (addMessage state parsed session)

/-- The handler of `except StateConflictError`. -/
def fatalOnConflict {Result : Type} (message : String) :
    Except PyError Result → Except PyError Result
  | .ok result => .ok result
  | .error exc =>
      if exc.cls = .stateConflictError then
        .error (.raisedFrom .fatalSyncerError message exc)
      else
        .error exc

/-- `_process_live_message`. -/
def processLiveMessage (state : RuntimeState) (message : Message) :
    Except PyError RuntimeState :=
  match parseMessage syncer.text message with
  | .error exc => .error (.raisedFrom .fatalSyncerError
      s!"failed to parse live OpenEvent message seq={message.seq}" exc)
  | .ok parsed =>
      if !syncer.mapping.ownsChannel parsed.channelId then
        .ok state
      else do
        fatalOnConflict
          s!"invalid live OpenEvent message roles at seq={parsed.seq}"
          (syncer.validateMessageRoles parsed)
        if parsed.kind ≠ .sendRequest then
          return state
        else
          fatalOnConflict
            s!"conflicting live OpenEvent state at seq={parsed.seq}"
            (finished (state.addSendRequest parsed))

/-- The whole log through the history. -/
def replay (state : RuntimeState) (messages : List Message) :
    Except PyError RuntimeState :=
  messages.foldlM syncer.processHistoryMessage state

/-- Messages through the live processing. -/
def followLive (state : RuntimeState) (messages : List Message) :
    Except PyError RuntimeState :=
  messages.foldlM syncer.processLiveMessage state

/-! ## Reading a log -/

/-- The item of a message, if it can be read and its channel is owned. -/
def itemOf? (message : Message) : Option LogItem :=
  match parseMessage syncer.text message with
  | .error _ => none
  | .ok parsed =>
      match syncer.mapping.providerSession parsed.channelId with
      | .error _ => none
      | .ok session => some (itemOf parsed session)

def itemsOf (messages : List Message) : List LogItem :=
  messages.filterMap syncer.itemOf?

/-- The message passes the parser and the check of roles. -/
def Readable (message : Message) : Prop :=
  ∃ parsed, parseMessage syncer.text message = .ok parsed ∧
    (syncer.mapping.ownsChannel parsed.channelId = true →
      syncer.validateMessageRoles parsed = .ok ())

variable {syncer} {message : Message} {parsed : ParsedMessage}

theorem exists_session
    (owned : syncer.mapping.ownsChannel parsed.channelId = true) :
    ∃ session, syncer.mapping.providerSession parsed.channelId =
      .ok session := by
  obtain ⟨session, -, known, -⟩ :=
    P2PMappingIndex.exists_channelEntries syncer.built owned
  exact ⟨session, known⟩

theorem itemOf?_eq_none
    (read : parseMessage syncer.text message = .ok parsed)
    (notOwned : syncer.mapping.ownsChannel parsed.channelId = false) :
    syncer.itemOf? message = none := by
  simp only [itemOf?, read]
  cases known : syncer.mapping.providerSession parsed.channelId with
  | error => rfl
  | ok session =>
      have owned := P2PMappingIndex.ownsChannel_of_providerSession
        syncer.built known
      rw [notOwned] at owned
      cases owned

theorem itemOf?_eq_some {session : Session}
    (read : parseMessage syncer.text message = .ok parsed)
    (known : syncer.mapping.providerSession parsed.channelId = .ok session) :
    syncer.itemOf? message = some (itemOf parsed session) := by
  simp only [itemOf?, read, known]

/-! ## States that replay a log -/

/-- The state that the history leaves after a log. -/
structure Replays (state : RuntimeState) (items : List LogItem) : Prop where
  reflects : Reflects state (requestsOf items) (factsOf items)
  terminal : ∀ requestId, state.terminalResultsById.get? requestId =
    firstResult (factsOf items) requestId

theorem replays_initial : Replays .initial [] :=
  ⟨reflects_initial, fun _ => rfl⟩

section AddMessage

variable {state : RuntimeState} {items : List LogItem} {session : Session}

theorem Replays.addSendResult_ok_iff (replays : Replays state items) :
    (state.addSendResult parsed session.1 session.2).1 = .ok () ↔
      AdmitsResult (requestsOf items) (factsOf items) (.ofParsed parsed) := by
  simp only [RuntimeState.addSendResult, AdmitsResult, replays.terminal,
    replays.reflects.canonical]
  cases firstResult (factsOf items)
      (TerminalResult.ofParsed parsed).requestId with
  | some existing =>
      simp only
      split_ifs with same
      · simp [same]
      · simp [RuntimeState.conflict, same]
  | none =>
      cases firstRequest (requestsOf items)
          (TerminalResult.ofParsed parsed).requestId with
      | none => simp [RuntimeState.conflict]
      | some task =>
          simp only [Option.some.injEq, exists_eq_left']
          split_ifs with sequence channel recipients
          · simp [RuntimeState.conflict, TerminalResult.ofParsed, sequence]
          · simp [RuntimeState.conflict, TerminalResult.ofParsed, channel]
          · simp [RuntimeState.conflict, TerminalResult.ofParsed, recipients]
          · simpa [TerminalResult.ofParsed] using
              And.intro (not_not.mp sequence)
                (And.intro (not_not.mp channel) (not_not.mp recipients))

theorem Replays.addSendResult (replays : Replays state items)
    (accepted : (state.addSendResult parsed session.1 session.2).1 = .ok ()) :
    Replays (state.addSendResult parsed session.1 session.2).2
      (items ++ [.fact (.result (.ofParsed parsed)
        (resultKey parsed session))]) := by
  have old := replays.terminal (TerminalResult.ofParsed parsed).requestId
  simp only [RuntimeState.addSendResult] at accepted ⊢
  cases found : state.terminalResultsById.get?
      (TerminalResult.ofParsed parsed).requestId with
  | some existing =>
      rw [found] at accepted
      simp only at accepted ⊢
      split_ifs at accepted ⊢ with same
      · -- a repeated result changes nothing
        rw [found] at old
        refine ⟨by simpa using replays.reflects.append_duplicate old.symm, ?_⟩
        intro requestId
        rw [factsOf_append, factsOf_fact, firstResult_append_result,
          replays.terminal]
        by_cases equal : (TerminalResult.ofParsed parsed).requestId = requestId
        · rw [← equal, ← old]
          rfl
        · simp [equal]
      · simp [RuntimeState.conflict] at accepted
  | none =>
      rw [found] at accepted old
      simp only at accepted ⊢
      cases request : state.canonicalRequestsById.get?
          (TerminalResult.ofParsed parsed).requestId with
      | none =>
          rw [request] at accepted
          simp [RuntimeState.conflict] at accepted
      | some task =>
          rw [request] at accepted
          simp only at accepted ⊢
          split_ifs at accepted ⊢ with sequence channel recipients
          · simp [RuntimeState.conflict] at accepted
          · simp [RuntimeState.conflict] at accepted
          · simp [RuntimeState.conflict] at accepted
          · have stores := storesResult_storeSendResult state parsed task
              session
            refine ⟨by simpa using
              replays.reflects.append_result old.symm stores, ?_⟩
            intro requestId
            rw [factsOf_append, factsOf_fact, firstResult_append_result,
              ← replays.terminal,
              RuntimeState.terminalResultsById_storeSendResult,
              Dict.get?_set]
            by_cases equal :
                (TerminalResult.ofParsed parsed).requestId = requestId
            · rw [← equal, found]
              simp
            · simp [equal]

theorem Replays.addSyncRecord_ok_iff (replays : Replays state items) :
    (state.addSyncRecord parsed session.1 session.2).1 = .ok () ↔
      parsed.prevSeq = reportedSeq (factsOf items)
        (RuntimeState.syncRecordKey parsed session.1 session.2) := by
  simp only [RuntimeState.addSyncRecord, replays.reflects.reported]
  cases reportedSeq (factsOf items)
      (RuntimeState.syncRecordKey parsed session.1 session.2) with
  | some expected =>
      simp only
      split_ifs with different
      · simp [RuntimeState.conflict, different]
      · simp [not_not.mp different]
  | none =>
      simp only
      split_ifs with present
      · simp [RuntimeState.conflict, present]
      · simp [not_not.mp present]

theorem addSyncRecord_snd
    (accepted : (state.addSyncRecord parsed session.1 session.2).1 = .ok ()) :
    (state.addSyncRecord parsed session.1 session.2).2 =
      state.markSyncRecord
        (RuntimeState.syncRecordKey parsed session.1 session.2)
        parsed.channelId parsed.eventMs := by
  simp only [RuntimeState.addSyncRecord] at accepted ⊢
  cases found : state.sendResultByProviderMessage.get?
      (RuntimeState.syncRecordKey parsed session.1 session.2) with
  | some expected =>
      rw [found] at accepted
      simp only at accepted ⊢
      split_ifs at accepted ⊢
      · simp [RuntimeState.conflict] at accepted
      · rfl
  | none =>
      rw [found] at accepted
      simp only at accepted ⊢
      split_ifs at accepted ⊢
      · simp [RuntimeState.conflict] at accepted
      · rfl

/-- The history accepts what may follow in the log. -/
theorem Replays.addMessage_ok_iff (replays : Replays state items) :
    (addMessage state parsed session).1 = .ok () ↔
      Admits (requestsOf items) (factsOf items) (itemOf parsed session) := by
  unfold addMessage itemOf
  cases parsed.kind with
  | sendRequest => exact replays.reflects.addSendRequest_ok_iff
  | sendResult => exact replays.addSendResult_ok_iff
  | syncRecord => exact replays.addSyncRecord_ok_iff

theorem Replays.addMessage (replays : Replays state items)
    (accepted : (addMessage state parsed session).1 = .ok ()) :
    Replays (addMessage state parsed session).2
      (items ++ [itemOf parsed session]) := by
  unfold P2PSyncer.addMessage itemOf at *
  cases kind : parsed.kind with
  | sendRequest =>
      rw [kind] at accepted
      refine ⟨by simpa using replays.reflects.addSendRequest accepted, ?_⟩
      intro requestId
      rw [RuntimeState.terminalResultsById_addSendRequest, replays.terminal]
      simp
  | sendResult =>
      rw [kind] at accepted
      exact replays.addSendResult accepted
  | syncRecord =>
      rw [kind] at accepted
      simp only [addSyncRecord_snd accepted]
      have marked := replays.reflects.markSyncRecord
        (RuntimeState.syncRecordKey parsed session.1 session.2)
        parsed.prevSeq parsed.eventMs
      refine ⟨?_, ?_⟩
      · rw [requestsOf_append, requestsOf_fact, List.append_nil,
          factsOf_append]
        exact marked
      · intro requestId
        rw [RuntimeState.terminalResultsById_markSyncRecord,
          replays.terminal, factsOf_append, factsOf_fact,
          firstResult_append_record]

end AddMessage

/-! ## Replaying a log -/

section Replay

variable {state next : RuntimeState} {items : List LogItem}

/-- The history processing of a message that can be read. -/
theorem processHistoryMessage_eq {parsed : ParsedMessage} {session : Session}
    (read : parseMessage syncer.text message = .ok parsed)
    (owned : syncer.mapping.ownsChannel parsed.channelId = true)
    (roles : syncer.validateMessageRoles parsed = .ok ())
    (mapped : syncer.mapping.providerSession parsed.channelId = .ok session) :
    syncer.processHistoryMessage state message =
      finished (addMessage state parsed session) := by
  rw [processHistoryMessage, read]
  dsimp only
  rw [owned, roles, mapped]
  rfl

/-- The history takes a message that can be read and may follow in the log. -/
theorem Replays.processHistoryMessage_ok_iff
    (replays : Replays state items) :
    (∃ next, syncer.processHistoryMessage state message = .ok next) ↔
      syncer.Readable message ∧
        ∀ item, syncer.itemOf? message = some item →
          Admits (requestsOf items) (factsOf items) item := by
  unfold processHistoryMessage Readable
  cases read : parseMessage syncer.text message with
  | error exc => simp
  | ok parsed =>
      simp only [Except.ok.injEq, exists_eq_left']
      cases owned : syncer.mapping.ownsChannel parsed.channelId with
      | false => simp [itemOf?_eq_none read owned]
      | true =>
          obtain ⟨session, known⟩ := exists_session owned
          simp only [Bool.not_true, Bool.false_eq_true, if_false,
            bind_eq_ok_iff, known, Except.ok.injEq,
            exists_eq_left', finished_eq_ok_iff,
            itemOf?_eq_some read known, Option.some.injEq, forall_eq',
            forall_const]
          rw [← replays.addMessage_ok_iff]
          constructor
          · rintro ⟨next, _, roles, accepted, -⟩
            exact ⟨roles, accepted⟩
          · rintro ⟨roles, accepted⟩
            exact ⟨_, (), roles, accepted, rfl⟩

/-- The state follows the log by the item of the message. -/
theorem Replays.processHistoryMessage (replays : Replays state items)
    (processed : syncer.processHistoryMessage state message = .ok next) :
    Replays next (items ++ (syncer.itemOf? message).toList) := by
  unfold P2PSyncer.processHistoryMessage at processed
  cases read : parseMessage syncer.text message with
  | error exc =>
      rw [read] at processed
      cases processed
  | ok parsed =>
      simp only [read] at processed
      cases owned : syncer.mapping.ownsChannel parsed.channelId with
      | false =>
          rw [owned] at processed
          cases processed
          rw [itemOf?_eq_none read owned]
          simpa using replays
      | true =>
          obtain ⟨session, known⟩ := exists_session owned
          simp only [owned, Bool.not_true, Bool.false_eq_true, if_false,
            bind_eq_ok_iff, known, Except.ok.injEq,
            exists_eq_left', finished_eq_ok_iff] at processed
          obtain ⟨-, -, accepted, rfl⟩ := processed
          rw [itemOf?_eq_some read known]
          exact replays.addMessage accepted

theorem itemsOf_append (messages more : List Message) :
    syncer.itemsOf (messages ++ more) =
      syncer.itemsOf messages ++ syncer.itemsOf more :=
  List.filterMap_append

theorem itemsOf_singleton :
    syncer.itemsOf [message] = (syncer.itemOf? message).toList := by
  unfold itemsOf
  cases read : syncer.itemOf? message with
  | none => simp [read]
  | some item => simp [read]

/-- The state that a replay leaves reflects the log. -/
theorem replays_replay {messages : List Message}
    (replayed : syncer.replay .initial messages = .ok state) :
    Replays state (syncer.itemsOf messages) := by
  refine foldlM_induct
    (fun done state => Replays state (syncer.itemsOf done)) replayed
    replays_initial ?_
  intro done message before after _ replays processed
  rw [itemsOf_append, itemsOf_singleton]
  exact replays.processHistoryMessage processed

theorem replay_append (messages more : List Message) :
    syncer.replay state (messages ++ more) =
      syncer.replay state messages >>= fun next => syncer.replay next more :=
  List.foldlM_append

/-- A log is replayed when it can be read and each item follows the others. -/
theorem replay_ok_iff {messages : List Message} :
    (∃ state, syncer.replay .initial messages = .ok state) ↔
      (∀ message ∈ messages, syncer.Readable message) ∧
        Replayable (syncer.itemsOf messages) := by
  induction messages using List.reverseRecOn with
  | nil =>
      have empty : syncer.replay .initial [] = .ok .initial := rfl
      simp [empty, itemsOf, replayable_nil]
  | append_singleton messages message ih =>
      have last : ∀ before, syncer.replay before [message] =
          syncer.processHistoryMessage before message := by
        intro before
        show (syncer.processHistoryMessage before message >>= pure) = _
        exact bind_pure _
      simp only [replay_append, bind_eq_ok_iff, last, List.mem_append,
        List.mem_singleton, or_imp, forall_and, forall_eq, itemsOf_append,
        itemsOf_singleton]
      constructor
      · rintro ⟨next, before, replayed, processed⟩
        obtain ⟨readable, replayable⟩ := ih.mp ⟨before, replayed⟩
        obtain ⟨messageReadable, admits⟩ :=
          (replays_replay replayed).processHistoryMessage_ok_iff.mp
            ⟨next, processed⟩
        refine ⟨⟨readable, messageReadable⟩, ?_⟩
        cases read : syncer.itemOf? message with
        | none => simpa using replayable
        | some item =>
            exact replayable_append.mpr ⟨replayable, admits item read⟩
      · rintro ⟨⟨readable, messageReadable⟩, replayable⟩
        have earlier : Replayable (syncer.itemsOf messages) := by
          cases read : syncer.itemOf? message with
          | none => simpa [read] using replayable
          | some item =>
              rw [read] at replayable
              exact (replayable_append.mp replayable).1
        obtain ⟨before, replayed⟩ := ih.mpr ⟨readable, earlier⟩
        obtain ⟨next, processed⟩ :=
          (replays_replay replayed).processHistoryMessage_ok_iff.mpr
            ⟨messageReadable, fun item read => by
              rw [read] at replayable
              exact (replayable_append.mp replayable).2⟩
        exact ⟨next, before, replayed, processed⟩

end Replay

end P2PSyncer

/-! ## A small configuration -/

def sampleEntry (identityType externalUserId : String) (principal : Nat) :
    MappingEntry where
  provider := "lark"
  identityType := identityType
  externalUserId := externalUserId
  principal := principal
  sessionId := "oc1"
  channelId := 3

/-- One channel of a user and a bot. -/
def sampleConfig : SyncerConfig where
  worker := { principal := 9, token := "worker" }
  retry :=
    { publishMaxAttempts := 2, publishRetryDelayMs := 10, idleSleepMs := 10 }
  principalTokens := ((∅ : Dict Nat String).set 7 "user").set 8 "bot"
  providers := (∅ : Dict String ProviderConfig).set "lark"
    { name := "lark", sync := ⟨1000, 1000, 1000, 8⟩ }
  mappings := [sampleEntry "user" "ou7" 7, sampleEntry "bot" "ou8" 8]

def sampleMapping : P2PMappingIndex where
  config := sampleConfig
  byChannel := (∅ : Dict Nat (List MappingEntry)).set 3 sampleConfig.mappings
  channelSession := (∅ : Dict Nat Session).set 3 ("lark", "oc1")
  sessionChannel := (∅ : Dict Session Nat).set ("lark", "oc1") 3
  externalByChannel :=
    ((∅ : Dict ExternalKey MappingEntry).set
      ⟨3, "lark", "user", "ou7"⟩ (sampleEntry "user" "ou7" 7)).set
        ⟨3, "lark", "bot", "ou8"⟩ (sampleEntry "bot" "ou8" 8)
  principalByChannel :=
    ((∅ : Dict (Nat × Nat) MappingEntry).set
      (3, 7) (sampleEntry "user" "ou7" 7)).set
        (3, 8) (sampleEntry "bot" "ou8" 8)

def sampleSyncer : P2PSyncer where
  text := JsonText.compact
  config := sampleConfig
  mapping := sampleMapping
  built := rfl

theorem channelIds_sample : sampleSyncer.mapping.channelIds = [3] :=
  List.mergeSort_singleton 3

end OpenEventIm.Syncer.HistoryReplay
