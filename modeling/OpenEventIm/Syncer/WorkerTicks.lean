import OpenEventIm.Syncer.WorkerCalls
import OpenEventIm.Syncer.WorkerMessages

/-!
# What a tick does to log and memory

A tick sends and publishes what is due: the ledger is kept at each of its calls,
and when it returns, memory has followed the log.
-/

namespace OpenEventIm.Syncer.WorkerTicks

open OpenEventIm.Foundation
open OpenEventIm.Foundation.Interaction
open OpenEventIm.Foundation.PendingCalls
open OpenEventIm.Sdk.Errors
open OpenEventIm.Sdk.Codec
open OpenEventIm.Sdk.Client
open OpenEventIm.Sdk.MessageReading
open OpenEventIm.Sdk.PublishReconciliation
open OpenEventIm.Service.Calls
open OpenEventIm.Service.World
open OpenEventIm.Syncer.Models
open OpenEventIm.Syncer.State
open OpenEventIm.Syncer.State.RuntimeState
open OpenEventIm.Syncer.LogMeaning
open OpenEventIm.Syncer.HistoryReplay
open OpenEventIm.Syncer.PendingQueue
open OpenEventIm.Syncer.PublishRetry
open OpenEventIm.Syncer.Processor
open OpenEventIm.Syncer.Processor.SingleThreadProcessor
open OpenEventIm.Syncer.TickRuns
open OpenEventIm.Syncer.WrittenLog
open OpenEventIm.Syncer.WorkerLedger
open OpenEventIm.Syncer.WorkerMemory
open OpenEventIm.Syncer.WorkerMessages
open OpenEventIm.Syncer.WorkerCalls

variable {setting : Setting} {deployed : P2PSyncer → Prop}
  {syncer : P2PSyncer} {handed : List Message} {state : RuntimeState}
  {task : OutboundTask} {session : Session}
  {before after current : WorldState setting}

/-! ## The facts of a committed message -/

theorem logFacts_result {message : Message} {parsed : ParsedMessage}
    {providerMessageId : String} {own : Bool}
    (carries : CarriesResult syncer task session providerMessageId message
      parsed) :
    logFacts syncer [⟨message, own⟩] =
      [.result (.ofParsed parsed)
        (some (reportedKey task session providerMessageId))] := by
  rw [logFacts_singleton,
    readItem?_result carries.read carries.mapped carries.kind, carries.key]
  rfl

theorem logFacts_record {message : Message} {parsed : ParsedMessage}
    {channelId : Nat} {event : ProviderEvent} {prevSeq : Option Nat}
    {own : Bool}
    (carries : CarriesEvent syncer channelId event prevSeq message parsed) :
    logFacts syncer [⟨message, own⟩] =
      [.record (inboundKey channelId event) prevSeq event.eventMs] := by
  rw [logFacts_singleton,
    readItem?_record carries.read carries.mapped carries.kind, carries.key,
    carries.prevSeq, carries.eventMs]
  rfl

/-! ## A request -/

section Request

/-- The request that a tick is working on. -/
structure Working (setting : Setting) (deployed : P2PSyncer → Prop)
    (syncer : P2PSyncer) (handed : List Message) (state : RuntimeState)
    (task : OutboundTask) (world : WorldState setting) : Prop where
  knows : Knows setting deployed syncer handed state world
  due : Due syncer world.log.entries task

theorem Working.interferes
    (working : Working setting deployed syncer handed state task before)
    (sole : SoleWriter setting syncer.text .sendResult)
    (step : Interferes before after) :
    Working setting deployed syncer handed state task after where
  knows := working.knows.interferes sole step
  due := by
    cases step with
    | published allowed appends =>
        exact Due.extends working.due appends.extends appends.2.1
          (firstResult_foreign sole (foreign_singleton allowed) _)
    | provider => exact working.due

theorem Working.unchanged
    (working : Working setting deployed syncer handed state task before)
    (entries : after.log.entries = before.log.entries)
    (knows : Knows setting deployed syncer handed state after) :
    Working setting deployed syncer handed state task after where
  knows := knows
  due := by
    rw [entries]
    exact working.due

theorem working_kept (sole : SoleWriter setting syncer.text .sendResult) :
    KeptByReads (Working setting deployed syncer handed state task) where
  stable _ _ step working := working.interferes sole step
  reads _ _ _ _ reads answers working :=
    working.unchanged (answers.entries_eq reads.1)
      (working.knows.inert (inert_of_onlyReads reads) answers)

/-- The state after the result of the selected request is marked. -/
def markedState (state : RuntimeState) (task : OutboundTask)
    (session : Session) (providerMessageId : String) (seq : Nat) :
    RuntimeState :=
  state.nextPendingTask.2.markSendResultSuccess task session.1 session.2
    providerMessageId seq

/-- Before and after the commit of the result. -/
def resultAssertions (deployed : P2PSyncer → Prop)
    (handed : List Message) (state : RuntimeState) (task : OutboundTask)
    (session : Session) (providerMessageId : String)
    (sole : SoleWriter setting syncer.text .sendResult) :
    PublishAssertions setting where
  pending := Working setting deployed syncer handed state task
  committed message := Knows setting deployed syncer handed
    (markedState state task session providerMessageId message.seq)
  pending_kept := working_kept sole
  committed_kept _ := knows_kept sole

/-- Memory follows the log when the result of the selected request has been
committed and marked. -/
theorem Remembers.marks {facts : List WorkerFact} {soleRecords : Prop}
    {entries : List LogEntry} {message : Message} {parsed : ParsedMessage}
    {providerMessageId : String}
    (remembers : Remembers syncer soleRecords handed entries state facts)
    (selected : state.nextPendingTask.1 = some task)
    (isOpen : firstResult facts task.requestId = none)
    (carries : CarriesResult syncer task session providerMessageId message
      parsed) :
    Remembers syncer soleRecords handed (entries ++ [⟨message, true⟩])
      (markedState state task session providerMessageId message.seq)
      (facts ++ [.result (.ofParsed parsed)
        (some (reportedKey task session providerMessageId))]) where
  reflects := by
    have isResult := carries.resultOf.requestId
    have same := remembers.reflects.of_sameRecords (nextPendingTask_spec state).1
    apply same.append_result
    · rw [isResult]
      exact isOpen
    · rw [markedState, ← carries.seq]
      exact storesResult_markSendResultSuccess state.nextPendingTask.2 task
        session.1 session.2 providerMessageId isResult
  resting := remembers.resting.marked selected _ _ _ _
  results := by
    intro requestId
    rw [logFacts_append, firstResult_append, firstResult_append,
      logFacts_result carries, remembers.results]
  records := by
    intro soleRecords
    rw [logFacts_append, logFacts_result carries,
      ← remembers.records soleRecords]

theorem legal_result {soleRecords : Prop} {entries : List LogEntry}
    {message : Message} {parsed : ParsedMessage} {providerMessageId : String}
    (due : Due syncer entries task)
    (carries : CarriesResult syncer task session providerMessageId message
      parsed) (small : message.seq ≤ uint64Limit) :
    Legal syncer soleRecords entries message :=
  .result carries.read carries.mapped carries.kind carries.roles
    (carries.bounded small) ⟨task, due, carries.resultOf⟩

/-- The number of an appended message fits the protocol. -/
theorem seq_le_of_appends {log next : Log} {entry : LogEntry}
    (appends : log.Appends entry next) : entry.seq ≤ uint64Limit := by
  apply next.bounded entry
  rw [appends.2.1]
  exact List.mem_append_right _ (List.mem_singleton_self _)

theorem follow_result {record : Record} {providerMessageId : String}
    {eventMs : Int} (sole : SoleWriter setting syncer.text .sendResult)
    (deploys : deployed syncer)
    (selected : state.nextPendingTask.1 = some task)
    (usable : providerMessageId ≠ "")
    (mapped : syncer.mapping.providerSession task.channelId = .ok session)
    (built : (resultMethod syncer task providerMessageId eventMs).record
      syncer.text = .ok record) :
    (resultAssertions deployed handed state task session providerMessageId
      sole).FollowPublish record where
  rejected := by
    intro before token answer after answers same working
    have entries : after.log.entries = before.log.entries := by rw [same]
    exact working.unchanged entries (working.knows.unchanged answers entries
      (working.knows.ledger.unchanged answers entries rfl)
      (fun _ isSend => by cases isSend))
  commits := by
    intro before token answer after message answers recorded accepted appends
      working
    rw [← recorded] at built
    rcases carriesResult_of_record usable mapped built with ⟨parsed, carries⟩
    have knows := working.knows
    rcases knows.memory with ⟨facts, remembers⟩
    have isOpen : firstResult facts task.requestId = none := by
      rw [remembers.results]
      exact working.due.isOpen
    exact {
      ledger := knows.ledger.commits answers rfl appends deploys accepted
        (legal_result working.due carries (seq_le_of_appends appends))
      accepted := knows.accepted
      handing := Handing.extends knows.handing answers.extends
      sameChannel := knows.sameChannel
      answers := by
        intro result key member
        rw [appends.2.1, logFacts_append, logFacts_result carries] at member
        rcases List.mem_append.mp member with earlier | new
        · exact knows.answers result key earlier
        · cases List.mem_singleton.mp new
          refine ⟨task, ?_, carries.resultOf.channelId⟩
          rw [carries.resultOf.requestId]
          exact Knows.selected_handed knows selected
      sent := Knows.sent_published knows answers rfl
      memory := ⟨_, by
        rw [appends.2.1]
        exact Remembers.marks remembers selected isOpen carries⟩ }

theorem sound_result {providerMessageId : String}
    (sole : SoleWriter setting syncer.text .sendResult) :
    Sound (resultAssertions deployed handed state task session
      providerMessageId sole) (Ledger setting deployed) where
  pending _ working := working.knows.ledger
  committed _ _ knows := knows.ledger

/-- Others do not publish the result of the worker. -/
theorem not_foreign_result {record : Record} {providerMessageId : String}
    {eventMs : Int} (sole : SoleWriter setting syncer.text .sendResult)
    (usable : providerMessageId ≠ "")
    (mapped : syncer.mapping.providerSession task.channelId = .ok session)
    (built : (resultMethod syncer task providerMessageId eventMs).record
      syncer.text = .ok record)
    (ledger : Ledger setting deployed current) {entry : LogEntry}
    (member : entry ∈ current.log.entries) (isForeign : entry.own = false) :
    recordOf entry.message ≠ record := by
  intro same
  rw [← same] at built
  rcases carriesResult_of_record usable mapped built with ⟨parsed, carries⟩
  have own := ledger.chronicle.own_of_kind sole member carries.read carries.kind
  rw [own] at isForeign
  cases isForeign

/-- A send of the request that is due. -/
theorem Working.sends {request : Call} {answer : Answer request} {send : Send}
    (working : Working setting deployed syncer handed state task before)
    (answers : Answers before request answer after)
    (isSend : sendOf? request = some send) (quiet : Call.IsQuiet request)
    (deploys : deployed syncer)
    (selected : state.nextPendingTask.1 = some task)
    (made : SendOf syncer task send) :
    Working setting deployed syncer handed state task after := by
  have entries := answers.entries_eq quiet
  have ledger := working.knows.ledger.sendsDue answers isSend quiet deploys
    working.due made
  apply working.unchanged entries
  apply working.knows.unchanged answers entries ledger
  intro other isOther
  rw [isSend] at isOther
  cases isOther
  exact ⟨syncer, task, deploys,
    mem_of_firstRequest working.due.canonical, made, fun _ =>
      mem_of_firstRequest (working.knows.selected_handed selected)⟩

theorem sentMessageId_ne_empty {result : SendResult}
    {providerMessageId : String}
    (sent : sentMessageId result = some providerMessageId) :
    providerMessageId ≠ "" := by
  rw [sentMessageId] at sent
  split_ifs at sent
  have isSome := (Option.filter_eq_some_iff.mp sent).2
  exact of_decide_eq_true isSome

/-- The send of the request. -/
theorem safe_sendTask {user : String}
    (sole : SoleWriter setting syncer.text .sendResult)
    (deploys : deployed syncer)
    (selected : state.nextPendingTask.1 = some task)
    (routed : sendRoute syncer task = .ok (session, user))
    (working : Working setting deployed syncer handed state task current) :
    Safe (world setting) (Ledger setting deployed)
      (fun providerMessageId after => providerMessageId ≠ "" ∧
        Working setting deployed syncer handed state task after)
      (fun _ _ => True) (sendTask task session user) current := by
  have made : SendOf syncer task
      ⟨session, user, task.msgType, task.content, task.requestId⟩ :=
    ⟨routed, rfl, rfl, rfl⟩
  have sent : Safe (world setting) (Ledger setting deployed)
      (fun _ after =>
        Working setting deployed syncer handed state task after)
      (fun _ _ => True)
      (sendMessage session.1 session.2 user task.msgType task.content
        task.requestId) current := by
    apply Safe.call (working_kept sole).stable
      (fun _ working => working.knows.ledger) working
    intro ready answer answered isWorking answers
    have next := isWorking.sends answers rfl trivial deploys selected made
    cases answer with
    | error exc => exact ⟨next.knows.ledger, trivial⟩
    | ok result => exact ⟨next.knows.ledger, next⟩
  rw [sendTask]
  apply (safe_rethrow sent _).bind
  intro result after ledger isWorking
  dsimp only
  cases found : sentMessageId result with
  | none => exact ⟨ledger, trivial⟩
  | some providerMessageId =>
      exact ⟨ledger, sentMessageId_ne_empty found, isWorking⟩

/-- A route is made of two lookups in the mapping. -/
theorem lookups_of_sendRoute {user : String}
    (routed : sendRoute syncer task = .ok (session, user)) :
    syncer.mapping.providerSession task.channelId = .ok session ∧
      syncer.mapping.senderExternalUserId task.channelId task.principal
        (some "bot") = .ok user := by
  rw [sendRoute] at routed
  rcases Checked.bind_eq_ok_iff.mp routed with ⟨found, mapped, rest⟩
  cases sender : syncer.mapping.senderExternalUserId task.channelId
      task.principal (some "bot") with
  | error exc =>
      rw [sender] at rest
      cases rest
  | ok senderExternalUserId =>
      rw [sender] at rest
      dsimp only at rest
      split_ifs at rest
      cases rest
      exact ⟨mapped, rfl⟩

theorem providerSession_of_sendRoute {user : String}
    (routed : sendRoute syncer task = .ok (session, user)) :
    syncer.mapping.providerSession task.channelId = .ok session :=
  (lookups_of_sendRoute routed).1

/-- The publish of the result, and what it tells memory. -/
theorem safe_publishResult {providerMessageId : String} {eventMs : Int}
    (sole : SoleWriter setting syncer.text .sendResult)
    (deploys : deployed syncer)
    (selected : state.nextPendingTask.1 = some task)
    (usable : providerMessageId ≠ "")
    (mapped : syncer.mapping.providerSession task.channelId = .ok session)
    (working : Working setting deployed syncer handed state task current) :
    Safe (world setting) (Ledger setting deployed)
      (fun seq => Knows setting deployed syncer handed
        (markedState state task session providerMessageId seq))
      (fun _ _ => True)
      (publishWithRetry syncer.config.retry
        ((resultMethod syncer task providerMessageId eventMs).publish
          syncer.text)) current := by
  have sound := @sound_result setting deployed syncer handed state task session
    providerMessageId sole
  cases built : (resultMethod syncer task providerMessageId eventMs).record
      syncer.text with
  | error exc =>
      apply (safe_publishAttempts sound (publishes_refused sound built) _
        working).mono (fun _ _ _ knows => knows)
      intro _ _ _ _
      trivial
  | ok record =>
      have follow := @follow_result _ _ _ handed _ _ _ _ _ _ sole deploys
        selected usable mapped built
      apply (safe_publishAttempts sound
        (publishes_method sound built follow) _ working).mono
      · rintro seq after ledger (⟨message, rfl, knows⟩ |
          ⟨-, entry, member, isForeign, -, same⟩)
        · exact knows
        · exact absurd same (not_foreign_result sole usable mapped built ledger
            member isForeign)
      · intro _ _ _ _
        trivial

/-- The processing of the selected request. -/
theorem safe_processOutboundTask
    (sole : SoleWriter setting syncer.text .sendResult)
    (deploys : deployed syncer)
    (selected : state.nextPendingTask.1 = some task)
    (knows : Knows setting deployed syncer handed state current) :
    Safe (world setting) (Ledger setting deployed)
      (fun next => Knows setting deployed syncer handed next)
      (fun _ _ => True)
      (processOutboundTask syncer state.nextPendingTask.2 task) current := by
  rw [processOutboundTask]
  cases routed : sendRoute syncer task with
  | error exc => exact ⟨knows.ledger, trivial⟩
  | ok route =>
      rcases route with ⟨session, user⟩
      have mapped := providerSession_of_sendRoute routed
      rw [Action.ofExcept_ok, Program.ret_bind]
      apply (safe_sendTask sole deploys selected routed
        ⟨knows, knows.due selected⟩).bind
      rintro providerMessageId sent - ⟨usable, working⟩
      rw [currentTimeMs]
      apply (working_kept sole).safe_callBind onlyReads_currentTimeMs
        (fun _ working => working.knows.ledger) working
      intro _ eventMs timed _ isWorking _
      rw [Program.ret_bind]
      apply (safe_publishResult sole deploys selected usable mapped
        isWorking).bind
      intro seq after ledger next
      exact ⟨ledger, next⟩

end Request

/-! ## An event -/

section Event

variable {channelId : Nat} {event : ProviderEvent} {route : RecordRoute}

/-- Before and after the commit of a record of the event. -/
def recordAssertions (deployed : P2PSyncer → Prop) (handed : List Message)
    (state : RuntimeState) (channelId : Nat) (event : ProviderEvent)
    (sole : SoleWriter setting syncer.text .sendResult) :
    PublishAssertions setting where
  pending := Knows setting deployed syncer handed state
  committed _ := Knows setting deployed syncer handed
    (state.markSyncRecord (inboundKey channelId event) channelId
      event.eventMs)
  pending_kept := knows_kept sole
  committed_kept _ := knows_kept sole

/-- Memory notes a record that the log has got, too. -/
theorem Remembers.records_event {facts added : List WorkerFact}
    {soleRecords : Prop} {entries more : List LogEntry}
    {prevSeq : Option Nat}
    (remembers : Remembers syncer soleRecords handed entries state facts)
    (new : logFacts syncer more = added)
    (noResult : ∀ requestId, firstResult added requestId = none)
    (isRecord : soleRecords → added =
      [.record (inboundKey channelId event) prevSeq event.eventMs]) :
    Remembers syncer soleRecords handed (entries ++ more)
      (state.markSyncRecord (inboundKey channelId event) channelId
        event.eventMs)
      (facts ++ [.record (inboundKey channelId event) prevSeq
        event.eventMs]) where
  reflects := remembers.reflects.markSyncRecord _ prevSeq _
  resting := remembers.resting.of_sameQueue (sameQueue_markSyncRecord _ _ _ _)
  results := by
    intro requestId
    rw [firstResult_append_record, logFacts_append, firstResult_append, new,
      noResult, Option.or_none, remembers.results]
  records := by
    intro isSole
    rw [logFacts_append, new, isRecord isSole, remembers.records isSole]

theorem legal_record {soleRecords : Prop} {entries : List LogEntry}
    {message : Message} {parsed : ParsedMessage} {facts : List WorkerFact}
    {prevSeq : Option Nat}
    (remembers : Remembers syncer soleRecords handed entries state facts)
    (oneChannel : OneChannel (logFacts syncer entries))
    (unseen : inboundKey channelId event ∉ state.inboundSeen)
    (linked : prevSeq =
      state.sendResultByProviderMessage.get? (inboundKey channelId event))
    (carries : CarriesEvent syncer channelId event prevSeq message parsed)
    (small : message.seq ≤ uint64Limit) :
    Legal syncer soleRecords entries message := by
  apply Legal.record carries.read carries.mapped carries.kind carries.roles
    (carries.bounded small)
  intro isSole
  have reflects := remembers.reflects
  have same := remembers.records isSole
  dsimp only
  rw [carries.key]
  constructor
  · rw [← same, ← reflects.seen]
    exact unseen
  · rw [← same, carries.prevSeq, ← reflects.reported]
    exact linked
  · exact oneChannel

theorem follow_record {record : Record} {req : SyncRecordInput}
    (sole : SoleWriter setting syncer.text .sendResult)
    (deploys : deployed syncer)
    (unseen : inboundKey channelId event ∉ state.inboundSeen)
    (routed : recordRoute syncer channelId event = .ok route)
    (mapped : syncer.mapping.providerSession channelId =
      .ok (event.provider, event.sessionId))
    (input : RecordInput event
      (state.sendResultByProviderMessage.get? (inboundKey channelId event))
      req)
    (built : (recordMethod route req).record syncer.text = .ok record) :
    (recordAssertions deployed handed state channelId event
      sole).FollowPublish record where
  rejected := by
    intro before token answer after answers same knows
    have entries : after.log.entries = before.log.entries := by rw [same]
    exact knows.unchanged answers entries
      (knows.ledger.unchanged answers entries rfl)
      (fun _ isSend => by cases isSend)
  commits := by
    intro before token answer after message answers recorded accepted appends
      knows
    rw [← recorded] at built
    rcases carriesEvent_of_record routed mapped input built with
      ⟨parsed, carries⟩
    rcases knows.memory with ⟨facts, remembers⟩
    exact {
      ledger := knows.ledger.commits answers rfl appends deploys accepted
        (legal_record remembers (oneChannel_of_answers knows.answers) unseen rfl
          carries (seq_le_of_appends appends))
      accepted := knows.accepted
      handing := Handing.extends knows.handing answers.extends
      sameChannel := knows.sameChannel
      answers := by
        intro result key member
        rw [appends.2.1, logFacts_append, logFacts_record carries] at member
        rcases List.mem_append.mp member with earlier | new
        · exact knows.answers result key earlier
        · cases List.mem_singleton.mp new
      sent := Knows.sent_published knows answers rfl
      memory := ⟨_, by
        rw [appends.2.1]
        exact Remembers.records_event remembers (logFacts_record carries)
          (fun _ => rfl) (fun _ => rfl)⟩ }

theorem sound_record (sole : SoleWriter setting syncer.text .sendResult) :
    Sound (recordAssertions deployed handed state channelId event sole)
      (Ledger setting deployed) where
  pending _ knows := knows.ledger
  committed _ _ knows := knows.ledger

/-- The event counts as seen when others have published its very record. -/
theorem Knows.noticed {record : Record} {req : SyncRecordInput}
    {prevSeq : Option Nat}
    (knows : Knows setting deployed syncer handed state current)
    (routed : recordRoute syncer channelId event = .ok route)
    (mapped : syncer.mapping.providerSession channelId =
      .ok (event.provider, event.sessionId))
    (input : RecordInput event prevSeq req)
    (built : (recordMethod route req).record syncer.text = .ok record)
    {entry : LogEntry} (member : entry ∈ current.log.entries)
    (isForeign : entry.own = false) (same : recordOf entry.message = record) :
    Knows setting deployed syncer handed
      (state.markSyncRecord (inboundKey channelId event) channelId
        event.eventMs) current where
  ledger := knows.ledger
  accepted := knows.accepted
  handing := knows.handing
  sameChannel := knows.sameChannel
  answers := knows.answers
  sent := knows.sent
  memory := by
    rw [← same] at built
    rcases carriesEvent_of_record routed mapped input built with
      ⟨parsed, carries⟩
    rcases knows.memory with ⟨facts, remembers⟩
    have marked := @Remembers.records_event syncer handed state channelId event
      facts [] _ _ [] prevSeq remembers rfl (fun _ => rfl) (fun soleRecords => by
        have own := knows.ledger.chronicle.own_of_kind soleRecords member
          carries.read carries.kind
        rw [own] at isForeign
        cases isForeign)
    rw [List.append_nil] at marked
    exact ⟨_, marked⟩

/-- One publish of a record of the event. -/
theorem safe_publishSyncRecord {req : SyncRecordInput}
    (sole : SoleWriter setting syncer.text .sendResult)
    (deploys : deployed syncer)
    (unseen : inboundKey channelId event ∉ state.inboundSeen)
    (routed : recordRoute syncer channelId event = .ok route)
    (mapped : syncer.mapping.providerSession channelId =
      .ok (event.provider, event.sessionId))
    (input : RecordInput event
      (state.sendResultByProviderMessage.get? (inboundKey channelId event))
      req)
    (knows : Knows setting deployed syncer handed state current) :
    Safe (world setting) (Ledger setting deployed)
      (fun _ => Knows setting deployed syncer handed
        (state.markSyncRecord (inboundKey channelId event) channelId
          event.eventMs))
      (fun exc after => isResourceExhausted exc = true →
        Knows setting deployed syncer handed state after)
      (SingleThreadProcessor.publishSyncRecord syncer route req)
      current := by
  have sound := @sound_record setting deployed syncer handed state channelId
    event sole
  have failed : ∀ exc after,
      RetryFailed (recordAssertions deployed handed state channelId event sole)
        exc after → isResourceExhausted exc = true →
          Knows setting deployed syncer handed state after := by
    intro exc after retryFailed exhausted
    apply retryFailed.notCommitted .resourceExhausted
    · exact eq_of_beq exhausted
    · decide
  rw [SingleThreadProcessor.publishSyncRecord]
  cases built : (recordMethod route req).record syncer.text with
  | error exc =>
      exact (safe_publishAttempts sound (publishes_refused sound built) _
        knows).mono (fun _ _ _ marked => marked)
          (fun exc after _ => failed exc after)
  | ok record =>
      have follow := @follow_record _ _ _ handed _ _ _ _ _ _ sole deploys
        unseen routed mapped input built
      apply (safe_publishAttempts sound
        (publishes_method sound built follow) _ knows).mono
      · rintro seq after ledger (⟨message, -, marked⟩ |
          ⟨undecided, entry, member, isForeign, -, same⟩)
        · exact marked
        · rcases undecided with pending | ⟨message, marked⟩
          · exact Knows.noticed pending routed mapped input built member
              isForeign same
          · exact marked
      · exact fun exc after _ => failed exc after

/-- The full record of the event or, when it is too large, the degraded one. -/
theorem safe_publishRecords
    (sole : SoleWriter setting syncer.text .sendResult)
    (deploys : deployed syncer)
    (unseen : inboundKey channelId event ∉ state.inboundSeen)
    (routed : recordRoute syncer channelId event = .ok route)
    (mapped : syncer.mapping.providerSession channelId =
      .ok (event.provider, event.sessionId))
    (knows : Knows setting deployed syncer handed state current) :
    Safe (world setting) (Ledger setting deployed)
      (fun _ => Knows setting deployed syncer handed
        (state.markSyncRecord (inboundKey channelId event) channelId
          event.eventMs))
      (fun _ _ => True)
      (publishRecords syncer route event
        (state.sendResultByProviderMessage.get? (inboundKey channelId event)))
      current := by
  have published (req : SyncRecordInput) (middle : WorldState setting)
      (input : RecordInput event
        (state.sendResultByProviderMessage.get? (inboundKey channelId event))
        req)
      (known : Knows setting deployed syncer handed state middle) :
      Safe (world setting) (Ledger setting deployed)
        (fun _ => Knows setting deployed syncer handed
          (state.markSyncRecord (inboundKey channelId event) channelId
            event.eventMs))
        (fun exc after => isResourceExhausted exc = true →
          Knows setting deployed syncer handed state after)
        ((do
          let _ ← SingleThreadProcessor.publishSyncRecord syncer route req
          return ()) : Action Unit) middle := by
    apply (safe_publishSyncRecord sole deploys unseen routed mapped input
      known).bind
    intro seq after ledger marked
    exact ⟨ledger, marked⟩
  have kept := @knows_kept setting deployed syncer handed state sole
  rw [publishRecords, currentTimeMs]
  apply kept.safe_callBind onlyReads_currentTimeMs
    (fun _ known => known.ledger) knows
  intro _ ingestedMs timed _ known _
  rw [Program.ret_bind]
  apply (published _ timed ⟨ingestedMs, Or.inl rfl⟩ known).handle
  intro exc failed ledger retained
  split_ifs with other
  · exact ⟨ledger, trivial⟩
  · have exhausted : isResourceExhausted exc = true := by
      by_contra notExhausted
      simp [notExhausted] at other
    apply kept.safe_callBind onlyReads_currentTimeMs
      (fun _ known => known.ledger) (retained exhausted)
    intro _ ingestedMs retimed _ known _
    rw [Program.ret_bind]
    apply (published _ retimed ⟨ingestedMs, Or.inr rfl⟩ known).handle
    intro fallbackExc refused ledger _
    split_ifs <;> exact ⟨ledger, trivial⟩

theorem safe_publishProviderEvent
    (sole : SoleWriter setting syncer.text .sendResult)
    (deploys : deployed syncer)
    (mapped : syncer.mapping.channelForProviderSession event.provider
      event.sessionId = .ok channelId)
    (knows : Knows setting deployed syncer handed state current) :
    Safe (world setting) (Ledger setting deployed)
      (fun next => Knows setting deployed syncer handed next)
      (fun _ _ => True)
      (publishProviderEvent syncer state channelId event) current := by
  have session : syncer.mapping.providerSession channelId =
      .ok (event.provider, event.sessionId) :=
    (Mapping.P2PMappingIndex.channelForProviderSession_iff syncer.built).mp
      mapped
  rw [publishProviderEvent]
  split_ifs with seen
  · exact ⟨knows.ledger, knows⟩
  · cases routed : recordRoute syncer channelId event with
    | error exc => exact ⟨knows.ledger, trivial⟩
    | ok route =>
        rw [Action.ofExcept_ok, Program.ret_bind]
        apply (safe_publishRecords sole deploys seen routed session knows).bind
        intro _ after ledger marked
        exact ⟨ledger, marked⟩

end Event

/-! ## A tick -/

section Tick

variable {processor : SingleThreadProcessor}

/-- What the worker knows after a part of a tick. -/
abbrev KnowsAfter (setting : Setting) (deployed : P2PSyncer → Prop)
    (syncer : P2PSyncer) (handed : List Message)
    (result : Bool × SingleThreadProcessor) : WorldState setting → Prop :=
  Knows setting deployed syncer handed result.2.state

theorem safe_processEvents
    (sole : SoleWriter setting syncer.text .sendResult)
    (deploys : deployed syncer) (skipped events : List ProviderEvent)
    (knows : Knows setting deployed syncer handed processor.state current) :
    Safe (world setting) (Ledger setting deployed)
      (KnowsAfter setting deployed syncer handed) (fun _ _ => True)
      (processEvents syncer processor skipped events) current := by
  induction events generalizing skipped with
  | nil => exact ⟨knows.ledger, knows⟩
  | cons event rest ih =>
      rw [processEvents]
      cases mapped : syncer.mapping.channelForProviderSession event.provider
          event.sessionId with
      | error exc => exact ⟨knows.ledger, trivial⟩
      | ok channelId =>
          dsimp only
          by_cases waits : processor.state.channelHasPending channelId = true
          · rw [if_pos waits]
            exact ih _
          · rw [if_neg waits]
            apply (safe_publishProviderEvent sole deploys mapped knows).bind
            intro state after ledger next
            cases acknowledgeIn event processor.messagePullers with
            | error exc => exact ⟨ledger, trivial⟩
            | ok pullers => exact ⟨ledger, next⟩

/-- A search without a result leaves what is known. -/
theorem Knows.searched
    (knows : Knows setting deployed syncer handed state current)
    (none : state.nextPendingTask.1 = none) :
    Knows setting deployed syncer handed state.nextPendingTask.2 current where
  ledger := knows.ledger
  accepted := knows.accepted
  handing := knows.handing
  sameChannel := knows.sameChannel
  answers := knows.answers
  sent := knows.sent
  memory := by
    rcases knows.memory with ⟨facts, remembers⟩
    exact ⟨facts, {
      reflects := remembers.reflects.of_sameRecords
        (nextPendingTask_spec state).1
      resting := remembers.resting.searched none
      results := remembers.results
      records := remembers.records }⟩

theorem safe_processNextOutboundTask
    (sole : SoleWriter setting syncer.text .sendResult)
    (deploys : deployed syncer)
    (knows : Knows setting deployed syncer handed processor.state current) :
    Safe (world setting) (Ledger setting deployed)
      (KnowsAfter setting deployed syncer handed) (fun _ _ => True)
      (processNextOutboundTask syncer processor) current := by
  rw [processNextOutboundTask]
  rcases taken : processor.state.nextPendingTask with ⟨selected, state⟩
  have rest : processor.state.nextPendingTask.2 = state := by rw [taken]
  cases selected with
  | none =>
      have none : processor.state.nextPendingTask.1 = none := by rw [taken]
      have known := Knows.searched knows none
      rw [rest] at known
      exact ⟨knows.ledger, known⟩
  | some task =>
      have selected : processor.state.nextPendingTask.1 = some task := by
        rw [taken]
      have safe := safe_processOutboundTask sole deploys selected knows
      rw [rest] at safe
      apply safe.bind
      intro next after ledger known
      exact ⟨ledger, known⟩

theorem safe_doWork (sole : SoleWriter setting syncer.text .sendResult)
    (deploys : deployed syncer) (index : Nat)
    (knows : Knows setting deployed syncer handed processor.state current) :
    Safe (world setting) (Ledger setting deployed)
      (KnowsAfter setting deployed syncer handed) (fun _ _ => True)
      (doWork syncer processor index) current := by
  rw [doWork]
  split_ifs
  · exact safe_processNextOutboundTask sole deploys knows
  · exact safe_processEvents sole deploys _ _ knows

theorem safe_workFrom (sole : SoleWriter setting syncer.text .sendResult)
    (deploys : deployed syncer) (workTurn offset remaining : Nat)
    (knows : Knows setting deployed syncer handed processor.state current) :
    Safe (world setting) (Ledger setting deployed)
      (KnowsAfter setting deployed syncer handed) (fun _ _ => True)
      (workFrom syncer workTurn processor offset remaining) current := by
  induction remaining generalizing processor offset current with
  | zero => exact ⟨knows.ledger, knows⟩
  | succ remaining ih =>
      rw [workFrom]
      apply (safe_doWork sole deploys _ knows).bind
      rintro ⟨worked, next⟩ after ledger known
      cases worked with
      | true => exact ⟨ledger, known⟩
      | false => exact ih _ known

/-- Inert calls keep what is known. -/
theorem safe_inert {Result : Type} {program : Action Result}
    (sole : SoleWriter setting syncer.text .sendResult)
    (calls : program.Calls Inert)
    (knows : Knows setting deployed syncer handed state current) :
    Safe (world setting) (Ledger setting deployed)
      (fun _ => Knows setting deployed syncer handed state)
      (fun _ => Knows setting deployed syncer handed state) program current :=
  Safe.ofCalls (knows_kept sole).stable (fun _ known => known.ledger)
    (fun _ _ _ _ inert answers known => known.inert inert answers) calls knows

theorem safe_collectProviderMessages
    (sole : SoleWriter setting syncer.text .sendResult)
    (knows : Knows setting deployed syncer handed processor.state current) :
    Safe (world setting) (Ledger setting deployed)
      (fun collected =>
        Knows setting deployed syncer handed collected.state)
      (fun _ _ => True) (collectProviderMessages processor) current := by
  have calls := calls_collectProviderMessages processor
  have states := yields_state_collectProviderMessages processor
  apply (safe_runs (safe_inert sole calls knows)).mono
  · rintro collected after - ⟨known, run⟩
    rw [states.runs run]
    exact known
  · intro _ _ _ _
    trivial

/-- The specification of a tick. -/
theorem safe_tick (sole : SoleWriter setting syncer.text .sendResult)
    (deploys : deployed syncer)
    (knows : Knows setting deployed syncer handed processor.state current) :
    Safe (world setting) (Ledger setting deployed)
      (KnowsAfter setting deployed syncer handed) (fun _ _ => True)
      (tick syncer processor) current := by
  rw [tick, stopIsSet]
  apply (knows_kept sole).safe_callBind onlyReads_stopIsSet
    (fun _ known => known.ledger) knows
  intro _ stopped asked _ known _
  rw [Program.ret_bind]
  split_ifs
  · exact ⟨known.ledger, known⟩
  · apply (safe_collectProviderMessages sole known).bind
    intro collected after ledger next
    exact safe_workFrom sole deploys _ _ _ next

end Tick

end OpenEventIm.Syncer.WorkerTicks
