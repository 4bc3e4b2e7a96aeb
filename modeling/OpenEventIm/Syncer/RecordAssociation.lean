import OpenEventIm.Syncer.AtMostOnce

/-!
# Records and the results that report their messages

When the bot's own message comes back as an event, its record refers to the
`send.result` that reported the message.  No such result can follow the record:
the message was created by a send, so that the channel of its request was
blocked until the result was there.
-/

namespace OpenEventIm.Syncer.RecordAssociation

open OpenEventIm.Foundation
open OpenEventIm.Foundation.Interaction
open OpenEventIm.Foundation.PendingCalls
open OpenEventIm.Sdk.Errors
open OpenEventIm.Sdk.Normalizer
open OpenEventIm.Sdk.Codec
open OpenEventIm.Sdk.CodecAcceptance
open OpenEventIm.Sdk.Client
open OpenEventIm.Sdk.MessageReading
open OpenEventIm.Service.Calls
open OpenEventIm.Service.World
open OpenEventIm.Service.Scenes
open OpenEventIm.Syncer.Models
open OpenEventIm.Syncer.Mapping
open OpenEventIm.Syncer.State
open OpenEventIm.Syncer.LogMeaning
open OpenEventIm.Syncer.HistoryReplay
open OpenEventIm.Syncer.HistoryReplay.P2PSyncer
open OpenEventIm.Syncer.PublishRetry
open OpenEventIm.Syncer.ProviderMessages
open OpenEventIm.Syncer.ProviderMessages.ProviderMessagePuller
open OpenEventIm.Syncer.Processor
open OpenEventIm.Syncer.Processor.SingleThreadProcessor
open OpenEventIm.Syncer.PollEvents
open OpenEventIm.Syncer.LogReading
open OpenEventIm.Syncer.StartupCut
open OpenEventIm.Syncer.Worker
open OpenEventIm.Syncer.WrittenLog
open OpenEventIm.Syncer.WorkerLedger
open OpenEventIm.Syncer.WorkerMemory
open OpenEventIm.Syncer.WorkerMessages
open OpenEventIm.Syncer.WorkerTicks
open OpenEventIm.Syncer.WorkerGuards
open OpenEventIm.Syncer.WorkerRuns
open OpenEventIm.Syncer.EventProvenance
open OpenEventIm.Syncer.ChannelOrder
open OpenEventIm.Syncer.AtMostOnce

variable {setting : Setting} {deployed : P2PSyncer → Prop}
  {syncer : P2PSyncer} {first before after moment : WorldState setting}
  {entries : List LogEntry} {message : Message} {key : InboundKey}

/-! ## Messages by channel and id -/

section Reading

/-- The id of the provider message that a result reports. -/
def reportedMessageId (parsed : ParsedMessage) : Option String :=
  if (TerminalResult.ofParsed parsed).status ≠ "SUCCESS" then
    none
  else
    usableMessageId (TerminalResult.ofParsed parsed).providerMessageId

theorem resultKey_eq (parsed : ParsedMessage) (session : Session) :
    resultKey parsed session = (reportedMessageId parsed).map
      fun id => ⟨session.1, session.2, parsed.channelId, id⟩ := by
  rw [resultKey, reportedMessageId]
  split_ifs with failed
  · rfl
  · rfl

variable (text : JsonText)

/-- The provider message that a `send.result` reports, on the channel. -/
def reported? (message : Message) : Option (Nat × String) :=
  (readMessage text message).bind fun parsed =>
    if parsed.kind = .sendResult then
      (reportedMessageId parsed).map (parsed.channelId, ·)
    else
      none

/-- The provider message that a `sync.record` is of, on the channel. -/
def recorded? (message : Message) : Option (Nat × String) :=
  (readMessage text message).bind fun parsed =>
    if parsed.kind = .syncRecord then
      some (parsed.channelId, dataString "provider_message_id" parsed)
    else
      none

variable {text} {channelId : Nat} {messageId : String} {author : P2PSyncer}
  {task : OutboundTask} {result : TerminalResult}

theorem reported?_eq_some_iff :
    reported? text message = some (channelId, messageId) ↔
      ∃ parsed, readMessage text message = some parsed ∧
        parsed.kind = .sendResult ∧ parsed.channelId = channelId ∧
          reportedMessageId parsed = some messageId := by
  simp only [reported?, Option.bind_eq_some_iff, Option.ite_none_right_eq_some,
    Option.map_eq_some_iff, Prod.mk.injEq]
  constructor
  · rintro ⟨parsed, read, kind, id, isId, channel, rfl⟩
    exact ⟨parsed, read, kind, channel, isId⟩
  · rintro ⟨parsed, read, kind, channel, isId⟩
    exact ⟨parsed, read, kind, messageId, isId, channel, rfl⟩

theorem recorded?_eq_some_iff :
    recorded? text message = some (channelId, messageId) ↔
      ∃ parsed, readMessage text message = some parsed ∧
        parsed.kind = .syncRecord ∧ parsed.channelId = channelId ∧
          dataString "provider_message_id" parsed = messageId := by
  simp only [recorded?, Option.bind_eq_some_iff, Option.ite_none_right_eq_some,
    Option.some.injEq, Prod.mk.injEq]

/-- What a configuration reads as a report is one. -/
theorem reported?_of_fact (said : readItem? author message =
    some (.fact (.result result (some key)))) :
    reported? author.text message =
      some (key.channelId, key.providerMessageId) := by
  rcases parsed_of_result said with
    ⟨parsed, session, read, -, kind, -, isKey⟩
  rw [resultKey_eq, eq_comm, Option.map_eq_some_iff] at isKey
  rcases isKey with ⟨id, isId, rfl⟩
  exact reported?_eq_some_iff.mpr ⟨parsed, read, kind, rfl, isId⟩

/-- What a configuration reads as a request is one. -/
theorem mem_sendRequests_of_author (sameText : author.text = text)
    (member : task ∈ logRequests author entries) :
    task ∈ sendRequests text entries := by
  rw [logRequests_eq_filter, sameText] at member
  exact (List.mem_filter.mp member).1

end Reading

/-- The association of a record with the results of the log. -/
structure RecordLinked (text : JsonText) (entries : List LogEntry)
    (record : LogEntry) (identity : Nat × String) (prevSeq : Option Nat) :
    Prop where
  reported : ∀ result ∈ entries, reported? text result.message =
    some identity → result.seq < record.seq ∧ prevSeq = some result.seq
  unreported : (∀ result ∈ entries, reported? text result.message ≠
    some identity) → prevSeq = none

/-! ## What the messages of the log are based on -/

variable {text : JsonText}

/-- A `send.result` follows a send that reported its message. -/
def ResultBacked (deployed : P2PSyncer → Prop) (text : JsonText)
    (trace : List Exchange) (message : Message) : Prop :=
  ∀ parsed, readMessage text message = some parsed →
    parsed.kind = .sendResult → ∃ author task session providerMessageId,
      deployed author ∧
        CarriesResult author task session providerMessageId message parsed ∧
          Reported trace session task.requestId providerMessageId

/-- A `sync.record` follows the delivery of its event; what had been sent for
the channel before the delivery had results when the record was published. -/
def RecordBacked (deployed : P2PSyncer → Prop) (text : JsonText)
    (trace : List Exchange) (done : List LogEntry) (message : Message) : Prop :=
  ∀ parsed, readMessage text message = some parsed →
    parsed.kind = .syncRecord → ∃ author event prevSeq earlier exchange later,
      deployed author ∧
        CarriesEvent author message.channelId event prevSeq message parsed ∧
          trace = earlier ++ exchange :: later ∧
            event ∈ eventsIn exchange.request exchange.answer ∧
              AnsweredSends deployed author message.channelId
                (sendsOf earlier) done

/-- All messages of the log are based on calls of the worker. -/
structure Backed (deployed : P2PSyncer → Prop) (text : JsonText)
    (current : WorldState setting) : Prop where
  results : ∀ entry ∈ current.log.entries,
    ResultBacked deployed text current.trace entry.message
  records : ∀ done entry, done ++ [entry] <+: current.log.entries →
    RecordBacked deployed text current.trace done entry.message

theorem ResultBacked.mono {trace more : List Exchange}
    (backed : ResultBacked deployed text trace message)
    (grown : trace <+: more) : ResultBacked deployed text more message := by
  intro parsed read kind
  rcases backed parsed read kind with
    ⟨author, task, session, id, deploys, carries, reported⟩
  exact ⟨author, task, session, id, deploys, carries, reported.mono grown⟩

theorem RecordBacked.mono {trace more : List Exchange}
    {done : List LogEntry}
    (backed : RecordBacked deployed text trace done message)
    (grown : trace <+: more) : RecordBacked deployed text more done message := by
  intro parsed read kind
  rcases backed parsed read kind with ⟨author, event, prevSeq, earlier, exchange,
    later, deploys, carries, split, inside, answered⟩
  rcases grown with ⟨added, rfl⟩
  refine ⟨author, event, prevSeq, earlier, exchange, later ++ added, deploys,
    carries, ?_, inside, answered⟩
  rw [split, List.append_assoc, List.cons_append]

/-- A result that is permitted follows a send that reported its message. -/
theorem resultBacked_of_permitted {author : P2PSyncer} {request : Call}
    {handed : List Message} (deploys : deployed author)
    (permitted : Permitted deployed author handed before request)
    (published : publishOf? request = some (recordOf message)) :
    ResultBacked deployed author.text before.trace message := by
  intro parsed read kind
  rcases permitted.results message parsed published read kind with
    ⟨task, session, id, carries, reported⟩
  exact ⟨author, task, session, id, deploys, carries, reported⟩

/-- An event that is recorded has been delivered by one of the calls. -/
theorem recordBacked_of_permitted {author : P2PSyncer} {request : Call}
    {handed : List Message} (deploys : deployed author)
    (sameText : ∀ other, deployed other → other.text = author.text)
    (permitted : Permitted deployed author handed before request)
    (published : publishOf? request = some (recordOf message)) :
    RecordBacked deployed author.text before.trace before.log.entries
      message := by
  intro parsed read kind
  rcases permitted.records message parsed published read kind with
    ⟨event, prevSeq, carries, recording⟩
  rcases recording.delivered with ⟨exchange, member, inside⟩
  rcases List.append_of_mem member with ⟨earlier, later, split⟩
  refine ⟨author, event, prevSeq, earlier, exchange, later, deploys, carries,
    split, inside, ?_⟩
  intro send isSend
  apply recording.answered sameText send
  rw [split, sendsOf_append]
  exact List.mem_append_left _ isSend

/-- A longer trace and one more message. -/
theorem Backed.append {entry : LogEntry} (backed : Backed deployed text before)
    (entries : after.log.entries = before.log.entries ++ [entry])
    (grown : before.trace <+: after.trace)
    (isResult : ResultBacked deployed text before.trace entry.message)
    (isRecord : RecordBacked deployed text before.trace before.log.entries
      entry.message) : Backed deployed text after where
  results other member := by
    rw [entries] at member
    rcases List.mem_append.mp member with old | new
    · exact (backed.results other old).mono grown
    · rw [List.mem_singleton.mp new]
      exact isResult.mono grown
  records done other isPrefix := by
    rw [entries] at isPrefix
    rcases List.prefix_concat_iff.mp isPrefix with whole | earlier
    · rcases List.append_inj' whole rfl with ⟨rfl, last⟩
      cases List.cons.inj last |>.1
      exact isRecord.mono grown
    · exact (backed.records done other earlier).mono grown

theorem Backed.unchanged (backed : Backed deployed text before)
    (entries : after.log.entries = before.log.entries)
    (grown : before.trace <+: after.trace) : Backed deployed text after where
  results other member := by
    rw [entries] at member
    exact (backed.results other member).mono grown
  records done other isPrefix := by
    rw [entries] at isPrefix
    exact (backed.records done other isPrefix).mono grown

/-- Others write neither results nor records. -/
theorem Backed.interferes (backed : Backed deployed text before)
    (soleResults : SoleWriter setting text .sendResult)
    (soleRecords : SoleWriter setting text .syncRecord)
    (step : Interferes before after) : Backed deployed text after := by
  have grown := step.grows.trace
  cases step with
  | published allowed appends =>
      apply backed.append appends.2.1 grown
      · intro parsed read kind
        exact absurd kind (soleResults _ _ parsed allowed read)
      · intro parsed read kind
        exact absurd kind (soleRecords _ _ parsed allowed read)
  | provider => exact backed.unchanged rfl grown

theorem soleResults_sameText
    (sameText : ∀ author, deployed author → author.text = text)
    (sole : SoleWriter setting text .sendResult) :
    SoleResults setting deployed := by
  intro author deploys
  rw [sameText author deploys]
  exact sole

/-- In every run, all messages of the log are based on calls. -/
theorem Moment.backed
    (sameText : ∀ author, deployed author → author.text = text)
    (soleResults : SoleWriter setting text .sendResult)
    (soleRecords : SoleWriter setting text .syncRecord)
    (begins : Begins first)
    (isMoment : Moment setting deployed first moment) :
    Backed deployed text moment := by
  have sole := soleResults_sameText sameText soleResults
  apply isMoment.induct
  · intro before after step backed
    exact Backed.interferes backed soleResults soleRecords step
  · intro ready request answer answered asks answers backed
    have grown := Answers.grows answers |>.trace
    rcases entries_of_answers answers with same |
      ⟨message, published, appended⟩
    · exact Backed.unchanged backed same grown
    · rcases asks with ⟨author, stage, started, run, issued⟩
      have deploys := WorkerRun.deploys run
      have same := sameText author deploys
      subst same
      rcases WorkerRun.issues sole begins run issued with inert |
        ⟨vars, lastSeq, handed, -, -, -, -, -, permitted⟩
      · cases request with
        | publishAutoSeq => exact absurd inert.1 id
        | _ => cases published
      · exact Backed.append backed appended grown
          (resultBacked_of_permitted deploys permitted published)
          (recordBacked_of_permitted deploys sameText permitted published)
  · constructor
    · intro entry member
      rw [begins.log] at member
      cases member
    · intro done entry isPrefix
      rw [begins.log] at isPrefix
      exact absurd (List.prefix_nil.mp isPrefix) (by simp)

/-! ## What the provider promises -/

/-- The sessions are sessions of one channel, possibly under two
configurations. -/
def SameChannel (deployed : P2PSyncer → Prop) (left right : Session) : Prop :=
  ∃ first second channelId, deployed first ∧ deployed second ∧
    first.mapping.providerSession channelId = .ok left ∧
      second.mapping.providerSession channelId = .ok right

/-- The provider creates a message id only in the send that first creates it,
and returns it when the same request is sent again: all sends that report a
message are of one request, and the message is not delivered before this request
has been sent. -/
structure CreatesInSends (deployed : P2PSyncer → Prop)
    (trace : List Exchange) : Prop where
  oneRequest : ∀ left right providerMessageId requestId other,
    SameChannel deployed left right →
      Reported trace left requestId providerMessageId →
        Reported trace right other providerMessageId → requestId = other
  created : ∀ earlier exchange later event session requestId,
    trace = earlier ++ exchange :: later →
      event ∈ eventsIn exchange.request exchange.answer →
        SameChannel deployed (event.provider, event.sessionId) session →
          Reported trace session requestId event.providerMessageId →
            ∃ send ∈ sendsOf earlier,
              send.session = (event.provider, event.sessionId) ∧
                send.requestId = requestId

/-! ## Requests for one session -/

/-- Requests with one id that go to one session are of one channel. -/
def Separate (deployed : P2PSyncer → Prop) (text : JsonText)
    (entries : List LogEntry) : Prop :=
  ∀ task ∈ sendRequests text entries, ∀ other ∈ sendRequests text entries,
    task.requestId = other.requestId →
      ∀ first second session, deployed first → deployed second →
        first.mapping.providerSession task.channelId = .ok session →
          second.mapping.providerSession other.channelId = .ok session →
            task.channelId = other.channelId

/-- A mapping has one channel for a session. -/
theorem separate_of_shared (shared : SharedMapping deployed syncer) :
    Separate deployed text entries := by
  intro task _ other _ _ first second session deploys deploysAgain mapped again
  have inverse := @P2PMappingIndex.channelForProviderSession_iff
    syncer.config syncer.mapping
  rw [(shared first deploys).tables.providerSession] at mapped
  rw [(shared second deploysAgain).tables.providerSession] at again
  exact Except.ok.inj (((inverse syncer.built).mpr mapped).symm.trans
    ((inverse syncer.built).mpr again))

theorem separate_of_conflictFree (conflictFree : ConflictFree text entries) :
    Separate deployed text entries := by
  intro task member other isOther same _ _ _ _ _ _ _
  exact channelId_of_same (conflictFree task member other isOther same)

/-! ## The association -/

section Association

variable {done middle : List LogEntry} {entry : LogEntry} {channelId : Nat}
  {messageId : String} {author : P2PSyncer} {session : Session}

/-- A log of the worker together with the calls on which it is based. -/
structure Associated (setting : Setting) (deployed : P2PSyncer → Prop)
    (text : JsonText) (current : WorldState setting) : Prop where
  sameText : ∀ author, deployed author → author.text = text
  soleResults : SoleWriter setting text .sendResult
  soleRecords : SoleWriter setting text .syncRecord
  chronicle : Chronicle setting deployed current.log.entries
  backed : Backed deployed text current
  creates : CreatesInSends deployed current.trace
  separate : Separate deployed text current.log.entries

/-- What is known of a result that reports the provider message. -/
structure ReportingResult (deployed : P2PSyncer → Prop) (text : JsonText)
    (trace : List Exchange) (done : List LogEntry) (message : Message)
    (channelId : Nat) (messageId : String) (parsed : ParsedMessage) :
    Prop where
  read : readMessage text message = some parsed
  kind : parsed.kind = .sendResult
  channel : parsed.channelId = channelId
  reports : reportedMessageId parsed = some messageId
  due : ∃ author task, deployed author ∧ Due author done task ∧
    ResultOf task (.ofParsed parsed)
  reported : ∃ author session, deployed author ∧
    author.mapping.providerSession channelId = .ok session ∧
      Reported trace session (TerminalResult.ofParsed parsed).requestId
        messageId

theorem Associated.result (associated : Associated setting deployed text moment)
    (isPrefix : done ++ [entry] <+: moment.log.entries)
    (reports : reported? text entry.message = some (channelId, messageId)) :
    ∃ parsed, ReportingResult deployed text moment.trace done entry.message
      channelId messageId parsed := by
  rcases reported?_eq_some_iff.mp reports with
    ⟨parsed, read, kind, rfl, isId⟩
  have member : entry ∈ moment.log.entries := isPrefix.subset (by simp)
  rcases associated.backed.results entry member parsed read kind with
    ⟨sender, task, session, id, deploys, carries, reported⟩
  rcases associated.chronicle.legal_of_kind associated.soleResults isPrefix
    read kind with ⟨author, authors, legal⟩
  have readAgain := read
  rw [← associated.sameText author authors] at readAgain
  rcases legal.answers readAgain kind with ⟨due, isDue, resultOf⟩
  have sameId : messageId = id := by
    have key := carries.key
    rw [resultKey_eq, isId] at key
    exact congrArg InboundKey.providerMessageId (Option.some.inj key)
  refine ⟨parsed, read, kind, rfl, isId, ⟨author, due, authors, isDue, resultOf⟩,
    sender, session, deploys, carries.mapped, ?_⟩
  rw [carries.resultOf.requestId, sameId]
  exact reported

/-- Before the result, no other result of its request is seen on its channel. -/
theorem ReportingResult.isFirst {trace : List Exchange} {message : Message}
    {parsed : ParsedMessage} {result : TerminalResult}
    {key : Option InboundKey}
    (reporting : ReportingResult deployed text trace done message channelId
      messageId parsed)
    (sameText : ∀ author, deployed author → author.text = text)
    (deploys : deployed author)
    (member : .result result key ∈ logFacts author done)
    (same : result.requestId = (TerminalResult.ofParsed parsed).requestId)
    (channel : result.channelId = channelId) : False := by
  rcases reporting.due with ⟨other, task, deploysOther, due, resultOf⟩
  have owned : other.mapping.ownsChannel result.channelId = true := by
    rcases mem_logRequests.mp (mem_of_firstRequest due.canonical) with
      ⟨entry, -, read⟩
    rcases readItem?_eq_some_iff.mp read with ⟨said, session, -, mapped, item⟩
    rcases itemOf_eq_request_iff.mp item.symm with ⟨-, rfl⟩
    have ofResult : parsed.channelId = said.channelId := resultOf.channelId
    rw [channel, ← reporting.channel, ofResult]
    exact P2PMappingIndex.ownsChannel_of_providerSession other.built mapped
  rcases mem_logFacts_owned ((sameText author deploys).trans
    (sameText other deploysOther).symm) owned member with ⟨seen, isSeen⟩
  apply firstResult_ne_none_iff.mpr ⟨result, seen, isSeen, _⟩ due.isOpen
  rw [same, resultOf.requestId]

/-- Where a record stands, its author refers to what is in the log. -/
theorem Associated.linked (associated : Associated setting deployed text moment)
    {record : LogEntry} {parsed : ParsedMessage}
    (isPrefix : done ++ [record] <+: moment.log.entries)
    (read : readMessage text record.message = some parsed)
    (kind : parsed.kind = .syncRecord) :
    ∃ author session, deployed author ∧
      author.mapping.providerSession parsed.channelId = .ok session ∧
        LegalRecord author done
          (RuntimeState.syncRecordKey parsed session.1 session.2)
          parsed.prevSeq := by
  rcases associated.chronicle.legal_of_kind associated.soleRecords isPrefix
    read kind with ⟨author, deploys, legal⟩
  have sameText := associated.sameText author deploys
  rw [← sameText] at read
  rcases legal.mapped read with ⟨session, mapped⟩
  have sole := associated.soleRecords
  rw [← sameText] at sole
  exact ⟨author, session, deploys, mapped, legal.records sole read kind mapped⟩

/-- No result reports a message that has a record. -/
theorem Associated.not_after
    (associated : Associated setting deployed text moment)
    {record result : LogEntry}
    (isPrefix : done ++ record :: (middle ++ [result]) <+: moment.log.entries)
    (records : recorded? text record.message = some (channelId, messageId))
    (reports : reported? text result.message = some (channelId, messageId)) :
    False := by
  have before : (done ++ record :: middle) ++ [result] <+:
      moment.log.entries := by
    rw [List.append_assoc]
    exact isPrefix
  have atRecord : done ++ [record] <+: moment.log.entries :=
    List.IsPrefix.trans ⟨middle ++ [result], by simp⟩ isPrefix
  rcases associated.result before reports with ⟨answer, reporting⟩
  rcases recorded?_eq_some_iff.mp records with ⟨parsed, read, kind, rfl, rfl⟩
  rcases associated.backed.records done record atRecord parsed read kind with
    ⟨recorder, event, prevSeq, earlier, exchange, later, deploys, carries, split,
      inside, answered⟩
  have ofEvent : dataString "provider_message_id" parsed =
      event.providerMessageId :=
    congrArg InboundKey.providerMessageId carries.key
  have channel : parsed.channelId = record.message.channelId :=
    congrArg InboundKey.channelId carries.key
  -- the request of the result was sent before the event was delivered
  rcases reporting.reported with ⟨sender, session, sends, mapped, reported⟩
  rw [ofEvent] at reported
  rcases associated.creates.created earlier exchange later event session _ split
    inside ⟨recorder, sender, _, deploys, sends, carries.mapped, mapped⟩
    reported with ⟨send, isSend, ofSession, same⟩
  rcases answered send isSend with
    ⟨author, task, authors, inLog, made, hasResult⟩
  rcases reporting.due with ⟨other, due, deploysOther, isDue, resultOf⟩
  -- so the send was made of a request of the same channel
  have isRequest : task ∈ sendRequests text moment.log.entries := by
    have seen := mem_sendRequests_of_author (associated.sameText author authors)
      inLog
    exact ((List.prefix_append _ _).trans atRecord |>.filterMap _).subset seen
  have isDueRequest : due ∈ sendRequests text moment.log.entries :=
    ((List.prefix_append _ _).trans before).filterMap _ |>.subset
      (mem_sendRequests_of_author (associated.sameText other deploysOther)
        (mem_of_firstRequest isDue.canonical))
  have sameId : task.requestId = due.requestId := by
    rw [← made.requestId, same]
    exact resultOf.requestId
  have ofDue : parsed.channelId = due.channelId :=
    reporting.channel.symm.trans resultOf.channelId
  have routed := providerSession_of_sendRoute made.route
  rw [ofSession] at routed
  have mappedDue := carries.mapped
  rw [ofDue] at mappedDue
  have onChannel := associated.separate task isRequest due isDueRequest sameId
    author recorder _ authors deploys routed mappedDue
  rcases hasResult (onChannel.trans (ofDue.symm.trans channel)) with
    ⟨earlierResult, key, isResult, itsId, itsChannel⟩
  have known : .result earlierResult key ∈
      logFacts recorder (done ++ record :: middle) := by
    rw [logFacts_append]
    exact List.mem_append_left _ isResult
  exact reporting.isFirst associated.sameText deploys known
    (itsId.trans (sameId.trans resultOf.requestId.symm))
    (itsChannel.trans (onChannel.trans ofDue.symm))

/-- The result that reports a message is the one that later records refer
to. -/
theorem Associated.reportedSeq_eq
    (associated : Associated setting deployed text moment) {result : LogEntry}
    (isPrefix : done ++ result :: middle <+: moment.log.entries)
    (reports : reported? text result.message = some (channelId, messageId))
    (deploys : deployed author)
    (mapped : author.mapping.providerSession channelId = .ok session)
    (oneChannel : OneChannel (logFacts author (done ++ result :: middle))) :
    reportedSeq (logFacts author (done ++ result :: middle))
      ⟨session.1, session.2, channelId, messageId⟩ = some result.seq := by
  have atResult : done ++ [result] <+: moment.log.entries :=
    List.IsPrefix.trans ⟨middle, by simp⟩ isPrefix
  have sameText := associated.sameText author deploys
  rcases associated.result atResult reports with ⟨answer, reporting⟩
  have read := reporting.read
  have key := resultKey_eq answer session
  rw [reporting.reports, reporting.channel] at key
  rw [← sameText] at read
  have said := readItem?_result read (reporting.channel ▸ mapped) reporting.kind
  rw [key] at said
  have facts : logFacts author (done ++ result :: middle) =
      (logFacts author done ++ [.result (.ofParsed answer)
        (some ⟨session.1, session.2, channelId, messageId⟩)]) ++
        logFacts author middle := by
    rw [← List.singleton_append, logFacts_append, logFacts_append,
      logFacts_singleton, said, List.append_assoc]
    rfl
  rw [facts] at oneChannel
  -- an earlier result of the request would be on its channel
  have isOpen : firstResult (logFacts author done)
      (TerminalResult.ofParsed answer).requestId = none := by
    by_contra settled
    rcases firstResult_ne_none_iff.mp settled with
      ⟨earlier, earlierKey, member, same⟩
    exact reporting.isFirst associated.sameText deploys member same
      ((oneChannel _ _ _ _
        (List.mem_append_left _ (List.mem_append_left _ member))
        (List.mem_append_left _ (List.mem_append_right _
          (List.mem_singleton_self _))) same).trans reporting.channel)
  rw [facts, reportedSeq_append_settled, reportedSeq_append_result,
    if_pos ⟨rfl, isOpen⟩]
  · exact congrArg some (readMessage_envelope read).1
  intro other member
  -- another result that reports the message is one of the same request
  rcases mem_logFacts.mp member with ⟨entry, inside, saidAgain⟩
  have reportsAgain := reported?_of_fact saidAgain
  rw [sameText] at reportsAgain
  rcases List.append_of_mem (show entry ∈ moment.log.entries from
    isPrefix.subset (by simp [inside])) with ⟨earlier, later, split⟩
  have atOther : earlier ++ [entry] <+: moment.log.entries :=
    ⟨later, by simp [split]⟩
  rcases associated.result atOther reportsAgain with ⟨again, otherReporting⟩
  have isAgain : other = .ofParsed again := by
    rcases parsed_of_result saidAgain with ⟨parsed, -, readAgain, -, -, rfl, -⟩
    rw [sameText] at readAgain
    cases readAgain.symm.trans otherReporting.read
    rfl
  rcases reporting.reported with ⟨first, left, firstDeploys, leftMapped, one⟩
  rcases otherReporting.reported with
    ⟨second, right, secondDeploys, rightMapped, two⟩
  rw [isAgain, associated.creates.oneRequest right left _ _ _
    ⟨second, first, channelId, secondDeploys, firstDeploys, rightMapped,
      leftMapped⟩ two one]
  apply firstResult_ne_none_iff.mpr
  exact ⟨_, _, List.mem_append_right _ (List.mem_singleton_self _), rfl⟩

theorem Associated.recordLinked
    (associated : Associated setting deployed text moment) {record : LogEntry}
    {parsed : ParsedMessage} {identity : Nat × String}
    (member : record ∈ moment.log.entries)
    (read : readMessage text record.message = some parsed)
    (records : recorded? text record.message = some identity) :
    RecordLinked text moment.log.entries record identity parsed.prevSeq := by
  rcases identity with ⟨channelId, messageId⟩
  rcases recorded?_eq_some_iff.mp records with
    ⟨said, readAgain, kind, isChannel, isId⟩
  cases read.symm.trans readAgain
  subst isChannel isId
  constructor
  · intro result isResult reports
    rcases Nat.lt_trichotomy result.seq record.seq with less | equal | greater
    · refine ⟨less, ?_⟩
      rcases SequencedLog.exists_split_of_lt isResult member less with
        ⟨done, middle, last, split⟩
      have atRecord : (done ++ result :: middle) ++ [record] <+:
          moment.log.entries := ⟨last, by simp [split]⟩
      have earlier := (List.prefix_append _ _).trans atRecord
      rcases associated.linked atRecord read kind with
        ⟨author, session, deploys, mapped, legal⟩
      rw [legal.linked]
      exact associated.reportedSeq_eq earlier reports deploys mapped
        legal.oneChannel
    · cases SequencedLog.number_injective isResult member equal
      rcases reported?_eq_some_iff.mp reports with ⟨other, again, isResult, -⟩
      cases again.symm.trans read
      cases kind.symm.trans isResult
    · rcases SequencedLog.exists_split_of_lt member isResult greater with
        ⟨done, middle, last, split⟩
      have atResult : done ++ record :: (middle ++ [result]) <+:
          moment.log.entries := ⟨last, by simp [split]⟩
      exact absurd (associated.not_after atResult records reports) id
  · intro none
    rcases List.append_of_mem member with ⟨done, last, split⟩
    have atRecord : done ++ [record] <+: moment.log.entries :=
      ⟨last, by simp [split]⟩
    rcases associated.linked atRecord read kind with
      ⟨author, session, deploys, mapped, legal⟩
    rw [legal.linked]
    have empty := @reportedSeq_append_settled [] (logFacts author done)
      (RuntimeState.syncRecordKey parsed session.1 session.2)
    rw [List.nil_append] at empty
    apply empty
    intro result inside
    rcases mem_logFacts.mp inside with ⟨entry, isEntry, said⟩
    have reports := reported?_of_fact said
    rw [associated.sameText author deploys] at reports
    refine absurd reports (none entry ?_)
    rw [split]
    exact List.mem_append_left _ isEntry

end Association

/-! ## Runs -/

section Runs

variable {stage : Stage} {request : Call} {parsed : ParsedMessage}

/-- A request of the log up to a cut was handed over. -/
theorem mem_requestsIn_of_handedOver {log : Log} {cut : Nat}
    {handed : List Message} {task : OutboundTask}
    (accepted : Accepted syncer handed)
    (handedOver : HandedOver syncer.mapping.channelIds log cut handed)
    (owned : Owned syncer task = true)
    (member : task ∈ sendRequests syncer.text log.entries)
    (early : task.seq < cut) : task ∈ requestsIn syncer handed := by
  have seen : task ∈ logRequests syncer log.entries := by
    rw [logRequests_eq_filter]
    exact List.mem_filter.mpr ⟨member, owned⟩
  rcases mem_logRequests.mp seen with ⟨entry, inside, said⟩
  rw [requestsIn, itemsOf_eq_filterMap accepted, handedOver.handed,
    filterMap_messagesIn]
  apply mem_logRequests.mpr
  refine ⟨entry, SequencedLog.mem_range.mpr ⟨inside, Nat.zero_le _, ?_⟩, said⟩
  rw [LogEntry.seq, ← (seq_of_request said).1]
  exact early

/-- The publish of a record: all requests of its channel up to the snapshot have
results. -/
theorem settled_of_issues (sole : SoleResults setting deployed)
    (begins : Begins first)
    (run : WorkerRun setting deployed first syncer stage before)
    (issued : Issues (world setting) before (stage.program syncer) moment
      request)
    (published : publishOf? request = some (recordOf message))
    (read : readMessage syncer.text message = some parsed)
    (kind : parsed.kind = .syncRecord) :
    ∃ vars lastSeq, stage = .polling vars ∧
      vars.snapshotLastSeq = some lastSeq ∧
        ∀ task ∈ sendRequests syncer.text moment.log.entries,
          task.channelId = message.channelId → task.seq ≤ lastSeq →
            task.requestId ∈ answered syncer.text moment.log.entries := by
  rcases WorkerRun.issues sole begins run issued with inert |
    ⟨vars, lastSeq, handed, isStage, -, snapshot, handedOver, upto, permitted⟩
  · cases request with
    | publishAutoSeq => exact absurd inert.1 id
    | _ => cases published
  · refine ⟨vars, lastSeq, isStage, snapshot, ?_⟩
    intro task member channel early
    rcases permitted.records message parsed published read kind with
      ⟨event, prevSeq, carries, recording⟩
    have grows := visits_grows issued.visits
    have mapped : syncer.mapping.providerSession task.channelId =
        .ok (event.provider, event.sessionId) := by
      rw [channel, ← (readMessage_envelope read).2.1]
      exact carries.mapped
    have owned : Owned syncer task = true :=
      P2PMappingIndex.ownsChannel_of_providerSession syncer.built mapped
    have isHanded := mem_requestsIn_of_handedOver upto.knows.accepted
      (handedOver.extends grows.log) owned member (Nat.lt_succ_of_le early)
    exact answered_of_firstResult (recording.settled task isHanded channel)

/-- In every run, records are published when their channel is settled.  And a
record refers to the result that reported its message, which precedes it if
there is one at all: under one mapping, and under several as long as they do not
send requests with one id of two channels to one session. -/
theorem records_associated (sole : SoleResults setting deployed)
    (begins : Begins first) :
    (∀ author stage before moment request message parsed,
      WorkerRun setting deployed first author stage before →
      Issues (world setting) before (stage.program author) moment request →
      publishOf? request = some (recordOf message) →
      readMessage author.text message = some parsed →
      parsed.kind = .syncRecord →
        ∃ vars lastSeq, stage = .polling vars ∧
          vars.snapshotLastSeq = some lastSeq ∧
            ∀ task ∈ sendRequests author.text moment.log.entries,
              task.channelId = message.channelId → task.seq ≤ lastSeq →
                task.requestId ∈ answered author.text moment.log.entries) ∧
    (∀ text moment, (∀ author, deployed author → author.text = text) →
      SoleWriter setting text .sendResult →
      SoleWriter setting text .syncRecord →
      Moment setting deployed first moment →
      CreatesInSends deployed moment.trace →
      ((∃ syncer, SharedMapping deployed syncer) ∨
        Separate deployed text moment.log.entries) →
        ∀ record ∈ moment.log.entries, ∀ parsed identity,
          readMessage text record.message = some parsed →
          recorded? text record.message = some identity →
            RecordLinked text moment.log.entries record identity
              parsed.prevSeq) := by
  constructor
  · intro author stage before moment request message parsed run issued
    exact settled_of_issues sole begins run issued
  · intro text moment sameText soleResults soleRecords isMoment creates related
      record member parsed identity read records
    have separate : Separate deployed text moment.log.entries := by
      rcases related with ⟨syncer, shared⟩ | separate
      · exact separate_of_shared shared
      · exact separate
    have associated : Associated setting deployed text moment := {
      sameText, soleResults, soleRecords, creates, separate
      chronicle := (Moment.ledger sole begins isMoment).chronicle
      backed := Moment.backed sameText soleResults soleRecords begins isMoment }
    exact associated.recordLinked member read records

end Runs

/-! ## A run with a crash -/

section Run

variable {posted : setting.provider.State}

/-- The only request is sent before anything is delivered. -/
theorem createsInSends_of_first {sent rest : List Exchange} {session : Session}
    {requestId : String}
    (one : ∀ send ∈ sendsOf (sent ++ rest), send.requestId = requestId)
    (made : ∃ send ∈ sendsOf sent, send.session = session)
    (silent : (sent.flatMap fun made =>
      eventsIn made.request made.answer) = [])
    (delivered : ∀ event ∈ rest.flatMap fun made =>
      eventsIn made.request made.answer,
        session = (event.provider, event.sessionId)) :
    CreatesInSends deployed (sent ++ rest) := by
  have onlyRequest {session : Session} {other messageId : String}
      (reported : Reported (sent ++ rest) session other messageId) :
      other = requestId := by
    rcases reported with ⟨user, msgType, content, result, member, -⟩
    exact one ⟨session, user, msgType, content, other⟩
      (List.mem_filterMap.mpr ⟨_, member, rfl⟩)
  have inside {calls : List Exchange} {exchange : Exchange}
      {event : ProviderEvent} (member : exchange ∈ calls)
      (isEvent : event ∈ eventsIn exchange.request exchange.answer) :
      event ∈ calls.flatMap fun made => eventsIn made.request made.answer :=
    List.mem_flatMap.mpr ⟨exchange, member, isEvent⟩
  constructor
  · intro left right messageId leftId rightId _ first second
    rw [onlyRequest first, onlyRequest second]
  · intro earlier exchange later event other otherId split isEvent _ reported
    -- the call that delivers the event is not one of the first calls
    have late : sent <+: earlier ∧ exchange ∈ rest := by
      rcases List.append_eq_append_iff.mp split with
        ⟨added, rfl, ended⟩ | ⟨missing, begun, ended⟩
      · exact ⟨List.prefix_append _ _, by simp [ended]⟩
      · cases missing with
        | nil =>
            rw [List.append_nil] at begun
            have whole : exchange :: later = rest := ended
            exact ⟨by rw [begun], by simp [← whole]⟩
        | cons next missing =>
            cases (List.cons.inj ended).1
            have known := @inside sent _ _ (by simp [begun]) isEvent
            rw [silent] at known
            cases known
    rcases made with ⟨send, isSend, ofSession⟩
    have isFirst : send ∈ sendsOf (sent ++ rest) :=
      ((List.prefix_append sent rest).filterMap _).subset isSend
    refine ⟨send, (late.1.filterMap _).subset isSend,
      ofSession.trans (delivered event (inside late.2 isEvent)), ?_⟩
    rw [one send isFirst, onlyRequest reported]

theorem creates_recordedWorld : CreatesInSends deployed
    (recordedWorld posted : WorldState setting).trace := by
  have sends : sendsOf (recordedWorld posted : WorldState setting).trace =
      [⟨("lark", "oc1"), "ou8", "text", [], "r1"⟩] := sends_recordedWorld
  have events : (recordTickCalls.flatMap fun made =>
      eventsIn made.request made.answer) = [echoEvent] := rfl
  apply createsInSends_of_first
  · intro send member
    have isSend : send ∈ sendsOf (recordedWorld posted :
      WorldState setting).trace := member
    rw [sends, List.mem_singleton] at isSend
    rw [isSend]
  · exact ⟨_, List.mem_singleton_self _, rfl⟩
  · rfl
  · intro event member
    rw [events, List.mem_singleton] at member
    rw [member]
    rfl

/-- The record in the log is of the message that was sent. -/
theorem recorded?_echoMessage :
    recorded? sampleSyncer.text echoMessage = some (3, "om1") := by
  rcases carries_echoMessage with ⟨parsed, carries⟩
  exact recorded?_eq_some_iff.mpr ⟨parsed, carries.read, carries.kind,
    congrArg InboundKey.channelId carries.key,
    congrArg InboundKey.providerMessageId carries.key⟩

theorem reported?_resultMessage :
    reported? sampleSyncer.text resultMessage = some (3, "om1") := by
  have isId : reportedMessageId resultParsed = some "om1" := by
    have success : (TerminalResult.ofParsed resultParsed).status = "SUCCESS" :=
      rfl
    rw [reportedMessageId, if_neg (not_not.mpr success)]
    rfl
  exact reported?_eq_some_iff.mpr ⟨_, read_resultMessage, rfl, rfl, isId⟩

/-- When the second process publishes the record, the request has its result;
and the record refers to this result. -/
theorem records_associated_sample :
    (∃ vars lastSeq, Stage.polling replayedVars = .polling vars ∧
      vars.snapshotLastSeq = some lastSeq ∧
        ∀ task ∈ sendRequests sampleSyncer.text answeredLog.entries,
          task.channelId = 3 → task.seq ≤ lastSeq →
            task.requestId ∈
              answered sampleSyncer.text answeredLog.entries) ∧
    reported? sampleSyncer.text resultMessage = some (3, "om1") ∧
    ∃ parsed, readMessage sampleSyncer.text echoMessage = some parsed ∧
      RecordLinked sampleSyncer.text recordedLog.entries ⟨echoMessage, true⟩
        (3, "om1") parsed.prevSeq := by
  have hosts := hosts_requestSetting
  have soleResults : SoleWriter requestSetting sampleSyncer.text .sendResult :=
    hosts.soleWriter (by decide)
  have sole : SoleResults requestSetting (·.text = sampleSyncer.text) :=
    soleResults_sameText (fun _ => id) soleResults
  have conflictFree : ConflictFree sampleSyncer.text
      (recordedWorld () : WorldState requestSetting).log.entries :=
    conflictFree_recordedLog
  rcases carries_echoMessage with ⟨parsed, carries⟩
  have run : WorkerRun requestSetting (·.text = sampleSyncer.text)
      (beginning ()) sampleSyncer (.polling replayedVars) (replayedWorld ()) :=
    hosts.run_replayed rfl
  have issued : Issues (world requestSetting) (replayedWorld ())
      ((Stage.polling replayedVars).program sampleSyncer) (recordingWorld ())
        _ :=
    hosts.asksToRecord secondCalls
  have published : publishOf? (.publishAutoSeq 8 "bot" 3 echoMessage.payload
      [7]) = some (recordOf echoMessage) := by
    rw [publishOf?, recordOf]
    rfl
  have begins : Begins (beginning () : WorldState requestSetting) :=
    begins_beginning
  have associated := records_associated sole begins
  have settled := associated.1 _ _ _ _ _ echoMessage parsed run issued published
    carries.read carries.kind
  refine ⟨settled, reported?_resultMessage, parsed, carries.read, ?_⟩
  exact associated.2 _ (recordedWorld ()) (fun _ => id) soleResults
    (hosts.soleWriter (by decide)) (hosts.moment rfl) creates_recordedWorld
    (Or.inr (separate_of_conflictFree conflictFree)) ⟨echoMessage, true⟩
    (List.mem_of_getLast? rfl) parsed _ carries.read recorded?_echoMessage

end Run

/-! ## A session that moves

After the first process has crashed, the session is mapped to another channel.
The next process records the message there, without a result to refer to.  Then
a request with the id of the first one comes on the new channel, and the
provider answers it with the message that it has. -/

def movedEntry (identityType externalUserId : String) (principal : Nat) :
    MappingEntry :=
  { sampleEntry identityType externalUserId principal with channelId := 4 }

/-- The session is on another channel. -/
def movedConfig : SyncerConfig :=
  { sampleConfig with
    mappings := [movedEntry "user" "ou7" 7, movedEntry "bot" "ou8" 8] }

def movedMapping : P2PMappingIndex where
  config := movedConfig
  byChannel := (∅ : Dict Nat (List MappingEntry)).set 4 movedConfig.mappings
  channelSession := (∅ : Dict Nat Session).set 4 ("lark", "oc1")
  sessionChannel := (∅ : Dict Session Nat).set ("lark", "oc1") 4
  externalByChannel :=
    ((∅ : Dict ExternalKey MappingEntry).set
      ⟨4, "lark", "user", "ou7"⟩ (movedEntry "user" "ou7" 7)).set
        ⟨4, "lark", "bot", "ou8"⟩ (movedEntry "bot" "ou8" 8)
  principalByChannel :=
    ((∅ : Dict (Nat × Nat) MappingEntry).set
      (4, 7) (movedEntry "user" "ou7" 7)).set
        (4, 8) (movedEntry "bot" "ou8" 8)

def movedSyncer : P2PSyncer where
  text := JsonText.compact
  config := movedConfig
  mapping := movedMapping
  built := rfl

theorem channelIds_moved : movedSyncer.mapping.channelIds = [4] :=
  List.mergeSort_singleton 4

theorem created_moved : createProcessor movedSyncer =
    .ok (chatProcessor newPuller) := by
  rw [createProcessor, providerQueueSizes, channelIds_moved]
  rfl

/-- The record has nothing to refer to. -/
def movedPayload : JsonObject :=
  (syncRecordPayload (fullRecordInput echoEvent none 5)).toOption.getD []

def movedEcho : Message where
  seq := 3
  channelId := 4
  principal := 8
  recipients := [7]
  payload := encodePayload JsonText.compact movedPayload

theorem movedEcho_small : LogEntry.seq ⟨movedEcho, true⟩ ≤ uint64Limit := by
  show 3 ≤ uint64Limit
  decide

theorem movedEcho_fresh :
    answeredLog.frontier ≤ LogEntry.seq ⟨movedEcho, true⟩ := Nat.le_refl 3

theorem movedEcho_positive : 0 < LogEntry.seq ⟨movedEcho, true⟩ :=
  Nat.succ_pos 2

def movedLog : Log :=
  answeredLog.push ⟨movedEcho, true⟩ movedEcho_fresh movedEcho_positive
    movedEcho_small

/-- A request with the id of the first one. -/
def repeatedRequest : Message :=
  { requestMessage with seq := 4, channelId := 4 }

def repeatedParsed : ParsedMessage :=
  { requestParsed with seq := 4, channelId := 4 }

def repeatedLog : Log :=
  movedLog.push ⟨repeatedRequest, false⟩ (by decide) (by decide) (by decide)

/-- Its result names the message of the first one. -/
def repeatedInput : SendResultInput :=
  ⟨"r1", 4, "SUCCESS", 0, some "om1", none, none⟩

def repeatedPayload : JsonObject :=
  (sendResultPayload repeatedInput).toOption.getD []

def repeatedResult : Message where
  seq := 5
  channelId := 4
  principal := 9
  recipients := [8]
  payload := encodePayload JsonText.compact repeatedPayload

theorem repeatedResult_small :
    LogEntry.seq ⟨repeatedResult, true⟩ ≤ uint64Limit := by
  show 5 ≤ uint64Limit
  decide

def repeatedAnswered : Log :=
  repeatedLog.push ⟨repeatedResult, true⟩ (Nat.le_refl 5) (Nat.succ_pos 4)
    repeatedResult_small

def movedRoute : RecordRoute := { echoRoute with channelId := 4 }

theorem recordRoute_moved :
    recordRoute movedSyncer 4 echoEvent = .ok movedRoute := by
  have peers : (movedMapping.peerPrincipals 4 8).1 = [7].mergeSort := rfl
  rw [List.mergeSort_singleton] at peers
  have routed : recordRoute movedSyncer 4 echoEvent =
      .ok ⟨8, "bot", 4, (movedMapping.peerPrincipals 4 8).1⟩ := rfl
  rw [routed, peers]
  rfl

set_option maxRecDepth 4000 in
theorem encoded_movedEcho : encodeSyncRecord movedSyncer.text
    (fullRecordInput echoEvent none 5) = .ok movedEcho.payload := by
  have built : syncRecordPayload (fullRecordInput echoEvent none 5) =
      .ok movedPayload := rfl
  rw [encodeSyncRecord, built]
  rfl

set_option maxRecDepth 4000 in
theorem record_movedEcho :
    (recordMethod movedRoute (fullRecordInput echoEvent none 5)).record
      movedSyncer.text = .ok (recordOf movedEcho) := by
  have normalized : normalizeRecipients
      (some (movedRoute.recipients.map Int.ofNat)) true =
        .ok (sortedSet [7]) := rfl
  have once : [7].dedup = [7] := rfl
  rw [sortedSet, once, List.mergeSort_singleton] at normalized
  exact checkRecord_eq_ok_iff.mpr
    ⟨encoded_movedEcho, normalized, ⟨rfl, by decide, Nat.succ_pos 7⟩, rfl,
      by decide, Nat.succ_pos 3⟩

theorem parse_repeatedRequest :
    parseMessage movedSyncer.text repeatedRequest = .ok repeatedParsed := by
  rcases parseMessage_eq_ok_iff.mp parse_requestMessage with ⟨-, accepted, -⟩
  have wellFormed : (Json.obj requestPayload).WellFormed := by
    simp [requestPayload, Json.wellFormed_obj_iff]
  refine parseMessage_eq_ok_iff.mpr ⟨?_, accepted, ?_⟩
  · exact (readMessage_of_encoded rfl wellFormed).trans rfl
  · exact ⟨by decide, by decide, by decide, by decide⟩

set_option maxRecDepth 4000 in
theorem encoded_repeatedResult : encodeSendResult movedSyncer.text
    repeatedInput = .ok repeatedResult.payload := by
  have built : sendResultPayload repeatedInput = .ok repeatedPayload := rfl
  rw [encodeSendResult, built]
  rfl

set_option maxRecDepth 4000 in
theorem record_repeatedResult :
    (resultMethod movedSyncer (.ofParsed repeatedParsed) "om1" 0).record
      movedSyncer.text = .ok (recordOf repeatedResult) := by
  refine checkRecord_eq_ok_iff.mpr ⟨?_, rfl, ⟨rfl, by decide, by decide⟩, rfl,
    by decide, by decide⟩
  exact encoded_repeatedResult

section Moves

variable {silent posted : setting.provider.State}

def movedScanCalls : List Exchange := [
  ⟨.getStatus 9 "worker", .ok ⟨2⟩⟩,
  ⟨.stopIsSet, false⟩,
  ⟨.fetch 9 "worker" 1 1000 false [4], .ok ⟨[], 3, 2⟩⟩]

/-- The history of the other channel is empty. -/
theorem boots_moved (hosts : Hosts setting silent posted) :
    Leads ((Stage.starting (chatProcessor newPuller)).program movedSyncer)
      (⟨answeredLog, posted⟩ : Scene setting) (movedScanCalls ++ launchCalls)
      ⟨answeredLog, posted⟩
      (.ok (some (.polling (.start 3 (chatProcessor chatPuller))))) := by
  have honest : HonestPage answeredLog 1 movedSyncer.mapping.channelIds
      ⟨[], 3, 2⟩ := by
    rw [channelIds_moved]
    exact ⟨rfl, rfl, by decide, by decide⟩
  have replayed : [].foldlM (handlers movedSyncer).history
      (chatProcessor newPuller) = .ok (chatProcessor newPuller) := rfl
  have scanned := leads_scanHistory (⟨answeredLog, posted⟩ : Scene setting)
    (Nat.succ_ne_zero 1) honest rfl le_rfl replayed
  have highwater : sessionHighwaterMs movedSyncer .initial "lark" =
      .ok chatHighwater := by
    rw [sessionHighwaterMs, channelIds_moved]
    rfl
  rw [channelIds_moved] at scanned
  exact hosts.boots_of_scan scanned rfl highwater

def movedIdleCalls : List Exchange := [
  ⟨.stopIsSet, false⟩,
  ⟨.fetch 9 "worker" 3 1000 false [4], .ok ⟨[], 3, 2⟩⟩]

def movedVars : PollVars SingleThreadProcessor :=
  PollVars.settle (.start 3 (chatProcessor chatPuller)) 2

theorem leads_movedIdle :
    Leads ((Stage.polling (.start 3 (chatProcessor chatPuller))).program
        movedSyncer) (⟨answeredLog, posted⟩ : Scene setting) movedIdleCalls
      ⟨answeredLog, posted⟩ (.ok (some (.polling movedVars))) := by
  have honest : HonestPage answeredLog 3 movedSyncer.mapping.channelIds
      ⟨[], 3, 2⟩ := by
    rw [channelIds_moved]
    exact ⟨rfl, rfl, by decide, by decide⟩
  have taken : takePage (handlers movedSyncer)
      (.start 3 (chatProcessor chatPuller)) ⟨[], 3, 2⟩ = .ok movedVars := rfl
  have fetched := leads_fetchLive (⟨answeredLog, posted⟩ : Scene setting) taken
    honest le_rfl
  refine Leads.calls_eq (leads_pollOnce rfl rfl fetched) ?_
  rw [channelIds_moved]
  rfl

/-- The message has been recorded. -/
def movedState : RuntimeState :=
  RuntimeState.initial.nextPendingTask.2.markSyncRecord
    (inboundKey 4 echoEvent) 4 4

/-- The puller when the message has been acknowledged. -/
def settledPuller : ProviderMessagePuller :=
  echoPuller.setSession "oc1"
    { quietReceived with
      confirmedEventMs := laterOf quietReceived.confirmedEventMs (some 4)
      inFlight := none }

def movedRecordCalls : List Exchange :=
  ⟨.stopIsSet, false⟩ :: (collectCalls (some echoEvent) ++
    ⟨.currentTimeMs, (5 : Int)⟩ :: publishCalls "bot" movedEcho 2 ++
      [⟨.stopWait 10, false⟩])

/-- The loop after the tick. -/
def recordedVars : PollVars SingleThreadProcessor :=
  movedVars.reset { chatProcessor settledPuller with state := movedState }

/-- The message is recorded on the other channel. -/
theorem records_moved (hosts : Hosts setting silent posted) :
    Leads ((Stage.polling movedVars).program movedSyncer)
      (⟨answeredLog, posted⟩ : Scene setting) movedRecordCalls
      ⟨movedLog, posted⟩ (.ok (some (.polling recordedVars))) := by
  have unseen : inboundKey 4 echoEvent ∉
      RuntimeState.initial.nextPendingTask.2.inboundSeen :=
    Finset.notMem_empty _
  have appends : answeredLog.Appends ⟨movedEcho, true⟩ movedLog :=
    SequencedLog.appends_push _ _ _
  have records := @leads_records setting ⟨answeredLog, posted⟩ movedSyncer
    RuntimeState.initial.nextPendingTask.2 4 echoEvent _ 5 _ _ (Nat.succ_pos 1)
    unseen recordRoute_moved record_movedEcho (hosts.committable _) appends
  have acknowledged : acknowledgeIn echoEvent [("lark", echoPuller)] =
      .ok [("lark", settledPuller)] := rfl
  have processes : Leads (processNextProviderEvent movedSyncer
      { chatProcessor echoPuller with
        state := RuntimeState.initial.nextPendingTask.2
        pendingEvents := [echoEvent] })
      (⟨answeredLog, posted⟩ : Scene setting)
      (⟨.currentTimeMs, (5 : Int)⟩ :: publishCalls "bot" movedEcho 2)
      ⟨movedLog, posted⟩
      (.ok (true, { chatProcessor settledPuller with
        state := movedState })) := by
    refine Leads.calls_eq (.bind records ?_) (List.append_nil _)
    show Leads (Action.ofExcept (acknowledgeIn echoEvent
      [("lark", echoPuller)]) >>= _) _ _ _ _
    rw [acknowledged]
    exact leads_ret
  have ticks : Leads (tick movedSyncer movedVars.held)
      (⟨answeredLog, posted⟩ : Scene setting)
      (⟨.stopIsSet, false⟩ :: (collectCalls (some echoEvent) ++
        ⟨.currentTimeMs, (5 : Int)⟩ :: publishCalls "bot" movedEcho 2))
      ⟨movedLog, posted⟩
      (.ok (true, { chatProcessor settledPuller with state := movedState })) :=
    Leads.calls_eq (leads_call replies_goesOn (.bind leads_ret (.bind
      (@Hosts.collectsEcho _ _ _ hosts answeredLog .initial)
      (.bind leads_ret (.bind processes leads_ret))))) rfl
  have waits : Leads (stopWait 10) (⟨movedLog, posted⟩ : Scene setting)
      [⟨.stopWait 10, false⟩] ⟨movedLog, posted⟩ (.ok false) :=
    leads_call (replies_server rfl rfl) leads_ret
  exact Leads.calls_eq (.handle (.bind (.bind (.bind ticks leads_ret)
    (.bind waits leads_ret)) leads_ret)) rfl

theorem accepts_movedEcho : Accepts movedSyncer.text movedEcho.payload := by
  apply (accepts_encodeSyncRecord_iff echoEvent.wellFormed ?_
    encoded_movedEcho).mpr
  · refine ⟨?_, freeExcept_nil⟩
    simp [fullRecordInput, echoEvent, DegradedRecord.sampleEvent,
      Json.mentionsKey_obj_iff]
  · simp [fullRecordInput, Json.wellFormed_obj_iff]

theorem carries_movedEcho : ∃ parsed,
    WorkerMessages.CarriesEvent movedSyncer 4 echoEvent none movedEcho
      parsed :=
  WorkerMessages.carriesEvent_of_record recordRoute_moved rfl
    ⟨5, Or.inl rfl⟩ record_movedEcho

theorem live_movedEcho {state : RuntimeState} :
    movedSyncer.processLiveMessage state movedEcho = .ok state := by
  rcases carries_movedEcho with ⟨parsed, carries⟩
  have small : movedEcho.seq ≤ uint64Limit := movedEcho_small
  have parse : parseMessage movedSyncer.text movedEcho = .ok parsed :=
    parseMessage_eq_ok_iff.mpr
      ⟨carries.read, accepts_movedEcho, carries.bounded small⟩
  have owned := P2PMappingIndex.ownsChannel_of_providerSession
    movedSyncer.built carries.mapped
  rw [processLiveMessage_eq parse owned carries.roles, if_pos]
  rw [carries.kind]
  decide

/-- The second request has been read. -/
def repeatedState : RuntimeState :=
  (movedState.addSendRequest repeatedParsed).2

def repeatedVars : PollVars SingleThreadProcessor where
  point := .ticking
  nextSeq := 5
  snapshotLastSeq := some 4
  snapshotHadMessages := true
  prefetchedMessages := []
  prefetchedLastSeq := none
  held := { chatProcessor settledPuller with state := repeatedState }

theorem live_repeatedRequest :
    movedSyncer.processLiveMessage movedState repeatedRequest =
      .ok repeatedState := by
  rw [processLiveMessage_eq parse_repeatedRequest rfl rfl]
  rfl

def repeatedReadCalls : List Exchange := [
  ⟨.stopIsSet, false⟩,
  ⟨.fetch 9 "worker" 3 1000 false [4],
    .ok ⟨[movedEcho, repeatedRequest], 5, 4⟩⟩]

theorem leads_repeatedRead
    (allowed : setting.foreign movedLog repeatedRequest) :
    Leads ((Stage.polling recordedVars).program movedSyncer)
      (⟨movedLog, posted⟩ : Scene setting) repeatedReadCalls
      ⟨repeatedLog, posted⟩ (.ok (some (.polling repeatedVars))) := by
  have echo : (handlers movedSyncer).live recordedVars.held movedEcho =
      .ok recordedVars.held :=
    Checked.bind_eq_ok_iff.mpr ⟨_, live_movedEcho, rfl⟩
  have request : (handlers movedSyncer).live recordedVars.held repeatedRequest =
      .ok repeatedVars.held :=
    Checked.bind_eq_ok_iff.mpr ⟨_, live_repeatedRequest, rfl⟩
  have page : [movedEcho, repeatedRequest].foldlM (handlers movedSyncer).live
      recordedVars.held = .ok repeatedVars.held := by
    rw [List.foldlM_cons, Checked.bind_eq_ok_iff]
    refine ⟨_, echo, ?_⟩
    rw [List.foldlM_cons, Checked.bind_eq_ok_iff]
    exact ⟨_, request, rfl⟩
  have taken : takePage (handlers movedSyncer) recordedVars
      ⟨[movedEcho, repeatedRequest], 5, 4⟩ = .ok repeatedVars :=
    Checked.bind_eq_ok_iff.mpr ⟨_, page, rfl⟩
  have honest : HonestPage repeatedLog 3 movedSyncer.mapping.channelIds
      ⟨[movedEcho, repeatedRequest], 5, 4⟩ := by
    rw [channelIds_moved]
    exact ⟨rfl, rfl, by decide, by decide⟩
  have fetched := leads_fetchLive (⟨repeatedLog, posted⟩ : Scene setting) taken
    honest le_rfl
  have appends : movedLog.Appends ⟨repeatedRequest, false⟩ repeatedLog :=
    SequencedLog.appends_push _ _ _
  refine Leads.calls_eq (leads_pollOnce rfl rfl
    (leads_published allowed appends fetched)) ?_
  rw [channelIds_moved]
  rfl

/-- What a tick asks of the provider when nothing is left. -/
def quietCalls : List Exchange := [
  ⟨.eventStreamError "lark", .ok none⟩,
  ⟨.eventStreamGeneration "lark", .ok 0⟩,
  ⟨.takeEvent "lark", .ok none⟩,
  ⟨.eventStreamError "lark", .ok none⟩,
  ⟨.eventStreamGeneration "lark", .ok 0⟩,
  ⟨.currentTimeMs, (4 : Int)⟩]

theorem collects_settled (hosts : Hosts setting silent posted)
    {scene : Scene setting} {state : RuntimeState} :
    Leads (collectProviderMessages
        { chatProcessor settledPuller with state := state }) scene quietCalls
      scene (.ok { chatProcessor settledPuller with state := state }) :=
  leads_call (hosts.replies .sound) <|
  leads_call (hosts.replies .connected) <|
  leads_call (hosts.replies .nothing) <|
  leads_call (hosts.replies .sound) <|
  leads_call (hosts.replies .connected) <|
  leads_call (replies_server rfl rfl) leads_ret

def repeatedTickCalls : List Exchange :=
  ⟨.stopIsSet, false⟩ :: (quietCalls ++ outboundCalls "worker"
    (.ofParsed repeatedParsed) ("lark", "oc1") "ou8" "om1" repeatedResult 4)

/-- The provider returns the message of the first request. -/
theorem ticks_repeated (hosts : Hosts setting silent posted)
    (sends : setting.provider.Answers posted
      (.sendMessage "lark" "oc1" "ou8" "text" [] "r1")
      (.ok ⟨true, some "om1", none, none⟩) posted) : ∃ next,
    Leads ((Stage.polling repeatedVars).program movedSyncer)
      (⟨repeatedLog, posted⟩ : Scene setting) repeatedTickCalls
      ⟨repeatedAnswered, posted⟩ (.ok (some (.polling next))) := by
  have sent : Replies (⟨repeatedLog, posted⟩ : Scene setting)
      (.sendMessage "lark" "oc1" "ou8" "text" [] "r1")
      (.ok ⟨true, some "om1", none, none⟩) ⟨repeatedLog, posted⟩ :=
    ⟨rfl, sends⟩
  have appends : repeatedLog.Appends ⟨repeatedResult, true⟩ repeatedAnswered :=
    SequencedLog.appends_push _ _ _
  have routed : sendRoute movedSyncer (.ofParsed repeatedParsed) =
      .ok (("lark", "oc1"), "ou8") := rfl
  have outbound := @leads_outbound setting _ movedSyncer
    repeatedState.nextPendingTask.2 _ _ _ _ _ _ _
    (Nat.succ_pos 1) routed (by decide) sent record_repeatedResult
    (hosts.committable _) appends
  have ticks : ∃ held, Leads (tick movedSyncer repeatedVars.held)
      (⟨repeatedLog, posted⟩ : Scene setting) repeatedTickCalls
      ⟨repeatedAnswered, posted⟩ (.ok (true, held)) :=
    ⟨_, Leads.calls_eq (leads_call replies_goesOn (.bind leads_ret (.bind
      (collects_settled hosts) (.bind (.bind outbound leads_ret)
        leads_ret)))) rfl⟩
  rcases ticks with ⟨held, ticks⟩
  exact ⟨_, Leads.calls_eq (.handle (.bind (.bind (.bind ticks leads_ret)
    leads_ret) leads_ret)) rfl⟩

/-- Others publish two requests with one id. -/
def repeatingSetting : Setting where
  provider := arbitraryProvider
  foreign _ message := message = requestMessage ∨ message = repeatedRequest
  committable _ := True

theorem hosts_repeatingSetting : Hosts repeatingSetting () () where
  requested _ := Or.inl rfl
  foreign _ _ allowed := by
    rcases allowed with rfl | rfl
    · rfl
    · rfl
  committable _ := trivial
  idle _ _ _ _ := trivial
  sends := trivial
  delivers := trivial

/-- The calls of the second process before its last tick. -/
def movedCalls : List Exchange :=
  firstCalls ++ sendTickCalls ++ (movedScanCalls ++ launchCalls) ++
    movedIdleCalls ++ movedRecordCalls ++ repeatedReadCalls

def repeatedWorld : WorldState repeatingSetting :=
  (⟨repeatedAnswered, ()⟩ : Scene repeatingSetting).world
    (movedCalls ++ repeatedTickCalls)

theorem moment_repeatedWorld (deploys : deployed sampleSyncer)
    (deploysMoved : deployed movedSyncer) :
    Moment repeatingSetting deployed (beginning ()) repeatedWorld := by
  have hosts := hosts_repeatingSetting
  rcases hosts.ticks with ⟨next, ticks⟩
  rcases ticks_repeated hosts trivial with ⟨last, repeats⟩
  have started : WorkerRun repeatingSetting deployed (beginning ()) movedSyncer
      (.starting (chatProcessor newPuller)) (answeredWorld ()) :=
    (hosts.run_asked deploys).restarts (ticks firstCalls).visits .refl
      deploysMoved created_moved
  have polls := ((started.proceeds (boots_moved hosts _)).proceeds
    (leads_movedIdle _)).proceeds (records_moved hosts _)
  have reads := polls.proceeds (leads_repeatedRead (Or.inr rfl) _)
  exact ⟨movedSyncer, .polling repeatedVars, _, reads,
    (repeats movedCalls).visits⟩

/-- The provider returns the message to the second send of the request. -/
theorem sends_repeatedWorld : sendsOf repeatedWorld.trace =
    [⟨("lark", "oc1"), "ou8", "text", [], "r1"⟩,
      ⟨("lark", "oc1"), "ou8", "text", [], "r1"⟩] := rfl

theorem creates_repeatedWorld :
    CreatesInSends deployed repeatedWorld.trace := by
  have whole : repeatedWorld.trace = (firstCalls ++ sendTickCalls) ++
      ((movedScanCalls ++ launchCalls) ++ movedIdleCalls ++ movedRecordCalls ++
        repeatedReadCalls ++ repeatedTickCalls) := by
    show movedCalls ++ repeatedTickCalls = _
    simp only [movedCalls, List.append_assoc]
  have events : (((movedScanCalls ++ launchCalls) ++ movedIdleCalls ++
      movedRecordCalls ++ repeatedReadCalls ++ repeatedTickCalls).flatMap
        fun made => eventsIn made.request made.answer) = [echoEvent] := rfl
  have sends := sends_repeatedWorld
  rw [whole] at sends ⊢
  apply createsInSends_of_first
  · intro send member
    rw [sends] at member
    rcases List.mem_pair.mp member with rfl | rfl
    · rfl
    · rfl
  · exact ⟨_, List.mem_singleton_self _, rfl⟩
  · rfl
  · intro event member
    rw [events, List.mem_singleton] at member
    rw [member]
    rfl

theorem recorded?_movedEcho :
    recorded? sampleSyncer.text movedEcho = some (4, "om1") := by
  rcases carries_movedEcho with ⟨parsed, carries⟩
  exact recorded?_eq_some_iff.mpr ⟨parsed, carries.read, carries.kind,
    congrArg InboundKey.channelId carries.key,
    congrArg InboundKey.providerMessageId carries.key⟩

theorem reported?_repeatedResult :
    reported? sampleSyncer.text repeatedResult = some (4, "om1") := by
  have mapped : movedSyncer.mapping.providerSession
      (OutboundTask.ofParsed repeatedParsed).channelId = .ok ("lark", "oc1") :=
    rfl
  rcases WorkerMessages.carriesResult_of_record (by decide) mapped
    record_repeatedResult with ⟨parsed, carries⟩
  have key := carries.key
  rw [resultKey_eq, Option.map_eq_some_iff] at key
  rcases key with ⟨messageId, reports, same⟩
  exact reported?_eq_some_iff.mpr ⟨parsed, carries.read, carries.kind,
    congrArg InboundKey.channelId same, reports.trans
      (congrArg some (congrArg InboundKey.providerMessageId same))⟩

/-- The configuration of one of the two processes. -/
def SampleOrMoved (author : P2PSyncer) : Prop :=
  author = sampleSyncer ∨ author = movedSyncer

/-- Under two mappings, a record may come before the result that reports its
message: the promises of the provider are kept, and only the worker writes
results and records. -/
theorem record_beforeResult :
    Begins (beginning () : WorldState repeatingSetting) ∧
      (∀ author, SampleOrMoved author → author.text = sampleSyncer.text) ∧
      SoleWriter repeatingSetting sampleSyncer.text .sendResult ∧
      SoleWriter repeatingSetting sampleSyncer.text .syncRecord ∧
      Moment repeatingSetting SampleOrMoved (beginning ()) repeatedWorld ∧
      CreatesInSends SampleOrMoved repeatedWorld.trace ∧
      ¬∀ record ∈ repeatedWorld.log.entries, ∀ parsed identity,
        readMessage sampleSyncer.text record.message = some parsed →
        recorded? sampleSyncer.text record.message = some identity →
          RecordLinked sampleSyncer.text repeatedWorld.log.entries record
            identity parsed.prevSeq := by
  refine ⟨begins_beginning, ?_, hosts_repeatingSetting.soleWriter (by decide),
    hosts_repeatingSetting.soleWriter (by decide),
    moment_repeatedWorld (Or.inl rfl) (Or.inr rfl), creates_repeatedWorld, ?_⟩
  · rintro author (rfl | rfl)
    · rfl
    · rfl
  · intro linked
    rcases carries_movedEcho with ⟨parsed, carries⟩
    have entries : repeatedWorld.log.entries = [⟨requestMessage, false⟩,
      ⟨resultMessage, true⟩, ⟨movedEcho, true⟩, ⟨repeatedRequest, false⟩,
      ⟨repeatedResult, true⟩] := rfl
    have isRecord : (⟨movedEcho, true⟩ : LogEntry) ∈
        repeatedWorld.log.entries := by simp [entries]
    have isResult : (⟨repeatedResult, true⟩ : LogEntry) ∈
        repeatedWorld.log.entries := by simp [entries]
    have association := linked _ isRecord parsed _ carries.read
      recorded?_movedEcho
    have earlier := (association.reported _ isResult
      reported?_repeatedResult).1
    exact absurd earlier (by decide)

end Moves

end OpenEventIm.Syncer.RecordAssociation
