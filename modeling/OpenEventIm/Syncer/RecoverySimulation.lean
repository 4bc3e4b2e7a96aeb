import OpenEventIm.Syncer.AtMostOnce

/-!
# Recovery simulates the live worker

A process rebuilds its state from the log.  Whatever the processes before it
have written, the history accepts the whole log; and what a running process
remembers is what the history would make of the messages it has processed and
of all messages that the worker has published.

The processes may have different configurations as long as these agree on the
mapping and the worker's principal.
-/

namespace OpenEventIm.Syncer.RecoverySimulation

open OpenEventIm.Foundation
open OpenEventIm.Foundation.Interaction
open OpenEventIm.Sdk.Codec
open OpenEventIm.Sdk.Client
open OpenEventIm.Sdk.MessageReading
open OpenEventIm.Sdk.CodecAcceptance
open OpenEventIm.Service.Calls
open OpenEventIm.Service.World
open OpenEventIm.Syncer.Models
open OpenEventIm.Syncer.Mapping
open OpenEventIm.Syncer.State
open OpenEventIm.Syncer.LogMeaning
open OpenEventIm.Syncer.HistoryReplay
open OpenEventIm.Syncer.HistoryReplay.P2PSyncer
open OpenEventIm.Syncer.StartupCut
open OpenEventIm.Syncer.ProviderMessages
open OpenEventIm.Syncer.Processor
open OpenEventIm.Syncer.Processor.SingleThreadProcessor
open OpenEventIm.Syncer.PollEvents
open OpenEventIm.Syncer.LogReading
open OpenEventIm.Syncer.Worker
open OpenEventIm.Syncer.WrittenLog
open OpenEventIm.Syncer.WorkerLedger
open OpenEventIm.Syncer.WorkerMemory
open OpenEventIm.Syncer.WorkerRuns
open OpenEventIm.Syncer.ChannelOrder
open OpenEventIm.Syncer.AtMostOnce

/-! ## Logs that the history accepts -/

/-- The payloads of the log decode. -/
def Decodes (text : JsonText) (entries : List LogEntry) : Prop :=
  ∀ entry ∈ entries, Accepts text entry.message.payload

/-- The messages of others have numbers of the protocol. -/
def BoundedForeign (setting : Setting) : Prop :=
  ∀ log message, setting.foreign log message → Bounded message

/-- A log of one configuration that is the only writer of its messages, with
consistent requests. -/
structure OwnLog (setting : Setting) (syncer : P2PSyncer)
    (entries : List LogEntry) : Prop where
  soleResults : SoleWriter setting syncer.text .sendResult
  soleRecords : SoleWriter setting syncer.text .syncRecord
  boundedForeign : BoundedForeign setting
  chronicle : Chronicle setting (Fixed syncer) entries
  conflictFree : ConflictFree syncer.text entries
  decodes : Decodes syncer.text entries

section OwnLog

variable {setting : Setting} {syncer : P2PSyncer}
  {entries done more : List LogEntry} {entry : LogEntry}
  {parsed : ParsedMessage} {item : LogItem}

/-- A message other than a request is the worker's own and legal. -/
theorem OwnLog.legal (ownLog : OwnLog setting syncer entries)
    (isPrefix : done ++ [entry] <+: entries)
    (read : readMessage syncer.text entry.message = some parsed)
    (notRequest : parsed.kind ≠ .sendRequest) :
    entry.own = true ∧
      Legal syncer (SoleWriter setting syncer.text .syncRecord) done
        entry.message := by
  have sole : ∀ kind, kind ≠ .sendRequest →
      SoleWriter setting syncer.text kind := by
    intro kind differs
    cases kind with
    | sendRequest => exact absurd rfl differs
    | sendResult => exact ownLog.soleResults
    | syncRecord => exact ownLog.soleRecords
  have isOwn := ownLog.chronicle.own_of_kind (sole parsed.kind notRequest)
    (isPrefix.subset (by simp)) read rfl
  rcases (ownLog.chronicle.own done entry isPrefix isOwn).2 with
    ⟨author, rfl, legal⟩
  exact ⟨isOwn, legal⟩

theorem OwnLog.result (ownLog : OwnLog setting syncer entries)
    (isPrefix : done ++ [entry] <+: entries) {result : TerminalResult}
    {key : Option InboundKey}
    (said : readItem? syncer entry.message =
      some (.fact (.result result key))) :
    entry.own = true ∧
      ∃ task, Due syncer done task ∧ ResultOf task result := by
  rcases parsed_of_result said with ⟨parsed, -, read, -, kind, rfl, -⟩
  rcases ownLog.legal isPrefix read (by rw [kind]; decide) with ⟨own, legal⟩
  exact ⟨own, legal.answers read kind⟩

theorem OwnLog.record (ownLog : OwnLog setting syncer entries)
    (isPrefix : done ++ [entry] <+: entries) {key : InboundKey}
    {prevSeq : Option Nat} {eventMs : Int}
    (said : readItem? syncer entry.message =
      some (.fact (.record key prevSeq eventMs))) :
    entry.own = true ∧ LegalRecord syncer done key prevSeq := by
  rcases parsed_of_record said with
    ⟨parsed, session, read, mapped, kind, rfl, rfl⟩
  rcases ownLog.legal isPrefix read (by rw [kind]; decide) with ⟨own, legal⟩
  exact ⟨own, legal.records ownLog.soleRecords read kind mapped⟩

theorem OwnLog.own_of_fact (ownLog : OwnLog setting syncer entries)
    (isPrefix : done ++ [entry] <+: entries) {fact : WorkerFact}
    (said : readItem? syncer entry.message = some (.fact fact)) :
    entry.own = true := by
  cases fact with
  | result => exact (ownLog.result isPrefix said).1
  | record => exact (ownLog.record isPrefix said).1

/-- The worker writes no requests. -/
theorem OwnLog.request (ownLog : OwnLog setting syncer entries)
    (isPrefix : done ++ [entry] <+: entries) {task : OutboundTask}
    (said : readItem? syncer entry.message = some (.request task)) :
    entry.own = false := by
  rcases readItem?_eq_some_iff.mp said with ⟨parsed, session, read, -, isItem⟩
  cases own : entry.own with
  | false => rfl
  | true =>
      rcases (ownLog.chronicle.own done entry isPrefix own).2 with
        ⟨author, rfl, legal⟩
      have isRequest := (itemOf_eq_request_iff.mp isItem.symm).1
      exact absurd isRequest (legal.not_request read)

theorem OwnLog.of_isPrefix (ownLog : OwnLog setting syncer entries)
    (isPrefix : done <+: entries) : OwnLog setting syncer done where
  soleResults := ownLog.soleResults
  soleRecords := ownLog.soleRecords
  boundedForeign := ownLog.boundedForeign
  chronicle := ChannelOrder.Chronicle.of_isPrefix ownLog.chronicle isPrefix
  conflictFree := by
    rcases isPrefix with ⟨rest, rfl⟩
    intro left isLeft right isRight
    apply ownLog.conflictFree
    · rw [sendRequests_append]
      exact List.mem_append_left _ isLeft
    · rw [sendRequests_append]
      exact List.mem_append_left _ isRight
  decodes := by
    intro entry member
    exact ownLog.decodes entry (isPrefix.subset member)

/-- Where a message stands, the history admits what it says. -/
theorem OwnLog.admits (ownLog : OwnLog setting syncer entries)
    (isPrefix : done ++ [entry] <+: entries)
    (said : readItem? syncer entry.message = some item) :
    Admits (logRequests syncer done) (logFacts syncer done) item := by
  cases item with
  | request task =>
      intro existing found
      have member : task ∈ logRequests syncer entries :=
        mem_logRequests.mpr ⟨entry, isPrefix.subset (by simp), said⟩
      have earlier : existing ∈ logRequests syncer entries := by
        rcases mem_logRequests.mp (mem_of_firstRequest found) with
          ⟨source, inside, read⟩
        exact mem_logRequests.mpr ⟨source,
          isPrefix.subset (List.mem_append_left _ inside), read⟩
      rw [logRequests_eq_filter] at member earlier
      exact ownLog.conflictFree existing (List.mem_filter.mp earlier).1 task
        (List.mem_filter.mp member).1 (firstRequest_requestId found)
  | fact fact =>
      cases fact with
      | result result key =>
          rcases (ownLog.result isPrefix said).2 with ⟨task, due, resultOf⟩
          exact resultOf.admits due.canonical due.isOpen
      | record key prevSeq eventMs =>
          exact (ownLog.record isPrefix said).2.linked

theorem logItems_concat : logItems syncer (done ++ [entry]) =
    logItems syncer done ++ (readItem? syncer entry.message).toList := by
  rw [logItems, List.filterMap_append]
  cases read : readItem? syncer entry.message with
  | none => simp [logItems, read]
  | some item => simp [logItems, read]

/-- Every item of the log may follow the ones before it. -/
theorem OwnLog.replayable (ownLog : OwnLog setting syncer entries) :
    Replayable (logItems syncer entries) := by
  induction entries using List.reverseRecOn with
  | nil => exact replayable_nil
  | append_singleton done entry ih =>
      have earlier := ih (ownLog.of_isPrefix (List.prefix_append _ _))
      rw [logItems_concat]
      cases said : readItem? syncer entry.message with
      | none =>
          rw [Option.toList_none, List.append_nil]
          exact earlier
      | some item =>
          rw [Option.toList_some, replayable_append]
          exact ⟨earlier, ownLog.admits List.prefix_rfl said⟩

theorem OwnLog.bounded (ownLog : OwnLog setting syncer entries)
    (member : entry ∈ entries) : Bounded entry.message := by
  cases own : entry.own with
  | false =>
      rcases ownLog.chronicle.foreign entry member own with ⟨log, allowed⟩
      exact ownLog.boundedForeign log entry.message allowed
  | true =>
      rcases List.append_of_mem member with ⟨done, rest, split⟩
      have isPrefix : done ++ [entry] <+: entries := ⟨rest, by simp [split]⟩
      rcases (ownLog.chronicle.own done entry isPrefix own).2 with
        ⟨author, rfl, legal⟩
      exact legal.bounded

/-- Every message of the log passes the parser and the check of roles. -/
theorem OwnLog.readable (ownLog : OwnLog setting syncer entries)
    (member : entry ∈ entries) : syncer.Readable entry.message := by
  have decodes := ownLog.decodes entry member
  rcases readMessage_of_accepts decodes with ⟨parsed, read⟩
  have parses := parseMessage_eq_ok_iff.mpr
    ⟨read, decodes, ownLog.bounded member⟩
  refine ⟨parsed, parses, ?_⟩
  intro _
  by_cases isRequest : parsed.kind = .sendRequest
  · rw [validateMessageRoles, isRequest]
  · rcases List.append_of_mem member with ⟨done, rest, split⟩
    have isPrefix : done ++ [entry] <+: entries := ⟨rest, by simp [split]⟩
    exact (ownLog.legal isPrefix read isRequest).2.roles read

/-- The history accepts messages of the log that say something replayable. -/
theorem OwnLog.replays (ownLog : OwnLog setting syncer entries)
    {messages : List Message} {items : List LogItem}
    (stored : ∀ message ∈ messages, ∃ entry ∈ entries,
      entry.message = message)
    (said : messages.filterMap (readItem? syncer) = items)
    (replayable : Replayable items) :
    ∃ state, syncer.replay .initial messages = .ok state ∧
      Replays state items := by
  have readable : ∀ message ∈ messages, syncer.Readable message := by
    intro message member
    rcases stored message member with ⟨entry, inside, rfl⟩
    exact ownLog.readable inside
  have accepted : Accepted syncer messages := by
    intro message member
    rcases readable message member with ⟨parsed, parses, -⟩
    exact ⟨parsed, parses⟩
  have items_eq := itemsOf_eq_filterMap accepted
  rw [said] at items_eq
  rw [← items_eq] at replayable ⊢
  rcases replay_ok_iff.mpr ⟨readable, replayable⟩ with ⟨state, replayed⟩
  exact ⟨state, replayed, replays_replay replayed⟩

/-- The history accepts the whole log. -/
theorem OwnLog.replays_entries (ownLog : OwnLog setting syncer entries) :
    ∃ state,
      syncer.replay .initial (entries.map LogEntry.message) = .ok state := by
  have stored : ∀ message ∈ entries.map LogEntry.message,
      ∃ entry ∈ entries, entry.message = message := by
    intro message member
    exact List.mem_map.mp member
  have said : (entries.map LogEntry.message).filterMap (readItem? syncer) =
      logItems syncer entries := by
    rw [List.filterMap_map]
    rfl
  rcases ownLog.replays stored said ownLog.replayable with
    ⟨state, replayed, -⟩
  exact ⟨state, replayed⟩

/-- So it accepts what it reads of the log. -/
theorem OwnLog.replays_scanned {log : Log}
    (ownLog : OwnLog setting syncer log.entries) :
    ∃ state, syncer.replay .initial
      (messagesIn syncer.mapping.channelIds log 0 (log.last + 1)) =
        .ok state := by
  have stored : ∀ message ∈ messagesIn syncer.mapping.channelIds log 0
      (log.last + 1), ∃ entry ∈ log.entries, entry.message = message := by
    intro message member
    rcases (mem_messagesIn.mp member).1 with ⟨own, inside⟩
    exact ⟨⟨message, own⟩, inside, rfl⟩
  have said : (messagesIn syncer.mapping.channelIds log 0
      (log.last + 1)).filterMap (readItem? syncer) =
        logItems syncer log.entries := by
    rw [filterMap_messagesIn, range_last]
  rcases ownLog.replays stored said ownLog.replayable with
    ⟨state, replayed, -⟩
  exact ⟨state, replayed⟩

end OwnLog

/-! ## The log up to a cut and the worker's own messages -/

/-- The messages that the worker has published from a number on. -/
def ownMessages (log : Log) (cut : Nat) : List Message :=
  ((log.range cut log.frontier).filter LogEntry.own).map LogEntry.message

/-- What the worker's own entries say. -/
def ownItems (syncer : P2PSyncer) (entries : List LogEntry) : List LogItem :=
  logItems syncer (entries.filter LogEntry.own)

section Cut

variable {setting : Setting} {syncer : P2PSyncer}
  {entries low high : List LogEntry} {entry : LogEntry} {log : Log}
  {cut : Nat}

theorem ownItems_concat : ownItems syncer (high ++ [entry]) =
    ownItems syncer high ++
      (if entry.own then readItem? syncer entry.message else none).toList := by
  rw [ownItems, List.filter_append]
  cases own : entry.own with
  | false => simp [ownItems, own]
  | true =>
      have kept : [entry].filter LogEntry.own = [entry] := by simp [own]
      rw [kept, logItems_concat, if_pos rfl]
      rfl

theorem logFacts_concat : logFacts syncer (low ++ [entry]) =
    logFacts syncer low ++
      ((readItem? syncer entry.message).bind LogItem.fact?).toList := by
  rw [logFacts_append, logFacts_singleton]

/-- The own entries after a cut add their facts and no requests, and each of
them may follow the ones before it. -/
structure Extended (syncer : P2PSyncer) (low high : List LogEntry) :
    Prop where
  replayable : Replayable (logItems syncer low ++ ownItems syncer high)
  requests : requestsOf (logItems syncer low ++ ownItems syncer high) =
    logRequests syncer low
  facts : factsOf (logItems syncer low ++ ownItems syncer high) =
    logFacts syncer (low ++ high)

/-- An entry that adds no fact and is not heard. -/
theorem Extended.unheard (extended : Extended syncer low high)
    (noFact : (readItem? syncer entry.message).bind LogItem.fact? = none)
    (silent : entry.own = true → readItem? syncer entry.message = none) :
    Extended syncer low (high ++ [entry]) := by
  have items : ownItems syncer (high ++ [entry]) = ownItems syncer high := by
    rw [ownItems_concat]
    cases own : entry.own with
    | false => simp
    | true => simp [silent own]
  have facts : logFacts syncer (low ++ (high ++ [entry])) =
      logFacts syncer (low ++ high) := by
    rw [← List.append_assoc, logFacts_concat, noFact, Option.toList_none,
      List.append_nil]
  constructor
  · rw [items]
    exact extended.replayable
  · rw [items]
    exact extended.requests
  · rw [items, facts]
    exact extended.facts

/-- An own entry that adds a fact. -/
theorem Extended.heard (extended : Extended syncer low high)
    {fact : WorkerFact} (own : entry.own = true)
    (said : readItem? syncer entry.message = some (.fact fact))
    (admits : Admits (logRequests syncer low) (logFacts syncer (low ++ high))
      (.fact fact)) :
    Extended syncer low (high ++ [entry]) := by
  have items : logItems syncer low ++ ownItems syncer (high ++ [entry]) =
      (logItems syncer low ++ ownItems syncer high) ++ [.fact fact] := by
    rw [ownItems_concat, if_pos own, said, Option.toList_some,
      List.append_assoc]
  have facts : logFacts syncer (low ++ (high ++ [entry])) =
      logFacts syncer (low ++ high) ++ [fact] := by
    rw [← List.append_assoc, logFacts_concat, said]
    rfl
  constructor
  · rw [items, replayable_append, extended.requests, extended.facts]
    exact ⟨extended.replayable, admits⟩
  · rw [items, requestsOf_append, extended.requests, requestsOf_fact,
      List.append_nil]
  · rw [items, factsOf_append, extended.facts, factsOf_fact, facts]

/-- What the worker says is admitted without the later requests of others as
long as the request of a result is known. -/
theorem OwnLog.admits_fact (ownLog : OwnLog setting syncer entries)
    (isPrefix : low ++ high ++ [entry] <+: entries) {fact : WorkerFact}
    (said : readItem? syncer entry.message = some (.fact fact))
    (known : ∀ result key, .result result key ∈ logFacts syncer entries →
      firstRequest (logRequests syncer low) result.requestId ≠ none) :
    Admits (logRequests syncer low) (logFacts syncer (low ++ high))
      (.fact fact) := by
  cases fact with
  | record key prevSeq eventMs =>
      exact (ownLog.record isPrefix said).2.linked
  | result result key =>
      rcases (ownLog.result isPrefix said).2 with ⟨task, due, resultOf⟩
      have member : .result result key ∈ logFacts syncer entries :=
        mem_logFacts.mpr ⟨entry, isPrefix.subset (by simp), said⟩
      rcases Option.ne_none_iff_exists'.mp (known result key member) with
        ⟨first, found⟩
      have same : first = task := by
        have later : firstRequest (logRequests syncer (low ++ high))
            result.requestId = some first := canonical_append found
        rw [resultOf.requestId, due.canonical] at later
        exact (Option.some.inj later).symm
      subst same
      rw [resultOf.requestId] at found
      exact resultOf.admits found due.isOpen

theorem OwnLog.extended (ownLog : OwnLog setting syncer entries)
    (isPrefix : low ++ high <+: entries)
    (known : ∀ result key, .result result key ∈ logFacts syncer entries →
      firstRequest (logRequests syncer low) result.requestId ≠ none) :
    Extended syncer low high := by
  induction high using List.reverseRecOn with
  | nil =>
      rw [List.append_nil] at isPrefix
      have replayable := (ownLog.of_isPrefix isPrefix).replayable
      have none : ownItems syncer [] = [] := rfl
      constructor
      · rw [none, List.append_nil]
        exact replayable
      · rw [none, List.append_nil]
        rfl
      · rw [none, List.append_nil, List.append_nil]
        rfl
  | append_singleton high entry ih =>
      rw [← List.append_assoc] at isPrefix
      have earlier := ih ((List.prefix_append _ _).trans isPrefix)
      cases said : readItem? syncer entry.message with
      | none => exact earlier.unheard (by rw [said]; rfl) fun _ => said
      | some item =>
          cases item with
          | request task =>
              have foreign := ownLog.request isPrefix said
              apply earlier.unheard
              · rw [said]
                rfl
              · intro own
                rw [foreign] at own
                cases own
          | fact fact =>
              exact earlier.heard (ownLog.own_of_fact isPrefix said) said
                (ownLog.admits_fact isPrefix said known)

/-- What the history makes of a log up to a cut and the worker's messages. -/
theorem OwnLog.recovers (ownLog : OwnLog setting syncer log.entries)
    (final : cut ≤ log.frontier)
    (known : ∀ result key, .result result key ∈ logFacts syncer log.entries →
      firstRequest (logRequests syncer (log.range 0 cut)) result.requestId ≠
        none) :
    ∃ replayed,
      syncer.replay .initial
          (messagesIn syncer.mapping.channelIds log 0 cut ++
            ownMessages log cut) = .ok replayed ∧
        Reflects replayed (logRequests syncer (log.range 0 cut))
          (logFacts syncer log.entries) := by
  have split : log.range 0 cut ++ log.range cut log.frontier = log.entries := by
    rw [SequencedLog.range_append (Nat.zero_le cut) final,
      SequencedLog.range_frontier]
  have extended : Extended syncer (log.range 0 cut)
      (log.range cut log.frontier) :=
    ownLog.extended (by rw [split]) known
  have said : (messagesIn syncer.mapping.channelIds log 0 cut ++
        ownMessages log cut).filterMap (readItem? syncer) =
      logItems syncer (log.range 0 cut) ++
        ownItems syncer (log.range cut log.frontier) := by
    rw [List.filterMap_append, filterMap_messagesIn, ownMessages,
      List.filterMap_map]
    rfl
  have stored : ∀ message ∈ messagesIn syncer.mapping.channelIds log 0 cut ++
      ownMessages log cut, ∃ entry ∈ log.entries, entry.message = message := by
    intro message member
    rcases List.mem_append.mp member with polled | own
    · rcases (mem_messagesIn.mp polled).1 with ⟨own, inside⟩
      exact ⟨⟨message, own⟩, inside, rfl⟩
    · rcases List.mem_map.mp own with ⟨entry, inside, rfl⟩
      exact ⟨entry, (SequencedLog.mem_range.mp
        (List.mem_filter.mp inside).1).1, rfl⟩
  rcases ownLog.replays stored said extended.replayable with
    ⟨replayed, accepted, replays⟩
  refine ⟨replayed, accepted, ?_⟩
  have reflects := replays.reflects
  rw [extended.requests, extended.facts, split] at reflects
  exact reflects

end Cut

/-! ## What a process remembers -/

/-- The states have the same requests, results and records. -/
structure SameState (left right : RuntimeState) : Prop where
  canonicalRequestsById :
    left.canonicalRequestsById.Agrees right.canonicalRequestsById
  completedRequestIds : left.completedRequestIds = right.completedRequestIds
  requestsById : left.requestsById.Agrees right.requestsById
  inboundSeen : left.inboundSeen = right.inboundSeen
  sendResultByProviderMessage :
    left.sendResultByProviderMessage.Agrees right.sendResultByProviderMessage
  latestEventMsByChannel :
    left.latestEventMsByChannel.Agrees right.latestEventMsByChannel

section Memory

variable {setting : Setting} {deployed : P2PSyncer → Prop}
  {syncer : P2PSyncer} {left right : RuntimeState}
  {requests : List OutboundTask} {facts : List WorkerFact}

/-- A state is determined by the requests and the facts it reflects. -/
theorem sameState_of_reflects (isLeft : Reflects left requests facts)
    (isRight : Reflects right requests facts) : SameState left right where
  canonicalRequestsById := by
    intro requestId
    rw [isLeft.canonical, isRight.canonical]
  completedRequestIds := by
    ext requestId
    rw [isLeft.completed, isRight.completed]
  requestsById := by
    intro requestId
    rw [isLeft.pending, isRight.pending]
  inboundSeen := by
    ext key
    rw [isLeft.seen, isRight.seen]
  sendResultByProviderMessage := by
    intro key
    rw [isLeft.reported, isRight.reported]
  latestEventMsByChannel := by
    intro channelId
    rw [isLeft.latest, isRight.latest]

/-- A process remembers the request of every result. -/
theorem knows_requests {soleRecords : Prop} {handed : List Message}
    {entries : List LogEntry}
    (remembers : Remembers syncer soleRecords handed entries left facts) :
    ∀ result key, .result result key ∈ facts →
      firstRequest (requestsIn syncer handed) result.requestId ≠ none := by
  intro result key member
  have isCompleted : result.requestId ∈ left.completedRequestIds :=
    (remembers.reflects.completed _).mpr
      (firstResult_ne_none_iff.mpr ⟨result, key, member, rfl⟩)
  rw [← remembers.reflects.canonical]
  exact remembers.resting.linked.answered _ isCompleted

end Memory

/-! ## Runs -/

/-- The deployments have one mapping, and nobody else writes results and
records. -/
structure OneWorker (setting : Setting) (deployed : P2PSyncer → Prop) :
    Prop where
  sameMapping : ∀ left right, deployed left → deployed right →
    SameMapping left right
  soleResults : ∀ syncer, deployed syncer →
    SoleWriter setting syncer.text .sendResult
  soleRecords : ∀ syncer, deployed syncer →
    SoleWriter setting syncer.text .syncRecord
  boundedForeign : BoundedForeign setting

/-- The process has consumed the log up to a cut; what it remembers is what
the history makes of that part of the log and of the worker's messages. -/
structure Recovers (syncer : P2PSyncer) (log : Log)
    (vars : PollVars SingleThreadProcessor) (cut : Nat)
    (replayed : RuntimeState) : Prop where
  consumed : messagesIn syncer.mapping.channelIds log 0 cut ++
      vars.prefetchedMessages =
    messagesIn syncer.mapping.channelIds log 0 vars.nextSeq
  ticking : vars.point = .ticking → ∃ lastSeq,
    vars.snapshotLastSeq = some lastSeq ∧ cut = lastSeq + 1
  replays : syncer.replay .initial
      (messagesIn syncer.mapping.channelIds log 0 cut ++
        ownMessages log cut) = .ok replayed
  same : SameState vars.held.state replayed

section Runs

variable {setting : Setting} {deployed : P2PSyncer → Prop}
  {syncer : P2PSyncer} {first current : WorldState setting}
  {vars : PollVars SingleThreadProcessor}

theorem OneWorker.ownLog (one : OneWorker setting deployed)
    (ledger : Ledger setting deployed current) (deploys : deployed syncer)
    (conflictFree : ConflictFree syncer.text current.log.entries)
    (decodes : Decodes syncer.text current.log.entries) :
    OwnLog setting syncer current.log.entries where
  soleResults := one.soleResults syncer deploys
  soleRecords := one.soleRecords syncer deploys
  boundedForeign := one.boundedForeign
  chronicle := ledger.chronicle.single fun author isDeployed =>
    one.sameMapping author syncer isDeployed deploys
  conflictFree := conflictFree
  decodes := decodes

theorem OwnLog.recovers_polls
    (ownLog : OwnLog setting syncer current.log.entries)
    (polls : Polls setting deployed syncer vars current) :
    ∃ cut replayed, Recovers syncer current.log vars cut replayed := by
  rcases polls with ⟨low, -, cut, handed, -, handedOver, upto, cursor⟩
  rcases upto.knows.memory with ⟨facts, remembers⟩
  have requests : requestsIn syncer handed =
      logRequests syncer (current.log.range 0 cut) := by
    rw [requestsIn, itemsOf_eq_filterMap upto.knows.accepted,
      handedOver.handed, filterMap_messagesIn]
    rfl
  have reflects := remembers.reflects
  have known := knows_requests remembers
  rw [remembers.records ownLog.soleRecords, requests] at reflects known
  rcases ownLog.recovers handedOver.final known with
    ⟨replayed, replays, isReplayed⟩
  refine ⟨cut, replayed, ?_, ?_, replays, sameState_of_reflects reflects
    isReplayed⟩
  · rw [cursor.prefetched]
    exact messagesIn_append (Nat.zero_le cut) cursor.le
  · intro isTicking
    rcases Option.ne_none_iff_exists'.mp (cursor.ticks isTicking) with
      ⟨lastSeq, snapshot⟩
    have reached := cursor.snapshot lastSeq snapshot
    rw [isTicking] at reached
    exact ⟨lastSeq, snapshot, reached⟩

/--
The history accepts whatever log a worker leaves at any moment of a run, and
between any two steps of its poll loop a process remembers what the history
makes of the messages it has consumed and of all messages of the worker.
-/
theorem recovery_simulates (one : OneWorker setting deployed)
    (begins : Begins first) :
    (∀ syncer moment, deployed syncer →
      Moment setting deployed first moment →
        ConflictFree syncer.text moment.log.entries →
          Decodes syncer.text moment.log.entries →
            (∃ state, syncer.replay .initial
              (moment.log.entries.map LogEntry.message) = .ok state) ∧
              ∃ state, syncer.replay .initial
                (messagesIn syncer.mapping.channelIds moment.log 0
                  (moment.log.last + 1)) = .ok state) ∧
      ∀ syncer vars current,
        WorkerRun setting deployed first syncer (.polling vars) current →
          ConflictFree syncer.text current.log.entries →
            Decodes syncer.text current.log.entries →
              ∃ cut replayed,
                Recovers syncer current.log vars cut replayed := by
  constructor
  · intro syncer moment deploys isMoment conflictFree decodes
    have ledger := Moment.ledger one.soleResults begins isMoment
    have ownLog := one.ownLog ledger deploys conflictFree decodes
    exact ⟨ownLog.replays_entries, ownLog.replays_scanned⟩
  · intro syncer vars current run conflictFree decodes
    have polls : Polls setting deployed syncer vars current :=
      WorkerRun.stageHolds one.soleResults begins run
    have deploys := WorkerRun.deploys run
    have ledger := ledger_of_polls (one.soleResults syncer deploys) deploys
      polls
    exact (one.ownLog ledger deploys conflictFree decodes).recovers_polls polls

/-! ### A run with a crash -/

theorem oneWorker_sample :
    OneWorker requestSetting (SameMapping · sampleSyncer) where
  sameMapping left right isLeft isRight := isLeft.trans isRight.symm
  soleResults syncer same := by
    rw [same.text]
    exact hosts_requestSetting.soleWriter (by decide)
  soleRecords syncer same := by
    rw [same.text]
    exact hosts_requestSetting.soleWriter (by decide)
  boundedForeign := by
    rintro log message rfl
    exact (parseMessage_eq_ok_iff.mp parse_requestMessage).2.2

theorem accepts_echoMessage :
    Accepts sampleSyncer.text echoMessage.payload := by
  apply (accepts_encodeSyncRecord_iff echoEvent.wellFormed ?_
    encoded_echoMessage).mpr
  · refine ⟨?_, freeExcept_nil⟩
    simp [fullRecordInput, echoEvent, DegradedRecord.sampleEvent,
      Json.mentionsKey_obj_iff]
  · simp [fullRecordInput, Json.wellFormed_obj_iff]

theorem decodes_recordedLog :
    Decodes sampleSyncer.text recordedLog.entries := by
  have entries : recordedLog.entries = [⟨requestMessage, false⟩,
    ⟨resultMessage, true⟩, ⟨echoMessage, true⟩] := rfl
  rw [Decodes, entries, List.forall_mem_cons, List.forall_mem_cons,
    List.forall_mem_singleton]
  exact ⟨(parseMessage_eq_ok_iff.mp parse_requestMessage).2.1,
    (parseMessage_eq_ok_iff.mp parse_resultMessage).2.1, accepts_echoMessage⟩

/-- The first process remembers the request that it has polled and its own
result; the second one, which starts after a crash, in addition its own
record. -/
theorem recovery_simulates_sample :
    (∃ state, sampleSyncer.replay .initial
      (recordedLog.entries.map LogEntry.message) = .ok state) ∧
      (∃ vars cut replayed,
        WorkerRun requestSetting (SameMapping · sampleSyncer) (beginning ())
            sampleSyncer (.polling vars) (answeredWorld ()) ∧
          Recovers sampleSyncer answeredLog vars cut replayed) ∧
      ∃ vars cut replayed,
        WorkerRun requestSetting (SameMapping · sampleSyncer) (beginning ())
            sampleSyncer (.polling vars) (recordedWorld ()) ∧
          Recovers sampleSyncer recordedLog vars cut replayed := by
  have hosts := hosts_requestSetting
  have deploys : SameMapping sampleSyncer sampleSyncer := ⟨rfl, rfl, rfl⟩
  have begins : Begins (beginning () : WorldState requestSetting) :=
    begins_beginning
  have simulates := recovery_simulates oneWorker_sample begins
  have early : answeredLog.entries <+: recordedLog.entries :=
    List.prefix_append _ _
  rcases hosts.ticks with ⟨sent, ticks⟩
  have asked : WorkerRun requestSetting (SameMapping · sampleSyncer)
      (beginning ()) sampleSyncer (.polling askedVars) (askedWorld ()) :=
    hosts.run_asked deploys
  have first : WorkerRun requestSetting (SameMapping · sampleSyncer)
      (beginning ()) sampleSyncer (.polling sent) (answeredWorld ()) :=
    asked.proceeds (ticks firstCalls)
  rcases hosts.ticksEcho with ⟨recorded, ticksEcho⟩
  have restarted : WorkerRun requestSetting (SameMapping · sampleSyncer)
      (beginning ()) sampleSyncer (.polling replayedVars) (replayedWorld ()) :=
    hosts.run_replayed deploys
  have second : WorkerRun requestSetting (SameMapping · sampleSyncer)
      (beginning ()) sampleSyncer (.polling recorded) (recordedWorld ()) :=
    restarted.proceeds (ticksEcho secondCalls)
  rcases simulates.2 sampleSyncer sent _ first
    (conflictFree_of_append conflictFree_recordedLog)
    (fun entry member => decodes_recordedLog entry (early.subset member))
    with ⟨cut, replayed, recovers⟩
  rcases simulates.2 sampleSyncer recorded _ second conflictFree_recordedLog
    decodes_recordedLog with ⟨lastCut, rebuilt, recoversAgain⟩
  exact ⟨(simulates.1 sampleSyncer (recordedWorld ()) deploys
    (hosts.moment deploys) conflictFree_recordedLog decodes_recordedLog).1,
    ⟨sent, cut, replayed, first, recovers⟩,
    recorded, lastCut, rebuilt, second, recoversAgain⟩

end Runs

end OpenEventIm.Syncer.RecoverySimulation
