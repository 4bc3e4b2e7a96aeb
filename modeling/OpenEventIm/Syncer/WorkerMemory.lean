import OpenEventIm.Syncer.LogReading
import OpenEventIm.Syncer.TickRuns
import OpenEventIm.Syncer.WorkerLedger

/-!
# What a process remembers

Between two ticks the runtime state of a process reflects the requests that were
handed over and the facts of the log: a result or a record is in memory exactly
when it is in the log.  Hence the request that comes next in memory is due in
the log.
-/

namespace OpenEventIm.Syncer.WorkerMemory

open OpenEventIm.Foundation
open OpenEventIm.Foundation.Interaction
open OpenEventIm.Sdk.Codec
open OpenEventIm.Sdk.Client
open OpenEventIm.Sdk.MessageReading
open OpenEventIm.Service.Calls
open OpenEventIm.Service.World
open OpenEventIm.Syncer.Models
open OpenEventIm.Syncer.State
open OpenEventIm.Syncer.LogMeaning
open OpenEventIm.Syncer.HistoryReplay
open OpenEventIm.Syncer.HistoryReplay.P2PSyncer
open OpenEventIm.Syncer.PollEvents
open OpenEventIm.Syncer.LogReading
open OpenEventIm.Syncer.PendingQueue
open OpenEventIm.Syncer.TickRuns
open OpenEventIm.Syncer.WrittenLog
open OpenEventIm.Syncer.WorkerLedger

variable {setting : Setting} {deployed : P2PSyncer → Prop}
  {syncer : P2PSyncer} {handed : List Message} {state : RuntimeState}
  {task other : OutboundTask} {log old new : Log}

/-! ## Messages handed over and the log -/

/-- The requests among the messages handed over. -/
def requestsIn (syncer : P2PSyncer) (handed : List Message) :
    List OutboundTask :=
  requestsOf (syncer.itemsOf handed)

/-- The parser accepts all messages handed over. -/
def Accepted (syncer : P2PSyncer) (handed : List Message) : Prop :=
  ∀ message ∈ handed, ∃ parsed,
    parseMessage syncer.text message = .ok parsed

theorem itemsOf_eq_filterMap (accepted : Accepted syncer handed) :
    syncer.itemsOf handed = handed.filterMap (readItem? syncer) := by
  apply List.filterMap_congr
  intro message member
  rcases accepted message member with ⟨parsed, parses⟩
  exact itemOf?_eq_readItem? parses

/-- A message that says something is in a selected channel. -/
theorem mem_channelIds_of_readItem? {message : Message} {item : LogItem}
    (read : readItem? syncer message = some item) :
    message.channelId ∈ syncer.mapping.channelIds := by
  rcases readItem?_eq_some_iff.mp read with ⟨parsed, session, said, mapped, -⟩
  rw [(readMessage_envelope said).2.1] at mapped
  have owned := Mapping.P2PMappingIndex.ownsChannel_of_providerSession
    syncer.built mapped
  rw [Mapping.P2PMappingIndex.channelIds, List.mem_mergeSort]
  exact Dict.mem_keys_iff.mpr (Option.isSome_iff_exists.mp owned)

theorem filterMap_messagesIn {low high : Nat} :
    (messagesIn syncer.mapping.channelIds log low high).filterMap
        (readItem? syncer) =
      logItems syncer (log.range low high) := by
  rw [messagesIn, List.filterMap_filter, List.filterMap_map, logItems]
  apply List.filterMap_congr
  intro entry _
  by_cases selected : entry.message.channelId ∈ syncer.mapping.channelIds
  · simp [selected]
  · cases read : readItem? syncer entry.message with
    | none => simp [selected]
    | some item =>
        exact absurd (mem_channelIds_of_readItem? read) selected

theorem range_zero_isPrefix {cut : Nat} (final : cut ≤ log.frontier) :
    log.range 0 cut <+: log.entries := by
  have all : log.range 0 log.frontier = log.entries :=
    SequencedLog.range_frontier
  rw [← all, ← SequencedLog.range_append (Nat.zero_le cut) final]
  exact List.prefix_append _ _

/-- The items handed over are the first ones of the log. -/
theorem itemsOf_isPrefix (accepted : Accepted syncer handed)
    (handing : Handing syncer.mapping.channelIds log handed) :
    syncer.itemsOf handed <+: logItems syncer log.entries := by
  rcases handing with ⟨cut, final, isPrefix⟩
  rw [itemsOf_eq_filterMap accepted]
  have first := isPrefix.filterMap (readItem? syncer)
  rw [filterMap_messagesIn] at first
  exact first.trans ((range_zero_isPrefix final).filterMap _)

theorem requestsIn_prefix (accepted : Accepted syncer handed)
    (handing : Handing syncer.mapping.channelIds log handed) :
    requestsIn syncer handed <+: logRequests syncer log.entries :=
  (itemsOf_isPrefix accepted handing).filterMap _

theorem Handing.extends {channels : List Nat}
    (handing : Handing channels old handed) (grown : old.Extends new) :
    Handing channels new handed := by
  rcases handing with ⟨cut, final, isPrefix⟩
  refine ⟨cut, final.trans grown.1, ?_⟩
  rw [messagesIn_final grown final]
  exact isPrefix

/-- The requests of a log come in increasing number. -/
theorem logRequests_increasing :
    (logRequests syncer log.entries).Pairwise
      fun left right => left.seq < right.seq := by
  have increasing := log.increasing
  rw [logRequests, requestsOf, logItems, List.filterMap_filterMap]
  apply List.Pairwise.filterMap _ _ increasing
  intro left right ordered first isFirst second isSecond
  rcases Option.bind_eq_some_iff.mp isFirst with ⟨item, read, request⟩
  rcases Option.bind_eq_some_iff.mp isSecond with ⟨later, readLater, next⟩
  cases item with
  | fact => cases request
  | request =>
      cases later with
      | fact => cases next
      | request =>
          cases request
          cases next
          rw [(seq_of_request read).1, (seq_of_request readLater).1]
          exact ordered

/-- A canonical request that comes before one handed over was handed over, as
the canonical request of its id. -/
theorem firstRequest_earlier {requests all : List OutboundTask}
    (isPrefix : requests <+: all)
    (increasing : all.Pairwise fun left right => left.seq < right.seq)
    (member : task ∈ requests)
    (found : firstRequest all other.requestId = some other)
    (earlier : other.seq < task.seq) :
    firstRequest requests other.requestId = some other := by
  rcases isPrefix with ⟨rest, rfl⟩
  rw [firstRequest_append_list] at found
  cases known : firstRequest requests other.requestId with
  | some first =>
      rw [known] at found
      exact found
  | none =>
      rw [known, Option.none_or] at found
      have late := (List.pairwise_append.mp increasing).2.2 task member other
        (mem_of_firstRequest found)
      exact absurd earlier (Nat.lt_asymm late)

/-! ## The memory -/

/-- The state reflects the requests handed over and the facts of the log.
Records of others are not noticed. -/
structure Remembers (syncer : P2PSyncer) (soleRecords : Prop)
    (handed : List Message) (entries : List LogEntry) (state : RuntimeState)
    (facts : List WorkerFact) : Prop where
  reflects : Reflects state (requestsIn syncer handed) facts
  resting : Resting state
  results : ∀ requestId, firstResult facts requestId =
    firstResult (logFacts syncer entries) requestId
  records : soleRecords → facts = logFacts syncer entries

/-- The send was made of a request of the log, which was handed over if this
configuration owns its channel. -/
def Sourced (deployed : P2PSyncer → Prop) (syncer : P2PSyncer)
    (handed : List Message) (entries : List LogEntry) (send : Send) : Prop :=
  ∃ author task, deployed author ∧ task ∈ logRequests author entries ∧
    SendOf author task send ∧
      (syncer.mapping.ownsChannel task.channelId = true →
        task ∈ requestsIn syncer handed)

theorem Sourced.mono {send : Send} {more : List Message}
    (grown : old.Extends new)
    (requests : ∀ task ∈ requestsIn syncer handed,
      task ∈ requestsIn syncer more)
    (sourced : Sourced deployed syncer handed old.entries send) :
    Sourced deployed syncer more new.entries send := by
  rcases sourced with ⟨author, task, deploys, member, made, isHanded⟩
  rcases grown.isPrefix with ⟨added, split⟩
  refine ⟨author, task, deploys, ?_, made,
    fun owned => requests task (isHanded owned)⟩
  rw [← split, logRequests_append]
  exact List.mem_append_left _ member

/-- What a process knows between two ticks. -/
structure Knows (setting : Setting) (deployed : P2PSyncer → Prop)
    (syncer : P2PSyncer) (handed : List Message) (state : RuntimeState)
    (world : WorldState setting) : Prop where
  ledger : Ledger setting deployed world
  accepted : Accepted syncer handed
  handing : Handing syncer.mapping.channelIds world.log handed
  /-- Requests with one id are of one channel. -/
  sameChannel : ∀ task ∈ requestsIn syncer handed, ∀ first,
    firstRequest (requestsIn syncer handed) task.requestId = some first →
      first.channelId = task.channelId
  /-- Results are of requests that were handed over. -/
  answers : ∀ result key,
    .result result key ∈ logFacts syncer world.log.entries →
      AnswersCanonical (requestsIn syncer handed) result
  /-- What has been sent for the channels of this configuration was handed
  over. -/
  sent : (∀ author, deployed author → author.text = syncer.text) →
    ∀ send ∈ sendsOf world.trace,
      Sourced deployed syncer handed world.log.entries send
  memory : ∃ facts, Remembers syncer
    (SoleWriter setting syncer.text .syncRecord) handed world.log.entries
    state facts

/-- Results of the same canonical request are of its channel. -/
theorem oneChannel_of_answers {requests : List OutboundTask}
    {facts : List WorkerFact}
    (answers : ∀ result key, .result result key ∈ facts →
      AnswersCanonical requests result) : OneChannel facts := by
  intro left leftKey right rightKey isLeft isRight same
  rcases answers left leftKey isLeft with ⟨task, found, channel⟩
  rcases answers right rightKey isRight with ⟨other, known, otherChannel⟩
  rw [same, known] at found
  cases found
  exact channel.trans otherChannel.symm

/-- Others write no results, so that memory keeps up with the log. -/
theorem Remembers.foreign {entries more : List LogEntry}
    {facts : List WorkerFact}
    (remembers : Remembers syncer (SoleWriter setting syncer.text .syncRecord)
      handed entries state facts)
    (sole : SoleWriter setting syncer.text .sendResult)
    (others : Foreign setting more) :
    Remembers syncer (SoleWriter setting syncer.text .syncRecord) handed
      (entries ++ more) state facts where
  reflects := remembers.reflects
  resting := remembers.resting
  results := by
    intro requestId
    rw [logFacts_append, firstResult_append,
      firstResult_foreign sole others, Option.or_none]
    exact remembers.results requestId
  records := by
    intro soleRecords
    rw [logFacts_append, logFacts_foreign sole soleRecords others,
      List.append_nil]
    exact remembers.records soleRecords

section Kept

variable {before after : WorldState setting}

theorem Knows.interferes
    (knows : Knows setting deployed syncer handed state before)
    (sole : SoleWriter setting syncer.text .sendResult)
    (step : Interferes before after) :
    Knows setting deployed syncer handed state after where
  ledger := knows.ledger.interferes step
  accepted := knows.accepted
  handing := Handing.extends knows.handing step.extends
  sameChannel := knows.sameChannel
  answers := by
    cases step with
    | published allowed appends =>
        intro result key member
        rw [appends.2.1, logFacts_append] at member
        rcases List.mem_append.mp member with earlier | new
        · exact knows.answers result key earlier
        · exact absurd new (noResult_foreign sole (foreign_singleton allowed))
    | provider => exact knows.answers
  sent := by
    intro sameText send member
    rw [step.trace_eq] at member
    exact (knows.sent sameText send member).mono step.extends fun _ => id
  memory := by
    rcases knows.memory with ⟨facts, remembers⟩
    refine ⟨facts, ?_⟩
    cases step with
    | published allowed appends =>
        rw [appends.2.1]
        exact remembers.foreign sole (foreign_singleton allowed)
    | provider => exact remembers

/-- A call that is no send. -/
theorem Knows.sent_published
    (knows : Knows setting deployed syncer handed state before)
    {request : Call} {answer : Answer request}
    (answers : Answers before request answer after)
    (noSend : sendOf? request = none)
    (sameText : ∀ author, deployed author → author.text = syncer.text) :
    ∀ send ∈ sendsOf after.trace,
      Sourced deployed syncer handed after.log.entries send := by
  intro send member
  rw [sendsOf_answers answers, noSend, Option.toList_none,
    List.append_nil] at member
  exact (knows.sent sameText send member).mono answers.extends fun _ => id

/-- A call that leaves the entries as they are. -/
theorem Knows.unchanged
    (knows : Knows setting deployed syncer handed state before)
    {request : Call} {answer : Answer request}
    (answers : Answers before request answer after)
    (entries : after.log.entries = before.log.entries)
    (ledger : Ledger setting deployed after)
    (sent : ∀ send, sendOf? request = some send →
      Sourced deployed syncer handed before.log.entries send) :
    Knows setting deployed syncer handed state after where
  ledger := ledger
  accepted := knows.accepted
  handing := Handing.extends knows.handing answers.extends
  sameChannel := knows.sameChannel
  answers := by
    rw [entries]
    exact knows.answers
  sent := by
    intro sameText send member
    rw [sendsOf_answers answers] at member
    rw [entries]
    rcases List.mem_append.mp member with earlier | new
    · exact knows.sent sameText send earlier
    · exact sent send (Option.mem_toList.mp new)
  memory := by
    rw [entries]
    exact knows.memory

theorem Knows.inert
    (knows : Knows setting deployed syncer handed state before)
    {request : Call} {answer : Answer request} (inert : Inert request)
    (answers : Answers before request answer after) :
    Knows setting deployed syncer handed state after :=
  knows.unchanged answers (answers.entries_eq inert.1)
    (knows.ledger.inert inert answers) (fun send isSend => by
      rw [inert.2] at isSend
      cases isSend)

theorem knows_kept (sole : SoleWriter setting syncer.text .sendResult) :
    KeptByReads (Knows setting deployed syncer handed state) where
  stable _ _ step knows := knows.interferes sole step
  reads _ _ _ _ reads answers knows :=
    knows.inert (inert_of_onlyReads reads) answers

end Kept

/-! ## The next request -/

section Next

variable {world : WorldState setting}

/-- The request that memory selects is due in the log. -/
theorem Knows.due (knows : Knows setting deployed syncer handed state world)
    (selected : state.nextPendingTask.1 = some task) :
    Due syncer world.log.entries task := by
  rcases knows.memory with ⟨facts, remembers⟩
  have reflects := remembers.reflects
  have isPrefix := requestsIn_prefix knows.accepted knows.handing
  rcases remembers.resting.linked.selects.first task selected with
    ⟨eligible, minimal, -⟩
  rcases reflects.pending_some eligible.pending with ⟨-, found, isOpen⟩
  constructor
  · rcases isPrefix with ⟨later, whole⟩
    rw [← whole, firstRequest_append_list, found]
    rfl
  · rw [← remembers.results]
    exact isOpen
  · intro other canonical channel earlier
    rw [← remembers.results]
    intro unanswered
    -- an open request would be eligible, too, and come first
    have handedOver := firstRequest_earlier isPrefix logRequests_increasing
      (mem_of_firstRequest found) canonical earlier
    have pending : state.requestsById.get? other.requestId = some other := by
      rw [reflects.pending, unanswered]
      exact handedOver
    have order := minimal other ⟨pending, remembers.resting.free _⟩
    have notLater : task.seq ≤ other.seq := by
      rcases order with less | same
      · exact less.le
      · exact same.1.le
    exact absurd earlier (Nat.not_lt.mpr notLater)

/-- The selected request was handed over. -/
theorem Knows.selected_handed
    (knows : Knows setting deployed syncer handed state world)
    (selected : state.nextPendingTask.1 = some task) :
    firstRequest (requestsIn syncer handed) task.requestId = some task := by
  rcases knows.memory with ⟨facts, remembers⟩
  have eligible := (remembers.resting.linked.selects.first task selected).1
  exact (remembers.reflects.pending_some eligible.pending).2.1

end Next

/-! ## Live messages -/

section Live

variable {world : WorldState setting} {message : Message}
  {parsed : ParsedMessage} {next : RuntimeState}

theorem requestsIn_append_none
    (nothing : (syncer.itemOf? message).bind LogItem.request? = none) :
    requestsIn syncer (handed ++ [message]) = requestsIn syncer handed := by
  rw [requestsIn, itemsOf_append, requestsOf_append, itemsOf_singleton]
  cases said : syncer.itemOf? message with
  | none => exact List.append_nil _
  | some item =>
      rw [said, Option.bind_some] at nothing
      have none : requestsOf [item] = [] := List.filterMap_cons_none nothing
      rw [Option.toList_some, none]
      exact List.append_nil _

theorem requestsIn_append_request
    (said : syncer.itemOf? message = some (.request task)) :
    requestsIn syncer (handed ++ [message]) =
      requestsIn syncer handed ++ [task] := by
  rw [requestsIn, itemsOf_append, requestsOf_append, itemsOf_singleton, said]
  rfl

/-- What the live processing of a message does. -/
theorem live_cases
    (processed : syncer.processLiveMessage state message = .ok next) :
    ∃ parsed, parseMessage syncer.text message = .ok parsed ∧
      (next = state ∧
          (syncer.itemOf? message).bind LogItem.request? = none ∨
        (state.addSendRequest parsed).1 = .ok () ∧
          next = (state.addSendRequest parsed).2 ∧
            syncer.itemOf? message = some (.request (.ofParsed parsed))) := by
  rw [processLiveMessage] at processed
  cases parses : parseMessage syncer.text message with
  | error exc =>
      rw [parses] at processed
      cases processed
  | ok parsed =>
      refine ⟨parsed, rfl, ?_⟩
      rw [parses] at processed
      dsimp only at processed
      cases owned : syncer.mapping.ownsChannel parsed.channelId with
      | false =>
          rw [owned] at processed
          cases processed
          exact Or.inl ⟨rfl, by rw [itemOf?_eq_none parses owned]; rfl⟩
      | true =>
          rcases exists_session owned with ⟨session, mapped⟩
          have said := itemOf?_eq_some parses mapped
          rw [owned] at processed
          rw [if_neg (by decide)] at processed
          rcases Checked.bind_eq_ok_iff.mp processed with ⟨_, -, rest⟩
          split_ifs at rest with isOther
          · cases rest
            refine Or.inl ⟨rfl, ?_⟩
            rw [said, Option.bind_some]
            cases kind : parsed.kind with
            | sendRequest => exact absurd kind isOther
            | sendResult => rw [itemOf, kind]; rfl
            | syncRecord => rw [itemOf, kind]; rfl
          · have kind := not_not.mp isOther
            have finishes : finished (state.addSendRequest parsed) =
                .ok next := by
              cases done : finished (state.addSendRequest parsed) with
              | ok other =>
                  rw [done] at rest
                  exact rest
              | error exc =>
                  rw [done, fatalOnConflict] at rest
                  split_ifs at rest
            rcases finished_eq_ok_iff.mp finishes with ⟨accepted, result⟩
            refine Or.inr ⟨accepted, result.symm, ?_⟩
            rw [said, itemOf, kind]

theorem channelId_of_same {left right : OutboundTask}
    (same : sameSendRequest left right = true) :
    left.channelId = right.channelId := by
  simp only [sameSendRequest, Bool.and_eq_true, beq_iff_eq] at same
  exact same.1.1.1.1

/-- A live message keeps memory in step with what is handed over. -/
theorem Knows.live (knows : Knows setting deployed syncer handed state world)
    (handing : Handing syncer.mapping.channelIds world.log
      (handed ++ [message]))
    (processed : syncer.processLiveMessage state message = .ok next) :
    Knows setting deployed syncer (handed ++ [message]) next world := by
  rcases live_cases processed with ⟨parsed, parses, cases⟩
  have accepted : Accepted syncer (handed ++ [message]) := by
    intro other member
    rcases List.mem_append.mp member with earlier | new
    · exact knows.accepted other earlier
    · rw [List.mem_singleton.mp new]
      exact ⟨parsed, parses⟩
  rcases knows.memory with ⟨facts, remembers⟩
  rcases cases with ⟨rfl, nothing⟩ | ⟨added, rfl, said⟩
  · have same := @requestsIn_append_none _ handed _ nothing
    exact {
      ledger := knows.ledger
      accepted, handing
      sameChannel := by
        rw [same]
        exact knows.sameChannel
      answers := by
        rw [same]
        exact knows.answers
      sent := by
        intro sameText send member
        refine (knows.sent sameText send member).mono
          (SequencedLog.Extends.refl _) fun task inside => ?_
        rw [same]
        exact inside
      memory := ⟨facts, {
        reflects := by
          rw [same]
          exact remembers.reflects
        resting := remembers.resting
        results := remembers.results
        records := remembers.records }⟩ }
  · have whole := @requestsIn_append_request _ handed _ _ said
    have admits := remembers.reflects.addSendRequest_ok_iff.mp added
    exact {
      ledger := knows.ledger
      accepted, handing
      sameChannel := by
        rw [whole]
        intro task member first found
        rw [firstRequest_append_list] at found
        cases known : firstRequest (requestsIn syncer handed)
            task.requestId with
        | some existing =>
            rw [known] at found
            cases found
            rcases List.mem_append.mp member with earlier | new
            · exact knows.sameChannel task earlier _ known
            · cases List.mem_singleton.mp new
              exact channelId_of_same (admits _ known)
        | none =>
            rw [known, Option.none_or] at found
            rcases List.mem_append.mp member with earlier | new
            · exact absurd (List.find?_eq_none.mp known task earlier) (by simp)
            · cases List.mem_singleton.mp new
              cases List.mem_singleton.mp (mem_of_firstRequest found)
              rfl
      answers := by
        intro result key member
        rw [whole]
        exact (knows.answers result key member).append _
      sent := by
        intro sameText send member
        refine (knows.sent sameText send member).mono
          (SequencedLog.Extends.refl _) fun task inside => ?_
        rw [whole]
        exact List.mem_append_left _ inside
      memory := ⟨facts, {
        reflects := by
          rw [whole]
          exact remembers.reflects.addSendRequest added
        resting := remembers.resting.addSendRequest
        results := remembers.results
        records := remembers.records }⟩ }

end Live

end OpenEventIm.Syncer.WorkerMemory
