import OpenEventIm.Syncer.State

/-!
# The meaning of a message log

What a log of parsed messages says, independently of how a worker keeps it in
memory: which request is the canonical one of its id, which results and records
were written, which result reported a provider message, and the latest event
time of a channel.

`Reflects` relates a runtime state to a list of requests and a list of worker
facts.  The replay operations and the live ones are both shown to follow the
log: each appends one item on both sides.  Since requests and facts are kept
apart, a live state may reflect all facts but only the requests polled so far.
-/

namespace OpenEventIm.Syncer.LogMeaning

open OpenEventIm.Foundation
open OpenEventIm.Sdk.Errors
open OpenEventIm.Sdk.Client
open OpenEventIm.Syncer.Models
open OpenEventIm.Syncer.State

/-! ## Items of a log -/

/-- What the worker writes: terminal results and records. -/
inductive WorkerFact where
  /-- The key is present when the result reports a provider message. -/
  | result (result : TerminalResult) (key : Option InboundKey)
  | record (key : InboundKey) (prevSeq : Option Nat) (eventMs : Int)

/-- One message of the log. -/
inductive LogItem where
  | request (task : OutboundTask)
  | fact (fact : WorkerFact)

def LogItem.request? : LogItem → Option OutboundTask
  | .request task => some task
  | .fact _ => none

def LogItem.fact? : LogItem → Option WorkerFact
  | .request _ => none
  | .fact written => some written

def requestsOf (items : List LogItem) : List OutboundTask :=
  items.filterMap LogItem.request?

def factsOf (items : List LogItem) : List WorkerFact :=
  items.filterMap LogItem.fact?

/-- The provider message that a `send.result` reports. -/
def resultKey (parsed : ParsedMessage) (session : Session) :
    Option InboundKey :=
  if (TerminalResult.ofParsed parsed).status ≠ "SUCCESS" then
    none
  else
    (usableMessageId
      (TerminalResult.ofParsed parsed).providerMessageId).map
        fun providerMessageId =>
          { provider := session.1, sessionId := session.2,
            channelId := parsed.channelId, providerMessageId }

/-- The item of a parsed message of a channel with the given session. -/
def itemOf (parsed : ParsedMessage) (session : Session) : LogItem :=
  match parsed.kind with
  | .sendRequest => .request (OutboundTask.ofParsed parsed)
  | .sendResult =>
      .fact (.result (TerminalResult.ofParsed parsed)
        (resultKey parsed session))
  | .syncRecord =>
      .fact (.record (RuntimeState.syncRecordKey parsed session.1 session.2)
        parsed.prevSeq parsed.eventMs)

section ItemOf

variable {parsed : ParsedMessage} {session : Session}

theorem itemOf_eq_request_iff {task : OutboundTask} :
    itemOf parsed session = .request task ↔
      parsed.kind = .sendRequest ∧ task = .ofParsed parsed := by
  rw [itemOf]
  cases kind : parsed.kind with
  | sendRequest => simp [eq_comm]
  | sendResult => simp
  | syncRecord => simp

theorem itemOf_eq_result_iff {result : TerminalResult}
    {key : Option InboundKey} :
    itemOf parsed session = .fact (.result result key) ↔
      parsed.kind = .sendResult ∧ result = .ofParsed parsed ∧
        key = resultKey parsed session := by
  rw [itemOf]
  cases kind : parsed.kind with
  | sendRequest => simp
  | sendResult => simp [eq_comm]
  | syncRecord => simp

theorem itemOf_eq_record_iff {key : InboundKey} {prevSeq : Option Nat}
    {eventMs : Int} :
    itemOf parsed session = .fact (.record key prevSeq eventMs) ↔
      parsed.kind = .syncRecord ∧
        key = RuntimeState.syncRecordKey parsed session.1 session.2 ∧
          prevSeq = parsed.prevSeq ∧ eventMs = parsed.eventMs := by
  rw [itemOf]
  cases kind : parsed.kind with
  | sendRequest => simp
  | sendResult => simp
  | syncRecord => simp [eq_comm]

end ItemOf

/-! ## Functions of a log -/

/-- The canonical request of an id: the first one. -/
def firstRequest (requests : List OutboundTask) (requestId : String) :
    Option OutboundTask :=
  requests.find? fun task => task.requestId = requestId

/-- The result, if the fact is one for the request. -/
def WorkerFact.resultFor (requestId : String) :
    WorkerFact → Option TerminalResult
  | .result terminal _ =>
      if terminal.requestId = requestId then some terminal else none
  | .record .. => none

/-- The terminal result of a request: the first one. -/
def firstResult (facts : List WorkerFact) (requestId : String) :
    Option TerminalResult :=
  facts.findSome? (WorkerFact.resultFor requestId)

/-- The fact is a record under the key. -/
def WorkerFact.IsRecord (key : InboundKey) : WorkerFact → Prop
  | .result .. => False
  | .record recorded _ _ => recorded = key

/-- The record under the key was written. -/
def Recorded (facts : List WorkerFact) (key : InboundKey) : Prop :=
  ∃ fact ∈ facts, fact.IsRecord key

/--
The number of the result that reported a provider message: the last one that
was the first for its request.  The newest fact comes first.
-/
def reportedIn (key : InboundKey) : List WorkerFact → Option Nat
  | [] => none
  | .result result reported :: older =>
      if reported = some key ∧
          older.all fun fact =>
            (fact.resultFor result.requestId).isNone then
        some result.seq
      else
        reportedIn key older
  | .record .. :: older => reportedIn key older

def reportedSeq (facts : List WorkerFact) (key : InboundKey) : Option Nat :=
  reportedIn key facts.reverse

/-- The larger of an optional time and a time. -/
def laterMs (current : Option Int) (eventMs : Int) : Int :=
  match current with
  | some current => if eventMs > current then eventMs else current
  | none => eventMs

/-- The latest event time of a channel's records, the newest fact first. -/
def latestIn (channelId : Nat) : List WorkerFact → Option Int
  | [] => none
  | .result .. :: older => latestIn channelId older
  | .record key _ eventMs :: older =>
      if key.channelId = channelId then
        some (laterMs (latestIn channelId older) eventMs)
      else
        latestIn channelId older

def latestEventMs (facts : List WorkerFact) (channelId : Nat) : Option Int :=
  latestIn channelId facts.reverse

section Append

variable {requests : List OutboundTask} {facts : List WorkerFact}
  {task : OutboundTask} {result : TerminalResult}
  {reported : Option InboundKey} {key : InboundKey} {prevSeq : Option Nat}
  {eventMs : Int} {requestId : String} {channelId : Nat}

theorem firstRequest_append :
    firstRequest (requests ++ [task]) requestId =
      (firstRequest requests requestId).or
        (if task.requestId = requestId then some task else none) := by
  rw [firstRequest, List.find?_append]
  congr 1
  by_cases same : task.requestId = requestId
  · simp [same]
  · simp [same]

theorem firstRequest_requestId
    (found : firstRequest requests requestId = some task) :
    task.requestId = requestId := by
  simpa using List.find?_some found

theorem firstResult_append_result :
    firstResult (facts ++ [.result result reported]) requestId =
      (firstResult facts requestId).or
        (if result.requestId = requestId then some result else none) := by
  rw [firstResult, List.findSome?_append]
  congr 1
  by_cases same : result.requestId = requestId
  · simp [WorkerFact.resultFor, same]
  · simp [WorkerFact.resultFor, same]

theorem firstResult_append_record :
    firstResult (facts ++ [.record key prevSeq eventMs]) requestId =
      firstResult facts requestId := by
  rw [firstResult, List.findSome?_append]
  simp [WorkerFact.resultFor, firstResult]

theorem recorded_append_result {wanted : InboundKey} :
    Recorded (facts ++ [.result result reported]) wanted ↔
      Recorded facts wanted := by
  simp [Recorded, WorkerFact.IsRecord, or_and_right, exists_or]

theorem recorded_append_record {wanted : InboundKey} :
    Recorded (facts ++ [.record key prevSeq eventMs]) wanted ↔
      key = wanted ∨ Recorded facts wanted := by
  simp only [Recorded, List.mem_append, List.mem_singleton, or_and_right,
    exists_or, exists_eq_left, WorkerFact.IsRecord]
  exact or_comm

/-- No result for the request, in terms of the whole list. -/
theorem firstResult_eq_none_iff :
    firstResult facts requestId = none ↔
      ∀ fact ∈ facts, fact.resultFor requestId = none :=
  List.findSome?_eq_none_iff

theorem reportedSeq_append_result {wanted : InboundKey} :
    reportedSeq (facts ++ [.result result reported]) wanted =
      if reported = some wanted ∧
          firstResult facts result.requestId = none then
        some result.seq
      else
        reportedSeq facts wanted := by
  rw [reportedSeq, List.reverse_append]
  have none_iff : (facts.reverse.all fun fact =>
      (fact.resultFor result.requestId).isNone) = true ↔
        firstResult facts result.requestId = none := by
    simp [firstResult_eq_none_iff]
  simp only [List.reverse_singleton, List.singleton_append, reportedIn,
    none_iff]
  rfl

theorem reportedSeq_append_record {wanted : InboundKey} :
    reportedSeq (facts ++ [.record key prevSeq eventMs]) wanted =
      reportedSeq facts wanted := by
  rw [reportedSeq, List.reverse_append]
  rfl

theorem latestEventMs_append_result :
    latestEventMs (facts ++ [.result result reported]) channelId =
      latestEventMs facts channelId := by
  rw [latestEventMs, List.reverse_append]
  rfl

theorem latestEventMs_append_record :
    latestEventMs (facts ++ [.record key prevSeq eventMs]) channelId =
      if key.channelId = channelId then
        some (laterMs (latestEventMs facts channelId) eventMs)
      else
        latestEventMs facts channelId := by
  rw [latestEventMs, List.reverse_append]
  rfl

end Append

/-! ## States that reflect a log -/

/-- The runtime state says what the requests and the facts say. -/
structure Reflects (state : RuntimeState) (requests : List OutboundTask)
    (facts : List WorkerFact) : Prop where
  canonical : ∀ requestId,
    state.canonicalRequestsById.get? requestId =
      firstRequest requests requestId
  completed : ∀ requestId,
    requestId ∈ state.completedRequestIds ↔
      firstResult facts requestId ≠ none
  pending : ∀ requestId,
    state.requestsById.get? requestId =
      if (firstResult facts requestId).isSome then none
      else firstRequest requests requestId
  seen : ∀ key, key ∈ state.inboundSeen ↔ Recorded facts key
  reported : ∀ key,
    state.sendResultByProviderMessage.get? key = reportedSeq facts key
  latest : ∀ channelId,
    state.latestEventMsByChannel.get? channelId =
      latestEventMs facts channelId

theorem reflects_initial : Reflects RuntimeState.initial [] [] where
  canonical _ := rfl
  completed _ := by simp [RuntimeState.initial, firstResult]
  pending _ := rfl
  seen _ := by simp [RuntimeState.initial, Recorded]
  reported _ := rfl
  latest _ := rfl

section Operations

variable {state next : RuntimeState} {requests : List OutboundTask}
  {facts : List WorkerFact} {parsed : ParsedMessage} {session : Session}

theorem Reflects.of_sameRecords (reflects : Reflects state requests facts)
    (same : RuntimeState.SameRecords next state) :
    Reflects next requests facts where
  canonical := by
    rw [same.canonicalRequestsById]
    exact reflects.canonical
  completed := by
    rw [same.completedRequestIds]
    exact reflects.completed
  pending := by
    rw [same.requestsById]
    exact reflects.pending
  seen := by
    rw [same.inboundSeen]
    exact reflects.seen
  reported := by
    rw [same.sendResultByProviderMessage]
    exact reflects.reported
  latest := by
    rw [same.latestEventMsByChannel]
    exact reflects.latest

/-- A pending task is the canonical request of its id, without a result. -/
theorem Reflects.pending_some (reflects : Reflects state requests facts)
    {requestId : String} {task : OutboundTask}
    (found : state.requestsById.get? requestId = some task) :
    task.requestId = requestId ∧
      firstRequest requests requestId = some task ∧
        firstResult facts requestId = none := by
  rw [reflects.pending requestId] at found
  split_ifs at found with done
  exact ⟨firstRequest_requestId found, found, by simpa using done⟩

/-! ### Requests -/

/-- A further request of an id must say the same as its canonical one. -/
def AdmitsRequest (requests : List OutboundTask) (task : OutboundTask) : Prop :=
  ∀ existing, firstRequest requests task.requestId = some existing →
    sameSendRequest existing task = true

theorem Reflects.addSendRequest_ok_iff
    (reflects : Reflects state requests facts) :
    (state.addSendRequest parsed).1 = .ok () ↔
      AdmitsRequest requests (.ofParsed parsed) := by
  simp only [RuntimeState.addSendRequest, AdmitsRequest,
    reflects.canonical]
  cases found : firstRequest requests (OutboundTask.ofParsed parsed).requestId
    with
  | some existing =>
      simp only [Option.some.injEq, forall_eq']
      split_ifs with same
      · simp [same]
      · simp [RuntimeState.conflict, same]
  | none =>
      simp only [reduceCtorEq, false_implies, implies_true, iff_true]
      split_ifs
      · rfl
      · rfl

/-- A request that is accepted is appended to the reflected requests. -/
theorem Reflects.addSendRequest (reflects : Reflects state requests facts)
    (accepted : (state.addSendRequest parsed).1 = .ok ()) :
    Reflects (state.addSendRequest parsed).2
      (requests ++ [.ofParsed parsed]) facts := by
  simp only [RuntimeState.addSendRequest, reflects.canonical] at accepted ⊢
  generalize OutboundTask.ofParsed parsed = task at accepted ⊢
  cases found : firstRequest requests task.requestId with
  | some existing =>
      -- the canonical request stays the first one
      have unchanged : ∀ requestId,
          firstRequest (requests ++ [task]) requestId =
            firstRequest requests requestId := by
        intro requestId
        rw [firstRequest_append]
        by_cases same : task.requestId = requestId
        · rw [← same, found]
          rfl
        · simp [same]
      rw [found] at accepted
      simp only at accepted ⊢
      split_ifs at accepted ⊢ with same
      · exact { reflects with
          canonical := fun requestId => by
            rw [unchanged]
            exact reflects.canonical requestId
          pending := fun requestId => by
            rw [unchanged]
            exact reflects.pending requestId }
      · simp [RuntimeState.conflict] at accepted
  | none =>
      have appended : ∀ requestId,
          firstRequest (requests ++ [task]) requestId =
            if task.requestId = requestId then some task
            else firstRequest requests requestId := by
        intro requestId
        rw [firstRequest_append]
        by_cases same : task.requestId = requestId
        · rw [← same, found]
          simp
        · simp [same]
      simp only
      have done_iff := reflects.completed task.requestId
      split_ifs with done
      · exact { reflects with
          canonical := fun requestId => by
            rw [appended, Dict.get?_set, reflects.canonical]
          pending := fun requestId => by
            rw [appended, reflects.pending]
            by_cases same : task.requestId = requestId
            · have hasResult := done_iff.mp done
              rw [← same, if_pos (Option.isSome_iff_ne_none.mpr hasResult),
                if_pos (Option.isSome_iff_ne_none.mpr hasResult)]
            · rw [if_neg same] }
      · exact { reflects with
          canonical := fun requestId => by
            rw [appended, Dict.get?_set, reflects.canonical]
          pending := fun requestId => by
            rw [appended, Dict.get?_set, reflects.pending]
            by_cases same : task.requestId = requestId
            · have noResult : firstResult facts task.requestId = none :=
                not_not.mp fun hasResult => done (done_iff.mpr hasResult)
              simp [← same, noResult]
            · rw [if_neg same, if_neg same] }

/-! ### Results -/

/-- The key under which a result is looked up, if it reports a message. -/
def reportUnder (reports : Dict InboundKey Nat) (key : Option InboundKey)
    (seq : Nat) : Dict InboundKey Nat :=
  match key with
  | some key => reports.set key seq
  | none => reports

/-- What storing the first result of a request does to the records. -/
structure StoresResult (state next : RuntimeState) (result : TerminalResult)
    (key : Option InboundKey) : Prop where
  inboundSeen : next.inboundSeen = state.inboundSeen
  completedRequestIds :
    next.completedRequestIds = insert result.requestId state.completedRequestIds
  canonicalRequestsById :
    next.canonicalRequestsById = state.canonicalRequestsById
  requestsById :
    next.requestsById = state.requestsById.erase result.requestId
  sendResultByProviderMessage :
    next.sendResultByProviderMessage =
      reportUnder state.sendResultByProviderMessage key result.seq
  latestEventMsByChannel :
    next.latestEventMsByChannel = state.latestEventMsByChannel

/-- The first result of a request is appended to the reflected facts. -/
theorem Reflects.append_result {result : TerminalResult}
    {key : Option InboundKey} (reflects : Reflects state requests facts)
    (isFirst : firstResult facts result.requestId = none)
    (stores : StoresResult state next result key) :
    Reflects next requests (facts ++ [.result result key]) where
  canonical := by
    rw [stores.canonicalRequestsById]
    exact reflects.canonical
  completed requestId := by
    rw [stores.completedRequestIds, Finset.mem_insert, reflects.completed,
      firstResult_append_result]
    by_cases same : result.requestId = requestId
    · simp [same]
    · simp [same, Ne.symm same]
  pending requestId := by
    rw [stores.requestsById, Dict.get?_erase, reflects.pending,
      firstResult_append_result]
    by_cases same : result.requestId = requestId
    · simp [same]
    · simp [same]
  seen wanted := by
    rw [stores.inboundSeen, recorded_append_result]
    exact reflects.seen wanted
  reported wanted := by
    rw [stores.sendResultByProviderMessage, reportedSeq_append_result]
    cases key with
    | none => simpa [reportUnder] using reflects.reported wanted
    | some key =>
        simp only [reportUnder, Dict.get?_set, Option.some.injEq, isFirst,
          and_true, reflects.reported]
  latest channelId := by
    rw [stores.latestEventMsByChannel, latestEventMs_append_result]
    exact reflects.latest channelId

/-- A further result of a request changes nothing that is reflected. -/
theorem Reflects.append_duplicate {result existing : TerminalResult}
    {key : Option InboundKey} (reflects : Reflects state requests facts)
    (found : firstResult facts result.requestId = some existing) :
    Reflects state requests (facts ++ [.result result key]) := by
  have unchanged : ∀ requestId,
      firstResult (facts ++ [.result result key]) requestId =
        firstResult facts requestId := by
    intro requestId
    rw [firstResult_append_result]
    by_cases same : result.requestId = requestId
    · rw [← same, found]
      rfl
    · simp [same]
  exact {
    canonical := reflects.canonical
    completed := fun requestId => by
      rw [unchanged]
      exact reflects.completed requestId
    pending := fun requestId => by
      rw [unchanged]
      exact reflects.pending requestId
    seen := fun wanted => by
      rw [recorded_append_result]
      exact reflects.seen wanted
    reported := fun wanted => by
      rw [reportedSeq_append_result, if_neg (by simp [found])]
      exact reflects.reported wanted
    latest := fun channelId => by
      rw [latestEventMs_append_result]
      exact reflects.latest channelId }

theorem storesResult_storeSendResult (state : RuntimeState)
    (parsed : ParsedMessage) (task : OutboundTask) (session : Session) :
    StoresResult state
      (state.storeSendResult parsed task session.1 session.2)
      (.ofParsed parsed) (resultKey parsed session) := by
  have unblocked := fun state : RuntimeState =>
    state.sameRecords_unblockChannel task.channelId task.requestId
  simp only [RuntimeState.storeSendResult, resultKey]
  split_ifs with failed
  · exact ⟨(unblocked _).inboundSeen, (unblocked _).completedRequestIds,
      (unblocked _).canonicalRequestsById, (unblocked _).requestsById,
      (unblocked _).sendResultByProviderMessage,
      (unblocked _).latestEventMsByChannel⟩
  · cases usable : usableMessageId
        (TerminalResult.ofParsed parsed).providerMessageId with
    | none =>
        exact ⟨(unblocked _).inboundSeen, (unblocked _).completedRequestIds,
          (unblocked _).canonicalRequestsById, (unblocked _).requestsById,
          (unblocked _).sendResultByProviderMessage,
          (unblocked _).latestEventMsByChannel⟩
    | some providerMessageId =>
        refine ⟨(unblocked _).inboundSeen, (unblocked _).completedRequestIds,
          (unblocked _).canonicalRequestsById, (unblocked _).requestsById,
          ?_, (unblocked _).latestEventMsByChannel⟩
        simp only [(unblocked _).sendResultByProviderMessage]
        rfl

theorem storesResult_markSendResultSuccess (state : RuntimeState)
    (task : OutboundTask) (provider sessionId providerMessageId : String)
    {result : TerminalResult}
    (sameRequest : result.requestId = task.requestId) :
    StoresResult state
      (state.markSendResultSuccess task provider sessionId providerMessageId
        result.seq)
      result
      (some { provider, sessionId, channelId := task.channelId,
              providerMessageId }) := by
  have unblocked := fun state : RuntimeState =>
    state.sameRecords_unblockChannel task.channelId task.requestId
  refine ⟨(unblocked _).inboundSeen, ?_,
    (unblocked _).canonicalRequestsById, ?_, ?_,
    (unblocked _).latestEventMsByChannel⟩
  · rw [sameRequest]
    exact (unblocked _).completedRequestIds
  · rw [sameRequest]
    exact (unblocked _).requestsById
  · simp only [RuntimeState.markSendResultSuccess,
      (unblocked _).sendResultByProviderMessage]
    rfl

/-! ### Records -/

theorem latestEventMs_recordEventMs (state : RuntimeState)
    (channelId other : Nat) (eventMs : Int) :
    (state.recordEventMs channelId eventMs).latestEventMsByChannel.get? other =
      if channelId = other then
        some (laterMs (state.latestEventMsByChannel.get? other) eventMs)
      else
        state.latestEventMsByChannel.get? other := by
  unfold RuntimeState.recordEventMs
  by_cases same : channelId = other
  · subst same
    cases current : state.latestEventMsByChannel.get? channelId with
    | none => simp [laterMs]
    | some current =>
        simp only [laterMs]
        split_ifs with later
        · simp
        · simpa using ‹state.latestEventMsByChannel.get? channelId = _›
  · rw [if_neg same]
    split
    · split_ifs
      · rw [Dict.get?_set_of_ne _ _ same]
      · rfl
    · rw [Dict.get?_set_of_ne _ _ same]

/-- A record is appended to the reflected facts. -/
theorem Reflects.markSyncRecord (reflects : Reflects state requests facts)
    (key : InboundKey) (prevSeq : Option Nat) (eventMs : Int) :
    Reflects (state.markSyncRecord key key.channelId eventMs) requests
      (facts ++ [.record key prevSeq eventMs]) := by
  have same : ∀ {Value : Type} (field : RuntimeState → Value),
      (∀ state channels, field { state with
        latestEventMsByChannel := channels } = field state) →
      field (state.markSyncRecord key key.channelId eventMs) =
        field { state with inboundSeen := insert key state.inboundSeen } := by
    intro Value field ignores
    unfold RuntimeState.markSyncRecord RuntimeState.recordEventMs
    split
    · split_ifs
      · exact ignores _ _
      · rfl
    · exact ignores _ _
  refine ⟨fun requestId => ?_, fun requestId => ?_, fun requestId => ?_,
    fun wanted => ?_, fun wanted => ?_, fun channelId => ?_⟩
  · rw [same RuntimeState.canonicalRequestsById fun _ _ => rfl]
    exact reflects.canonical requestId
  · rw [same RuntimeState.completedRequestIds fun _ _ => rfl,
      firstResult_append_record]
    exact reflects.completed requestId
  · rw [same RuntimeState.requestsById fun _ _ => rfl,
      firstResult_append_record]
    exact reflects.pending requestId
  · rw [same RuntimeState.inboundSeen fun _ _ => rfl, Finset.mem_insert,
      reflects.seen, recorded_append_record, eq_comm]
  · rw [same RuntimeState.sendResultByProviderMessage fun _ _ => rfl,
      reportedSeq_append_record]
    exact reflects.reported wanted
  · rw [RuntimeState.markSyncRecord, latestEventMs_recordEventMs,
      latestEventMs_append_record]
    simp only [reflects.latest]

end Operations

/-! ## Logs that can be replayed -/

/-- A result repeats the first one of its request, or answers the request. -/
def AdmitsResult (requests : List OutboundTask) (facts : List WorkerFact)
    (result : TerminalResult) : Prop :=
  match firstResult facts result.requestId with
  | some existing => sameSendResult existing result = true
  | none => ∃ task, firstRequest requests result.requestId = some task ∧
      result.prevSeq = some task.seq ∧ result.channelId = task.channelId ∧
        result.recipients = [task.principal]

/-- What may follow in a log with the given requests and facts. -/
def Admits (requests : List OutboundTask) (facts : List WorkerFact) :
    LogItem → Prop
  | .request task => AdmitsRequest requests task
  | .fact (.result result _) => AdmitsResult requests facts result
  | .fact (.record key prevSeq _) => prevSeq = reportedSeq facts key

/-- Every item may follow the ones before it. -/
def Replayable (items : List LogItem) : Prop :=
  ∀ done item, done ++ [item] <+: items →
    Admits (requestsOf done) (factsOf done) item

theorem replayable_nil : Replayable [] := by
  intro done item isPrefix
  exact absurd (List.prefix_nil.mp isPrefix) (by simp)

theorem replayable_append {items : List LogItem} {item : LogItem} :
    Replayable (items ++ [item]) ↔
      Replayable items ∧ Admits (requestsOf items) (factsOf items) item := by
  constructor
  · intro replayable
    refine ⟨fun done other isPrefix => ?_, replayable items item List.prefix_rfl⟩
    exact replayable done other (isPrefix.trans (List.prefix_append _ _))
  · rintro ⟨replayable, admits⟩ done other isPrefix
    rcases List.prefix_concat_iff.mp isPrefix with whole | inside
    · obtain ⟨rfl, same⟩ := List.append_inj' whole rfl
      cases same
      exact admits
    · exact replayable done other inside

@[simp]
theorem requestsOf_append (items more : List LogItem) :
    requestsOf (items ++ more) = requestsOf items ++ requestsOf more :=
  List.filterMap_append

@[simp]
theorem factsOf_append (items more : List LogItem) :
    factsOf (items ++ more) = factsOf items ++ factsOf more :=
  List.filterMap_append

@[simp]
theorem requestsOf_request (task : OutboundTask) :
    requestsOf [.request task] = [task] := rfl

@[simp]
theorem factsOf_request (task : OutboundTask) :
    factsOf [.request task] = [] := rfl

@[simp]
theorem requestsOf_fact (fact : WorkerFact) :
    requestsOf [.fact fact] = [] := rfl

@[simp]
theorem factsOf_fact (fact : WorkerFact) :
    factsOf [.fact fact] = [fact] := rfl

/-! ## Settled requests and messages -/

section Facts

variable {requests : List OutboundTask} {facts more : List WorkerFact}

theorem firstResult_append {requestId : String} :
    firstResult (facts ++ more) requestId =
      (firstResult facts requestId).or (firstResult more requestId) :=
  List.findSome?_append

theorem firstResult_ne_none_iff {requestId : String} :
    firstResult facts requestId ≠ none ↔
      ∃ result key, .result result key ∈ facts ∧
        result.requestId = requestId := by
  rw [Ne, firstResult_eq_none_iff, not_forall]
  constructor
  · rintro ⟨fact, found⟩
    rw [Classical.not_imp] at found
    obtain ⟨member, isResult⟩ := found
    cases fact with
    | result result key =>
        refine ⟨result, key, member, ?_⟩
        by_contra different
        exact isResult (if_neg different)
    | record => exact absurd rfl isResult
  · rintro ⟨result, key, member, same⟩
    refine ⟨.result result key, fun none => ?_⟩
    have found := none member
    rw [WorkerFact.resultFor, if_pos same] at found
    cases found

theorem recorded_iff {key : InboundKey} :
    Recorded facts key ↔
      ∃ prevSeq eventMs, .record key prevSeq eventMs ∈ facts := by
  constructor
  · rintro ⟨fact, member, isRecord⟩
    cases fact with
    | result => exact absurd isRecord id
    | record recorded prevSeq eventMs =>
        cases isRecord
        exact ⟨prevSeq, eventMs, member⟩
  · rintro ⟨prevSeq, eventMs, member⟩
    exact ⟨_, member, rfl⟩

theorem exists_of_firstResult {requestId : String} {result : TerminalResult}
    (found : firstResult facts requestId = some result) :
    ∃ key, .result result key ∈ facts ∧ result.requestId = requestId := by
  rcases List.exists_of_findSome?_eq_some found with ⟨fact, member, isResult⟩
  cases fact with
  | result other key =>
      rw [WorkerFact.resultFor] at isResult
      split_ifs at isResult with same
      cases isResult
      exact ⟨key, member, same⟩
  | record => cases isResult

/-- The result is one of the canonical request of its id, on its channel. -/
def AnswersCanonical (requests : List OutboundTask)
    (result : TerminalResult) : Prop :=
  ∃ task, firstRequest requests result.requestId = some task ∧
    result.channelId = task.channelId

theorem AnswersCanonical.append {result : TerminalResult}
    (answers : AnswersCanonical requests result) (later : List OutboundTask) :
    AnswersCanonical (requests ++ later) result := by
  rcases answers with ⟨task, found, channel⟩
  refine ⟨task, ?_, channel⟩
  rw [firstRequest, List.find?_append]
  rw [firstRequest] at found
  rw [found]
  rfl

theorem channelId_of_sameSendResult {left right : TerminalResult}
    (same : sameSendResult left right = true) :
    left.channelId = right.channelId := by
  simp only [sameSendResult, Bool.and_eq_true, beq_iff_eq] at same
  exact same.1.1.1.1.1.1

/-- Every result of a log that can be replayed answers a request of it. -/
theorem Replayable.answers {items : List LogItem}
    (replayable : Replayable items) {result : TerminalResult}
    {key : Option InboundKey} (member : .result result key ∈ factsOf items) :
    AnswersCanonical (requestsOf items) result := by
  induction items using List.reverseRecOn generalizing result key with
  | nil => cases member
  | append_singleton items item ih =>
      obtain ⟨earlier, admits⟩ := replayable_append.mp replayable
      rw [requestsOf_append]
      apply AnswersCanonical.append
      rw [factsOf_append, List.mem_append] at member
      rcases member with before | isLast
      · exact ih earlier before
      · cases item with
        | request task => cases isLast
        | fact fact =>
            rw [factsOf_fact, List.mem_singleton] at isLast
            subst isLast
            have admitted : AdmitsResult (requestsOf items) (factsOf items)
              result := admits
            rw [AdmitsResult] at admitted
            cases settled : firstResult (factsOf items) result.requestId with
            | none =>
                rw [settled] at admitted
                obtain ⟨task, found, -, channel, -⟩ := admitted
                exact ⟨task, found, channel⟩
            | some existing =>
                rw [settled] at admitted
                obtain ⟨otherKey, inside, same⟩ := exists_of_firstResult settled
                obtain ⟨task, found, channel⟩ := ih earlier inside
                rw [same] at found
                exact ⟨task, found,
                  (channelId_of_sameSendResult admitted).symm.trans channel⟩

/-- Results that are not the first of their request report nothing new. -/
theorem reportedSeq_append_settled {key : InboundKey}
    (settled : ∀ result, .result result (some key) ∈ more →
      firstResult facts result.requestId ≠ none) :
    reportedSeq (facts ++ more) key = reportedSeq facts key := by
  induction more using List.reverseRecOn with
  | nil => rw [List.append_nil]
  | append_singleton more fact ih =>
      have earlier := ih fun result member =>
        settled result (List.mem_append_left _ member)
      rw [← List.append_assoc]
      cases fact with
      | record => rw [reportedSeq_append_record, earlier]
      | result result reported =>
          rw [reportedSeq_append_result, if_neg _, earlier]
          rintro ⟨rfl, isFirst⟩
          have answered := settled result
            (List.mem_append_right _ (List.mem_singleton_self _))
          rw [firstResult_append, Option.or_eq_none_iff] at isFirst
          exact answered isFirst.1

end Facts

end OpenEventIm.Syncer.LogMeaning
