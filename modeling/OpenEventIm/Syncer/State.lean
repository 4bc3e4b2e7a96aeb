import OpenEventIm.Sdk.Client
import OpenEventIm.Syncer.Models
import Mathlib.Data.List.Sort

/-!
# Runtime state

`RuntimeState` as the worker keeps it in memory, with the operations of the
history replay (`add_*`) and of the live processing (`mark_*`,
`next_pending_task`).

An operation that may raise returns the exception next to the state it leaves
behind.  The pending heap is a list in increasing order, whose head is what
`heappop` returns.
-/

namespace OpenEventIm.Syncer.State

open OpenEventIm.Foundation
open OpenEventIm.Sdk.Errors
open OpenEventIm.Sdk.Client

/-! ## Data model -/

/-- `InboundKey`: a provider message in a channel. -/
structure InboundKey where
  provider : String
  sessionId : String
  channelId : Nat
  providerMessageId : String
deriving DecidableEq

structure OutboundTask where
  seq : Nat
  channelId : Nat
  principal : Nat
  requestId : String
  msgType : String
  content : JsonObject

structure TerminalResult where
  seq : Nat
  channelId : Nat
  principal : Nat
  recipients : List Nat
  requestId : String
  prevSeq : Option Nat
  status : String
  /-- The value as decoded, which need not be a string. -/
  providerMessageId : Option Json

structure RuntimeState where
  inboundSeen : Finset InboundKey
  completedRequestIds : Finset String
  canonicalRequestsById : Dict String OutboundTask
  terminalResultsById : Dict String TerminalResult
  requestsById : Dict String OutboundTask
  pendingHeap : List (Nat × String)
  blockedByChannel : Dict Nat String
  sendResultByProviderMessage : Dict InboundKey Nat
  latestEventMsByChannel : Dict Nat Int

/-- What an operation raises, if anything, and the state after it. -/
abbrev Outcome := Except PyError Unit × RuntimeState

/-- `RuntimeState()`. -/
def RuntimeState.initial : RuntimeState where
  inboundSeen := ∅
  completedRequestIds := ∅
  canonicalRequestsById := ∅
  terminalResultsById := ∅
  requestsById := ∅
  pendingHeap := []
  blockedByChannel := ∅
  sendResultByProviderMessage := ∅
  latestEventMsByChannel := ∅

/-- A string under a key of `data`; the parser has checked the required ones. -/
def dataString (key : String) (parsed : ParsedMessage) : String :=
  ((Items.get? key parsed.data).bind Json.str?).getD ""

/-- An object under a key of `data`. -/
def dataObject (key : String) (parsed : ParsedMessage) : JsonObject :=
  ((Items.get? key parsed.data).bind Json.obj?).getD []

/-- The task of a `send.request`. -/
def OutboundTask.ofParsed (parsed : ParsedMessage) : OutboundTask where
  seq := parsed.seq
  channelId := parsed.channelId
  principal := parsed.principal
  requestId := parsed.requestId.getD ""
  msgType := dataString "msg_type" parsed
  content := dataObject "content" parsed

/-- The terminal result of a `send.result`. -/
def TerminalResult.ofParsed (parsed : ParsedMessage) : TerminalResult where
  seq := parsed.seq
  channelId := parsed.channelId
  principal := parsed.principal
  recipients := parsed.recipients
  requestId := parsed.requestId.getD ""
  prevSeq := parsed.prevSeq
  status := dataString "status" parsed
  providerMessageId := Items.get? "provider_message_id" parsed.data

/-- `_same_send_request`. -/
def sameSendRequest (left right : OutboundTask) : Bool :=
  left.channelId == right.channelId &&
    left.principal == right.principal &&
    left.requestId == right.requestId &&
    left.msgType == right.msgType &&
    (Json.obj left.content).same (.obj right.content)

/-- Equality of what `get` returns: an absent value is `None`, as is a null. -/
def sameOptional (left right : Option Json) : Bool :=
  (left.getD .null).same (right.getD .null)

/-- `_same_send_result`. -/
def sameSendResult (left right : TerminalResult) : Bool :=
  left.channelId == right.channelId &&
    left.principal == right.principal &&
    left.recipients == right.recipients &&
    left.requestId == right.requestId &&
    left.prevSeq == right.prevSeq &&
    left.status == right.status &&
    sameOptional left.providerMessageId right.providerMessageId

/-- A provider message id that a `send.result` can be looked up by. -/
def usableMessageId (value : Option Json) : Option String :=
  match value with
  | some (.str text) => if text = "" then none else some text
  | _ => none

namespace RuntimeState

variable (state : RuntimeState)

/-- Raise without changing the state. -/
def conflict (message : String) : Outcome :=
  (.error (.raised .stateConflictError message), state)

/-! ## The pending heap -/

/-- The order of the heap entries. -/
def HeapLE (left right : Nat × String) : Prop :=
  left.1 < right.1 ∨ left.1 = right.1 ∧ left.2 ≤ right.2

instance : DecidableRel HeapLE := fun _ _ =>
  inferInstanceAs (Decidable (_ ∨ _))

/-- `heapq.heappush`. -/
def heappush (heap : List (Nat × String)) (item : Nat × String) :
    List (Nat × String) :=
  heap.orderedInsert HeapLE item

/-- Push the deferred entries back. -/
def heappushAll (heap deferred : List (Nat × String)) :
    List (Nat × String) :=
  deferred.foldl heappush heap

/-! ## Requests -/

/-- `add_send_request`. -/
def addSendRequest (parsed : ParsedMessage) : Outcome :=
  let task := OutboundTask.ofParsed parsed
  match state.canonicalRequestsById.get? task.requestId with
  | some existing =>
      if sameSendRequest existing task then
        (.ok (), state)
      else
        state.conflict
          s!"conflicting send.request messages for request_id {task.requestId}"
  | none =>
      let state := { state with
        canonicalRequestsById :=
          state.canonicalRequestsById.set task.requestId task }
      if task.requestId ∈ state.completedRequestIds then
        (.ok (), state)
      else
        (.ok (), { state with
          requestsById := state.requestsById.set task.requestId task
          pendingHeap :=
            heappush state.pendingHeap (task.seq, task.requestId) })

/-- The loop of `next_pending_task` over the popped entries. -/
def takePending (deferred : List (Nat × String)) :
    List (Nat × String) → Option OutboundTask × RuntimeState
  | [] => (none, { state with pendingHeap := heappushAll [] deferred })
  | (seq, requestId) :: heap =>
      match state.requestsById.get? requestId with
      | none => takePending deferred heap
      | some task =>
          if task.seq ≠ seq ∨ requestId ∈ state.completedRequestIds then
            takePending deferred heap
          else if ∃ blocked,
              state.blockedByChannel.get? task.channelId = some blocked ∧
                blocked ≠ requestId then
            takePending (deferred ++ [(seq, requestId)]) heap
          else
            (some task, { state with
              blockedByChannel :=
                state.blockedByChannel.set task.channelId requestId
              pendingHeap := heappushAll heap deferred })

/-- `next_pending_task`. -/
def nextPendingTask : Option OutboundTask × RuntimeState :=
  state.takePending [] state.pendingHeap

/-- `channel_has_pending`. -/
def channelHasPending (channelId : Nat) : Bool :=
  state.requestsById.values.any fun task => task.channelId == channelId

/-- `_unblock_channel`. -/
def unblockChannel (channelId : Nat) (requestId : String) : RuntimeState :=
  if state.blockedByChannel.get? channelId = some requestId then
    { state with blockedByChannel := state.blockedByChannel.erase channelId }
  else
    state

/-! ## Results -/

/-- `mark_send_result_success`. -/
def markSendResultSuccess (task : OutboundTask)
    (provider sessionId providerMessageId : String) (seq : Nat) :
    RuntimeState :=
  let state := { state with
    completedRequestIds := insert task.requestId state.completedRequestIds
    requestsById := state.requestsById.erase task.requestId }
  let state := state.unblockChannel task.channelId task.requestId
  { state with
    sendResultByProviderMessage := state.sendResultByProviderMessage.set
      { provider, sessionId, channelId := task.channelId, providerMessageId }
      seq }

/-- The changes of `add_send_result` after its checks. -/
def storeSendResult (parsed : ParsedMessage) (task : OutboundTask)
    (provider sessionId : String) : RuntimeState :=
  let result := TerminalResult.ofParsed parsed
  let state := { state with
    completedRequestIds := insert result.requestId state.completedRequestIds
    terminalResultsById :=
      state.terminalResultsById.set result.requestId result
    requestsById := state.requestsById.erase result.requestId }
  let state := state.unblockChannel task.channelId task.requestId
  if result.status ≠ "SUCCESS" then
    state
  else
    match usableMessageId result.providerMessageId with
    | none => state
    | some providerMessageId =>
        { state with
          sendResultByProviderMessage := state.sendResultByProviderMessage.set
            { provider, sessionId, channelId := parsed.channelId,
              providerMessageId }
            parsed.seq }

/-- `add_send_result`. -/
def addSendResult (parsed : ParsedMessage) (provider sessionId : String) :
    Outcome :=
  let result := TerminalResult.ofParsed parsed
  match state.terminalResultsById.get? result.requestId with
  | some existing =>
      if sameSendResult existing result then
        (.ok (), state)
      else
        state.conflict
          s!"conflicting send.result messages for request_id {result.requestId}"
  | none =>
      match state.canonicalRequestsById.get? result.requestId with
      | none => state.conflict
          s!"send.result has no preceding send.request: {result.requestId}"
      | some task =>
          if parsed.prevSeq ≠ some task.seq then
            state.conflict
              s!"send.result prev_seq does not match send.request: {result.requestId}"
          else if parsed.channelId ≠ task.channelId then
            state.conflict
              s!"send.result channel does not match send.request: {result.requestId}"
          else if parsed.recipients ≠ [task.principal] then
            state.conflict
              s!"send.result recipients do not match send.request: {result.requestId}"
          else
            (.ok (), state.storeSendResult parsed task provider sessionId)

/-! ## Records -/

/-- `_record_event_ms`. -/
def recordEventMs (channelId : Nat) (eventMs : Int) : RuntimeState :=
  match state.latestEventMsByChannel.get? channelId with
  | some current =>
      if eventMs > current then
        { state with latestEventMsByChannel :=
            state.latestEventMsByChannel.set channelId eventMs }
      else
        state
  | none =>
      { state with latestEventMsByChannel :=
          state.latestEventMsByChannel.set channelId eventMs }

/-- `mark_sync_record`. -/
def markSyncRecord (key : InboundKey) (channelId : Nat) (eventMs : Int) :
    RuntimeState :=
  { state with inboundSeen := insert key state.inboundSeen }.recordEventMs
    channelId eventMs

/-- The key of a `sync.record`. -/
def syncRecordKey (parsed : ParsedMessage) (provider sessionId : String) :
    InboundKey where
  provider := provider
  sessionId := sessionId
  channelId := parsed.channelId
  providerMessageId := dataString "provider_message_id" parsed

/-- `add_sync_record`. -/
def addSyncRecord (parsed : ParsedMessage) (provider sessionId : String) :
    Outcome :=
  let key := syncRecordKey parsed provider sessionId
  match state.sendResultByProviderMessage.get? key with
  | some expected =>
      if parsed.prevSeq ≠ some expected then
        state.conflict
          s!"sync.record prev_seq does not match send.result: {key.providerMessageId}"
      else
        (.ok (), state.markSyncRecord key parsed.channelId parsed.eventMs)
  | none =>
      if parsed.prevSeq ≠ none then
        state.conflict
          s!"sync.record prev_seq has no matching send.result: {key.providerMessageId}"
      else
        (.ok (), state.markSyncRecord key parsed.channelId parsed.eventMs)

/-- `latest_event_ms`. -/
def latestEventMs (channelId : Nat) : Option Int :=
  state.latestEventMsByChannel.get? channelId

/-! ## What the operations leave unchanged -/

/-- The two states differ in the blocked channels and the heap only. -/
structure SameRecords (left right : RuntimeState) : Prop where
  inboundSeen : left.inboundSeen = right.inboundSeen
  completedRequestIds : left.completedRequestIds = right.completedRequestIds
  canonicalRequestsById :
    left.canonicalRequestsById = right.canonicalRequestsById
  terminalResultsById : left.terminalResultsById = right.terminalResultsById
  requestsById : left.requestsById = right.requestsById
  sendResultByProviderMessage :
    left.sendResultByProviderMessage = right.sendResultByProviderMessage
  latestEventMsByChannel :
    left.latestEventMsByChannel = right.latestEventMsByChannel

theorem sameRecords_unblockChannel (channelId : Nat) (requestId : String) :
    SameRecords (state.unblockChannel channelId requestId) state := by
  unfold unblockChannel
  split_ifs
  · exact ⟨rfl, rfl, rfl, rfl, rfl, rfl, rfl⟩
  · exact ⟨rfl, rfl, rfl, rfl, rfl, rfl, rfl⟩

/-- The task taken from the heap is a pending one, under its own id. -/
theorem takePending_spec (deferred heap : List (Nat × String)) :
    SameRecords (state.takePending deferred heap).2 state ∧
      ∀ task, (state.takePending deferred heap).1 = some task →
        ∃ requestId, state.requestsById.get? requestId = some task ∧
          requestId ∉ state.completedRequestIds := by
  induction heap generalizing deferred with
  | nil =>
      refine ⟨⟨rfl, rfl, rfl, rfl, rfl, rfl, rfl⟩, ?_⟩
      rintro task ⟨⟩
  | cons item heap ih =>
      obtain ⟨seq, requestId⟩ := item
      rw [takePending]
      cases found : state.requestsById.get? requestId with
      | none => exact ih deferred
      | some task =>
          simp only
          split_ifs with stale blocked
          · exact ih deferred
          · exact ih _
          · refine ⟨⟨rfl, rfl, rfl, rfl, rfl, rfl, rfl⟩, ?_⟩
            rintro other ⟨⟩
            rw [not_or] at stale
            exact ⟨requestId, found, stale.2⟩

theorem nextPendingTask_spec :
    SameRecords state.nextPendingTask.2 state ∧
      ∀ task, state.nextPendingTask.1 = some task →
        ∃ requestId, state.requestsById.get? requestId = some task ∧
          requestId ∉ state.completedRequestIds :=
  state.takePending_spec [] state.pendingHeap

theorem terminalResultsById_addSendRequest (parsed : ParsedMessage) :
    (state.addSendRequest parsed).2.terminalResultsById =
      state.terminalResultsById := by
  simp only [addSendRequest]
  split
  · split_ifs
    · rfl
    · rfl
  · split_ifs
    · rfl
    · rfl

theorem terminalResultsById_storeSendResult (parsed : ParsedMessage)
    (task : OutboundTask) (provider sessionId : String) :
    (state.storeSendResult parsed task provider sessionId).terminalResultsById =
      state.terminalResultsById.set (TerminalResult.ofParsed parsed).requestId
        (.ofParsed parsed) := by
  have unblocked := fun state : RuntimeState =>
    (state.sameRecords_unblockChannel task.channelId
      task.requestId).terminalResultsById
  simp only [storeSendResult]
  split_ifs
  · exact unblocked _
  · split
    · exact unblocked _
    · exact unblocked _

theorem terminalResultsById_markSyncRecord (key : InboundKey)
    (channelId : Nat) (eventMs : Int) :
    (state.markSyncRecord key channelId eventMs).terminalResultsById =
      state.terminalResultsById := by
  unfold markSyncRecord recordEventMs
  split
  · split_ifs
    · rfl
    · rfl
  · rfl

theorem channelHasPending_eq_false_iff {channelId : Nat} :
    state.channelHasPending channelId = false ↔
      ∀ requestId task, state.requestsById.get? requestId = some task →
        task.channelId ≠ channelId := by
  rw [channelHasPending, List.any_eq_false]
  constructor
  · intro none requestId task found same
    have member : task ∈ state.requestsById.values :=
      Dict.mem_values_iff.mpr ⟨requestId, found⟩
    exact none task member (by simp [same])
  · intro none task member
    obtain ⟨requestId, found⟩ := Dict.mem_values_iff.mp member
    simpa using none requestId task found

end RuntimeState

end OpenEventIm.Syncer.State
