import OpenEventIm.Service.World
import OpenEventIm.Syncer.HistoryReplay

/-!
# Reading the OpenEvent log

`_scan_history` reads the log up to the number that `GetStatus` returned,
`_poll_events` reads what comes after it.  What is done with a message, and with
a tick, is a parameter of the two loops; what they hold in between is of any
type.

The poll loop is cut where it reaches the tick, so that a loop state is either
about to fetch or about to tick.
-/

namespace OpenEventIm.Syncer.PollEvents

open OpenEventIm.Foundation
open OpenEventIm.Foundation.Interaction
open OpenEventIm.Sdk.Errors
open OpenEventIm.Service.Calls
open OpenEventIm.Service.World
open OpenEventIm.Syncer.HistoryReplay

/-! ## The loops -/

/-- What the worker does while it reads the log. -/
structure Handlers (Held : Type) where
  history : Held → Message → Except PyError Held
  /-- What `start` does between the history and the live messages. -/
  launch : Held → Action Held
  live : Held → Message → Except PyError Held
  tick : Held → Action Held

/-- `_is_transient_fetch_error`. -/
def isTransientFetchError (error : PyError) : Bool :=
  rpcStatusCode error == some .unavailable ||
    rpcStatusCode error == some .deadlineExceeded

/-- `_validated_next_seq`. -/
def validatedNextSeq (response : FetchResponse) (fromSeq : Nat) :
    Except PyError Nat :=
  if response.nextSeq ≤ response.lastSeq ∧ response.nextSeq ≤ fromSeq then
    .error (.raised .runtimeError "Fetch did not advance next_seq")
  else
    .ok response.nextSeq

/-- Where the poll loop stands. -/
inductive PollPoint where
  | polling
  | ticking
deriving DecidableEq

/-- The variables of `_poll_events`. -/
structure PollVars (Held : Type) where
  point : PollPoint
  nextSeq : Nat
  snapshotLastSeq : Option Nat
  snapshotHadMessages : Bool
  prefetchedMessages : List Message
  prefetchedLastSeq : Option Nat
  held : Held

variable {Held : Type} (syncer : P2PSyncer) (handlers : Handlers Held)

/-- The `while` loop of `_scan_history`. -/
def scanFrom (scanEndSeq : Nat) (held : Held) (fromSeq : Nat) : Action Held :=
  if fromSeq ≤ scanEndSeq then do
    if ← stopIsSet then
      throw (.raised .syncerStopped "syncer stopped during history scan")
    else do
      let response ← fetch syncer.config.worker.principal
        syncer.config.worker.token fromSeq syncer.mapping.channelIds
      let held ← Action.ofExcept
        ((response.messages.filter (·.seq ≤ scanEndSeq)).foldlM
          handlers.history held)
      if response.nextSeq ≤ fromSeq then
        throw (.raised .runtimeError
          "Fetch did not advance next_seq during history scan")
      else
        scanFrom scanEndSeq held response.nextSeq
  else
    return held
termination_by scanEndSeq + 1 - fromSeq

/-- `_scan_history`. -/
def scanHistory (held : Held) : Action (Nat × Held) := do
  let status ← getStatus syncer.config.worker.principal
    syncer.config.worker.token
  if status.maxSeq = 0 then
    return (0, held)
  else do
    let held ← scanFrom syncer handlers status.maxSeq held 1
    return (status.maxSeq, held)

/-- The variables with which `_poll_events` starts. -/
def PollVars.start (fromSeq : Nat) (held : Held) : PollVars Held where
  point := .polling
  nextSeq := fromSeq
  snapshotLastSeq := none
  snapshotHadMessages := false
  prefetchedMessages := []
  prefetchedLastSeq := none
  held := held

/-- The test after the messages: `continue`, or go on to the tick. -/
def PollVars.settle (vars : PollVars Held) (snapshotLastSeq : Nat) :
    PollVars Held :=
  { vars with
    snapshotLastSeq := some snapshotLastSeq
    point := if vars.nextSeq ≤ snapshotLastSeq then .polling else .ticking }

/-- The branch that turns the prefetched messages into a snapshot. -/
def takePrefetched (vars : PollVars Held) (lastSeq : Nat) :
    Except PyError (PollVars Held) := do
  let held ← vars.prefetchedMessages.foldlM handlers.live vars.held
  return { vars with
    held
    snapshotHadMessages := !vars.prefetchedMessages.isEmpty
    prefetchedMessages := []
    prefetchedLastSeq := none }.settle lastSeq

/-- The messages of a page up to the snapshot, and the later ones. -/
def splitPage (snapshotLastSeq : Nat) (messages : List Message) :
    List Message × List Message :=
  (messages.filter (·.seq ≤ snapshotLastSeq),
    messages.filter (snapshotLastSeq < ·.seq))

/-- The branch that has fetched a page. -/
def takePage (vars : PollVars Held) (response : FetchResponse) :
    Except PyError (PollVars Held) := do
  let snapshotLastSeq := vars.snapshotLastSeq.getD response.lastSeq
  let page := splitPage snapshotLastSeq response.messages
  let prefetched := vars.prefetchedMessages ++ page.2
  let held ← page.1.foldlM handlers.live vars.held
  let nextSeq ← validatedNextSeq response vars.nextSeq
  return { vars with
    held, nextSeq
    prefetchedMessages := prefetched
    prefetchedLastSeq :=
      if prefetched.isEmpty then
        vars.prefetchedLastSeq
      else
        some (max (vars.prefetchedLastSeq.getD 0) response.lastSeq)
    snapshotHadMessages :=
      vars.snapshotHadMessages || !page.1.isEmpty }.settle snapshotLastSeq

/-- The branch of the loop body that fetches. -/
def fetchLive (vars : PollVars Held) : Action (PollVars Held ⊕ Unit) :=
  .call (.fetch syncer.config.worker.principal syncer.config.worker.token
      vars.nextSeq 1000 false syncer.mapping.channelIds) fun
    | .error exc => do
        if ← stopIsSet then
          return .inr ()
        else if !isTransientFetchError exc then
          throw (.raisedFrom .fatalSyncerError
            s!"OpenEvent Fetch failed permanently at next_seq={vars.nextSeq}"
            exc)
        else do
          let _ ← stopWait syncer.config.retry.idleSleepMs
          return .inl vars
    | .ok response => do
        let vars ← Action.ofExcept (takePage handlers vars response)
        return .inl vars

/-- The body of the `while` loop up to the tick. -/
def pollOnce (vars : PollVars Held) : Action (PollVars Held ⊕ Unit) := do
  if ← stopIsSet then
    return .inr ()
  else
    match vars.snapshotLastSeq, vars.prefetchedLastSeq with
    | none, some lastSeq => do
        let vars ← Action.ofExcept (takePrefetched handlers vars lastSeq)
        return .inl vars
    | _, _ => fetchLive syncer handlers vars

/-- The variables after a tick. -/
def PollVars.reset (vars : PollVars Held) (held : Held) : PollVars Held :=
  { vars with
    point := .polling
    snapshotLastSeq := none
    snapshotHadMessages := false
    held }

/-- The body of the `while` loop from the tick on. -/
def tickOnce (vars : PollVars Held) : Action (PollVars Held ⊕ Unit) := do
  let held ← handlers.tick vars.held
  if vars.snapshotHadMessages then
    return .inl (vars.reset held)
  else do
    let _ ← stopWait syncer.config.retry.idleSleepMs
    return .inl (vars.reset held)

/-- The body of the `while` loop of `_poll_events`. -/
def pollBody (vars : PollVars Held) : Action (PollVars Held ⊕ Unit) :=
  match vars.point with
  | .polling => pollOnce syncer handlers vars
  | .ticking => tickOnce syncer handlers vars

/-- `start` up to the poll loop. -/
def boot (held : Held) : Action (PollVars Held) := do
  let (scanEndSeq, held) ← scanHistory syncer handlers held
  let held ← handlers.launch held
  return .start (scanEndSeq + 1) held

/-! ## Messages of selected channels -/

/-- The messages of the selected channels in a range of numbers. -/
def messagesIn (channels : List Nat) (log : Log) (low high : Nat) :
    List Message :=
  ((log.range low high).map LogEntry.message).filter
    fun message => message.channelId ∈ channels

section Messages

variable {channels : List Nat} {log old new : Log} {low mid high : Nat}
  {message : Message}

theorem mem_messagesIn :
    message ∈ messagesIn channels log low high ↔
      (∃ own, ⟨message, own⟩ ∈ log.entries) ∧ low ≤ message.seq ∧
        message.seq < high ∧ message.channelId ∈ channels := by
  simp only [messagesIn, List.mem_filter, List.mem_map,
    SequencedLog.mem_range, decide_eq_true_eq]
  constructor
  · rintro ⟨⟨⟨message, own⟩, ⟨member, isLow, isHigh⟩, rfl⟩, selected⟩
    exact ⟨⟨own, member⟩, isLow, isHigh, selected⟩
  · rintro ⟨⟨own, member⟩, isLow, isHigh, selected⟩
    exact ⟨⟨⟨message, own⟩, ⟨member, isLow, isHigh⟩, rfl⟩, selected⟩

/-- The messages come in increasing number, so none comes twice. -/
theorem messagesIn_increasing :
    (messagesIn channels log low high).Pairwise
      fun left right => left.seq < right.seq := by
  apply List.Pairwise.filter
  rw [List.pairwise_map]
  exact List.Pairwise.filter _ log.increasing

theorem messagesIn_append (first : low ≤ mid) (second : mid ≤ high) :
    messagesIn channels log low mid ++ messagesIn channels log mid high =
      messagesIn channels log low high := by
  rw [messagesIn, messagesIn, messagesIn, ← List.filter_append,
    ← List.map_append, SequencedLog.range_append first second]

/-- A range below the frontier is final. -/
theorem messagesIn_final (grown : old.Extends new)
    (final : high ≤ old.frontier) :
    messagesIn channels new low high = messagesIn channels old low high := by
  rw [messagesIn, grown.range_eq final, messagesIn]

theorem messagesIn_eq_nil
    (none : ∀ message ∈ messagesIn channels log low high, False) :
    messagesIn channels log low high = [] :=
  List.eq_nil_iff_forall_not_mem.mpr none

theorem messagesIn_empty (reversed : high ≤ low) :
    messagesIn channels log low high = [] := by
  apply messagesIn_eq_nil
  intro message member
  have inRange := mem_messagesIn.mp member
  exact absurd (inRange.2.1.trans_lt inRange.2.2.1) (Nat.not_lt.mpr reversed)

/-- The messages of a range up to a number. -/
theorem filter_messagesIn_le {last : Nat} :
    (messagesIn channels log low high).filter (·.seq ≤ last) =
      messagesIn channels log low (min high (last + 1)) := by
  rw [messagesIn, messagesIn, List.filter_filter, SequencedLog.range,
    SequencedLog.range, ← List.filterMap_eq_map, List.filter_filterMap,
    List.filter_filterMap]
  simp only [List.filterMap_filter]
  apply List.filterMap_congr
  intro entry _
  simp only [Function.comp_apply, Option.filter_some, decide_eq_true_eq,
    Bool.and_eq_true]
  grind

/-- The messages of a range after a number. -/
theorem filter_messagesIn_lt {last : Nat} :
    (messagesIn channels log low high).filter (last < ·.seq) =
      messagesIn channels log (max low (last + 1)) high := by
  rw [messagesIn, messagesIn, List.filter_filter, SequencedLog.range,
    SequencedLog.range, ← List.filterMap_eq_map, List.filter_filterMap,
    List.filter_filterMap]
  simp only [List.filterMap_filter]
  apply List.filterMap_congr
  intro entry _
  simp only [Function.comp_apply, Option.filter_some, decide_eq_true_eq,
    Bool.and_eq_true]
  grind

/-- An honest page holds the messages of its range. -/
theorem messages_of_honestPage {fromSeq : Nat} {response : FetchResponse}
    (honest : HonestPage log fromSeq channels response) :
    response.messages =
      messagesIn channels log fromSeq response.nextSeq :=
  honest.messages

/-- A page stays honest when its range is reserved. -/
theorem honestPage_of_reserves {fromSeq : Nat} {response : FetchResponse}
    (honest : HonestPage old fromSeq channels response)
    (reserves : old.Reserves response.nextSeq new) :
    HonestPage new fromSeq channels response := by
  have sameLast : new.last = old.last := by
    rw [SequencedLog.last, reserves.2.1, SequencedLog.last]
  have sameRange : ∀ low high, new.range low high = old.range low high := by
    intro low high
    rw [SequencedLog.range, reserves.2.1, SequencedLog.range]
  exact {
    lastSeq := by rw [sameLast]; exact honest.lastSeq
    messages := by rw [sameRange]; exact honest.messages
    advances := by rw [sameLast]; exact honest.advances
    atTail := by rw [sameLast]; exact honest.atTail }

theorem le_nextSeq_of_honestPage {fromSeq : Nat} {response : FetchResponse}
    (honest : HonestPage log fromSeq channels response) :
    fromSeq ≤ response.nextSeq := by
  rcases Nat.lt_or_ge log.last fromSeq with beyond | within
  · exact (honest.atTail beyond).ge
  · exact (honest.advances within).le

theorem seq_le_last (member : message ∈ messagesIn channels log low high) :
    message.seq ≤ log.last := by
  obtain ⟨⟨own, inside⟩, -⟩ := mem_messagesIn.mp member
  exact SequencedLog.number_le_last inside

end Messages

end OpenEventIm.Syncer.PollEvents
