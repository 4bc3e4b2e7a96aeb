import OpenEventIm.Syncer.ChannelOrder
import OpenEventIm.Syncer.TickFairness

/-!
# Every request is answered

A process that polls the log reads each request after at most two ticks whose
snapshots are older, and from then on the request waits in memory for the ones
before it.  So the ticks of the process answer every request of the log, and how
many of them that takes can be read off the log.
-/

namespace OpenEventIm.Syncer.RequestLiveness

open OpenEventIm.Foundation
open OpenEventIm.Foundation.Interaction
open OpenEventIm.Foundation.LabelledPaths
open OpenEventIm.Foundation.BoundedWaiting
open OpenEventIm.Sdk.Errors
open OpenEventIm.Sdk.Codec
open OpenEventIm.Sdk.MessageReading
open OpenEventIm.Service.Calls
open OpenEventIm.Service.World
open OpenEventIm.Service.Scenes
open OpenEventIm.Syncer.Models
open OpenEventIm.Syncer.State
open OpenEventIm.Syncer.LogMeaning
open OpenEventIm.Syncer.StartupCut
open OpenEventIm.Syncer.HistoryReplay
open OpenEventIm.Syncer.PendingQueue
open OpenEventIm.Syncer.PollEvents
open OpenEventIm.Syncer.LogReading
open OpenEventIm.Syncer.Processor
open OpenEventIm.Syncer.Processor.SingleThreadProcessor
open OpenEventIm.Syncer.TickOutcomes
open OpenEventIm.Syncer.TickRuns
open OpenEventIm.Syncer.Worker
open OpenEventIm.Syncer.WrittenLog
open OpenEventIm.Syncer.WorkerLedger
open OpenEventIm.Syncer.WorkerMemory
open OpenEventIm.Syncer.WorkerCalls
open OpenEventIm.Syncer.WorkerTicks
open OpenEventIm.Syncer.WorkerRuns
open OpenEventIm.Syncer.ChannelOrder
open OpenEventIm.Syncer.TickFairness

variable {setting : Setting} {deployed : P2PSyncer → Prop}
  {syncer : P2PSyncer} {handed : List Message} {task other : OutboundTask}

/-! ## Open requests of the log -/

section Log

variable {old new log : Log} {cut : Nat} {requestId : String}

/-- The ids that have been requested before the task and have no result. -/
def openBefore (syncer : P2PSyncer) (entries : List LogEntry)
    (task : OutboundTask) : Finset String :=
  (((logRequests syncer entries).filter (·.seq < task.seq)).map
    (·.requestId)).toFinset.filter fun requestId =>
      (firstResult (logFacts syncer entries) requestId).isNone

theorem mem_openBefore {entries : List LogEntry} :
    requestId ∈ openBefore syncer entries task ↔
      (∃ other ∈ logRequests syncer entries, other.seq < task.seq ∧
        other.requestId = requestId) ∧
      firstResult (logFacts syncer entries) requestId = none := by
  simp only [openBefore, Finset.mem_filter, List.mem_toFinset, List.mem_map,
    List.mem_filter, decide_eq_true_eq, Option.isNone_iff_eq_none, and_assoc]

/-- Answers stay in a log that grows. -/
theorem unanswered_of_extends (grown : old.Extends new)
    (isOpen : firstResult (logFacts syncer new.entries) requestId = none) :
    firstResult (logFacts syncer old.entries) requestId = none := by
  rcases grown.isPrefix with ⟨more, split⟩
  by_contra answered
  apply @answered_append syncer old.entries more requestId answered
  rw [split]
  exact isOpen

theorem canonical_of_extends (grown : old.Extends new)
    (canonical : firstRequest (logRequests syncer old.entries) requestId =
      some task) :
    firstRequest (logRequests syncer new.entries) requestId = some task := by
  rcases grown.isPrefix with ⟨more, split⟩
  rw [← split]
  exact canonical_append canonical

/-- What is appended to the log comes after the requests that it has. -/
theorem openBefore_subset (grown : old.Extends new)
    (known : task ∈ logRequests syncer old.entries) :
    openBefore syncer new.entries task ⊆
      openBefore syncer old.entries task := by
  intro requestId member
  rcases mem_openBefore.mp member with
    ⟨⟨other, requested, earlier, sameId⟩, isOpen⟩
  refine mem_openBefore.mpr
    ⟨⟨other, ?_, earlier, sameId⟩, unanswered_of_extends grown isOpen⟩
  have below := seq_lt_frontier known
  rcases mem_logRequests.mp requested with ⟨entry, inside, read⟩
  have numbered := (seq_of_request read).1
  have old : entry.seq < old.frontier := by
    show entry.message.seq < _
    omega
  exact mem_logRequests.mpr ⟨entry, grown.mem_of_lt inside old, read⟩

/-- The requests handed over are those below the cut. -/
theorem requestsIn_handedOver (accepted : Accepted syncer handed)
    (handedOver : HandedOver syncer.mapping.channelIds log cut handed) :
    requestsIn syncer handed = logRequests syncer (log.range 0 cut) := by
  rw [requestsIn, itemsOf_eq_filterMap accepted, handedOver.handed,
    filterMap_messagesIn]
  rfl

theorem seq_lt_of_range
    (member : task ∈ logRequests syncer (log.range 0 cut)) :
    task.seq < cut := by
  rcases mem_logRequests.mp member with ⟨entry, inside, read⟩
  rw [(seq_of_request read).1]
  exact (SequencedLog.mem_range.mp inside).2.2

/-- A canonical request of the log has been handed over if it is below the
cut. -/
theorem canonical_handedOver (accepted : Accepted syncer handed)
    (handedOver : HandedOver syncer.mapping.channelIds log cut handed)
    (canonical : firstRequest (logRequests syncer log.entries) requestId =
      some task) (below : task.seq < cut) :
    firstRequest (requestsIn syncer handed) requestId = some task := by
  have all : log.range 0 log.frontier = log.entries :=
    SequencedLog.range_frontier
  rw [requestsIn_handedOver accepted handedOver]
  rw [← all, ← SequencedLog.range_append (Nat.zero_le cut) handedOver.final,
    logRequests_append, firstRequest_append_list] at canonical
  cases known : firstRequest (logRequests syncer (log.range 0 cut))
      requestId with
  | some first =>
      rw [known, Option.some_or] at canonical
      exact canonical
  | none =>
      rw [known, Option.none_or] at canonical
      rcases mem_logRequests.mp (mem_of_firstRequest canonical) with
        ⟨entry, inside, read⟩
      have above := (SequencedLog.mem_range.mp inside).2.1
      rw [LogEntry.seq, ← (seq_of_request read).1] at above
      omega

/-- Two requests of a log with one number are one. -/
theorem eq_of_seq_eq (left : task ∈ logRequests syncer log.entries)
    (right : other ∈ logRequests syncer log.entries)
    (same : task.seq = other.seq) : task = other := by
  by_contra different
  rcases List.pairwise_iff_getElem.mp
      (@logRequests_increasing syncer log) with increasing
  rcases List.getElem_of_mem left with ⟨i, isIndex, rfl⟩
  rcases List.getElem_of_mem right with ⟨j, isOther, rfl⟩
  rcases Nat.lt_trichotomy i j with less | rfl | greater
  · exact absurd same (Nat.ne_of_lt (increasing i j isIndex isOther less))
  · exact different rfl
  · exact absurd same.symm
      (Nat.ne_of_lt (increasing j i isOther isIndex greater))

end Log

/-! ## Snapshots -/

section Snapshots

variable {Held : Type} {handlers : Handlers Held} {vars next : PollVars Held}
  {before after : WorldState setting} {seq lastSeq : Nat}
  {response : FetchResponse}

/-- The number of the loop's snapshots that end before a request. -/
def lag (seq : Nat) (vars : PollVars Held) : Nat :=
  (vars.snapshotLastSeq.any (· < seq)).toNat +
    (vars.prefetchedLastSeq.any (· < seq)).toNat

/-- How an iteration that does not tick goes on. -/
inductive ReadsOn (handlers : Handlers Held) (known : Nat)
    (vars : PollVars Held) : PollVars Held → Prop where
  | failed : ReadsOn handlers known vars vars
  | prefetched {lastSeq : Nat} {next : PollVars Held}
      (fresh : vars.snapshotLastSeq = none)
      (present : vars.prefetchedLastSeq = some lastSeq)
      (taken : takePrefetched handlers vars lastSeq = .ok next) :
      ReadsOn handlers known vars next
  | page {response : FetchResponse} {next : PollVars Held}
      (recent : known ≤ response.lastSeq)
      (taken : takePage handlers vars response = .ok next) :
      ReadsOn handlers known vars next

/-- A page that is fetched knows the last number of the log. -/
theorem runs_fetchLive
    (run : Runs (world setting) before (fetchLive syncer handlers vars) after
      (.ok (.inl next))) :
    ReadsOn handlers before.log.last vars next := by
  rcases runs_call run with
    ⟨ready, answer, fetched, evolves, answers, rest⟩
  cases answer with
  | error exc =>
      rcases runs_callBind rest with ⟨_, stopped, _, -, -, rest⟩
      rw [Program.ret_bind] at rest
      split_ifs at rest
      · cases (runs_ret.mp rest).2
      · cases (runs_fail.mp rest).2
      · rcases runs_bind rest with ⟨_, _, -, returns⟩ | ⟨_, -, same⟩
        · cases (runs_ret.mp returns).2
          exact .failed
        · cases same
  | ok response =>
      have recent : before.log.last ≤ response.lastSeq := by
        rw [(FetchAnswers.ok answers.server).1.lastSeq]
        exact (evolves_grows evolves).log.last_le
      dsimp only at rest
      cases taken : takePage handlers vars response with
      | error exc =>
          rw [taken] at rest
          cases (runs_fail.mp rest).2
      | ok taken' =>
          rw [taken] at rest
          cases (runs_ret.mp rest).2
          exact .page recent taken

theorem runs_pollOnce
    (run : Runs (world setting) before (pollOnce syncer handlers vars) after
      (.ok (.inl next))) :
    ReadsOn handlers before.log.last vars next := by
  rcases runs_callBind run with ⟨ready, stopped, asked, evolves, answers, rest⟩
  rw [Program.ret_bind] at rest
  have grown := (evolves_grows evolves).trans (Answers.grows answers)
  split_ifs at rest
  · cases (runs_ret.mp rest).2
  · split at rest
    · rename_i lastSeq fresh present
      cases taken : takePrefetched handlers vars lastSeq with
      | error exc =>
          rw [taken] at rest
          cases (runs_fail.mp rest).2
      | ok taken' =>
          rw [taken] at rest
          cases (runs_ret.mp rest).2
          exact .prefetched fresh present taken
    · cases runs_fetchLive rest with
      | failed => exact .failed
      | prefetched fresh present taken =>
          exact .prefetched fresh present taken
      | page recent taken => exact .page (grown.log.last_le.trans recent) taken

/-- No snapshot becomes older than it was. -/
theorem ReadsOn.lag_le (reads : ReadsOn handlers lastSeq vars next)
    (known : seq ≤ lastSeq) : lag seq next ≤ lag seq vars := by
  rcases reads with - | @⟨lastSeq, _, fresh, present, taken⟩ |
    @⟨response, _, recent, taken⟩
  · exact le_rfl
  · rw [takePrefetched, Checked.bind_eq_ok_iff] at taken
    rcases taken with ⟨held, -, returned⟩
    cases returned
    simp only [lag, PollVars.settle, fresh, present]
    simp
  · have recentEnough : ¬response.lastSeq < seq := by omega
    simp only [takePage, Checked.bind_eq_ok_iff] at taken
    rcases taken with ⟨held, -, nextSeq, -, returned⟩
    cases returned
    simp only [lag, PollVars.settle]
    apply Nat.add_le_add
    · cases vars.snapshotLastSeq with
      | none => simp [recentEnough]
      | some other => exact le_rfl
    · split_ifs
      · exact le_rfl
      · simp [recentEnough]

theorem ReadsOn.live (reads : ReadsOn handlers lastSeq vars next) :
    ∃ messages : List Message,
      messages.foldlM handlers.live vars.held = .ok next.held := by
  rcases reads with - | ⟨-, -, taken⟩ | ⟨-, taken⟩
  · exact ⟨[], rfl⟩
  · rw [takePrefetched, Checked.bind_eq_ok_iff] at taken
    rcases taken with ⟨held, processed, returned⟩
    cases returned
    exact ⟨_, processed⟩
  · simp only [takePage, Checked.bind_eq_ok_iff] at taken
    rcases taken with ⟨held, processed, nextSeq, -, returned⟩
    cases returned
    exact ⟨_, processed⟩

end Snapshots

/-! ## Ticks -/

section Ticks

variable {state later : RuntimeState} {taken : OutboundTask}
  {processor collected next : SingleThreadProcessor} {worked : Bool}
  {before middle after : WorldState setting} {requestId : String}
  {lastSeq : Nat}

/-- A canonical request that was handed over and has no result is pending. -/
theorem Knows.pending
    (knows : Knows setting deployed syncer handed state before)
    (canonical : firstRequest (requestsIn syncer handed) requestId = some task)
    (isOpen : firstResult (logFacts syncer before.log.entries) requestId =
      none) : state.requestsById.get? requestId = some task := by
  rcases knows.memory with ⟨facts, remembers⟩
  rw [remembers.reflects.pending, remembers.results, isOpen]
  exact canonical

/-- A request that is no longer pending has a result. -/
theorem Knows.answered
    (knows : Knows setting deployed syncer handed later after)
    (canonical : firstRequest (requestsIn syncer handed) requestId = some task)
    (gone : later.requestsById.get? requestId = none) :
    firstResult (logFacts syncer after.log.entries) requestId ≠ none := by
  intro isOpen
  rw [Knows.pending knows canonical isOpen] at gone
  cases gone

/-- While a request is pending, the search for the next one succeeds. -/
theorem Knows.selects
    (knows : Knows setting deployed syncer handed state before)
    (pending : state.requestsById.get? requestId = some task) :
    state.nextPendingTask.1 ≠ none := by
  rcases knows.memory with ⟨facts, remembers⟩
  intro none
  rw [remembers.resting.pending_empty none] at pending
  cases pending

/-- The request that a tick takes comes before any other open one, whether that
one has been handed over or not. -/
theorem Knows.taken_earlier
    (knows : Knows setting deployed syncer handed state before)
    (handedOver : HandedOver syncer.mapping.channelIds before.log (lastSeq + 1)
      handed)
    (canonical : firstRequest (logRequests syncer before.log.entries)
      task.requestId = some task)
    (isOpen : firstResult (logFacts syncer before.log.entries)
      task.requestId = none)
    (selected : state.nextPendingTask.1 = some taken)
    (different : taken.requestId ≠ task.requestId) : taken.seq < task.seq := by
  have isTaken := mem_of_firstRequest (knows.selected_handed selected)
  rw [requestsIn_handedOver knows.accepted handedOver] at isTaken
  have low := seq_lt_of_range isTaken
  rcases Nat.lt_or_ge lastSeq task.seq with unread | read
  · omega
  · have pending := Knows.pending knows (canonical_handedOver knows.accepted
      handedOver canonical (Nat.lt_succ_of_le read)) isOpen
    rcases knows.memory with ⟨facts, remembers⟩
    rcases remembers.resting.linked.selects.first taken selected with
      ⟨-, earliest, -⟩
    rcases earliest task ⟨pending, remembers.resting.free _⟩ with
      less | ⟨same, -⟩
    · exact less
    · apply absurd _ different
      have due := (Knows.due knows selected).canonical
      rw [eq_of_seq_eq (mem_of_firstRequest due)
        (mem_of_firstRequest canonical) same]

/-- The request that a tick has taken was open, and comes before the task. -/
theorem card_openBefore_lt
    (knows : Knows setting deployed syncer handed state before)
    (handedOver : HandedOver syncer.mapping.channelIds before.log (lastSeq + 1)
      handed)
    (canonical : firstRequest (logRequests syncer before.log.entries)
      task.requestId = some task)
    (grown : before.log.Extends after.log)
    (isOpen : firstResult (logFacts syncer after.log.entries)
      task.requestId = none)
    (selected : state.nextPendingTask.1 = some taken)
    (answered : firstResult (logFacts syncer after.log.entries)
      taken.requestId ≠ none) :
    (openBefore syncer after.log.entries task).card <
      (openBefore syncer before.log.entries task).card := by
  have due := Knows.due knows selected
  have different : taken.requestId ≠ task.requestId := by
    intro same
    rw [same] at answered
    exact answered isOpen
  apply Finset.card_lt_card
  refine ⟨openBefore_subset grown (mem_of_firstRequest canonical), ?_⟩
  intro subset
  have earlier := Knows.taken_earlier knows handedOver canonical
    (unanswered_of_extends grown isOpen) selected different
  have gone := subset (mem_openBefore.mpr
    ⟨⟨taken, mem_of_firstRequest due.canonical, earlier, rfl⟩, due.isOpen⟩)
  exact answered (mem_openBefore.mp gone).2

theorem Collects.keeps
    (collects : Collects setting processor before collected middle) :
    collected.state = processor.state ∧
      collected.workTurn = processor.workTurn := by
  rcases collects.run with ⟨ready, started, -, -, run⟩
  have keeps : (collectProviderMessages processor).Yields fun collected =>
      collected.state = processor.state ∧
        collected.workTurn = processor.workTurn := by
    rw [collectProviderMessages]
    exact (yields_trivial _).bind fun _ _ => ⟨rfl, rfl⟩
  exact keeps.runs run

/-- A tick answers the task or a request before it, or gives the turn to the
requests, or finds that the task has not been read. -/
theorem tick_nearer (sole : SoleWriter setting syncer.text .sendResult)
    (deploys : deployed syncer)
    (knows : Knows setting deployed syncer handed processor.state before)
    (handedOver : HandedOver syncer.mapping.channelIds before.log (lastSeq + 1)
      handed)
    (canonical : firstRequest (logRequests syncer before.log.entries)
      task.requestId = some task)
    (run : Runs (world setting) before (tick syncer processor) after
      (.ok (worked, next)))
    (unstopped : Unstopped before after)
    (isOpen : firstResult (logFacts syncer after.log.entries)
      task.requestId = none) :
    2 * (openBefore syncer after.log.entries task).card + next.workTurn % 2 +
        (decide (task.seq ≤ lastSeq)).toNat ≤
      2 * (openBefore syncer before.log.entries task).card +
        processor.workTurn % 2 := by
  have grown := (runs_grows run).log
  have fewer : (openBefore syncer after.log.entries task).card ≤ _ :=
    Finset.card_le_card
      (openBefore_subset grown (mem_of_firstRequest canonical))
  -- a request that has been read is found by every search
  have unread (none : processor.state.nextPendingTask.1 = none) :
      ¬task.seq ≤ lastSeq := by
    intro read
    refine Knows.selects knows (Knows.pending knows
      (canonical_handedOver knows.accepted handedOver canonical
        (Nat.lt_succ_of_le read)) (unanswered_of_extends grown isOpen)) none
  have after := ((safe_tick sole deploys knows).runs_ok run).2
  rcases collects_of_tick run unstopped with
    ⟨collected, middle, collects, turned⟩
  rcases Collects.keeps collects with ⟨sameState, sameTurn⟩
  rw [← sameState] at unread
  rw [← sameTurn]
  rcases turned with @⟨taken, state, _, -, sent⟩ | ⟨had, -⟩ | ⟨none, -⟩ |
    ⟨works⟩
  · have selected := sent.selected
    rw [sameState] at selected
    have gone : state.requestsById.get? taken.requestId = none := by
      rw [(inboundSeen_sentRequest sent).2, Dict.get?_erase, if_pos rfl]
    have answered := Knows.answered after (knows.selected_handed selected) gone
    have less := card_openBefore_lt knows handedOver canonical grown isOpen
      selected answered
    have := Bool.toNat_le (decide (task.seq ≤ lastSeq))
    dsimp only
    omega
  · have := Bool.toNat_le (decide (task.seq ≤ lastSeq))
    dsimp only
    omega
  · rw [decide_eq_false (unread none), Bool.toNat_false]
    dsimp only
    omega
  · rcases works with - | - | - | ⟨none, -⟩
    rw [decide_eq_false (unread none), Bool.toNat_false]
    dsimp only [searched]
    omega

end Ticks

/-! ## The poll loop -/

section Loop

/-- The variables of a poll loop, and the world around it. -/
abbrev PollMoment (setting : Setting) : Type :=
  PollVars SingleThreadProcessor × WorldState setting

/-- The iterations of the poll loop that do not end it: those that read the log,
and ticks that find no stop requested. -/
inductive Iterates (setting : Setting) (syncer : P2PSyncer) :
    PollMoment setting → Turn → PollMoment setting → Prop where
  | reads {vars next before after} (point : vars.point = .polling)
      (run : Runs (world setting) before ((Stage.polling vars).program syncer)
        after (.ok (some (.polling next)))) :
      Iterates setting syncer (vars, before) .other (next, after)
  | ticks {vars next before after} (point : vars.point = .ticking)
      (run : Runs (world setting) before ((Stage.polling vars).program syncer)
        after (.ok (some (.polling next))))
      (unstopped : Unstopped before after) :
      Iterates setting syncer (vars, before) .tick (next, after)

/-- The request is the canonical one of its id. -/
structure Requested (setting : Setting) (deployed : P2PSyncer → Prop)
    (syncer : P2PSyncer) (task : OutboundTask) (moment : PollMoment setting) :
    Prop where
  polls : Polls setting deployed syncer moment.1 moment.2
  canonical : firstRequest (logRequests syncer moment.2.log.entries)
    task.requestId = some task

/-- The log has a result of the request. -/
def HasResult (syncer : P2PSyncer) (task : OutboundTask)
    (moment : PollMoment setting) : Prop :=
  firstResult (logFacts syncer moment.2.log.entries) task.requestId ≠ none

/-- A bound of the ticks that pass before the one that answers the request. -/
def ticksBefore (syncer : P2PSyncer) (task : OutboundTask)
    (moment : PollMoment setting) : Nat :=
  2 * (openBefore syncer moment.2.log.entries task).card +
    moment.1.held.workTurn % 2 + lag task.seq moment.1

variable {vars next : PollVars SingleThreadProcessor}
  {before after first : WorldState setting}

/-- What has gone on in an iteration. -/
theorem runs_polling
    (run : Runs (world setting) before ((Stage.polling vars).program syncer)
      after (.ok (some (.polling next)))) :
    Runs (world setting) before (pollBody syncer (handlers syncer) vars) after
      (.ok (.inl next)) := by
  rcases runs_bind (runs_stopOnFailure run) with
    ⟨_, step, body, returns⟩ | ⟨_, -, same⟩
  · cases step with
    | inl other =>
        rcases runs_ret.mp returns with ⟨rfl, same⟩
        cases same
        exact body
    | inr => cases (runs_ret.mp returns).2
  · cases same

/-- The tick of an iteration, and the wait behind it. -/
theorem runs_tickOnce
    (run : Runs (world setting) before
      (tickOnce syncer (handlers syncer) vars) after (.ok (.inl next))) :
    ∃ worked held middle, Runs (world setting) before (tick syncer vars.held)
        middle (.ok (worked, held)) ∧
      next = vars.reset held ∧ Grows middle after := by
  rcases runs_bind run with ⟨middle, held, ticks, rest⟩ | ⟨_, -, same⟩
  · rcases runs_bind ticks with ⟨_, ⟨worked, ticked⟩, ticks, returns⟩ |
      ⟨_, -, same⟩
    · rcases runs_ret.mp returns with ⟨rfl, same⟩
      cases same
      refine ⟨worked, held, _, ticks, ?_, runs_grows rest⟩
      split_ifs at rest
      · cases (runs_ret.mp rest).2
        rfl
      · rcases runs_bind rest with ⟨_, _, -, returns⟩ | ⟨_, -, same⟩
        · cases (runs_ret.mp returns).2
          rfl
        · cases same
    · cases same
  · cases same

/-- Live messages leave the turn. -/
theorem workTurn_live {messages : List Message}
    {held other : SingleThreadProcessor}
    (processed : messages.foldlM (handlers syncer).live held = .ok other) :
    other.workTurn = held.workTurn := by
  refine Checked.foldlM_induct
    (fun _ current => current.workTurn = held.workTurn) processed rfl ?_
  intro _ _ current next _ same live
  rcases Checked.bind_eq_ok_iff.mp live with ⟨state, -, returned⟩
  cases returned
  exact same

variable {turn : Turn} {earlier later : PollMoment setting}

theorem Iterates.grows (iterates : Iterates setting syncer earlier turn later) :
    Grows earlier.2 later.2 := by
  cases iterates with
  | reads _ run => exact runs_grows run
  | ticks _ run => exact runs_grows run

theorem Iterates.requested (sole : SoleWriter setting syncer.text .sendResult)
    (deploys : deployed syncer)
    (iterates : Iterates setting syncer earlier turn later)
    (requested : Requested setting deployed syncer task earlier) :
    Requested setting deployed syncer task later where
  polls := by
    have holds : StageHolds setting deployed syncer earlier.2
        (.polling earlier.1) := requested.polls
    have safe := safe_program sole deploys holds
    cases iterates with
    | reads _ run => exact (safe.runs_ok run).2 _ rfl
    | ticks _ run => exact (safe.runs_ok run).2 _ rfl
  canonical := canonical_of_extends iterates.grows.log requested.canonical

/-- Iterations that read the log keep the place of the request. -/
theorem reads_ticksBefore
    (point : vars.point = .polling)
    (run : Runs (world setting) before ((Stage.polling vars).program syncer)
      after (.ok (some (.polling next))))
    (requested : Requested setting deployed syncer task (vars, before)) :
    ticksBefore syncer task (next, after) ≤
      ticksBefore syncer task (vars, before) := by
  have body := runs_polling run
  rw [pollBody, point] at body
  have reads := runs_pollOnce body
  rcases reads.live with ⟨messages, processed⟩
  have member := mem_of_firstRequest requested.canonical
  have known : task.seq ≤ before.log.last := by
    rcases mem_logRequests.mp member with ⟨entry, inside, read⟩
    rw [(seq_of_request read).1]
    exact SequencedLog.number_le_last inside
  have fewer := Finset.card_le_card
    (openBefore_subset (runs_grows run).log member)
  have noOlder := reads.lag_le known
  rw [ticksBefore, ticksBefore, workTurn_live processed]
  dsimp only
  omega

/-- A tick brings the request nearer. -/
theorem ticks_ticksBefore (sole : SoleWriter setting syncer.text .sendResult)
    (deploys : deployed syncer) (point : vars.point = .ticking)
    (run : Runs (world setting) before ((Stage.polling vars).program syncer)
      after (.ok (some (.polling next))))
    (unstopped : Unstopped before after)
    (requested : Requested setting deployed syncer task (vars, before))
    (isOpen : ¬HasResult syncer task (next, after)) :
    ticksBefore syncer task (next, after) + 1 ≤
      ticksBefore syncer task (vars, before) := by
  have body := runs_polling run
  rw [pollBody, point] at body
  rcases runs_tickOnce body with ⟨worked, held, middle, ticks, rfl, grown⟩
  rcases requested.polls with ⟨low, polled⟩
  rcases polled.ticking point with
    ⟨lastSeq, handed, snapshot, handedOver, upto, -⟩
  have current : vars.snapshotLastSeq = some lastSeq := snapshot
  have stillOpen := unanswered_of_extends grown.log (not_not.mp isOpen)
  have nearer := tick_nearer sole deploys upto.knows handedOver
    requested.canonical ticks (unstopped.of_grows (runs_grows ticks) grown)
    stillOpen
  have canonical := canonical_of_extends (runs_grows ticks).log
    requested.canonical
  have fewer := Finset.card_le_card
    (openBefore_subset grown.log (mem_of_firstRequest canonical))
  -- the snapshot of the tick is the one that the loop gives up
  have lags : lag task.seq vars = (decide (lastSeq < task.seq)).toNat +
      lag task.seq (vars.reset held) := by
    simp only [lag, PollVars.reset, current, Option.any_some, Option.any_none,
      Bool.toNat_false, Nat.zero_add]
  have readOrOld : (decide (task.seq ≤ lastSeq)).toNat +
      (decide (lastSeq < task.seq)).toNat = 1 := by
    rcases Nat.lt_or_ge lastSeq task.seq with old | read
    · simp [old]
    · simp [read]
  rw [ticksBefore, ticksBefore, lags]
  dsimp only [PollVars.reset] at *
  omega

/-- The iterations of a process bring each request of the log nearer to its
result. -/
theorem approaches_result (sole : SoleWriter setting syncer.text .sendResult)
    (deploys : deployed syncer) :
    Approaches (Iterates setting syncer) (· == Turn.tick)
      (Requested setting deployed syncer task) (HasResult syncer task)
      (ticksBefore syncer task) where
  kept := by
    intro earlier turn later iterates answered isOpen
    exact answered (unanswered_of_extends iterates.grows.log isOpen)
  nearer := by
    intro earlier turn later iterates requested
    by_cases answered : HasResult syncer task later
    · exact Or.inl answered
    · refine Or.inr ⟨iterates.requested sole deploys requested, ?_⟩
      cases iterates with
      | reads point run => exact reads_ticksBefore point run requested
      | ticks point run unstopped =>
          exact ticks_ticksBefore sole deploys point run unstopped requested
            answered

/--
A request of the log that is the first of its id has a result in the log once
the process that polls has ticked more often than twice for each id that was
requested before it and has no result, once when the events have the turn, and
once for each snapshot of the loop that is older than the request.
-/
theorem request_isAnswered {turns : List Turn}
    (sole : SoleResults setting deployed) (begins : Begins first)
    (run : WorkerRun setting deployed first syncer (.polling vars) before)
    (canonical : firstRequest (logRequests syncer before.log.entries)
      task.requestId = some task)
    (path : Path (Iterates setting syncer) (vars, before) turns (next, after))
    (enough : 2 * (openBefore syncer before.log.entries task).card +
      vars.held.workTurn % 2 + lag task.seq vars < turns.count .tick) :
    ∃ result, firstResult (logFacts syncer after.log.entries) task.requestId =
      some result := by
  have deploys := WorkerRun.deploys run
  have requested : Requested setting deployed syncer task (vars, before) :=
    ⟨WorkerRun.stageHolds sole begins run, canonical⟩
  exact Option.ne_none_iff_exists'.mp
    ((approaches_result (sole _ deploys) deploys).served path requested enough)

end Loop

/-! ### A request that is answered -/

section Sample

/-- The calls of a first process, which is stopped before it polls. -/
def stoppedCalls : List Exchange :=
  bootCalls ++ [⟨.stopIsSet, true⟩]

/-- The world when the next process has read the request. -/
def restartedWorld : WorldState requestSetting :=
  (⟨requestedLog, ()⟩ : Scene requestSetting).world
    (stoppedCalls ++ bootCalls ++ readCalls)

theorem run_restarted (deploys : deployed sampleSyncer) :
    WorkerRun requestSetting deployed (beginning ()) sampleSyncer
      (.polling askedVars) restartedWorld := by
  have hosts := hosts_requestSetting
  have polls : WorkerRun requestSetting deployed (beginning ())
      sampleSyncer (.polling (.start 1 (chatProcessor chatPuller)))
      ((⟨.empty, ()⟩ : Scene requestSetting).world bootCalls) :=
    (WorkerRun.starts deploys created_chat .refl).proceeds (hosts.boots [])
  have restarts : WorkerRun requestSetting deployed (beginning ())
      sampleSyncer (.starting (chatProcessor newPuller))
      ((⟨.empty, ()⟩ : Scene requestSetting).world stoppedCalls) :=
    polls.restarts (leads_stopped bootCalls).visits .refl deploys created_chat
  exact (restarts.proceeds (hosts.boots stoppedCalls)).proceeds
    (hosts.reads (stoppedCalls ++ bootCalls))

/-- The request is in the log, nothing comes before it, and an earlier process
has been stopped. -/
theorem request_isAnswered_sample :
    (⟨.stopIsSet, true⟩ : Exchange) ∈ restartedWorld.trace ∧
      ∃ result, firstResult (logFacts sampleSyncer answeredLog.entries) "r1" =
        some result := by
  have requests : logRequests sampleSyncer requestedLog.entries =
      [.ofParsed requestParsed] := by
    rw [show requestedLog.entries = [⟨requestMessage, false⟩] from rfl,
      logRequests_singleton, ← itemOf?_eq_readItem? parse_requestMessage,
      P2PSyncer.itemOf?_eq_some parse_requestMessage rfl]
    rfl
  have canonical : firstRequest
      (logRequests sampleSyncer restartedWorld.log.entries)
      (OutboundTask.ofParsed requestParsed).requestId =
        some (.ofParsed requestParsed) := by
    show firstRequest (logRequests sampleSyncer requestedLog.entries) _ = _
    rw [requests]
    rfl
  have nothingBefore : openBefore sampleSyncer restartedWorld.log.entries
      (.ofParsed requestParsed) = ∅ := by
    show openBefore sampleSyncer requestedLog.entries _ = _
    rw [openBefore, requests]
    rfl
  have enough : 2 * (openBefore sampleSyncer restartedWorld.log.entries
      (.ofParsed requestParsed)).card + askedVars.held.workTurn % 2 +
        lag (OutboundTask.ofParsed requestParsed).seq askedVars <
          [Turn.tick].count .tick := by
    rw [nothingBefore]
    decide
  have sole : SoleResults requestSetting (· = sampleSyncer) := by
    rintro _ rfl
    exact hosts_requestSetting.soleWriter (by decide)
  rcases (hosts_requestSetting.ticks) with ⟨next, ticks⟩
  have path : Path (Iterates requestSetting sampleSyncer)
      (askedVars, restartedWorld) [.tick]
      (next, (⟨answeredLog, ()⟩ : Scene requestSetting).world
        (stoppedCalls ++ bootCalls ++ readCalls ++ sendTickCalls)) :=
    .single (.ticks rfl (ticks (stoppedCalls ++ bootCalls ++ readCalls))
      ⟨sendTickCalls, rfl, notStopped_of_goesOn rfl⟩)
  have answered := request_isAnswered sole begins_beginning
    (run_restarted rfl) canonical path enough
  exact ⟨by simp [restartedWorld, Scene.world, stoppedCalls], answered⟩

end Sample

end OpenEventIm.Syncer.RequestLiveness
