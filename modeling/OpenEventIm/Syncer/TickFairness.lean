import OpenEventIm.Foundation.BoundedWaiting
import OpenEventIm.Syncer.TickStatements

/-!
# Neither kind of work starves

A tick does one piece of work, and the kind it has done goes last in the next
tick.  A request therefore waits for at most two ticks for each request before
it, however many events arrive, and an event whose channel has no request waits
for at most two ticks for each event before it, however many requests arrive
for other channels.
-/

namespace OpenEventIm.Syncer.TickFairness

open OpenEventIm.Foundation
open OpenEventIm.Foundation.Interaction
open OpenEventIm.Foundation.LabelledPaths
open OpenEventIm.Foundation.BoundedWaiting
open OpenEventIm.Sdk.Errors
open OpenEventIm.Sdk.Normalizer
open OpenEventIm.Sdk.Client
open OpenEventIm.Sdk.Codec
open OpenEventIm.Sdk.MessageReading
open OpenEventIm.Service.Calls
open OpenEventIm.Service.World
open OpenEventIm.Service.Scenes
open OpenEventIm.Syncer.Models
open OpenEventIm.Syncer.State
open OpenEventIm.Syncer.State.RuntimeState
open OpenEventIm.Syncer.LogMeaning
open OpenEventIm.Syncer.HistoryReplay
open OpenEventIm.Syncer.PublishRetry
open OpenEventIm.Syncer.ProviderMessages
open OpenEventIm.Syncer.ProviderMessages.ProviderMessagePuller
open OpenEventIm.Syncer.StartupCut
open OpenEventIm.Syncer.DegradedRecord
open OpenEventIm.Syncer.PendingQueue
open OpenEventIm.Syncer.Processor
open OpenEventIm.Syncer.Processor.SingleThreadProcessor
open OpenEventIm.Syncer.TickOutcomes
open OpenEventIm.Syncer.TickRuns
open OpenEventIm.Syncer.TickStatements
open OpenEventIm.Syncer.WorkerRuns

/-! ## Whose turn it is -/

section Turns

variable {environment : Environment service} {syncer : P2PSyncer}
  {collected next : SingleThreadProcessor}
  {before after : environment.State} {worked : Bool}

/-- What a tick has done after its collection, and whose turn is next. -/
inductive Turned (environment : Environment service) (syncer : P2PSyncer)
    (collected : SingleThreadProcessor) (before : environment.State) :
    Bool → SingleThreadProcessor → environment.State → Prop where
  | request {task state after}
      (waiting : collected.workTurn % 2 = 0 ∨
        ∀ event ∈ collected.pendingEvents,
          Waits syncer collected.state event)
      (sent : SentRequest environment syncer collected before task state
        after) :
      Turned environment syncer collected before true
        { collected with state, workTurn := 1 } after
  | event {event next after} (first : collected.workTurn % 2 = 1)
      (took : TookEvent environment syncer collected before event next after) :
      Turned environment syncer collected before true
        { next with workTurn := 0 } after
  | eventAfterSearch {event next after}
      (none : collected.state.nextPendingTask.1 = none)
      (took : TookEvent environment syncer (searched collected) before event
        next after) :
      Turned environment syncer collected before true
        { next with workTurn := 0 } after
  | idle {last final}
      (works : Worked environment syncer collected before false last final) :
      Turned environment syncer collected before false last final

/-- The two rounds of the loop over the kinds of work. -/
theorem runs_workFrom_two {workTurn : Nat}
    (run : Runs environment before
      (workFrom syncer workTurn collected 0 2) after (.ok (worked, next))) :
    ∃ middle found reached,
      Runs environment before (doWork syncer collected (workTurn % 2)) middle
        (.ok (found, reached)) ∧
      (found = true ∧ worked = true ∧ after = middle ∧
          next = { reached with workTurn := (workTurn % 2 + 1) % 2 } ∨
        found = false ∧ ∃ other,
          Runs environment middle
            (doWork syncer reached ((workTurn + 1) % 2)) after
            (.ok (worked, other)) ∧
          (worked = true → next =
            { other with workTurn := ((workTurn + 1) % 2 + 1) % 2 })) := by
  rcases runs_workFrom_succ run with ⟨middle, found, reached, first, done⟩
  refine ⟨middle, found, reached, first, done.imp_right ?_⟩
  rintro ⟨nothing, rest⟩
  refine ⟨nothing, ?_⟩
  rcases runs_workFrom_succ rest with
    ⟨last, foundAgain, other, work, ⟨rfl, rfl, rfl, isNext⟩ | ⟨rfl, tail⟩⟩
  · exact ⟨other, work, fun _ => isNext⟩
  · rcases runs_ret.mp tail with ⟨rfl, returned⟩
    cases returned
    exact ⟨_, work, nofun⟩

/-- The work of a tick, with the turn that it leaves. -/
theorem turned_of_runs
    (run : Runs environment before
      (workFrom syncer collected.workTurn collected 0 2) after
      (.ok (worked, next))) :
    Turned environment syncer collected before worked next after := by
  cases worked with
  | false => exact .idle (worked_of_runs run)
  | true =>
      rcases runs_workFrom_two run with ⟨middle, found, reached, first, done⟩
      rcases Nat.mod_two_eq_zero_or_one collected.workTurn with even | odd
      · -- the requests come first
        have eventsNext : (collected.workTurn + 1) % 2 ≠ 0 := by omega
        have turn : ((collected.workTurn + 1) % 2 + 1) % 2 = 0 := by omega
        rw [doWork, if_pos even] at first
        rcases runs_processNextOutboundTask first with
          ⟨none, rfl, rfl, rfl⟩ | ⟨task, state, rfl, rfl, sent⟩
        · rcases done with ⟨⟨⟩, -⟩ | ⟨-, other, work, isNext⟩
          rw [doWork, if_neg eventsNext] at work
          rw [isNext rfl, turn]
          rcases runs_processNextProviderEvent work with
            ⟨⟨⟩, -⟩ | ⟨event, -, -, took⟩
          exact .eventAfterSearch none took
        · rcases done with ⟨-, -, rfl, isNext⟩ | ⟨⟨⟩, -⟩
          rw [isNext, even]
          exact .request (Or.inl even) sent
      · -- the events come first
        have requestsNext : (collected.workTurn + 1) % 2 = 0 := by omega
        rw [doWork, if_neg (by omega)] at first
        rcases runs_processNextProviderEvent first with
          ⟨rfl, rfl, rfl, waiting⟩ | ⟨event, rfl, -, took⟩
        · rcases done with ⟨⟨⟩, -⟩ | ⟨-, other, work, isNext⟩
          rw [doWork, if_pos requestsNext] at work
          rw [isNext rfl, requestsNext]
          rcases runs_processNextOutboundTask work with
            ⟨-, ⟨⟩, -⟩ | ⟨task, state, -, rfl, sent⟩
          exact .request (Or.inr waiting) sent
        · rcases done with ⟨-, -, rfl, isNext⟩ | ⟨⟨⟩, -⟩
          rw [isNext, odd]
          exact .event odd took

end Turns

/-! ## Between the ticks -/

section Steps

variable {setting : Setting} {syncer : P2PSyncer} {history : List Message}
  {first : WorldState setting} {admits : ParsedMessage → Prop}

/-- A processor and the world it is in. -/
abbrev Moment (setting : Setting) : Type :=
  SingleThreadProcessor × WorldState setting

/-- A tick, or something else. -/
inductive Turn where
  | tick
  | other
deriving DecidableEq

/-- The calls that lead from one world to the other find no stop requested. -/
def Unstopped (before after : WorldState setting) : Prop :=
  ∃ calls, after.trace = before.trace ++ calls ∧
    (⟨.stopIsSet, true⟩ : Exchange) ∉ calls

/-- Ticks that find no stop requested, requests of a certain kind that are added
between them, and what the others do. -/
inductive TurnStep (setting : Setting) (syncer : P2PSyncer)
    (admits : ParsedMessage → Prop) :
    Moment setting → Turn → Moment setting → Prop where
  | interferes {processor before after} (step : Interferes before after) :
      TurnStep setting syncer admits (processor, before) .other
        (processor, after)
  | request {processor world parsed} (admitted : admits parsed) :
      TurnStep setting syncer admits (processor, world) .other
        ({ processor with state := (processor.state.addSendRequest parsed).2 },
          world)
  | tick {processor before worked next after}
      (run : Runs (world setting) before (tick syncer processor) after
        (.ok (worked, next)))
      (unstopped : Unstopped before after) :
      TurnStep setting syncer admits (processor, before) .tick (next, after)

theorem toNat_beq_one (workTurn : Nat) :
    (workTurn % 2 == 1).toNat = workTurn % 2 := by
  rcases Nat.mod_two_eq_zero_or_one workTurn with even | odd
  · rw [even]
    rfl
  · rw [odd]
    rfl

theorem toNat_beq_zero (workTurn : Nat) :
    (workTurn % 2 == 0).toNat = (workTurn + 1) % 2 := by
  rcases Nat.mod_two_eq_zero_or_one workTurn with even | odd
  · rw [even, Nat.succ_mod_two_eq_one_iff.mpr even]
    rfl
  · rw [odd, Nat.succ_mod_two_eq_zero_iff.mpr odd]
    rfl

variable {before after : Moment setting} {turn : Turn} {turns : List Turn}

theorem TurnStep.reached
    (step : TurnStep setting syncer admits before turn after)
    (reached : TickRun setting syncer history first before.1 before.2) :
    TickRun setting syncer history first after.1 after.2 := by
  cases step with
  | interferes step => exact .interferes reached step
  | request => exact .request reached _
  | tick run => exact .tick reached run

theorem TurnStep.grows
    (step : TurnStep setting syncer admits before turn after) :
    Grows before.2 after.2 := by
  cases step with
  | interferes step => exact step.grows
  | request => exact Grows.refl _
  | tick run => exact runs_grows run

/-- A part of such calls. -/
theorem Unstopped.of_grows {before middle after : WorldState setting}
    (unstopped : Unstopped before after) (earlier : Grows before middle)
    (later : Grows middle after) : Unstopped before middle := by
  rcases unstopped with ⟨calls, trace, notStopped⟩
  rcases earlier.trace with ⟨first, upto⟩
  rcases later.trace with ⟨rest, whole⟩
  refine ⟨first, upto.symm, fun stopped => notStopped ?_⟩
  have split : first ++ rest = calls := by
    rw [← upto, trace, List.append_assoc] at whole
    exact List.append_cancel_left whole
  rw [← split]
  exact List.mem_append_left _ stopped

/-- No answer among them is that a stop has been requested. -/
theorem Unstopped.not_answered {before ready after : WorldState setting}
    (unstopped : Unstopped before after) (earlier : Grows before ready) :
    ¬Answers ready .stopIsSet true after := by
  intro answers
  rcases unstopped with ⟨calls, trace, notStopped⟩
  rcases earlier.trace with ⟨first, upto⟩
  have split : first ++ [⟨.stopIsSet, true⟩] = calls := by
    have whole := Answers.trace answers
    rw [trace, ← upto, List.append_assoc] at whole
    exact (List.append_cancel_left whole).symm
  apply notStopped
  rw [← split]
  exact List.mem_append_right _ (List.mem_singleton_self _)

/-- What a tick finds after its collection. -/
structure Collected (setting : Setting) (syncer : P2PSyncer)
    (history : List Message) (first : WorldState setting)
    (processor : SingleThreadProcessor) (before : WorldState setting)
    (collected : SingleThreadProcessor) (middle : WorldState setting) :
    Prop where
  between : BetweenTicks syncer history first collected middle
  grown : Grows before middle
  state : collected.state = processor.state
  workTurn : collected.workTurn = processor.workTurn
  added : ∃ added, collected.pendingEvents = processor.pendingEvents ++ added

/-- The collection adds events behind the pending ones. -/
theorem yields_collectProviderMessages {processor : SingleThreadProcessor}
    (good : PullersWellFormed processor.messagePullers) :
    (collectProviderMessages processor).Yields fun collected =>
      collected.workTurn = processor.workTurn ∧
        ∃ added,
          collected.pendingEvents = processor.pendingEvents ++ added := by
  apply (yields_collectFrom good).bind
  rintro ⟨pending, nexts⟩ ⟨added, rfl, -⟩
  exact ⟨rfl, added, rfl⟩

/-- A tick that finds no stop requested collects and takes its turn. -/
theorem collects_of_tick {processor next : SingleThreadProcessor}
    {before after : WorldState setting} {worked : Bool}
    (run : Runs (world setting) before (tick syncer processor) after
      (.ok (worked, next)))
    (unstopped : Unstopped before after) :
    ∃ collected middle, Collects setting processor before collected middle ∧
      Turned (world setting) syncer collected middle worked next after := by
  rcases runs_callBind run with
    ⟨ready, stopped, started, evolves, answers, rest⟩
  rw [Program.ret_bind] at rest
  cases stopped with
  | true =>
      rcases runs_ret.mp rest with ⟨rfl, -⟩
      exact absurd answers (unstopped.not_answered (evolves_grows evolves))
  | false =>
      rcases runs_bind rest with ⟨middle, collected, collects, work⟩ |
        ⟨_, _, failed⟩
      · exact ⟨collected, middle, ⟨ready, started, evolves, answers, collects⟩,
          turned_of_runs work⟩
      · cases failed

/-- In a run of ticks, the collection keeps what holds between them. -/
theorem turned_of_tick {processor next : SingleThreadProcessor}
    {before after : WorldState setting} {worked : Bool}
    (reached : TickRun setting syncer history first processor before)
    (run : Runs (world setting) before (tick syncer processor) after
      (.ok (worked, next)))
    (unstopped : Unstopped before after) :
    ∃ collected middle,
      Collected setting syncer history first processor before collected
        middle ∧
      Turned (world setting) syncer collected middle worked next after := by
  have between := reached.betweenTicks
  rcases collects_of_tick run unstopped with
    ⟨collected, middle, collects, turned⟩
  rcases between.collects collects with ⟨later, state⟩
  rcases collects.run with ⟨ready, started, evolves, answers, collecting⟩
  rcases (yields_collectProviderMessages between.pullers).runs collecting with
    ⟨workTurn, added⟩
  refine ⟨collected, middle, ⟨later, ?_, state, workTurn, added⟩, turned⟩
  exact (evolves_grows evolves).trans
    (answers.grows.trans (runs_grows collecting))

end Steps

/-! ## Requests -/

section Requests

variable {state next : RuntimeState} {parsed : ParsedMessage}
  {task other : OutboundTask} {requestId : String}

/-- The pending requests that are taken before the task. -/
def ahead (state : RuntimeState) (task : OutboundTask) : Finset String :=
  state.requestsById.keys.toFinset.filter fun requestId =>
    requestId ≠ task.requestId ∧
      (state.requestsById.get? requestId).any fun other =>
        HeapLE (entryOf other) (entryOf task)

theorem mem_ahead : requestId ∈ ahead state task ↔
    requestId ≠ task.requestId ∧
      ∃ other, state.requestsById.get? requestId = some other ∧
        HeapLE (entryOf other) (entryOf task) := by
  rw [ahead, Finset.mem_filter, List.mem_toFinset, Dict.mem_keys_iff]
  cases state.requestsById.get? requestId <;> simp

/-- Requests that come later get ahead of nothing. -/
theorem ahead_subset
    (later : ∀ requestId other,
      next.requestsById.get? requestId = some other →
        state.requestsById.get? requestId = some other ∨
          task.seq < other.seq) :
    ahead next task ⊆ ahead state task := by
  intro requestId member
  rcases mem_ahead.mp member with ⟨different, other, found, before⟩
  refine mem_ahead.mpr ⟨different, other, ?_, before⟩
  refine (later requestId other found).resolve_right fun after => ?_
  rcases before with less | ⟨equal, -⟩
  · exact absurd less (Nat.lt_asymm after)
  · exact absurd equal (Nat.ne_of_gt after)

/-- A request that has been added is pending, as are those that were. -/
theorem pending_addSendRequest (linked : Linked state) :
    (state.requestsById.get? requestId = some task →
      (state.addSendRequest parsed).2.requestsById.get? requestId =
        some task) ∧
    ((state.addSendRequest parsed).2.requestsById.get? requestId = some task →
      state.requestsById.get? requestId = some task ∨
        task = .ofParsed parsed) := by
  cases known : state.canonicalRequestsById.get?
      (OutboundTask.ofParsed parsed).requestId with
  | some existing =>
      have same : (state.addSendRequest parsed).2 = state := by
        simp only [RuntimeState.addSendRequest, known]
        split_ifs <;> rfl
      rw [same]
      exact ⟨id, Or.inl⟩
  | none =>
      simp only [RuntimeState.addSendRequest, known]
      split_ifs
      · exact ⟨id, Or.inl⟩
      · simp only [Dict.get?_set]
        split_ifs with added
        · constructor
          · intro pending
            have stored := (linked.pending_some pending).2
            rw [← added, known] at stored
            cases stored
          · rintro ⟨⟩
            exact Or.inr rfl
        · exact ⟨id, Or.inl⟩

variable {setting : Setting} {syncer : P2PSyncer} {history : List Message}
  {first start : WorldState setting}

/-- The task is pending in a run of ticks. -/
structure RequestWaits (syncer : P2PSyncer) (history : List Message)
    (first start : WorldState setting) (task : OutboundTask)
    (moment : Moment setting) : Prop where
  reached : TickRun setting syncer history first moment.1 moment.2
  grown : Grows start moment.2
  pending : moment.1.state.requestsById.get? task.requestId = some task

/-- The result of the task has been published since the start. -/
def Answered (syncer : P2PSyncer) (start : WorldState setting)
    (task : OutboundTask) (moment : Moment setting) : Prop :=
  ∃ providerMessageId eventMs seq,
    Holds syncer.text (resultMethod syncer task providerMessageId eventMs) seq
      moment.2 ∧ start.log.last < seq

theorem Answered.grows {before after : Moment setting}
    (answered : Answered syncer start task before)
    (grows : Grows before.2 after.2) : Answered syncer start task after := by
  rcases answered with
    ⟨messageId, eventMs, seq, ⟨entry, member, numbered, recorded⟩, above⟩
  rcases grows.log with ⟨-, added, split, -⟩
  refine ⟨messageId, eventMs, seq, ⟨entry, ?_, numbered, recorded⟩, above⟩
  rw [split]
  exact List.mem_append_left _ member

/-- A tick answers the request, or one before it, or an event that had the
turn. -/
theorem Collected.requestTurn {processor collected next : SingleThreadProcessor}
    {before middle after : WorldState setting} {worked : Bool}
    (collects : Collected setting syncer history first processor before
      collected middle)
    (grown : Grows start before)
    (turned : Turned (world setting) syncer collected middle worked next after)
    (pending : processor.state.requestsById.get? task.requestId = some task) :
    Answered syncer start task (next, after) ∨
      next.state.requestsById.get? task.requestId = some task ∧
        ((ahead next.state task).card < (ahead processor.state task).card ∨
          processor.workTurn % 2 = 1 ∧ next.workTurn = 0 ∧
            ahead next.state task = ahead processor.state task) := by
  have resting := collects.between.resting
  rw [← collects.state] at pending ⊢
  rcases turned with
    @⟨taken, state, _, -, sent⟩ | ⟨had, took⟩ | ⟨none, -⟩ | ⟨works⟩
  · -- a request is completed
    rcases runs_processOutboundTask sent.run with
      ⟨session, messageId, eventMs, seq, -, rfl, holds, above⟩
    rcases resting.linked.selects.first taken sent.selected with
      ⟨eligible, earliest, -⟩
    by_cases same : taken.requestId = task.requestId
    · have isTask : taken = task := by
        have known := eligible.pending
        rw [same, pending] at known
        exact (Option.some.inj known).symm
      subst isTask
      refine Or.inl ⟨messageId, eventMs, seq, holds, ?_⟩
      exact ((grown.trans collects.grown).log.last_le).trans_lt above
    · have erased : ∀ requestId,
          (collected.state.nextPendingTask.2.markSendResultSuccess taken
            session.1 session.2 messageId seq).requestsById.get? requestId =
              if taken.requestId = requestId then none
              else collected.state.requestsById.get? requestId := by
        intro requestId
        rw [(completes_markSendResultSuccess _ _ _ _ _ _).pending,
          collected.state.nextPendingTask_spec.1.requestsById]
        exact Dict.get?_erase _ _ _
      have stays := erased task.requestId
      rw [if_neg same] at stays
      refine Or.inr ⟨stays.trans pending, Or.inl ?_⟩
      apply Finset.card_lt_card
      refine ⟨ahead_subset fun requestId other found => Or.inl ?_, ?_⟩
      · rw [erased] at found
        split_ifs at found
        exact found
      · intro subset
        have gone := subset (mem_ahead.mpr
          ⟨same, taken, eligible.pending,
            earliest task ⟨pending, resting.free _⟩⟩)
        rcases mem_ahead.mp gone with ⟨-, other, found, -⟩
        rw [erased, if_pos rfl] at found
        cases found
  · -- an event had the turn
    rcases took.free with ⟨channelId, mapped, -, run⟩
    have same := (collects.between.publishesEvent mapped run).2.1
    refine Or.inr ⟨by rw [same]; exact pending, Or.inr ⟨?_, rfl, ?_⟩⟩
    · rw [← collects.workTurn]
      exact had
    · show ahead _ task = _
      rw [ahead, ahead, same]
  · rw [resting.pending_empty none] at pending
    cases pending
  · rcases works with - | - | - | ⟨none, -⟩
    rw [resting.pending_empty none] at pending
    cases pending

/-- Ticks bring a request nearer, however many events arrive. -/
theorem takesTurns_request :
    TakesTurns
      (TurnStep setting syncer fun parsed => task.seq < parsed.seq)
      (· == Turn.tick) (RequestWaits syncer history first start task)
      (Answered syncer start task)
      (fun moment => (ahead moment.1.state task).card)
      (fun moment => moment.1.workTurn % 2 == 1) where
  kept step answered := answered.grows step.grows
  between := by
    intro before label after step notTick waits
    have later := step.reached waits.reached
    have grown := waits.grown.trans step.grows
    cases step with
    | interferes => exact Or.inr ⟨⟨later, grown, waits.pending⟩, le_rfl, rfl⟩
    | @request processor _ parsed admitted =>
        have linked := waits.reached.betweenTicks.resting.linked
        refine Or.inr ⟨⟨later, grown, ?_⟩, ?_, rfl⟩
        · exact (pending_addSendRequest linked).1 waits.pending
        · apply Finset.card_le_card
          apply ahead_subset
          intro requestId other found
          refine ((pending_addSendRequest linked).2 found).imp_right ?_
          rintro rfl
          exact admitted
    | tick => cases notTick
  serves := by
    intro before label after step isTick waits
    have later := step.reached waits.reached
    have grown := waits.grown.trans step.grows
    cases step with
    | tick run unstopped =>
        rcases turned_of_tick waits.reached run unstopped with
          ⟨collected, middle, collects, turned⟩
        refine (collects.requestTurn waits.grown turned waits.pending).imp_right
          ?_
        rintro ⟨pending, fewer | ⟨others, ours, same⟩⟩
        · exact ⟨⟨later, grown, pending⟩, Or.inl fewer⟩
        · refine ⟨⟨later, grown, pending⟩, Or.inr ⟨?_, ?_, ?_⟩⟩
          · simp [others]
          · simp [ours]
          · rw [same]
    | _ => cases isTick

/--
A pending request with `n` pending requests before it is completed, with its
result in the log, after `2 * n + 1` ticks that return and find no stop
requested, and one more when the events have the turn, whatever events and later
requests arrive meanwhile.
-/
theorem request_waitsBounded {before after : Moment setting}
    {turns : List Turn}
    (reached : TickRun setting syncer history first before.1 before.2)
    (pending : before.1.state.requestsById.get? task.requestId = some task)
    (path : Path
      (TurnStep setting syncer fun parsed => task.seq < parsed.seq) before turns
      after)
    (enough : 2 * (ahead before.1.state task).card + before.1.workTurn % 2 <
      turns.count .tick) :
    Answered syncer before.2 task after := by
  apply takesTurns_request.served path ⟨reached, Grows.refl _, pending⟩
  rw [toNat_beq_one]
  exact enough

/-! ### A request that waits for another one -/

/-- A second request of the channel. -/
def secondParsed : ParsedMessage :=
  { requestParsed with
    seq := 2
    requestId := some "r2" }

/-- Both requests have been read. -/
def queuedProcessor : SingleThreadProcessor where
  state := (askedState.addSendRequest secondParsed).2
  messagePullers := []
  pendingEvents := []
  pendingEventLimit := 8
  workTurn := 0

theorem reached_queuedProcessor :
    TickRun soleSetting sampleSyncer [] initialWorld queuedProcessor
      initialWorld :=
  @TickRun.request _ _ _ _ { queuedProcessor with state := askedState } _
    (@TickRun.request _ _ _ _ { queuedProcessor with state := .initial } _
      (.launched ⟨rfl, rfl, List.nodup_nil, by simp [queuedProcessor]⟩)
      requestParsed) secondParsed

/-- The payload of the second result. -/
def secondPayload : JsonObject :=
  (sendResultPayload ⟨"r2", 2, "SUCCESS", 0, some "om2", none, none⟩).toOption
    |>.getD []

def secondMessage : Message :=
  { resultMessage with
    seq := 4
    payload := encodePayload JsonText.compact secondPayload }

set_option maxRecDepth 4000 in
theorem record_secondMessage :
    (resultMethod sampleSyncer (.ofParsed secondParsed) "om2" 0).record
      sampleSyncer.text = .ok (recordOf secondMessage) := by
  have built : sendResultPayload
      ⟨"r2", 2, "SUCCESS", 0, some "om2", none, none⟩ = .ok secondPayload := rfl
  have encoded := encodeSendResult_of_payload sampleSyncer.text built
  exact checkRecord_eq_ok_iff.mpr ⟨encoded, rfl, ⟨rfl, by decide, by decide⟩,
    rfl, by decide, by decide⟩

/-- The result of the first request comes behind both. -/
def firstMessage : Message :=
  { resultMessage with seq := 3 }

theorem record_firstMessage :
    (resultMethod sampleSyncer (.ofParsed requestParsed) "om1" 0).record
      sampleSyncer.text = .ok (recordOf firstMessage) := by
  have same : recordOf firstMessage = recordOf resultMessage := by
    simp only [recordOf, firstMessage]
  rw [same]
  exact record_resultMessage

/-- The log with the first result. -/
def firstLog : Log :=
  SequencedLog.empty.push ⟨firstMessage, true⟩ (by decide) (by decide)
    (by decide)

/-- The log with both results. -/
def secondLog : Log :=
  firstLog.push ⟨secondMessage, true⟩ (by decide) (by decide) (by decide)

/-- The first request has been answered. -/
def servedProcessor : SingleThreadProcessor :=
  { queuedProcessor with
    state := queuedProcessor.state.nextPendingTask.2.markSendResultSuccess
      (.ofParsed requestParsed) "lark" "oc1" "om1" 3
    workTurn := 1 }

/-- Both requests have been answered. -/
def emptiedProcessor : SingleThreadProcessor :=
  { servedProcessor with
    state := servedProcessor.state.nextPendingTask.2.markSendResultSuccess
      (.ofParsed secondParsed) "lark" "oc1" "om2" 4
    workTurn := 1 }

/-- The calls of the first tick. -/
def firstTick : List Exchange :=
  ⟨.stopIsSet, false⟩ :: outboundCalls "worker" (.ofParsed requestParsed)
    ("lark", "oc1") "ou8" "om1" firstMessage 0

/-- The calls of the second tick. -/
def secondTick : List Exchange :=
  ⟨.stopIsSet, false⟩ :: outboundCalls "worker" (.ofParsed secondParsed)
    ("lark", "oc1") "ou8" "om2" secondMessage 3

theorem ticks_first : Leads (tick sampleSyncer queuedProcessor)
    (⟨.empty, ()⟩ : Scene soleSetting) firstTick ⟨firstLog, ()⟩
    (.ok (true, servedProcessor)) := by
  have replies : Replies (⟨.empty, ()⟩ : Scene soleSetting)
      (.sendMessage "lark" "oc1" "ou8" "text" [] "r1")
      (.ok ⟨true, some "om1", none, none⟩) ⟨.empty, ()⟩ := ⟨rfl, trivial⟩
  have routed : sendRoute sampleSyncer (.ofParsed requestParsed) =
      .ok (("lark", "oc1"), "ou8") := rfl
  have appends : SequencedLog.empty.Appends ⟨firstMessage, true⟩ firstLog :=
    SequencedLog.appends_push _ _ _
  have outbound := @leads_outbound soleSetting _ sampleSyncer
    queuedProcessor.state.nextPendingTask.2 _ _ _ _ _ _ _ (Nat.succ_pos 1)
    routed (by decide) replies record_firstMessage trivial appends
  refine Leads.calls_eq (leads_call replies_goesOn (.bind leads_ret (.bind
    leads_ret (.bind (.bind outbound leads_ret) leads_ret)))) ?_
  simp only [List.nil_append, List.append_nil]
  rfl

theorem ticks_second : Leads (tick sampleSyncer servedProcessor)
    (⟨firstLog, ()⟩ : Scene soleSetting) secondTick ⟨secondLog, ()⟩
    (.ok (true, emptiedProcessor)) := by
  have replies : Replies (⟨firstLog, ()⟩ : Scene soleSetting)
      (.sendMessage "lark" "oc1" "ou8" "text" [] "r2")
      (.ok ⟨true, some "om2", none, none⟩) ⟨firstLog, ()⟩ := ⟨rfl, trivial⟩
  have routed : sendRoute sampleSyncer (.ofParsed secondParsed) =
      .ok (("lark", "oc1"), "ou8") := rfl
  have appends : firstLog.Appends ⟨secondMessage, true⟩ secondLog :=
    SequencedLog.appends_push _ _ _
  have outbound := @leads_outbound soleSetting _ sampleSyncer
    servedProcessor.state.nextPendingTask.2 _ _ _ _ _ _ _ (Nat.succ_pos 1)
    routed (by decide) replies record_secondMessage trivial appends
  refine Leads.calls_eq (leads_call replies_goesOn (.bind leads_ret (.bind
    leads_ret (.bind leads_ret (.bind (.bind outbound leads_ret)
      leads_ret))))) ?_
  simp only [List.nil_append, List.append_nil]
  rfl

/-- Nothing is left. -/
theorem ticks_third : ∃ next, Leads (tick sampleSyncer emptiedProcessor)
    (⟨secondLog, ()⟩ : Scene soleSetting) [⟨.stopIsSet, false⟩]
    ⟨secondLog, ()⟩ (.ok (false, next)) :=
  ⟨_, leads_call replies_goesOn (.bind leads_ret (.bind leads_ret
    (.bind leads_ret (.bind leads_ret leads_ret))))⟩

/-- The second request waits for the first one. -/
theorem request_waitsBounded_sample : ∃ after : Moment soleSetting,
    (ahead queuedProcessor.state (.ofParsed secondParsed)).card = 1 ∧
      Answered sampleSyncer initialWorld (.ofParsed secondParsed) after := by
  rcases ticks_third with ⟨last, third⟩
  have path : Path (TurnStep soleSetting sampleSyncer fun parsed =>
      (OutboundTask.ofParsed secondParsed).seq < parsed.seq)
      (queuedProcessor, initialWorld) [.tick, .tick, .tick]
      (last, (⟨secondLog, ()⟩ : Scene soleSetting).world
        (firstTick ++ secondTick ++ [⟨.stopIsSet, false⟩])) := by
    have first := ticks_first []
    have second := ticks_second firstTick
    exact (((Path.single (.tick first
      ⟨firstTick, rfl, notStopped_of_goesOn rfl⟩)).tail (.tick second
        ⟨secondTick, rfl, notStopped_of_goesOn rfl⟩)).tail (.tick
          (third (firstTick ++ secondTick))
          ⟨_, rfl, notStopped_of_goesOn rfl⟩))
  have one : (ahead queuedProcessor.state (.ofParsed secondParsed)).card = 1 :=
    by decide
  exact ⟨_, one, request_waitsBounded reached_queuedProcessor rfl path
    (by rw [one]; decide)⟩

end Requests

/-! ## Events -/

section Events

variable {setting : Setting} {syncer : P2PSyncer} {history : List Message}
  {first : WorldState setting} {event : ProviderEvent} {channelId : Nat}

/-- The event is pending in a run of ticks, and its channel has no request. -/
structure EventWaits (syncer : P2PSyncer) (history : List Message)
    (first : WorldState setting) (channelId : Nat) (event : ProviderEvent)
    (moment : Moment setting) : Prop where
  reached : TickRun setting syncer history first moment.1 moment.2
  pending : event ∈ moment.1.pendingEvents
  free : moment.1.state.channelHasPending channelId = false

/-- The event counts as seen in a run of ticks. -/
structure EventSeen (syncer : P2PSyncer) (history : List Message)
    (first : WorldState setting) (channelId : Nat) (event : ProviderEvent)
    (moment : Moment setting) : Prop where
  reached : TickRun setting syncer history first moment.1 moment.2
  seen : inboundKey channelId event ∈ moment.1.state.inboundSeen

/-- The number of pending events before the one of the event's session. -/
def eventsBefore (event : ProviderEvent) (processor : SingleThreadProcessor) :
    Nat :=
  (processor.pendingEvents.map sessionOf).idxOf (sessionOf event)

/-- A channel without requests gets none but by one that is added. -/
theorem free_of_pending {state next : RuntimeState}
    (free : state.channelHasPending channelId = false)
    (fewer : ∀ requestId task,
      next.requestsById.get? requestId = some task →
        state.requestsById.get? requestId = some task ∨
          task.channelId ≠ channelId) :
    next.channelHasPending channelId = false := by
  rw [channelHasPending_eq_false_iff] at free ⊢
  intro requestId task found
  exact (fewer requestId task found).elim (free requestId task) id

theorem not_waits_of_free {state : RuntimeState}
    (mapped : syncer.mapping.channelForProviderSession event.provider
      event.sessionId = .ok channelId)
    (free : state.channelHasPending channelId = false) :
    ¬Waits syncer state event := by
  rintro ⟨other, otherMapped, busy⟩
  cases mapped.symm.trans otherMapped
  rw [free] at busy
  cases busy

section Tick

variable {processor collected next : SingleThreadProcessor}
  {before middle after : WorldState setting} {worked : Bool}

theorem inboundSeen_sentRequest {task : OutboundTask} {state : RuntimeState}
    (sent : SentRequest (world setting) syncer collected middle task state
      after) :
    state.inboundSeen = collected.state.inboundSeen ∧
      state.requestsById =
        collected.state.requestsById.erase task.requestId := by
  rcases runs_processOutboundTask sent.run with
    ⟨session, messageId, eventMs, seq, -, rfl, -, -⟩
  have stores := storesResult_markSendResultSuccess
    collected.state.nextPendingTask.2 task session.1 session.2 messageId
    (@rfl _ (⟨seq, 0, 0, [], task.requestId, none, "", none⟩ :
      TerminalResult).requestId)
  have same := collected.state.nextPendingTask_spec.1
  refine ⟨stores.inboundSeen.trans same.inboundSeen, ?_⟩
  rw [(completes_markSendResultSuccess _ _ _ _ _ _).pending,
    same.requestsById]

theorem inboundSeen_tookEvent {taken : ProviderEvent}
    (took : TookEvent (world setting) syncer collected middle taken next
      after) :
    collected.state.inboundSeen ⊆ next.state.inboundSeen := by
  rcases took.free with ⟨other, -, -, run⟩
  rcases runs_publishProviderEvent run with ⟨-, same, -⟩ | ⟨-, same, -⟩
  · rw [same]
  · rw [same]
    intro key member
    unfold RuntimeState.markSyncRecord RuntimeState.recordEventMs
    split
    · split_ifs <;> exact Finset.mem_insert_of_mem member
    · exact Finset.mem_insert_of_mem member

/-- A tick forgets no event. -/
theorem Collected.inboundSeen_subset
    (collects : Collected setting syncer history first processor before
      collected middle)
    (turned : Turned (world setting) syncer collected middle worked next
      after) :
    processor.state.inboundSeen ⊆ next.state.inboundSeen := by
  have searchedSame := collected.state.nextPendingTask_spec.1.inboundSeen
  rw [← collects.state]
  rcases turned with ⟨-, sent⟩ | ⟨-, took⟩ | ⟨-, took⟩ | ⟨works⟩
  · exact (inboundSeen_sentRequest sent).1.ge
  · exact inboundSeen_tookEvent took.turned
  · exact searchedSame.ge.trans (inboundSeen_tookEvent took.turned)
  · rcases works with - | - | - | -
    exact searchedSame.ge

/-- The first event that does not wait is taken, so that every other one that
does not wait comes nearer. -/
theorem nearer_of_took {taken : ProviderEvent}
    (between : BetweenTicks syncer history first collected middle)
    (took : TookEvent (world setting) syncer collected middle taken next after)
    (mapped : syncer.mapping.channelForProviderSession event.provider
      event.sessionId = .ok channelId)
    (pending : event ∈ collected.pendingEvents)
    (free : collected.state.channelHasPending channelId = false) :
    inboundKey channelId event ∈ next.state.inboundSeen ∨
      event ∈ next.pendingEvents ∧
        next.state.channelHasPending channelId = false ∧
          eventsBefore event next < eventsBefore event collected := by
  rcases took.free with ⟨other, otherMapped, -, run⟩
  rcases took.removed with ⟨skipped, rest, split, remaining, waiting⟩
  have published := between.publishesEvent otherMapped run
  have distinct := between.mirrored.onePerSession
  have notSkipped : event ∉ skipped := fun member =>
    not_waits_of_free mapped free (waiting event member)
  rw [split] at pending distinct
  rcases List.mem_cons.mp
    ((List.mem_append.mp pending).resolve_left notSkipped) with rfl | later
  · cases mapped.symm.trans otherMapped
    exact Or.inl published.2.2.2
  · refine Or.inr ⟨?_, ?_, ?_⟩
    · rw [remaining]
      exact List.mem_append_right _ later
    · refine free_of_pending free fun requestId task found => Or.inl ?_
      rw [← published.2.1]
      exact found
    · rw [List.map_append, List.map_cons] at distinct
      rcases List.nodup_append.mp distinct with ⟨-, tail, apart⟩
      have isLater : sessionOf event ∈ rest.map sessionOf :=
        List.mem_map_of_mem later
      have notFirst : sessionOf event ∉ skipped.map sessionOf := fun member =>
        apart _ member _ (List.mem_cons_of_mem _ isLater) rfl
      have notTaken : sessionOf taken ≠ sessionOf event := by
        intro same
        rw [← same] at isLater
        exact (List.nodup_cons.mp tail).1 isLater
      rw [eventsBefore, eventsBefore, split, remaining, List.map_append,
        List.map_append, List.map_cons, List.idxOf_append_of_notMem notFirst,
        List.idxOf_append_of_notMem notFirst, List.idxOf_cons_ne _ notTaken]
      omega

/-- A tick publishes the event, or one before it, or completes a request that
had the turn. -/
theorem Collected.eventTurn
    (collects : Collected setting syncer history first processor before
      collected middle)
    (turned : Turned (world setting) syncer collected middle worked next after)
    (mapped : syncer.mapping.channelForProviderSession event.provider
      event.sessionId = .ok channelId)
    (pending : event ∈ processor.pendingEvents)
    (free : processor.state.channelHasPending channelId = false) :
    inboundKey channelId event ∈ next.state.inboundSeen ∨
      event ∈ next.pendingEvents ∧
        next.state.channelHasPending channelId = false ∧
        (eventsBefore event next < eventsBefore event processor ∨
          processor.workTurn % 2 = 0 ∧ next.workTurn = 1 ∧
            eventsBefore event next = eventsBefore event processor) := by
  have here : event ∈ collected.pendingEvents ∧
      eventsBefore event collected = eventsBefore event processor := by
    rcases collects.added with ⟨added, split⟩
    rw [eventsBefore, eventsBefore, split, List.map_append,
      List.idxOf_append_of_mem (List.mem_map_of_mem pending)]
    exact ⟨List.mem_append_left _ pending, rfl⟩
  rw [← here.2, ← collects.workTurn]
  rw [← collects.state] at free
  rcases turned with
    @⟨task, state, _, waiting, sent⟩ | ⟨-, took⟩ | ⟨none, took⟩ | ⟨works⟩
  · have had := waiting.resolve_right fun all =>
      not_waits_of_free mapped free (all event here.1)
    refine Or.inr ⟨here.1, ?_, Or.inr ⟨had, rfl, rfl⟩⟩
    refine free_of_pending free fun requestId other found => Or.inl ?_
    rw [(inboundSeen_sentRequest sent).2, Dict.get?_erase] at found
    split_ifs at found
    exact found
  · refine (nearer_of_took collects.between took.turned mapped here.1
      free).imp_right ?_
    rintro ⟨still, stillFree, nearer⟩
    exact ⟨still, stillFree, Or.inl nearer⟩
  · have searchedFree : (searched collected).state.channelHasPending channelId =
        false := by
      refine free_of_pending free fun requestId other found => Or.inl ?_
      rw [← collected.state.nextPendingTask_spec.1.requestsById]
      exact found
    refine (nearer_of_took (collects.between.searches none) took.turned mapped
      here.1 searchedFree).imp_right ?_
    rintro ⟨still, stillFree, nearer⟩
    exact ⟨still, stillFree, Or.inl nearer⟩
  · rcases works with - | - | - | ⟨none, waiting⟩
    have empty := (empty_of_idle collects.between.resting none waiting).2
    rw [empty] at here
    cases here.1

end Tick

/-- Ticks bring an event nearer, however many requests of other channels
arrive. -/
theorem takesTurns_event
    (mapped : syncer.mapping.channelForProviderSession event.provider
      event.sessionId = .ok channelId) :
    TakesTurns
      (TurnStep setting syncer fun parsed => parsed.channelId ≠ channelId)
      (· == Turn.tick) (EventWaits syncer history first channelId event)
      (EventSeen syncer history first channelId event)
      (fun moment => eventsBefore event moment.1)
      (fun moment => moment.1.workTurn % 2 == 0) where
  kept := by
    intro before label after step served
    refine ⟨step.reached served.reached, ?_⟩
    cases step with
    | interferes => exact served.seen
    | @request processor _ parsed =>
        have same : (processor.state.addSendRequest parsed).2.inboundSeen =
            processor.state.inboundSeen := by
          simp only [RuntimeState.addSendRequest]
          split
          · split_ifs <;> rfl
          · split_ifs <;> rfl
        rw [same]
        exact served.seen
    | tick run unstopped =>
        rcases turned_of_tick served.reached run unstopped with
          ⟨collected, middle, collects, turned⟩
        exact collects.inboundSeen_subset turned served.seen
  between := by
    intro before label after step notTick waits
    have later := step.reached waits.reached
    cases step with
    | interferes =>
        exact Or.inr ⟨⟨later, waits.pending, waits.free⟩, le_rfl, rfl⟩
    | @request processor _ parsed admitted =>
        have linked := waits.reached.betweenTicks.resting.linked
        refine Or.inr ⟨⟨later, waits.pending, ?_⟩, le_rfl, rfl⟩
        refine free_of_pending waits.free fun requestId task found => ?_
        refine ((pending_addSendRequest linked).2 found).imp_right ?_
        rintro rfl
        exact admitted
    | tick => cases notTick
  serves := by
    intro before label after step isTick waits
    have later := step.reached waits.reached
    cases step with
    | tick run unstopped =>
        rcases turned_of_tick waits.reached run unstopped with
          ⟨collected, middle, collects, turned⟩
        refine (collects.eventTurn turned mapped waits.pending waits.free).imp
          (⟨later, ·⟩) ?_
        rintro ⟨pending, free, nearer | ⟨others, ours, same⟩⟩
        · exact ⟨⟨later, pending, free⟩, Or.inl nearer⟩
        · refine ⟨⟨later, pending, free⟩, Or.inr ⟨?_, ?_, same.le⟩⟩
          · simp [others]
          · simp [ours]
    | _ => cases isTick

/--
A pending event with `n` pending events before it, in a channel that has no
pending request and gets none, has a record in the log after `2 * n + 1` ticks
that return and find no stop requested, and one more when the requests have the
turn, whatever requests of other channels and events arrive meanwhile.
-/
theorem event_waitsBounded {before after : Moment setting}
    {turns : List Turn} {earlier rest : List ProviderEvent}
    (reached : TickRun setting syncer history first before.1 before.2)
    (mapped : syncer.mapping.channelForProviderSession event.provider
      event.sessionId = .ok channelId)
    (pending : before.1.pendingEvents = earlier ++ event :: rest)
    (free : before.1.state.channelHasPending channelId = false)
    (path : Path
      (TurnStep setting syncer fun parsed => parsed.channelId ≠ channelId)
      before turns after)
    (enough : 2 * earlier.length + (before.1.workTurn + 1) % 2 <
      turns.count .tick) :
    inboundKey channelId event ∈ after.1.state.inboundSeen ∧
      (Recorded (factsOf (syncer.itemsOf history))
          (inboundKey channelId event) ∨
        RecordedSince syncer first (inboundKey channelId event) after.2) := by
  have member : event ∈ before.1.pendingEvents := by
    rw [pending]
    exact List.mem_append_right _ List.mem_cons_self
  have position : eventsBefore event before.1 ≤ earlier.length := by
    rw [eventsBefore, pending, List.map_append, List.map_cons,
      List.idxOf_append]
    split_ifs with inside
    · exact (List.idxOf_lt_length_of_mem inside).le.trans (by simp)
    · simp
  have served : EventSeen syncer history first channelId event after := by
    apply (takesTurns_event mapped).served path ⟨reached, member, free⟩
    rw [toNat_beq_zero]
    change _ < turns.count .tick
    omega
  exact ⟨served.seen, served.reached.betweenTicks.seen _ served.seen⟩

end Events

/-! ### An event that waits for a request -/

/-- A user's message in the session that the request is sent to. -/
def userEvent : ProviderEvent :=
  { sampleEvent with providerMessageId := "om2" }

/-- The request has been read, and there is room for one event. -/
def busyProcessor : SingleThreadProcessor :=
  { chatProcessor chatPuller with
    state := askedState
    pendingEventLimit := 1 }

/-- The session after the page with the message. -/
def userReceived : SessionPullState :=
  receivedPage (newPuller.startedSession 4 none) ⟨0, 4, none⟩
    ⟨[userEvent], none⟩

def userPuller : ProviderMessagePuller :=
  (chatPuller.advanced 0 "oc1" userReceived).deliver 0 "oc1"
    { userReceived with historyEvents := [] } userEvent

/-- The message has been collected. -/
def userProcessor : SingleThreadProcessor :=
  { busyProcessor with
    messagePullers := [("lark", userPuller)]
    pendingEvents := [userEvent] }

/-- The request has been completed. -/
def waitingProcessor : SingleThreadProcessor :=
  { userProcessor with
    state := askedState.nextPendingTask.2.markSendResultSuccess
      (.ofParsed requestParsed) "lark" "oc1" "om1" 2
    workTurn := 1 }

def userCalls : List Exchange := [
  ⟨.eventStreamError "lark", .ok none⟩,
  ⟨.eventStreamGeneration "lark", .ok 0⟩,
  ⟨.takeEvent "lark", .ok none⟩,
  ⟨.eventStreamError "lark", .ok none⟩,
  ⟨.eventStreamGeneration "lark", .ok 0⟩,
  ⟨.currentTimeMs, (4 : Int)⟩,
  ⟨.fetchHistoryPage "lark" "oc1" 0 4 none, .ok ⟨[userEvent], none⟩⟩]

theorem collects_userEvent : Leads (collectProviderMessages busyProcessor)
    (⟨requestedLog, ()⟩ : Scene requestSetting) userCalls ⟨requestedLog, ()⟩
    (.ok userProcessor) :=
  leads_call (hosts_requestSetting.replies .sound) <|
  leads_call (hosts_requestSetting.replies .connected) <|
  leads_call (hosts_requestSetting.replies .nothing) <|
  leads_call (hosts_requestSetting.replies .sound) <|
  leads_call (hosts_requestSetting.replies .connected) <|
  leads_call (replies_server rfl rfl) <|
  leads_call (replies_provider rfl trivial) leads_ret

/-- The calls of the tick that sends the request. -/
def busyTick : List Exchange :=
  ⟨.stopIsSet, false⟩ :: (userCalls ++ sentCalls)

theorem ticks_busyProcessor : Leads (tick sampleSyncer busyProcessor)
    (⟨requestedLog, ()⟩ : Scene requestSetting) busyTick ⟨answeredLog, ()⟩
    (.ok (true, waitingProcessor)) := by
  have sends : Leads (processNextOutboundTask sampleSyncer userProcessor)
      (⟨requestedLog, ()⟩ : Scene requestSetting) sentCalls ⟨answeredLog, ()⟩
      (.ok (true, { waitingProcessor with workTurn := 0 })) :=
    Leads.calls_eq (.bind hosts_requestSetting.sendsRequest leads_ret) rfl
  exact Leads.calls_eq (leads_call replies_goesOn (.bind leads_ret (.bind
    collects_userEvent (.bind sends leads_ret)))) rfl

theorem reached_busyProcessor :
    TickRun requestSetting sampleSyncer [] (askedWorld ()) busyProcessor
      (askedWorld ()) := by
  refine @TickRun.request _ _ _ _ { busyProcessor with state := .initial } _
    (.launched ⟨rfl, rfl, List.nodup_singleton _, ?_⟩) requestParsed
  intro provider puller member
  cases List.mem_singleton.mp member
  exact ⟨_, _, _, _, startedAt_chatPuller.symm⟩

theorem recordRoute_userEvent :
    recordRoute sampleSyncer 3 userEvent = .ok sampleRoute :=
  recordRoute_sample

/-- The message of the log that carries the record. -/
def userMessage (payload : JsonObject) : Message where
  seq := 3
  channelId := 3
  principal := 7
  recipients := [8]
  payload := encodePayload JsonText.compact payload

/-- The next tick publishes the message. -/
theorem ticks_waitingProcessor : ∃ calls next log,
    (⟨.stopIsSet, true⟩ : Exchange) ∉ calls ∧
      Leads (tick sampleSyncer waitingProcessor)
        (⟨answeredLog, ()⟩ : Scene requestSetting) calls ⟨log, ()⟩
        (.ok (true, next)) := by
  obtain ⟨payload, built⟩ : ∃ payload,
      syncRecordPayload (fullRecordInput userEvent none 5) = .ok payload :=
    ⟨_, rfl⟩
  have small : 3 ≤ uint64Limit := by decide
  obtain ⟨log, appends⟩ : ∃ log,
      answeredLog.Appends ⟨userMessage payload, true⟩ log :=
    ⟨_, @SequencedLog.appends_push _ LogEntry.seq _ answeredLog
      ⟨userMessage payload, true⟩ (Nat.le_refl 3) (Nat.succ_pos 2) small⟩
  have unseen : inboundKey 3 userEvent ∉ waitingProcessor.state.inboundSeen :=
    Finset.notMem_empty _
  have unreported : waitingProcessor.state.sendResultByProviderMessage.get?
      (inboundKey 3 userEvent) = none := rfl
  have checked : (recordMethod sampleRoute (fullRecordInput userEvent
      (waitingProcessor.state.sendResultByProviderMessage.get?
        (inboundKey 3 userEvent)) 5)).record sampleSyncer.text =
        .ok (recordOf (userMessage payload)) := by
    rw [unreported]
    exact record_sample built
  have processes := @leads_records requestSetting ⟨answeredLog, ()⟩ _ _ _ _ _ _
    _ _ (Nat.succ_pos 1) unseen recordRoute_userEvent checked trivial appends
  have ticks : ∃ next, Leads (tick sampleSyncer waitingProcessor)
      (⟨answeredLog, ()⟩ : Scene requestSetting)
      (⟨.stopIsSet, false⟩ :: ⟨.currentTimeMs, (5 : Int)⟩ ::
        publishCalls "user" (userMessage payload) 2) ⟨log, ()⟩
      (.ok (true, next)) :=
    ⟨_, Leads.calls_eq (leads_call replies_goesOn (.bind leads_ret (.bind
      leads_ret (.bind (.bind processes (.bind leads_ret leads_ret))
        leads_ret)))) rfl⟩
  rcases ticks with ⟨next, ticks⟩
  exact ⟨_, next, log, notStopped_of_goesOn rfl, ticks⟩

/-- The message is published although requests come first. -/
theorem event_waitsBounded_sample : ∃ after : Moment requestSetting,
    inboundKey 3 userEvent ∈ after.1.state.inboundSeen ∧
      (Recorded (factsOf (sampleSyncer.itemsOf [])) (inboundKey 3 userEvent) ∨
        RecordedSince sampleSyncer (askedWorld () : WorldState requestSetting)
          (inboundKey 3 userEvent) after.2) := by
  rcases ticks_waitingProcessor with ⟨calls, next, log, notStopped, ticks⟩
  have reached : TickRun requestSetting sampleSyncer [] (askedWorld ())
      waitingProcessor ((⟨answeredLog, ()⟩ : Scene requestSetting).world
        (firstCalls ++ busyTick)) :=
    .tick reached_busyProcessor (ticks_busyProcessor firstCalls)
  have step : TurnStep requestSetting sampleSyncer (·.channelId ≠ 3)
      (waitingProcessor, (⟨answeredLog, ()⟩ : Scene requestSetting).world
        (firstCalls ++ busyTick)) .tick
      (next, (⟨log, ()⟩ : Scene requestSetting).world
        (firstCalls ++ busyTick ++ calls)) :=
    .tick (ticks (firstCalls ++ busyTick)) ⟨calls, rfl, notStopped⟩
  have enough : 2 * 0 + (1 + 1) % 2 < [Turn.tick].count .tick := by decide
  exact ⟨_, @event_waitsBounded _ _ _ _ _ _ (waitingProcessor, _) _ _ [] []
    reached rfl rfl rfl (.single step) enough⟩

end OpenEventIm.Syncer.TickFairness
