import OpenEventIm.Syncer.Processor

/-!
# What a tick does

A tick that returns has collected provider events and then done one piece of
work, or found none to do.  `Worked` lists the possibilities, with the run of
the publishes in between; everything later about ticks is read off it.
-/

namespace OpenEventIm.Syncer.TickOutcomes

open OpenEventIm.Foundation
open OpenEventIm.Foundation.Interaction
open OpenEventIm.Sdk.Errors
open OpenEventIm.Service.Calls
open OpenEventIm.Syncer.Models
open OpenEventIm.Syncer.State
open OpenEventIm.Syncer.HistoryReplay
open OpenEventIm.Syncer.ProviderMessages
open OpenEventIm.Syncer.Processor
open OpenEventIm.Syncer.Processor.SingleThreadProcessor

variable {environment : Environment service} {syncer : P2PSyncer}
  {processor collected next : SingleThreadProcessor}
  {before middle after : environment.State} {worked : Bool}

/-! ## Outcomes -/

/-- The event waits for a request of its channel. -/
def Waits (syncer : P2PSyncer) (state : RuntimeState) (event : ProviderEvent) :
    Prop :=
  ∃ channelId,
    syncer.mapping.channelForProviderSession event.provider event.sessionId =
      .ok channelId ∧ state.channelHasPending channelId = true

/-- A request was sent and its result published. -/
structure SentRequest (environment : Environment service) (syncer : P2PSyncer)
    (processor : SingleThreadProcessor) (before : environment.State)
    (task : OutboundTask) (state : RuntimeState) (after : environment.State) :
    Prop where
  selected : processor.state.nextPendingTask.1 = some task
  run : Runs environment before
    (processOutboundTask syncer processor.state.nextPendingTask.2 task) after
    (.ok state)

/-- The first event that does not wait was published and acknowledged. -/
structure TookEvent (environment : Environment service) (syncer : P2PSyncer)
    (processor : SingleThreadProcessor) (before : environment.State)
    (event : ProviderEvent) (next : SingleThreadProcessor)
    (after : environment.State) : Prop where
  free : ∃ channelId,
    syncer.mapping.channelForProviderSession event.provider event.sessionId =
      .ok channelId ∧
    processor.state.channelHasPending channelId = false ∧
    Runs environment before
      (publishProviderEvent syncer processor.state channelId event) after
      (.ok next.state)
  removed : ∃ skipped rest,
    processor.pendingEvents = skipped ++ event :: rest ∧
      next.pendingEvents = skipped ++ rest ∧
        ∀ other ∈ skipped, Waits syncer processor.state other
  acknowledged : acknowledgeIn event processor.messagePullers =
    .ok next.messagePullers
  limit : next.pendingEventLimit = processor.pendingEventLimit

/-- Whose turn is next does not matter for what was done. -/
theorem TookEvent.turned {event : ProviderEvent} {workTurn : Nat}
    (took : TookEvent environment syncer processor before event next after) :
    TookEvent environment syncer processor before event
      { next with workTurn } after :=
  ⟨took.free, took.removed, took.acknowledged, took.limit⟩

/-- The processor after `next_pending_task` found nothing. -/
def searched (processor : SingleThreadProcessor) : SingleThreadProcessor :=
  { processor with state := processor.state.nextPendingTask.2 }

/-- What a tick has done after its collection. -/
inductive Worked (environment : Environment service) (syncer : P2PSyncer)
    (collected : SingleThreadProcessor) (before : environment.State) :
    Bool → SingleThreadProcessor → environment.State → Prop where
  | request {task state after workTurn}
      (sent : SentRequest environment syncer collected before task state after) :
      Worked environment syncer collected before true
        { collected with state, workTurn } after
  | event {event next after}
      (took : TookEvent environment syncer collected before event next after) :
      Worked environment syncer collected before true next after
  /-- The requests came first and there was none to take. -/
  | eventAfterSearch {event next after}
      (none : collected.state.nextPendingTask.1 = none)
      (took : TookEvent environment syncer (searched collected) before event
        next after) :
      Worked environment syncer collected before true next after
  | idle (none : collected.state.nextPendingTask.1 = none)
      (waiting : (∀ event ∈ collected.pendingEvents,
          Waits syncer collected.state event) ∨
        ∀ event ∈ collected.pendingEvents,
          Waits syncer (searched collected).state event) :
      Worked environment syncer collected before false (searched collected)
        before

/-! ## The two kinds of work -/

theorem runs_processNextOutboundTask
    (run : Runs environment before (processNextOutboundTask syncer processor)
      after (.ok (worked, next))) :
    (processor.state.nextPendingTask.1 = none ∧ worked = false ∧
        next = searched processor ∧ after = before) ∨
      ∃ task state, worked = true ∧ next = { processor with state } ∧
        SentRequest environment syncer processor before task state after := by
  rw [processNextOutboundTask] at run
  rcases chosen : processor.state.nextPendingTask with ⟨task, blocked⟩
  rw [chosen] at run
  cases task with
  | none =>
      rcases runs_ret.mp run with ⟨rfl, returned⟩
      cases returned
      exact Or.inl ⟨rfl, rfl, by rw [searched, chosen], rfl⟩
  | some task =>
      rcases runs_bind run with ⟨middle, state, sent, rest⟩ | ⟨_, _, failed⟩
      · rcases runs_ret.mp rest with ⟨rfl, returned⟩
        cases returned
        refine Or.inr ⟨task, state, rfl, rfl, ⟨by rw [chosen], ?_⟩⟩
        rw [chosen]
        exact sent
      · cases failed

theorem runs_processEvents {skipped events : List ProviderEvent}
    (split : processor.pendingEvents = skipped ++ events)
    (waiting : ∀ event ∈ skipped, Waits syncer processor.state event)
    (run : Runs environment before
      (processEvents syncer processor skipped events) after
      (.ok (worked, next))) :
    (worked = false ∧ next = processor ∧ after = before ∧
        ∀ event ∈ processor.pendingEvents,
          Waits syncer processor.state event) ∨
      ∃ event, worked = true ∧ next.workTurn = processor.workTurn ∧
        TookEvent environment syncer processor before event next after := by
  induction events generalizing skipped with
  | nil =>
      rcases runs_ret.mp run with ⟨rfl, returned⟩
      cases returned
      rw [List.append_nil] at split
      exact Or.inl ⟨rfl, rfl, rfl, split ▸ waiting⟩
  | cons event rest ih =>
      rw [processEvents] at run
      cases mapped : syncer.mapping.channelForProviderSession event.provider
          event.sessionId with
      | error =>
          rw [mapped] at run
          cases (runs_fail.mp run).2
      | ok channelId =>
          simp only [mapped] at run
          cases busy : processor.state.channelHasPending channelId with
          | true =>
              rw [if_pos busy] at run
              apply ih (by rw [split, List.append_assoc]; rfl) _ run
              intro other member
              rcases List.mem_append.mp member with old | new
              · exact waiting other old
              · cases List.mem_singleton.mp new
                exact ⟨channelId, mapped, busy⟩
          | false =>
              rw [if_neg (by rw [busy]; nofun)] at run
              rcases runs_bind run with ⟨middle, state, published, tail⟩ |
                ⟨_, _, failed⟩
              · cases acknowledged :
                    acknowledgeIn event processor.messagePullers with
                | error error =>
                    rw [acknowledged] at tail
                    cases (runs_fail.mp tail).2
                | ok pullers =>
                    rw [acknowledged] at tail
                    rcases runs_ret.mp tail with ⟨rfl, returned⟩
                    cases returned
                    refine Or.inr ⟨event, rfl, rfl, ⟨?_, ?_, ?_, rfl⟩⟩
                    · exact ⟨channelId, mapped, busy, published⟩
                    · exact ⟨skipped, rest, split, rfl, waiting⟩
                    · exact acknowledged
              · cases failed

/-- The loop over the pending events, from its start. -/
theorem runs_processNextProviderEvent
    (run : Runs environment before (processNextProviderEvent syncer processor)
      after (.ok (worked, next))) :
    (worked = false ∧ next = processor ∧ after = before ∧
        ∀ event ∈ processor.pendingEvents,
          Waits syncer processor.state event) ∨
      ∃ event, worked = true ∧ next.workTurn = processor.workTurn ∧
        TookEvent environment syncer processor before event next after :=
  runs_processEvents rfl (fun _ member => by cases member) run

/-! ## The tick -/

/-- One round of the loop over the kinds of work. -/
theorem runs_workFrom_succ {workTurn offset remaining : Nat}
    (run : Runs environment before
      (workFrom syncer workTurn processor offset (remaining + 1)) after
      (.ok (worked, next))) :
    ∃ middle found reached,
      Runs environment before
        (doWork syncer processor ((workTurn + offset) % 2)) middle
        (.ok (found, reached)) ∧
      (found = true ∧ worked = true ∧ after = middle ∧
          next = { reached with
            workTurn := ((workTurn + offset) % 2 + 1) % 2 } ∨
        found = false ∧ Runs environment middle
          (workFrom syncer workTurn reached (offset + 1) remaining) after
          (.ok (worked, next))) := by
  rw [workFrom] at run
  rcases runs_bind run with ⟨middle, ⟨found, reached⟩, work, rest⟩ |
    ⟨_, _, failed⟩
  · refine ⟨middle, found, reached, work, ?_⟩
    cases found with
    | true =>
        rcases runs_ret.mp rest with ⟨rfl, returned⟩
        cases returned
        exact Or.inl ⟨rfl, rfl, rfl, rfl⟩
    | false => exact Or.inr ⟨rfl, rest⟩
  · cases failed

/-- The work of a tick, whichever kind comes first. -/
theorem worked_of_runs {workTurn : Nat}
    (run : Runs environment before
      (workFrom syncer workTurn collected 0 2) after (.ok (worked, next))) :
    Worked environment syncer collected before worked next after := by
  rcases runs_workFrom_succ run with ⟨middle, found, reached, first, done⟩
  have second : ∀ {start}, Runs environment start
      (workFrom syncer workTurn reached 1 1) after (.ok (worked, next)) →
      ∃ middle found other,
        Runs environment start (doWork syncer reached ((workTurn + 1) % 2))
          middle (.ok (found, other)) ∧ after = middle ∧ worked = found ∧
          next = (if found then
            { other with workTurn := ((workTurn + 1) % 2 + 1) % 2 }
            else other) := by
    intro start again
    rcases runs_workFrom_succ again with
      ⟨middle, found, other, work, ⟨rfl, rfl, rfl, rfl⟩ | ⟨rfl, rest⟩⟩
    · exact ⟨after, true, other, work, rfl, rfl, rfl⟩
    · rcases runs_ret.mp rest with ⟨rfl, returned⟩
      cases returned
      exact ⟨after, false, _, work, rfl, rfl, rfl⟩
  rcases Nat.mod_two_eq_zero_or_one workTurn with even | odd
  · -- the requests come first
    have eventsNext : (workTurn + 1) % 2 ≠ 0 := by omega
    rw [doWork, if_pos (by simpa using even)] at first
    rcases runs_processNextOutboundTask first with
      ⟨none, rfl, rfl, rfl⟩ | ⟨task, state, rfl, rfl, sent⟩
    · rcases done with ⟨⟨⟩, -⟩ | ⟨-, rest⟩
      rcases second rest with ⟨_, found, last, work, rfl, rfl, rfl⟩
      rw [doWork, if_neg eventsNext] at work
      rcases runs_processNextProviderEvent work with
        ⟨rfl, rfl, rfl, waiting⟩ | ⟨event, rfl, -, took⟩
      · exact .idle none (Or.inr waiting)
      · exact .eventAfterSearch none took.turned
    · rcases done with ⟨-, rfl, rfl, rfl⟩ | ⟨⟨⟩, -⟩
      exact .request sent
  · -- the events come first
    have requestsNext : (workTurn + 1) % 2 = 0 := by omega
    rw [doWork, if_neg (by rw [Nat.add_zero, odd]; nofun)] at first
    rcases runs_processNextProviderEvent first with
      ⟨rfl, rfl, rfl, waiting⟩ | ⟨event, rfl, -, took⟩
    · rcases done with ⟨⟨⟩, -⟩ | ⟨-, rest⟩
      rcases second rest with ⟨_, found, last, work, rfl, rfl, rfl⟩
      rw [doWork, if_pos requestsNext] at work
      rcases runs_processNextOutboundTask work with
        ⟨none, rfl, rfl, rfl⟩ | ⟨task, state, rfl, rfl, sent⟩
      · exact .idle none (Or.inl waiting)
      · exact .request sent
    · rcases done with ⟨-, rfl, rfl, rfl⟩ | ⟨⟨⟩, -⟩
      exact .event took.turned

/-- What a tick that returns has done. -/
inductive Ticked (environment : Environment service) (syncer : P2PSyncer)
    (processor : SingleThreadProcessor) (before : environment.State) :
    Bool → SingleThreadProcessor → environment.State → Prop where
  | stopped {ready after} (evolves : environment.Evolves before ready)
      (answers : environment.Answers ready .stopIsSet true after) :
      Ticked environment syncer processor before false processor after
  | worked {ready started middle after collected worked next}
      (evolves : environment.Evolves before ready)
      (answers : environment.Answers ready .stopIsSet false started)
      (collects : Runs environment started
        (collectProviderMessages processor) middle (.ok collected))
      (works : Worked environment syncer collected middle worked next after) :
      Ticked environment syncer processor before worked next after

theorem ticked_of_runs
    (run : Runs environment before (tick syncer processor) after
      (.ok (worked, next))) :
    Ticked environment syncer processor before worked next after := by
  rcases runs_callBind run with
    ⟨ready, stopped, started, evolves, answers, rest⟩
  rw [Program.ret_bind] at rest
  cases stopped with
  | true =>
      rcases runs_ret.mp rest with ⟨rfl, returned⟩
      cases returned
      exact .stopped evolves answers
  | false =>
      rcases runs_bind rest with ⟨middle, collected, collects, work⟩ |
        ⟨_, _, failed⟩
      · exact .worked evolves answers collects (worked_of_runs work)
      · cases failed

end OpenEventIm.Syncer.TickOutcomes
