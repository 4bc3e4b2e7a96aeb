import OpenEventIm.Foundation.PendingCalls
import OpenEventIm.Syncer.PollEvents
import OpenEventIm.Syncer.Processor

/-!
# The worker

`P2PSyncer` as a whole: it replays the history, starts the pullers and polls the
log, with the processor in the handlers of the loops.  A stage is what a process
has still to do; it is cut into iterations of the poll loop.

A run of the worker consists of processes, one after the other.  A process may
crash at any point, its failures included, and only the log, the providers and
what has been asked of them outlive it.
-/

namespace OpenEventIm.Syncer.Worker

open OpenEventIm.Foundation
open OpenEventIm.Foundation.Interaction
open OpenEventIm.Foundation.PendingCalls
open OpenEventIm.Sdk.Errors
open OpenEventIm.Service.Calls
open OpenEventIm.Service.World
open OpenEventIm.Syncer.Models
open OpenEventIm.Syncer.Mapping
open OpenEventIm.Syncer.State
open OpenEventIm.Syncer.HistoryReplay
open OpenEventIm.Syncer.HistoryReplay.P2PSyncer
open OpenEventIm.Syncer.ProviderMessages
open OpenEventIm.Syncer.Processor
open OpenEventIm.Syncer.Processor.SingleThreadProcessor
open OpenEventIm.Syncer.PollEvents

variable (syncer : P2PSyncer)

/-! ## Construction -/

/-- `provider_queue_sizes`. -/
def providerQueueSizes : Except PyError (Dict String Nat) :=
  syncer.mapping.channelIds.foldlM (fun sizes channelId => do
    let session ← syncer.mapping.providerSession channelId
    let config ← syncer.mapping.providerConfigForChannel channelId
    return sizes.set session.1 config.sync.eventQueueSize) ∅

/-- The processor and the pullers of `P2PSyncer(...)`. -/
def createProcessor : Except PyError SingleThreadProcessor := do
  let sizes ← providerQueueSizes syncer
  return {
    state := .initial
    messagePullers := syncer.config.providers.items.map fun provider =>
      (provider.1, .create provider.1 provider.2.sync)
    pendingEvents := []
    pendingEventLimit := sizes.values.sum
    workTurn := 0 }

/-! ## Starting and stopping the pullers -/

/-- `session_highwater_ms` of a provider. -/
def sessionHighwaterMs (state : RuntimeState) (provider : String) :
    Except PyError (Dict String (Option Int)) :=
  syncer.mapping.channelIds.foldlM (fun highwater channelId => do
    let session ← syncer.mapping.providerSession channelId
    return if session.1 = provider then
      highwater.set session.2 (state.latestEventMs channelId)
    else
      highwater) ∅

/-- The loop of `_start_message_pullers`. -/
def startMessagePullers (state : RuntimeState) :
    List (String × ProviderMessagePuller) →
      Action (List (String × ProviderMessagePuller))
  | [] => return []
  | (provider, puller) :: rest => do
      let highwater ← Action.ofExcept
        (sessionHighwaterMs syncer state provider)
      let puller ← puller.start highwater
      let rest ← startMessagePullers state rest
      return (provider, puller) :: rest

/-- The loop of `stop`. -/
def stopMessagePullers : List (String × ProviderMessagePuller) → Action Unit
  | [] => return ()
  | (_, puller) :: rest => do
      let _ ← puller.stop
      stopMessagePullers rest

/-! ## Processes -/

/-- What the worker does with the messages of the log, and at a tick. -/
def handlers : Handlers SingleThreadProcessor where
  history processor message := do
    let state ← syncer.processHistoryMessage processor.state message
    return { processor with state }
  launch processor := do
    let messagePullers ← startMessagePullers syncer processor.state
      processor.messagePullers
    return { processor with messagePullers }
  live processor message := do
    let state ← syncer.processLiveMessage processor.state message
    return { processor with state }
  tick processor := do
    let (_, processor) ← tick syncer processor
    return processor

/-- What a process has still to do. -/
inductive Stage where
  | starting (processor : SingleThreadProcessor)
  | polling (vars : PollVars SingleThreadProcessor)

/-- The handlers of the exceptions in `start`. -/
def stopOnFailure (pullers : List (String × ProviderMessagePuller))
    (body : Action (Option Stage)) : Action (Option Stage) :=
  body.handle fun exc =>
    if exc.cls = .syncerStopped then do
      if ← stopIsSet then
        return none
      else
        throw exc
    else do
      stopMessagePullers pullers
      throw exc

/-- The next part of `start`, and the stage after it, if there is one. -/
def Stage.program : Stage → Action (Option Stage)
  | .starting processor => stopOnFailure processor.messagePullers do
      let vars ← boot syncer (handlers syncer) processor
      return some (.polling vars)
  | .polling vars => stopOnFailure vars.held.messagePullers do
      match ← pollBody syncer (handlers syncer) vars with
      | .inl next => return some (.polling next)
      | .inr () => return none

/-- A stage that has another one after it has not failed. -/
theorem runs_stopOnFailure {environment : Environment service}
    {before after : environment.State} {body : Action (Option Stage)}
    {pullers : List (String × ProviderMessagePuller)} {next : Stage}
    (run : Runs environment before (stopOnFailure pullers body) after
      (.ok (some next))) :
    Runs environment before body after (.ok (some next)) := by
  rw [stopOnFailure] at run
  rcases runs_handle run with ⟨result, inside, same⟩ | ⟨middle, exc, -, recover⟩
  · cases same
    exact inside
  · split_ifs at recover
    · rcases runs_bind recover with ⟨_, stopped, -, rest⟩ | ⟨_, -, same⟩
      · split_ifs at rest
        · cases (runs_ret.mp rest).2
        · cases (runs_fail.mp rest).2
      · cases same
    · rcases runs_bind recover with ⟨_, _, -, rest⟩ | ⟨_, -, same⟩
      · cases (runs_fail.mp rest).2
      · cases same

/-! ## Runs -/

/-- The stages in which a worker can be, with the world around it.  A process
that ends, fails or crashes is followed by another one. -/
inductive WorkerRun (setting : Setting) (deployed : P2PSyncer → Prop)
    (first : WorldState setting) :
    P2PSyncer → Stage → WorldState setting → Prop where
  | starts {syncer : P2PSyncer} {processor after}
      (deploys : deployed syncer)
      (created : createProcessor syncer = .ok processor)
      (idle : (world setting).Evolves first after) :
      WorkerRun setting deployed first syncer (.starting processor) after
  | proceeds {syncer : P2PSyncer} {stage next : Stage} {before after}
      (run : WorkerRun setting deployed first syncer stage before)
      (step : Runs (world setting) before (stage.program syncer) after
        (.ok (some next))) :
      WorkerRun setting deployed first syncer next after
  | restarts {syncer next : P2PSyncer} {stage : Stage}
      {before crashed after} {processor}
      (run : WorkerRun setting deployed first syncer stage before)
      (crash : Visits (world setting) before (stage.program syncer) crashed)
      (idle : (world setting).Evolves crashed after)
      (deploys : deployed next)
      (created : createProcessor next = .ok processor) :
      WorkerRun setting deployed first next (.starting processor) after

/-- A moment of a run: between two stages or in the middle of one. -/
def Moment (setting : Setting) (deployed : P2PSyncer → Prop)
    (first moment : WorldState setting) : Prop :=
  ∃ syncer stage before, WorkerRun setting deployed first syncer stage before ∧
    Visits (world setting) before (stage.program syncer) moment

/-- The worker makes a call at a moment of a run. -/
def Asks (setting : Setting) (deployed : P2PSyncer → Prop)
    (first moment : WorldState setting) (request : Call) : Prop :=
  ∃ syncer stage before, WorkerRun setting deployed first syncer stage before ∧
    Issues (world setting) before (stage.program syncer) moment request

theorem Asks.moment {setting : Setting} {deployed : P2PSyncer → Prop}
    {first moment : WorldState setting} {request : Call}
    (asks : Asks setting deployed first moment request) :
    Moment setting deployed first moment := by
  rcases asks with ⟨syncer, stage, before, run, issues⟩
  exact ⟨syncer, stage, before, run, issues.visits⟩

section Induction

variable {setting : Setting} {deployed : P2PSyncer → Prop}
  {first moment current : WorldState setting} {syncer : P2PSyncer}
  {stage : Stage} {assertion : WorldState setting → Prop}

theorem WorkerRun.induct
    (run : WorkerRun setting deployed first syncer stage current)
    (stable : (world setting).Stable assertion)
    (kept : ∀ ready request answer answered,
      Asks setting deployed first ready request →
        Answers ready request answer answered →
          assertion ready → assertion answered)
    (holds : assertion first) : assertion current := by
  induction run with
  | starts deploys created idle => exact stable.evolves idle holds
  | proceeds run step ih =>
      apply visits_induct step.visits stable _ ih
      intro ready request answer answered issues
      exact kept ready request answer answered ⟨_, _, _, run, issues⟩
  | restarts run crash idle deploys created ih =>
      apply stable.evolves idle
      apply visits_induct crash stable _ ih
      intro ready request answer answered issues
      exact kept ready request answer answered ⟨_, _, _, run, issues⟩

/-- What the others and the calls of the worker keep holds at every moment. -/
theorem Moment.induct (isMoment : Moment setting deployed first moment)
    (stable : (world setting).Stable assertion)
    (kept : ∀ ready request answer answered,
      Asks setting deployed first ready request →
        Answers ready request answer answered →
          assertion ready → assertion answered)
    (holds : assertion first) : assertion moment := by
  rcases isMoment with ⟨syncer, stage, before, run, visits⟩
  apply visits_induct visits stable _ (run.induct stable kept holds)
  intro ready request answer answered issues
  exact kept ready request answer answered ⟨_, _, _, run, issues⟩

end Induction

end OpenEventIm.Syncer.Worker
