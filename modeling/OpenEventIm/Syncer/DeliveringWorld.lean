import OpenEventIm.Foundation.Simulations
import OpenEventIm.Syncer.AtMostOnce
import OpenEventIm.Syncer.Watermark

/-!
# The worker at a provider that delivers

The world of the worker with one provider that stamps its messages, keeps their
history and streams new ones.  The worker and the provider have one clock.  The
stream of a process ends with it; while a puller starts, from the opening of the
stream until `start` has read the generation, no reconnect completes.

A run keeps account of the time from which on each session is delivered: the
start of the first handoff, until a message of the session has been confirmed.
-/

namespace OpenEventIm.Syncer.DeliveringWorld

open OpenEventIm.Foundation
open OpenEventIm.Foundation.Interaction
open OpenEventIm.Foundation.PendingCalls
open OpenEventIm.Foundation.Transcripts
open OpenEventIm.Sdk.Errors
open OpenEventIm.Service.Calls
open OpenEventIm.Service.World
open OpenEventIm.Syncer.HistoryReplay
open OpenEventIm.Syncer.ProviderMessages
open OpenEventIm.Syncer.ProviderDelivery
open OpenEventIm.Syncer.Processor
open OpenEventIm.Syncer.PollEvents
open OpenEventIm.Syncer.Worker
open OpenEventIm.Syncer.AtMostOnce
open OpenEventIm.Syncer.Watermark

/-! ## The provider -/

/-- The provider, and whether a puller has opened the stream and not yet read
its generation. -/
structure StreamedProvider where
  world : ProviderWorld
  opening : Bool

/-- The messages of a provider whose stream has ended. -/
def ended (world : ProviderWorld) : ProviderWorld :=
  { world with
    sent := world.sent.map fun sent =>
      { sent with missed := false, generation := 0 }
    running := false
    subscribed := []
    connected := false
    generation := 0
    queue := [] }

/-- While a puller starts no reconnect completes.  The flag says whether the
stream may end. -/
inductive StreamedSteps (ending : Bool) (before : StreamedProvider) :
    StreamedProvider → Prop where
  | provider {world : ProviderWorld}
      (steps : ProviderSteps (!before.opening) before.world world) :
      StreamedSteps ending before { before with world }
  | ends (allowed : ending = true) :
      StreamedSteps ending before ⟨ended before.world, false⟩

/-- What a call tells the provider about the start of a puller. -/
def openingAfter (opening : Bool) :
    (request : Call) → Answer request → Bool
  | .startEventStream _ _, .ok _ => true
  | .eventStreamGeneration _, .ok _ => false
  | _, _ => opening

structure StreamedAnswers (before : StreamedProvider) (request : Call)
    (answer : Answer request) (after : StreamedProvider) : Prop where
  provider : ProviderAnswers before.world request answer after.world
  opening : after.opening = openingAfter before.opening request answer

@[reducible]
def streamedProvider (ending : Bool) : ProviderBehaviour where
  State := StreamedProvider
  Steps := StreamedSteps ending
  Answers := StreamedAnswers

/-- A setting with a provider that delivers. -/
@[reducible]
def deliverySetting (ending : Bool) (foreign : Log → Message → Prop)
    (committable : Message → Prop) : Setting where
  provider := streamedProvider ending
  foreign := foreign
  committable := committable

/-- The world while a process runs: its stream does not end. -/
abbrev ProcessWorld (foreign : Log → Message → Prop)
    (committable : Message → Prop) : Type :=
  WorldState (deliverySetting false foreign committable)

/-- The same world, in which processes end. -/
abbrev WholeWorld (foreign : Log → Message → Prop)
    (committable : Message → Prop) : Type :=
  WorldState (deliverySetting true foreign committable)

variable {foreign : Log → Message → Prop} {committable : Message → Prop}

/-! ## The environment of a process -/

/-- The worker reads the provider's clock. -/
def Timed (clock : Int) : (request : Call) → Answer request → Prop
  | .currentTimeMs, nowMs => nowMs = clock
  | _, _ => True

/-- The world as a process meets it. -/
@[reducible]
def delivering (foreign : Log → Message → Prop)
    (committable : Message → Prop) : Environment service where
  State := ProcessWorld foreign committable
  Interferes := Interferes
  Answers before request answer after :=
    Answers before request answer after ∧
      Timed before.provider.world.clock request answer

/-- Without the clock. -/
def toProcess : Simulation (delivering foreign committable)
    (world (deliverySetting false foreign committable)) where
  view state := state
  interferes _ _ step := .single step
  answers _ _ _ _ answers := answers.1

def wholeOf (state : ProcessWorld foreign committable) :
    WholeWorld foreign committable where
  log := state.log
  provider := state.provider
  trace := state.trace

/-- Within the life of the worker. -/
def toWhole : Simulation (delivering foreign committable)
    (world (deliverySetting true foreign committable)) where
  view := wholeOf
  interferes before after step := by
    cases step with
    | published allowed appends => exact .single (.published allowed appends)
    | provider steps =>
        cases steps with
        | provider steps => exact .single (.provider (.provider steps))
        | ends allowed => cases allowed
  answers _ _ _ _ answers :=
    ⟨answers.1.server, answers.1.provider, answers.1.trace⟩

theorem steps_mono {reconnecting : Bool} {before after : ProviderWorld}
    (steps : ProviderSteps reconnecting before after) :
    ProviderSteps true before after := by
  cases steps with
  | passes later => exact .passes later
  | sends stamped fresh => exact .sends stamped fresh
  | disconnects running => exact .disconnects running
  | reconnects _ running disconnected =>
      exact .reconnects rfl running disconnected

theorem providerAnswers_of_timed {before : ProviderWorld} {request : Call}
    {answer : Answer request} (noProvider : request.isProvider = false)
    (timed : Timed before.clock request answer) :
    ProviderAnswers before request answer before := by
  cases request with
  | currentTimeMs => exact ⟨timed, rfl⟩
  | getStatus => exact rfl
  | publishAutoSeq => exact rfl
  | fetch => exact rfl
  | stopIsSet => exact rfl
  | stopWait => exact rfl
  | _ => cases noProvider

/-- How the provider answers any call. -/
theorem provider_answers
    {before after : ProcessWorld foreign committable}
    {request : Call} {answer : Answer request}
    (answers : (delivering foreign committable).Answers before request answer
      after) :
    ProviderAnswers before.provider.world request answer
      after.provider.world := by
  have provider := answers.1.provider
  split_ifs at provider with isProvider
  · exact StreamedAnswers.provider provider
  · rw [provider]
    exact providerAnswers_of_timed (Bool.not_eq_true _ ▸ isProvider) answers.2

/-- The provider alone. -/
def toProvider : Simulation (delivering foreign committable)
    (providerWorld true) where
  view state := state.provider.world
  interferes before after step := by
    cases step with
    | published => exact .refl
    | provider steps =>
        cases steps with
        | provider steps => exact .single (steps_mono steps)
        | ends allowed => cases allowed
  answers _ _ _ _ := provider_answers

/-! ## Runs -/

/-- The world when the process has ended. -/
def afterProcess (state : ProcessWorld foreign committable) :
    ProcessWorld foreign committable :=
  { state with provider := ⟨ended state.provider.world, false⟩ }

/-- From where on a session is delivered after the start of a puller. -/
def deliveredFrom (floors : String → Int) (puller : ProviderMessagePuller)
    (sessionId : String) : Int :=
  if (confirmedOf puller sessionId).isSome then floors sessionId
  else firstHandoffs puller sessionId

/-- The floors after a stage: the first one of a process starts the pullers. -/
def floorsAfter (floors : String → Int) : Stage → Stage → String → Int
  | .starting _, .polling vars =>
      vars.held.messagePullers.foldl
        (fun floors item => deliveredFrom floors item.2) floors
  | _, _ => floors

/-- The runs of the worker at the provider, with the floors of its sessions. -/
inductive DeliveringRun (foreign : Log → Message → Prop)
    (committable : Message → Prop) (syncer : P2PSyncer)
    (first : ProcessWorld foreign committable) :
    (String → Int) → Stage → ProcessWorld foreign committable → Prop where
  | starts {processor after}
      (created : createProcessor syncer = .ok processor)
      (idle : (delivering foreign committable).Evolves (afterProcess first)
        after) :
      DeliveringRun foreign committable syncer first (fun _ => 0)
        (.starting processor) after
  | proceeds {floors : String → Int} {stage next : Stage} {before after}
      (run : DeliveringRun foreign committable syncer first floors stage before)
      (step : Runs (delivering foreign committable) before
        (stage.program syncer) after (.ok (some next))) :
      DeliveringRun foreign committable syncer first
        (floorsAfter floors stage next) next after
  | restarts {floors : String → Int} {stage : Stage}
      {before crashed after} {processor}
      (run : DeliveringRun foreign committable syncer first floors stage before)
      (crash : Visits (delivering foreign committable) before
        (stage.program syncer) crashed)
      (idle : (delivering foreign committable).Evolves (afterProcess crashed)
        after)
      (created : createProcessor syncer = .ok processor) :
      DeliveringRun foreign committable syncer first floors
        (.starting processor) after

section Runs

variable {syncer : P2PSyncer}
  {first current after : ProcessWorld foreign committable}
  {floors : String → Int} {stage : Stage}

theorem evolves_afterProcess
    (idle : (delivering foreign committable).Evolves (afterProcess current)
      after) :
    (world (deliverySetting true foreign committable)).Evolves
      (wholeOf current) (wholeOf after) :=
  .head (.provider (.ends rfl)) (toWhole.evolves idle)

/-- It is a run of the worker. -/
theorem DeliveringRun.workerRun
    (run : DeliveringRun foreign committable syncer first floors stage
      current) :
    WorkerRun (deliverySetting true foreign committable) (Fixed syncer)
      (wholeOf first) syncer stage (wholeOf current) := by
  induction run with
  | starts created idle =>
      exact .starts rfl created (evolves_afterProcess idle)
  | proceeds _ step ih => exact ih.proceeds (toWhole.runs step)
  | restarts _ crash idle created ih =>
      exact ih.restarts (toWhole.visits crash) (evolves_afterProcess idle) rfl
        created

end Runs

end OpenEventIm.Syncer.DeliveringWorld
