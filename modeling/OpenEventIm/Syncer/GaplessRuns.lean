import OpenEventIm.Syncer.DegradedRecord
import OpenEventIm.Syncer.GaplessStarts
import OpenEventIm.Syncer.WorkerRuns

/-!
# Runs that leave no gap

The poll loop keeps the puller and the log together.  A process starts its
puller from the latest records of the log, so the windows of the puller begin
where the log has no gap yet.  Hence no run of the worker, over any number of
crashes and restarts, leaves a gap in the log.
-/

namespace OpenEventIm.Syncer.GaplessRuns

open OpenEventIm.Foundation
open OpenEventIm.Foundation.Interaction
open OpenEventIm.Foundation.PendingCalls
open OpenEventIm.Foundation.Transcripts
open OpenEventIm.Sdk.Errors
open OpenEventIm.Sdk.Codec
open OpenEventIm.Service.Calls
open OpenEventIm.Service.World
open OpenEventIm.Syncer.Models
open OpenEventIm.Syncer.State
open OpenEventIm.Syncer.LogMeaning
open OpenEventIm.Syncer.HistoryReplay
open OpenEventIm.Syncer.HistoryReplay.P2PSyncer
open OpenEventIm.Syncer.ProviderMessages
open OpenEventIm.Syncer.ProviderMessages.ProviderMessagePuller
open OpenEventIm.Syncer.ProviderDelivery
open OpenEventIm.Syncer.Processor
open OpenEventIm.Syncer.Processor.SingleThreadProcessor
open OpenEventIm.Syncer.PollEvents
open OpenEventIm.Syncer.LogReading
open OpenEventIm.Syncer.PullerSessions
open OpenEventIm.Syncer.SessionDelivery
open OpenEventIm.Syncer.Watermark
open OpenEventIm.Syncer.TickRuns
open OpenEventIm.Syncer.Worker
open OpenEventIm.Syncer.WrittenLog
open OpenEventIm.Syncer.WorkerLedger
open OpenEventIm.Syncer.WorkerMemory
open OpenEventIm.Syncer.WorkerCalls
open OpenEventIm.Syncer.WorkerRuns
open OpenEventIm.Syncer.AtMostOnce
open OpenEventIm.Syncer.DeliveringWorld
open OpenEventIm.Syncer.GaplessLog
open OpenEventIm.Syncer.GaplessTicks
open OpenEventIm.Syncer.GaplessStarts

variable {foreign : Log → Message → Prop} {committable : Message → Prop}
  {syncer : P2PSyncer} {provider : String} {config : ProviderSyncConfig}
  {floors : String → Int} {before after current :
    ProcessWorld foreign committable}

/-! ## The poll loop -/

section Polls

variable {held next : SingleThreadProcessor} {message : Message}
  {vars : PollVars SingleThreadProcessor}

theorem inboundSeen_live {state processed : RuntimeState}
    (live : syncer.processLiveMessage state message = .ok processed) :
    processed.inboundSeen = state.inboundSeen := by
  rcases live_cases live with ⟨parsed, -, ⟨rfl, -⟩ | ⟨-, rfl, -⟩⟩
  · rfl
  · unfold RuntimeState.addSendRequest
    dsimp only
    split
    · split_ifs <;> rfl
    · split_ifs <;> rfl

/-- A live message changes the runtime state only. -/
theorem holds_live
    (holds : Holds syncer provider config floors held current)
    (processed : (handlers syncer).live held message = .ok next) :
    Holds syncer provider config floors next current := by
  rcases Checked.bind_eq_ok_iff.mp processed with ⟨state, live, same⟩
  cases same
  rcases holds.pulling with ⟨puller, handoffs, acknowledged, only, pulling⟩
  exact holds.withState only pulling (Grows.refl current)
    (inboundSeen_live live)

theorem holds_lives {messages : List Message}
    (holds : Holds syncer provider config floors held current)
    (processed : messages.foldlM (handlers syncer).live held = .ok next) :
    Holds syncer provider config floors next current :=
  Checked.foldlM_induct
    (fun _ held => Holds syncer provider config floors held current) processed
    holds fun _ _ _ _ _ isHeld live => holds_live isHeld live

/-- What the poll loop goes on with. -/
abbrev Proceeds (syncer : P2PSyncer) (provider : String)
    (config : ProviderSyncConfig) (floors : String → Int)
    (step : PollVars SingleThreadProcessor ⊕ Unit)
    (current : ProcessWorld foreign committable) : Prop :=
  ∀ next, step = .inl next →
    Holds syncer provider config floors next.held current

theorem proceeds_inl
    (holds : Holds syncer provider config floors vars.held current) :
    Proceeds syncer provider config floors (.inl vars) current := by
  rintro next ⟨⟩
  exact holds

theorem proceeds_inr :
    Proceeds syncer provider config floors (.inr ()) current := by
  rintro next ⟨⟩

theorem safe_fetchLive (sole : SoleScribe foreign committable syncer)
    (holds : Holds syncer provider config floors vars.held current) :
    Safe (world (deliverySetting false foreign committable))
      (LogGapless syncer floors) (Proceeds syncer provider config floors)
      (fun _ _ => True) (fetchLive syncer (handlers syncer) vars) current := by
  have kept := @holds_kept foreign committable syncer provider config floors
    vars.held sole
  apply kept.safe_call onlyReads_fetch (fun _ => Holds.gapless) holds
  intro _ answer _ _ isHeld _
  cases answer with
  | error exc =>
      apply (safe_stopIsSet sole isHeld).bind
      intro stopped asked gapless stillHeld
      split_ifs with isStopped isPermanent
      · exact ⟨gapless, proceeds_inr⟩
      · exact ⟨gapless, trivial⟩
      · rw [stopWait]
        apply kept.safe_callBind onlyReads_stopWait (fun _ => Holds.gapless)
          stillHeld
        intro _ _ waited _ waitedHeld _
        exact ⟨waitedHeld.gapless, proceeds_inl waitedHeld⟩
  | ok response =>
      show Safe _ _ _ _
        (Action.ofExcept (takePage (handlers syncer) vars response) >>= _) _
      cases taken : takePage (handlers syncer) vars response with
      | error exc => exact ⟨isHeld.gapless, trivial⟩
      | ok next =>
          refine ⟨isHeld.gapless, proceeds_inl ?_⟩
          rw [takePage] at taken
          rcases Checked.bind_eq_ok_iff.mp taken with ⟨held, lives, rest⟩
          rcases Checked.bind_eq_ok_iff.mp rest with ⟨nextSeq, -, same⟩
          cases same
          exact holds_lives isHeld lives

theorem safe_pollOnce (sole : SoleScribe foreign committable syncer)
    (holds : Holds syncer provider config floors vars.held current) :
    Safe (world (deliverySetting false foreign committable))
      (LogGapless syncer floors) (Proceeds syncer provider config floors)
      (fun _ _ => True) (pollOnce syncer (handlers syncer) vars) current := by
  rw [pollOnce]
  apply (safe_stopIsSet sole holds).bind
  intro stopped asked gapless isHeld
  split_ifs with isStopped
  · exact ⟨gapless, proceeds_inr⟩
  · split
    · rename_i lastSeq noSnapshot present
      cases taken : takePrefetched (handlers syncer) vars lastSeq with
      | error exc => exact ⟨gapless, trivial⟩
      | ok next =>
          refine ⟨gapless, proceeds_inl ?_⟩
          rw [takePrefetched] at taken
          rcases Checked.bind_eq_ok_iff.mp taken with ⟨held, lives, same⟩
          cases same
          exact holds_lives isHeld lives
    · exact safe_fetchLive sole isHeld

theorem safe_tickOnce (sole : SoleScribe foreign committable syncer)
    (holds : Holds syncer provider config floors vars.held current) :
    Safe (delivering foreign committable) (LogGapless syncer floors)
      (Proceeds syncer provider config floors) (fun _ _ => True)
      (tickOnce syncer (handlers syncer) vars) current := by
  have ticks : Safe (delivering foreign committable) (LogGapless syncer floors)
      (Holds syncer provider config floors) (fun _ _ => True)
      ((handlers syncer).tick vars.held) current := by
    apply (safe_tick sole holds).bind
    rintro ⟨worked, next⟩ after gapless isHeld
    exact ⟨gapless, isHeld⟩
  rw [tickOnce]
  apply ticks.bind
  intro held ticked gapless isHeld
  split_ifs
  · exact ⟨gapless, proceeds_inl isHeld⟩
  · have waits : Safe (world (deliverySetting false foreign committable))
        (LogGapless syncer floors)
        (fun _ => Holds syncer provider config floors held) (fun _ _ => True)
        (stopWait syncer.config.retry.idleSleepMs) ticked :=
      (holds_kept sole).safe_call onlyReads_stopWait (fun _ => Holds.gapless)
        isHeld fun _ _ _ _ waited _ => ⟨waited.gapless, waited⟩
    apply (toProcess.safe waits).bind
    intro _ waited gaplessLater waitedHeld
    exact ⟨gaplessLater, proceeds_inl waitedHeld⟩

theorem safe_pollBody (sole : SoleScribe foreign committable syncer)
    (holds : Holds syncer provider config floors vars.held current) :
    Safe (delivering foreign committable) (LogGapless syncer floors)
      (Proceeds syncer provider config floors) (fun _ _ => True)
      (pollBody syncer (handlers syncer) vars) current := by
  rw [pollBody]
  cases vars.point with
  | polling => exact toProcess.safe (safe_pollOnce sole holds)
  | ticking => exact safe_tickOnce sole holds

end Polls

/-! ## Failures -/

section Failures

variable {Result : Type} {body : Action (Option Stage)}
  {pullers : List (String × ProviderMessagePuller)}

/-- Inert calls leave the log without gaps. -/
theorem safe_gapless {program : Action Result}
    (sole : SoleScribe foreign committable syncer)
    (calls : program.Calls Inert) (gapless : LogGapless syncer floors current) :
    Safe (delivering foreign committable) (LogGapless syncer floors)
      (fun _ _ => True) (fun _ _ => True) program current := by
  have kept : Safe (delivering foreign committable) (LogGapless syncer floors)
      (fun _ => LogGapless syncer floors) (fun _ => LogGapless syncer floors)
      program current := by
    apply Safe.ofCalls (fun _ _ => gapless_interferes sole)
      (fun _ gapless => gapless) _ calls gapless
    intro before request answer after inert answers
    exact gapless_answers answers.1 inert.1
  exact kept.mono (fun _ _ _ _ => trivial) (fun _ _ _ _ => trivial)

/-- The handlers of the exceptions in `start`. -/
theorem safe_stopOnFailure
    {returns : Option Stage → ProcessWorld foreign committable → Prop}
    (sole : SoleScribe foreign committable syncer)
    (safe : Safe (delivering foreign committable) (LogGapless syncer floors)
      returns (fun _ _ => True) body current)
    (ends : ∀ after, returns none after) :
    Safe (delivering foreign committable) (LogGapless syncer floors) returns
      (fun _ _ => True) (stopOnFailure pullers body) current := by
  rw [stopOnFailure]
  apply safe.handle
  intro exc failed gapless _
  have asked : stopIsSet.Calls Inert := ⟨⟨trivial, rfl⟩, fun _ => True.intro⟩
  split_ifs
  · apply (safe_gapless sole asked gapless).bind
    intro stopped after isGapless _
    split_ifs
    · exact ⟨isGapless, ends after⟩
    · exact ⟨isGapless, trivial⟩
  · apply (safe_gapless sole (calls_stopMessagePullers pullers) gapless).bind
    intro _ after isGapless _
    exact ⟨isGapless, trivial⟩

end Failures

/-! ## The start of a process -/

section Starts

variable {processor scanned : SingleThreadProcessor} {next : Stage}
  {settings : ProviderConfig}

/-- There is one provider, with its settings. -/
abbrev OneProvider (syncer : P2PSyncer) (provider : String)
    (settings : ProviderConfig) : Prop :=
  syncer.config.providers.items = [(provider, settings)]

theorem onlyProvider_created (one : OneProvider syncer provider settings)
    (created : createProcessor syncer = .ok processor) :
    OnlyProvider syncer provider := by
  rcases Checked.bind_eq_ok_iff.mp created with ⟨sizes, computed, -⟩
  have known : ∀ channelId ∈ syncer.mapping.channelIds, ∀ session,
      syncer.mapping.providerSession channelId = .ok session →
        session.1 = provider := by
    refine Checked.foldlM_induct (fun done _ => ∀ channelId ∈ done, ∀ session,
      syncer.mapping.providerSession channelId = .ok session →
        session.1 = provider) computed
      (fun _ member => absurd member List.not_mem_nil) ?_
    intro done channelId before after _ holds stepped other member session
      mapped
    rcases List.mem_append.mp member with earlier | isThis
    · exact holds other earlier session mapped
    · cases List.mem_singleton.mp isThis
      rcases Checked.bind_eq_ok_iff.mp stepped with ⟨_, -, configured⟩
      rcases Checked.bind_eq_ok_iff.mp configured with ⟨found, config, -⟩
      rcases Checked.bind_eq_ok_iff.mp config with ⟨inner, again, isFound⟩
      cases mapped.symm.trans again
      cases lookup : syncer.mapping.config.providers.get? session.1 with
      | none =>
          rw [lookup] at isFound
          cases isFound
      | some settings =>
          have same : syncer.mapping.config = syncer.config :=
            (Mapping.P2PMappingIndex.consistent_build syncer.built).2
          rw [same, Dict.get?_eq_some_iff, one, List.mem_singleton] at lookup
          exact congrArg Prod.fst lookup
  intro channelId session mapped
  exact known channelId (MappingQueries.mem_channelIds.mpr
    (Mapping.P2PMappingIndex.ownsChannel_of_providerSession syncer.built
      mapped)) session mapped

theorem events_created (one : OneProvider syncer provider settings)
    (created : createProcessor syncer = .ok processor) :
    processor.messagePullers =
        [(provider, create provider settings.sync)] ∧
      processor.pendingEvents = [] := by
  rcases Checked.bind_eq_ok_iff.mp created with ⟨sizes, -, same⟩
  cases same
  exact ⟨by rw [one]; rfl, rfl⟩

/-! ### Before the stream is opened -/

/-- A process that has not opened its stream, with the facts of the log. -/
structure Booting (syncer : P2PSyncer) (floors : String → Int)
    (facts : List WorkerFact) (current : ProcessWorld foreign committable) :
    Prop where
  facts : factsAt syncer current = facts
  gapless : LogGapless syncer floors current
  consistent : Consistent current.provider.world []
  stopped : current.provider.world.running = false

theorem booting_kept (sole : SoleScribe foreign committable syncer)
    {facts : List WorkerFact} :
    KeptByReads (Booting syncer floors facts :
      ProcessWorld foreign committable → Prop) where
  stable before after step booting := by
    have same := factsAt_interferes sole step
    have gapless := gapless_interferes sole step booting.gapless
    cases step with
    | published =>
        exact ⟨same.trans booting.facts, gapless, booting.consistent,
          booting.stopped⟩
    | provider steps =>
        cases steps with
        | provider steps =>
            exact ⟨same.trans booting.facts, gapless,
              booting.consistent.steps steps,
              (running_steps steps).trans booting.stopped⟩
        | ends allowed => cases allowed
  reads before request answer after reads answers booting := by
    have provider_eq := provider_eq_of_answers answers reads.2
    refine ⟨(factsAt_answers answers reads.1).trans booting.facts,
      gapless_answers answers reads.1 booting.gapless, ?_, ?_⟩
    · rw [provider_eq]
      exact booting.consistent
    · rw [provider_eq]
      exact booting.stopped

/-- The facts of the log do not change while a process starts. -/
theorem safe_facts {Result : Type} {program : Action Result}
    {facts : List WorkerFact} (sole : SoleScribe foreign committable syncer)
    (calls : program.Calls Inert) (gapless : LogGapless syncer floors current)
    (same : factsAt syncer current = facts) :
    Safe (delivering foreign committable) (LogGapless syncer floors)
      (fun _ after => LogGapless syncer floors after ∧
        factsAt syncer after = facts)
      (fun _ _ => True) program current := by
  have kept : Safe (delivering foreign committable) (LogGapless syncer floors)
      (fun _ after => LogGapless syncer floors after ∧
        factsAt syncer after = facts)
      (fun _ after => LogGapless syncer floors after ∧
        factsAt syncer after = facts) program current := by
    apply Safe.ofCalls _ (fun _ holds => holds.1) _ calls ⟨gapless, same⟩
    · rintro before after step ⟨gapless, same⟩
      exact ⟨gapless_interferes sole step gapless,
        (factsAt_interferes sole step).trans same⟩
    · rintro before request answer after inert answers ⟨gapless, same⟩
      exact ⟨gapless_answers answers.1 inert.1 gapless,
        (factsAt_answers answers.1 inert.1).trans same⟩
  exact kept.mono (fun _ _ _ holds => holds) (fun _ _ _ _ => trivial)

/-! ### The parts of a start -/

theorem runs_boot {environment : Environment service}
    {before after : environment.State}
    (run : Runs environment before ((Stage.starting processor).program syncer)
      after (.ok (some next))) :
    ∃ scanEndSeq scanned middle pullers,
      Runs environment before
        (scanHistory syncer (handlers syncer) processor) middle
        (.ok (scanEndSeq, scanned)) ∧
      Runs environment middle
        (startMessagePullers syncer scanned.state scanned.messagePullers) after
        (.ok pullers) ∧
      next = .polling (.start (scanEndSeq + 1)
        { scanned with messagePullers := pullers }) := by
  rcases runs_bind (runs_stopOnFailure run) with
    ⟨booted, vars, boots, returns⟩ | ⟨_, -, same⟩
  · rcases runs_ret.mp returns with ⟨rfl, same⟩
    cases same
    rcases runs_bind boots with ⟨middle, ⟨scanEndSeq, scanned⟩, scans, rest⟩ |
      ⟨_, -, same⟩
    · rcases runs_bind rest with ⟨launched, held, launches, starts⟩ |
        ⟨_, -, same⟩
      · rcases runs_ret.mp starts with ⟨rfl, same⟩
        cases same
        rcases runs_bind launches with ⟨_, pullers, started, ends⟩ |
          ⟨_, -, same⟩
        · rcases runs_ret.mp ends with ⟨rfl, same⟩
          cases same
          exact ⟨scanEndSeq, scanned, middle, pullers, scans, started, rfl⟩
        · cases same
      · cases same
    · cases same
  · cases same

theorem runs_startMessagePullers {environment : Environment service}
    {before after : environment.State} {state : RuntimeState}
    {puller : ProviderMessagePuller}
    {pullers : List (String × ProviderMessagePuller)}
    (run : Runs environment before
      (startMessagePullers syncer state [(provider, puller)]) after
      (.ok pullers)) :
    ∃ highwater started,
      sessionHighwaterMs syncer state provider = .ok highwater ∧
      Runs environment before (puller.start highwater) after (.ok started) ∧
        pullers = [(provider, started)] := by
  rw [startMessagePullers] at run
  cases computed : sessionHighwaterMs syncer state provider with
  | error exc =>
      rw [computed] at run
      cases (runs_fail.mp run).2
  | ok highwater =>
      rw [computed, Action.ofExcept_ok, Program.ret_bind] at run
      rcases runs_bind run with ⟨_, started, starts, rest⟩ | ⟨_, -, same⟩
      · rcases runs_ret.mp rest with ⟨rfl, same⟩
        cases same
        exact ⟨highwater, started, rfl, starts, rfl⟩
      · cases same

/-! ### The first poll -/

/-- What the memory of a polling process says about the records. -/
theorem reflects_polls {vars : PollVars SingleThreadProcessor}
    (sole : SoleScribe foreign committable syncer)
    (holds : StageHolds (deliverySetting true foreign committable)
      (Fixed syncer) syncer (wholeOf current) (.polling vars)) :
    ∃ requests, Reflects vars.held.state requests (factsAt syncer current) := by
  rcases holds with ⟨low, -, cut, handed, -, -, upto, -⟩
  rcases upto.knows.memory with ⟨facts, remembers⟩
  have same : facts = factsAt syncer current := remembers.records sole.records
  rw [← same]
  exact ⟨_, remembers.reflects⟩

/-- After its start a process holds a puller that the log stands behind. -/
theorem holds_started (one : OneProvider syncer provider settings)
    (sole : SoleScribe foreign committable syncer)
    (created : createProcessor syncer = .ok processor)
    (booting : Booting syncer floors (factsAt syncer before) before)
    (run : Runs (delivering foreign committable) before
      ((Stage.starting processor).program syncer) after (.ok (some next)))
    (holds : StageHolds (deliverySetting true foreign committable)
      (Fixed syncer) syncer (wholeOf after) next) :
    ∃ vars, next = .polling vars ∧
      Holds syncer provider settings.sync
        (floorsAfter floors (.starting processor) next) vars.held after := by
  rcases runs_boot run with
    ⟨scanEndSeq, scanned, middle, pullers, scans, launches, rfl⟩
  rcases reflects_polls sole holds with ⟨requests, reflects⟩
  obtain ⟨samePullers, noEvents⟩ := events_created one created
  obtain ⟨-, ready, ⟨handed, -, processed⟩, -⟩ :=
    (safe_scanHistory (booting_kept sole) (fun _ _ => trivial)
      booting).runs_ok (toProcess.runs scans)
  obtain ⟨keptPullers, keptEvents⟩ := events_of_history processed
  rw [keptPullers, samePullers] at launches
  obtain ⟨-, gapless, sameFacts⟩ :=
    (safe_facts sole (calls_startMessagePullers syncer scanned.state _)
      ready.gapless ready.facts).runs_ok launches
  rcases runs_startMessagePullers launches with
    ⟨highwater, puller, computed, starts, rfl⟩
  have latest : KnowsLatest scanned.state (factsAt syncer after) :=
    reflects.latest
  have past : Past highwater middle.provider.world := by
    apply past_of_gapless ready.gapless _ computed
    rw [ready.facts, ← sameFacts]
    exact latest
  obtain ⟨-, nowMs, generation, same, started⟩ :=
    (safe_starts ⟨ready.consistent, ready.stopped, past⟩).runs_ok starts
  have backed := backed_started gapless (onlyProvider_created one created)
    latest computed same started.passed
  subst same
  refine ⟨_, rfl, ⟨_, _, [], rfl, started.safe, backed⟩, ?_, ?_, ?_⟩
  · refine ⟨List.nodup_singleton _, ?_⟩
    intro other puller member
    cases List.mem_singleton.mp member
    exact ⟨wellFormed_startedAt rfl rfl, rfl⟩
  · have none : scanned.pendingEvents = [] := keptEvents.trans noEvents
    refine ⟨fun event => iff_of_false ?_ ?_, ?_⟩
    · show event ∉ scanned.pendingEvents
      rw [none]
      exact List.not_mem_nil
    · rintro ⟨other, puller, sessionId, member, inFlight⟩
      cases List.mem_singleton.mp member
      rw [inFlightOf_startedAt] at inFlight
      cases inFlight
    · show (scanned.pendingEvents.map sessionOf).Nodup
      rw [none]
      exact List.nodup_nil
  · exact fun key => (reflects.seen key).mp

end Starts

/-! ## Stages -/

section Stages

variable {processor : SingleThreadProcessor} {settings : ProviderConfig}
  {stage : Stage} {first moment : ProcessWorld foreign committable}

/-- What holds at a stage of a process. -/
def StageGapless (syncer : P2PSyncer) (provider : String)
    (settings : ProviderConfig) (floors : String → Int)
    (current : ProcessWorld foreign committable) : Stage → Prop
  | .starting processor => createProcessor syncer = .ok processor ∧
      Booting syncer floors (factsAt syncer current) current
  | .polling vars =>
      Holds syncer provider settings.sync floors vars.held current

theorem calls_starting : ((Stage.starting processor).program syncer).Calls
    Inert := by
  rw [Stage.program, stopOnFailure]
  apply calls_handle
  · exact Program.Calls.bind (calls_boot syncer processor) fun _ => True.intro
  · intro exc
    split_ifs
    · refine ⟨⟨trivial, rfl⟩, fun stopped => ?_⟩
      cases stopped <;> exact True.intro
    · exact Program.Calls.bind (calls_stopMessagePullers _) fun _ => True.intro

/-- A stage leaves no gap, and neither does the next iteration. -/
theorem safe_stage (sole : SoleScribe foreign committable syncer)
    (holds : StageGapless syncer provider settings floors current stage) :
    Safe (delivering foreign committable) (LogGapless syncer floors)
      (fun next after => ∀ vars, stage = .polling vars → ∀ stage,
        next = some stage →
          StageGapless syncer provider settings floors after stage ∧
            ∃ later, stage = .polling later)
      (fun _ _ => True) (stage.program syncer) current := by
  cases stage with
  | starting processor =>
      exact (safe_gapless sole calls_starting holds.2.gapless).mono
        (fun _ _ _ _ => nofun) (fun _ _ _ _ => trivial)
  | polling vars =>
      apply safe_stopOnFailure sole
      · apply (safe_pollBody sole holds).bind
        intro step after gapless proceeds
        cases step with
        | inl later =>
            refine ⟨gapless, fun _ _ => ?_⟩
            rintro stage ⟨⟩
            exact ⟨proceeds later rfl, later, rfl⟩
        | inr =>
            refine ⟨gapless, fun _ _ => ?_⟩
            rintro stage ⟨⟩
      · exact fun after _ _ => nofun

/-- A process begins where the log has no gap. -/
theorem booting_afterProcess (sole : SoleScribe foreign committable syncer)
    (gapless : LogGapless syncer floors current)
    (idle : (delivering foreign committable).Evolves (afterProcess current)
      after) : Booting syncer floors (factsAt syncer after) after := by
  have dated := gapless.dated
  have ready : Booting syncer floors (factsAt syncer current)
      (afterProcess current) := by
    refine ⟨rfl, ?_, consistent_ended dated, rfl⟩
    apply gapless.goesOn (GoesOn.of_same messages_ended rfl)
      (dated.of_same messages_ended rfl)
    exact SameRecords.refl _
  have booting := (booting_kept sole).stable.evolves idle ready
  exact ⟨rfl, booting.gapless, booting.consistent, booting.stopped⟩

end Stages

/-! ## Runs -/

section Runs

variable {settings : ProviderConfig} {stage : Stage}
  {first moment : ProcessWorld foreign committable}

/-- The log has no gap at the beginning of a stage. -/
theorem DeliveringRun.stageGapless
    (one : OneProvider syncer provider settings)
    (sole : SoleScribe foreign committable syncer) (begins : Begins first)
    (dated : Dated first.provider.world)
    (run : DeliveringRun foreign committable syncer first floors stage
      current) :
    StageGapless syncer provider settings floors current stage := by
  induction run with
  | starts created idle =>
      refine ⟨created, booting_afterProcess sole ?_ idle⟩
      have nothing : factsAt syncer first = [] := by
        rw [factsAt, begins.log]
        rfl
      rw [LogGapless, nothing]
      exact gapless_nil dated
  | @proceeds floors stage next before after run step ih =>
      cases stage with
      | starting processor =>
          have results : SoleResults (deliverySetting true foreign committable)
              (Fixed syncer) := by
            rintro other ⟨⟩
            exact sole.results
          have knows := WorkerRun.stageHolds results ⟨begins.log, begins.trace⟩
            (run.proceeds step).workerRun
          rcases holds_started one sole ih.1 ih.2 step knows with
            ⟨vars, rfl, holds⟩
          exact holds
      | polling vars =>
          exact (((safe_stage sole ih).runs_ok step).2 vars rfl next rfl).1
  | restarts run crash idle created ih =>
      exact ⟨created, booting_afterProcess sole
        ((safe_stage sole ih).visits crash) idle⟩

/--
At every moment of every run, over any number of crashes and restarts: each
record in the log is of a message at the provider, and every earlier message of
its session, from the session's floor on, is recorded on the same channel.
-/
theorem records_leaveNoGap
    (one : OneProvider syncer provider settings)
    (sole : SoleScribe foreign committable syncer) (begins : Begins first)
    (dated : Dated first.provider.world)
    (run : DeliveringRun foreign committable syncer first floors stage before)
    (visit : Visits (delivering foreign committable) before
      (stage.program syncer) moment)
    {key : InboundKey} {prevSeq : Option Nat} {eventMs : Int}
    (recorded : .record key prevSeq eventMs ∈
      logFacts syncer moment.log.entries) :
    ⟨(key.provider, key.sessionId, key.providerMessageId), eventMs⟩ ∈
        moment.provider.world.messages ∧
      ∀ message ∈ moment.provider.world.messages,
        message.sessionId = key.sessionId →
          floors key.sessionId ≤ message.eventMs → message.eventMs < eventMs →
            Recorded (logFacts syncer moment.log.entries)
              (keyOn key.channelId message) := by
  have gapless := (safe_stage sole
    (DeliveringRun.stageGapless one sole begins dated run)).visits visit
  refine ⟨gapless.real key prevSeq eventMs recorded, ?_⟩
  intro message sent ofSession above early
  exact gapless.noGap key prevSeq eventMs recorded message
    ⟨sent, ofSession, above⟩ early

end Runs

/-! ## A run with one record -/

section Sample

/-- Nobody else publishes. -/
abbrev ChatWorld : Type := ProcessWorld (fun _ _ => False) fun _ => True

abbrev chat : Environment service := delivering (fun _ _ => False) fun _ => True

/-- The only message of the provider. -/
def chatProvider : ProviderWorld where
  clock := 4
  sent := [⟨messageOf DegradedRecord.sampleEvent, false, 0⟩]
  running := false
  subscribed := []
  connected := false
  generation := 0
  queue := []
  queries _ _ := none

def firstWorld : ChatWorld where
  log := .empty
  provider := ⟨chatProvider, false⟩
  trace := []

theorem runs_chatCall {Result : Type} {log next : Log}
    {before answered : StreamedProvider} {trace : List Exchange}
    {request : Call} {answer : Answer request}
    {rest : Answer request → Action Result} {after : ChatWorld}
    {outcome : Except PyError Result}
    (server : ServerAnswers (fun _ => True) log request answer next)
    (answers : if request.isProvider then
        StreamedAnswers before request answer answered
      else answered = before)
    (timed : Timed before.world.clock request answer)
    (run : Runs chat ⟨next, answered, trace ++ [⟨request, answer⟩]⟩
      (rest answer) after outcome) :
    Runs chat ⟨log, before, trace⟩ (.call request rest) after outcome :=
  .call .refl ⟨⟨server, answers, rfl⟩, timed⟩ run

/-- The provider after the stream has been opened. -/
def openedProvider : StreamedProvider :=
  ⟨chatProvider.opened ["oc1"], false⟩

/-- The process starts its puller on an empty log. -/
theorem boots_chat : ∃ trace, Runs chat firstWorld
    ((Stage.starting (chatProcessor newPuller)).program sampleSyncer)
    ⟨.empty, openedProvider, trace⟩
    (.ok (some (.polling (.start 1 (chatProcessor chatPuller))))) := by
  have highwater : sessionHighwaterMs sampleSyncer .initial "lark" =
      .ok chatHighwater := by
    rw [sessionHighwaterMs, channelIds_sample]
    rfl
  have scans : ∃ trace, Runs chat firstWorld
      (scanHistory sampleSyncer (handlers sampleSyncer)
        (chatProcessor newPuller))
      ⟨.empty, ⟨chatProvider, false⟩, trace⟩
      (.ok (0, chatProcessor newPuller)) :=
    ⟨_, @runs_chatCall _ _ _ _ _ _ (.getStatus 9 "worker") (.ok ⟨0⟩) _ _ _
      ⟨rfl, rfl⟩ rfl trivial .ret⟩
  have starts (trace : List Exchange) : ∃ more,
      Runs chat ⟨.empty, ⟨chatProvider, false⟩, trace⟩
        (newPuller.start chatHighwater) ⟨.empty, openedProvider, more⟩
        (.ok chatPuller) := by
    rw [← startedAt_chatPuller]
    exact ⟨_, @runs_chatCall _ _ _ _ ⟨chatProvider.opened ["oc1"], true⟩ _
      (.startEventStream "lark" ["oc1"]) (.ok ()) _ _ _ rfl ⟨rfl, rfl⟩ trivial
      (@runs_chatCall _ _ _ _ _ _ .currentTimeMs (4 : Int) _ _ _ rfl rfl rfl
        (@runs_chatCall _ _ _ _ openedProvider _
          (.eventStreamGeneration "lark") (.ok 0) _ _ _ rfl
          ⟨⟨rfl, rfl⟩, rfl⟩ trivial .ret))⟩
  rcases scans with ⟨scanned, scans⟩
  rcases starts scanned with ⟨started, starts⟩
  have launches : Runs chat ⟨.empty, ⟨chatProvider, false⟩, scanned⟩
      (startMessagePullers sampleSyncer .initial [("lark", newPuller)])
      ⟨.empty, openedProvider, started⟩ (.ok [("lark", chatPuller)]) := by
    rw [startMessagePullers, highwater]
    exact .bind .ret (.bind starts (.bind .ret .ret))
  exact ⟨started, .handle (.bind (.bind scans
    (.bind (.bind launches .ret) .ret)) .ret)⟩

/-- It finds no new messages. -/
theorem polls_chat (trace : List Exchange) : ∃ more,
    Runs chat ⟨.empty, openedProvider, trace⟩
      ((Stage.polling (.start 1 (chatProcessor chatPuller))).program
        sampleSyncer)
      ⟨.empty, openedProvider, more⟩
      (.ok (some (.polling
        (PollVars.settle (.start 1 (chatProcessor chatPuller)) 0)))) := by
  have fetches (trace : List Exchange) : ∃ more,
      Runs chat ⟨.empty, openedProvider, trace⟩
        (fetchLive sampleSyncer (handlers sampleSyncer)
          (.start 1 (chatProcessor chatPuller)))
        ⟨.empty, openedProvider, more⟩
        (.ok (.inl
          (PollVars.settle (.start 1 (chatProcessor chatPuller)) 0))) := by
    rw [fetchLive, channelIds_sample]
    exact ⟨_, @runs_chatCall _ _ _ _ _ _ (.fetch 9 "worker" 1 1000 false [3])
      (.ok { messages := [], nextSeq := 1, lastSeq := 0 }) _ _ _
      (.page ⟨rfl, rfl, by decide, by decide⟩ ⟨le_rfl, rfl, le_rfl⟩) rfl
      trivial .ret⟩
  rcases fetches (trace ++ [⟨.stopIsSet, false⟩]) with ⟨more, fetches⟩
  have polls : Runs chat ⟨.empty, openedProvider, trace⟩
      (pollBody sampleSyncer (handlers sampleSyncer)
        (.start 1 (chatProcessor chatPuller)))
      ⟨.empty, openedProvider, more⟩
      (.ok (.inl
        (PollVars.settle (.start 1 (chatProcessor chatPuller)) 0))) :=
    @runs_chatCall _ _ _ _ _ _ .stopIsSet false _ _ _ rfl rfl trivial fetches
  exact ⟨more, .handle (.bind polls .ret)⟩

/-- The page of the first window. -/
def chatPage : HistoryPage where
  events := [DegradedRecord.sampleEvent]
  nextPageToken := none

theorem chatPage_honest : HonestHistory openedProvider.world
    ⟨"oc1", 0, 4, openedProvider.world.window "oc1" 0 4, []⟩ chatPage where
  ofSession := by decide
  ascending := by
    intro first message rest split earlier member
    rcases first with _ | ⟨head, tail⟩
    · cases split
      revert earlier
      decide
    · have tooLong := congrArg List.length split
      simp [chatPage] at tooLong
  complete := by decide

def chatReceived : SessionPullState :=
  receivedPage (newPuller.startedSession 4 none) ⟨0, 4, none⟩ chatPage

/-- The puller when it has handed over the message. -/
def chatDelivered : ProviderMessagePuller :=
  (chatPuller.advanced 0 "oc1" chatReceived).deliver 0 "oc1"
    { chatReceived with historyEvents := [] } DegradedRecord.sampleEvent

/-- A call that tells of the provider without changing it. -/
theorem runs_readsProvider {Result : Type} {trace : List Exchange}
    {request : Call} {answer : Answer request}
    {rest : Answer request → Action Result} {after : ChatWorld}
    {outcome : Except PyError Result} (isProvider : request.isProvider = true)
    (answers : StreamedAnswers openedProvider request answer openedProvider)
    (run : Runs chat ⟨.empty, openedProvider, trace ++ [⟨request, answer⟩]⟩
      (rest answer) after outcome) :
    Runs chat ⟨.empty, openedProvider, trace⟩ (.call request rest) after
      outcome := by
  refine runs_chatCall ?_ (by rw [if_pos isProvider]; exact answers) ?_ run
  · cases request with
    | getStatus | publishAutoSeq | fetch => cases isProvider
    | _ => rfl
  · cases request with
    | currentTimeMs => cases isProvider
    | _ => trivial

theorem takes_chat (trace : List Exchange) : ∃ more,
    Runs chat ⟨.empty, openedProvider, trace⟩ chatPuller.takeMessage
      ⟨.empty, openedProvider, more⟩
      (.ok (some DegradedRecord.sampleEvent, chatDelivered)) := by
  apply Exists.intro
  apply @runs_readsProvider _ _ (.eventStreamError _) (.ok none) _ _ _ rfl
    ⟨rfl, rfl⟩
  apply @runs_readsProvider _ _ (.eventStreamGeneration _) (.ok 0) _ _ _ rfl
    ⟨⟨rfl, rfl⟩, rfl⟩
  apply @runs_readsProvider _ _ (.takeEvent _) (.ok none) _ _ _ rfl ⟨rfl, rfl⟩
  apply @runs_readsProvider _ _ (.eventStreamError _) (.ok none) _ _ _ rfl
    ⟨rfl, rfl⟩
  apply @runs_readsProvider _ _ (.eventStreamGeneration _) (.ok 0) _ _ _ rfl
    ⟨⟨rfl, rfl⟩, rfl⟩
  apply @runs_chatCall _ _ _ openedProvider openedProvider _ .currentTimeMs
    (4 : Int) _ _ _ rfl rfl rfl
  apply @runs_readsProvider _ _ (.fetchHistoryPage _ _ _ _ _) (.ok chatPage) _ _
    _ rfl ⟨.last .first chatPage_honest rfl, rfl⟩
  exact .ret

/-- The log with the record of the message. -/
def chatLog (payload : JsonObject) : Log :=
  SequencedLog.empty.push
    ⟨DegradedRecord.firstMessage (DegradedRecord.sampleRecord payload), true⟩
    (Nat.le_refl 1) Nat.one_pos (by show 1 ≤ uint64Limit; decide)

theorem publishes_chat {payload : JsonObject}
    (built : syncRecordPayload
      (fullRecordInput DegradedRecord.sampleEvent none 4) = .ok payload)
    (trace : List Exchange) : ∃ more,
    Runs chat ⟨.empty, openedProvider, trace⟩
      (publishProviderEvent sampleSyncer .initial 3 DegradedRecord.sampleEvent)
      ⟨chatLog payload, openedProvider, more⟩
      (.ok (RuntimeState.initial.markSyncRecord
        (inboundKey 3 DegradedRecord.sampleEvent) 3 4)) := by
  have full := DegradedRecord.publishSyncRecord_sample
    (DegradedRecord.record_sample built)
  have appends : SequencedLog.Appends (.empty : Log) ⟨DegradedRecord.firstMessage
      (DegradedRecord.sampleRecord payload), true⟩ (chatLog payload) :=
    SequencedLog.appends_push _ _ _
  rw [DegradedRecord.publishProviderEvent_sample]
  unfold publishRecords
  apply Exists.intro
  apply @runs_chatCall _ _ _ openedProvider openedProvider _ .currentTimeMs
    (4 : Int) _ _ _ rfl rfl rfl
  simp only [Program.bind_eq, Program.ret_bind, full]
  apply @runs_chatCall _ _ _ openedProvider openedProvider _
    (.getStatus 7 "user") (.ok ⟨0⟩) _ _ _ ⟨rfl, rfl⟩ rfl trivial
  apply @runs_chatCall _ _ _ openedProvider openedProvider _
    (.publishAutoSeq _ _ _ _ _) (.ok ⟨some 1⟩) _ _ _
    (.committed rfl trivial appends (Or.inl rfl)) rfl trivial
  exact .ret

/-- The first tick publishes the record of the message. -/
theorem ticks_chat {payload : JsonObject}
    (built : syncRecordPayload
      (fullRecordInput DegradedRecord.sampleEvent none 4) = .ok payload)
    (trace : List Exchange) : ∃ vars more,
    Runs chat ⟨.empty, openedProvider, trace⟩
      ((Stage.polling (PollVars.settle (.start 1
        (chatProcessor chatPuller)) 0)).program sampleSyncer)
      ⟨chatLog payload, openedProvider, more⟩
      (.ok (some (.polling vars))) := by
  rcases takes_chat (trace ++ [⟨.stopIsSet, false⟩]) with ⟨taken, takes⟩
  rcases publishes_chat built taken with ⟨published, publishes⟩
  have collects : Runs chat
      ⟨.empty, openedProvider, trace ++ [⟨.stopIsSet, false⟩]⟩
      (collectProviderMessages (chatProcessor chatPuller))
      ⟨.empty, openedProvider, taken⟩
      (.ok { chatProcessor chatDelivered with
        pendingEvents := [DegradedRecord.sampleEvent] }) :=
    .bind (.bind (.handle takes) .ret) .ret
  obtain ⟨pullers, acknowledged⟩ : ∃ pullers, acknowledgeIn
      DegradedRecord.sampleEvent [("lark", chatDelivered)] = .ok pullers :=
    ⟨_, rfl⟩
  have processes : Runs chat ⟨.empty, openedProvider, taken⟩
      (processEvents sampleSyncer { chatProcessor chatDelivered with
        pendingEvents := [DegradedRecord.sampleEvent] } []
        [DegradedRecord.sampleEvent])
      ⟨chatLog payload, openedProvider, published⟩
      (.ok (true, { chatProcessor chatDelivered with
        state := RuntimeState.initial.markSyncRecord
          (inboundKey 3 DegradedRecord.sampleEvent) 3 4
        messagePullers := pullers
        pendingEvents := [] })) := by
    refine .bind publishes ?_
    show Runs _ _ (Action.ofExcept (acknowledgeIn
      DegradedRecord.sampleEvent [("lark", chatDelivered)]) >>= _) _ _
    rw [acknowledged]
    exact .ret
  have works : ∃ held, Runs chat ⟨.empty, openedProvider, taken⟩
      (workFrom sampleSyncer 0 { chatProcessor chatDelivered with
        pendingEvents := [DegradedRecord.sampleEvent] } 0 2)
      ⟨chatLog payload, openedProvider, published⟩ (.ok (true, held)) :=
    ⟨_, .bind .ret (.bind processes .ret)⟩
  rcases works with ⟨held, works⟩
  have ticks : Runs chat ⟨.empty, openedProvider, trace⟩
      (tick sampleSyncer (chatProcessor chatPuller))
      ⟨chatLog payload, openedProvider, published⟩ (.ok (true, held)) :=
    @runs_chatCall _ _ _ openedProvider openedProvider _ .stopIsSet false _ _ _
      rfl rfl trivial (.bind .ret (.bind collects works))
  have waits : Runs chat ⟨chatLog payload, openedProvider, published⟩
      (stopWait 10)
      ⟨chatLog payload, openedProvider,
        published ++ [⟨.stopWait 10, false⟩]⟩ (.ok false) :=
    @runs_chatCall _ _ _ openedProvider openedProvider _ (.stopWait 10) false _
      _ _ rfl rfl trivial .ret
  have polls : ∃ vars, Runs chat ⟨.empty, openedProvider, trace⟩
      (pollBody sampleSyncer (handlers sampleSyncer)
        (PollVars.settle (.start 1 (chatProcessor chatPuller)) 0))
      ⟨chatLog payload, openedProvider,
        published ++ [⟨.stopWait 10, false⟩]⟩ (.ok (.inl vars)) :=
    ⟨_, .bind (.bind ticks .ret) (.bind waits .ret)⟩
  rcases polls with ⟨vars, polls⟩
  exact ⟨vars, _, .handle (.bind polls .ret)⟩

theorem sole_chat :
    SoleScribe (fun _ _ => False) (fun _ => True) sampleSyncer where
  results _ _ _ never := absurd never not_false
  records _ _ _ never := absurd never not_false

/-- After the first tick there is a record, of the message at the provider. -/
theorem records_leaveNoGap_sample :
    ∃ (moment : ChatWorld) (key : InboundKey) (eventMs : Int),
      .record key none eventMs ∈
          logFacts sampleSyncer moment.log.entries ∧
        ⟨(key.provider, key.sessionId, key.providerMessageId), eventMs⟩ ∈
          moment.provider.world.messages := by
  obtain ⟨payload, built⟩ : ∃ payload, syncRecordPayload
      (fullRecordInput DegradedRecord.sampleEvent none 4) = .ok payload :=
    ⟨_, rfl⟩
  rcases boots_chat with ⟨booted, boots⟩
  rcases polls_chat booted with ⟨polled, polls⟩
  rcases ticks_chat built polled with ⟨vars, ticked, ticks⟩
  have starts : DeliveringRun (fun _ _ => False) (fun _ => True) sampleSyncer
      firstWorld (fun _ => 0) (.starting (chatProcessor newPuller))
      firstWorld := .starts created_chat .refl
  have run := ((starts.proceeds boots).proceeds polls).proceeds ticks
  have carried : ∃ parsed, WorkerMessages.CarriesEvent sampleSyncer 3
      DegradedRecord.sampleEvent none
      (DegradedRecord.firstMessage (DegradedRecord.sampleRecord payload))
      parsed :=
    WorkerMessages.carriesEvent_of_record DegradedRecord.recordRoute_sample rfl
      ⟨4, Or.inl rfl⟩ (DegradedRecord.record_sample built)
  rcases carried with ⟨parsed, carries⟩
  have recorded : WorkerFact.record
      (inboundKey 3 DegradedRecord.sampleEvent) none 4 ∈
        logFacts sampleSyncer (chatLog payload).entries := by
    rw [show (chatLog payload).entries = [⟨DegradedRecord.firstMessage
      (DegradedRecord.sampleRecord payload), true⟩] from rfl,
      WorkerTicks.logFacts_record carries]
    exact List.mem_singleton_self _
  have dated : Dated firstWorld.provider.world := by
    refine ⟨List.pairwise_singleton _ _, ?_⟩
    decide
  have noGap := records_leaveNoGap rfl sole_chat ⟨rfl, rfl⟩ dated run .here
    recorded
  exact ⟨_, _, _, recorded, noGap.1⟩

end Sample

end OpenEventIm.Syncer.GaplessRuns
