import OpenEventIm.Syncer.GaplessTicks
import OpenEventIm.Syncer.MappingQueries

/-!
# Starting where the log ends

`session_highwater_ms` is the time of the latest record of each session.  Such a
record is of a message at the provider, so its time has passed when the puller
starts, and all earlier messages of the session are in the log: what lies before
the first window of the puller is not missing.
-/

namespace OpenEventIm.Syncer.GaplessStarts

open OpenEventIm.Foundation
open OpenEventIm.Foundation.Interaction
open OpenEventIm.Foundation.Transcripts
open OpenEventIm.Sdk.Errors
open OpenEventIm.Service.Calls
open OpenEventIm.Service.World
open OpenEventIm.Syncer.Models
open OpenEventIm.Syncer.State
open OpenEventIm.Syncer.LogMeaning
open OpenEventIm.Syncer.HistoryReplay
open OpenEventIm.Syncer.ProviderMessages
open OpenEventIm.Syncer.ProviderMessages.ProviderMessagePuller
open OpenEventIm.Syncer.ProviderDelivery
open OpenEventIm.Syncer.SessionDelivery
open OpenEventIm.Syncer.Watermark
open OpenEventIm.Syncer.Worker
open OpenEventIm.Syncer.WrittenLog
open OpenEventIm.Syncer.DeliveringWorld
open OpenEventIm.Syncer.GaplessLog
open OpenEventIm.Syncer.GaplessTicks

variable {foreign : Log → Message → Prop} {committable : Message → Prop}
  {syncer : P2PSyncer} {provider : String} {config : ProviderSyncConfig}
  {floors : String → Int} {highwater : Dict String (Option Int)}
  {state : RuntimeState} {facts : List WorkerFact} {channelId : Nat}
  {before current : ProcessWorld foreign committable}

/-! ## The latest records -/

theorem latestIn_eq_some {latestMs : Int}
    (latest : latestIn channelId facts = some latestMs) :
    ∃ key prevSeq, key.channelId = channelId ∧
      WorkerFact.record key prevSeq latestMs ∈ facts := by
  induction facts generalizing latestMs with
  | nil => cases latest
  | cons fact older ih =>
      have later {wanted : Int} (found : latestIn channelId older = some wanted) :
          ∃ key prevSeq, key.channelId = channelId ∧
            WorkerFact.record key prevSeq wanted ∈ fact :: older := by
        rcases ih found with ⟨key, prevSeq, same, member⟩
        exact ⟨key, prevSeq, same, List.mem_cons_of_mem _ member⟩
      cases fact with
      | result => exact later latest
      | record key prevSeq eventMs =>
          rw [latestIn] at latest
          split_ifs at latest with same
          · cases before : latestIn channelId older with
            | none =>
                rw [before] at latest
                cases latest
                exact ⟨key, prevSeq, same, List.mem_cons_self⟩
            | some earlier =>
                rw [before, laterMs] at latest
                split_ifs at latest with greater
                · cases latest
                  exact ⟨key, prevSeq, same, List.mem_cons_self⟩
                · cases latest
                  exact later before
          · exact later latest

/-- The latest time of a channel is the time of a record. -/
theorem latestEventMs_eq_some {latestMs : Int}
    (latest : latestEventMs facts channelId = some latestMs) :
    ∃ key prevSeq, key.channelId = channelId ∧
      WorkerFact.record key prevSeq latestMs ∈ facts := by
  rcases latestIn_eq_some latest with ⟨key, prevSeq, same, member⟩
  exact ⟨key, prevSeq, same, List.mem_reverse.mp member⟩

theorem latestIn_isSome {key : InboundKey} {prevSeq : Option Nat}
    {eventMs : Int} (member : .record key prevSeq eventMs ∈ facts) :
    (latestIn key.channelId facts).isSome = true := by
  induction facts with
  | nil => cases member
  | cons fact older ih =>
      cases fact with
      | result =>
          rcases List.mem_cons.mp member with same | inOlder
          · cases same
          · exact ih inOlder
      | record other =>
          rw [latestIn]
          split_ifs with same
          · rfl
          · rcases List.mem_cons.mp member with equal | inOlder
            · cases equal
              exact absurd rfl same
            · exact ih inOlder

/-- A channel with a record has a latest time. -/
theorem latestEventMs_isSome {key : InboundKey} {prevSeq : Option Nat}
    {eventMs : Int} (member : .record key prevSeq eventMs ∈ facts) :
    (latestEventMs facts key.channelId).isSome = true :=
  latestIn_isSome (List.mem_reverse.mpr member)

/-- A record of the log is of the session of its channel. -/
theorem session_of_record {entries : List LogEntry} {key : InboundKey}
    {prevSeq : Option Nat} {eventMs : Int}
    (member : .record key prevSeq eventMs ∈ logFacts syncer entries) :
    syncer.mapping.providerSession key.channelId =
      .ok (key.provider, key.sessionId) := by
  rcases mem_logFacts.mp member with ⟨entry, -, read⟩
  rcases readItem?_eq_some_iff.mp read with
    ⟨parsed, session, -, mapped, same⟩
  rcases itemOf_eq_record_iff.mp same.symm with ⟨-, rfl, -, -⟩
  exact mapped

/-! ## The times that a puller starts with -/

theorem get?_sessionHighwaterMs
    (computed : sessionHighwaterMs syncer state provider = .ok highwater)
    (sessionId : String) (confirmedMs : Option Int) :
    highwater.get? sessionId = some confirmedMs ↔
      ∃ channelId ∈ syncer.mapping.channelIds,
        syncer.mapping.providerSession channelId =
            .ok (provider, sessionId) ∧
          state.latestEventMs channelId = confirmedMs := by
  have inverse := @Mapping.P2PMappingIndex.channelForProviderSession_iff
    syncer.config syncer.mapping syncer.built
  refine Checked.foldlM_induct (fun done (highwater : Dict String (Option Int)) =>
    ∀ sessionId confirmedMs, highwater.get? sessionId = some confirmedMs ↔
      ∃ channelId ∈ done, syncer.mapping.providerSession channelId =
          .ok (provider, sessionId) ∧
        state.latestEventMs channelId = confirmedMs) computed ?_ ?_ sessionId
    confirmedMs
  · intro sessionId confirmedMs
    exact iff_of_false nofun fun ⟨_, member, _⟩ => List.not_mem_nil member
  · intro done channelId known after _ holds stepped sessionId confirmedMs
    rcases Checked.bind_eq_ok_iff.mp stepped with ⟨session, mapped, same⟩
    cases same
    simp only [List.mem_append, List.mem_singleton, or_and_right, exists_or,
      exists_eq_left]
    by_cases isSession : session = (provider, sessionId)
    · -- no other channel is mapped to the session
      cases isSession
      rw [if_pos rfl, Dict.get?_set, if_pos rfl, Option.some.injEq]
      constructor
      · exact fun latest => Or.inr ⟨mapped, latest⟩
      · rintro (⟨other, -, otherMapped, latest⟩ | ⟨-, latest⟩)
        · have sameChannel : other = channelId := Except.ok.inj
            ((inverse.mpr otherMapped).symm.trans (inverse.mpr mapped))
          rw [← sameChannel]
          exact latest
        · exact latest
    · have unchanged : (if session.1 = provider then
            known.set session.2 (state.latestEventMs channelId)
          else known).get? sessionId = known.get? sessionId := by
        split_ifs with ofProvider
        · rw [Dict.get?_set, if_neg]
          rintro rfl
          exact isSession (Prod.ext ofProvider rfl)
        · rfl
      rw [unchanged, holds]
      refine ⟨Or.inl, ?_⟩
      rintro (earlier | ⟨isThis, -⟩)
      · exact earlier
      · exact absurd (Except.ok.inj (mapped.symm.trans isThis)) isSession

/-- The state knows the latest record of each channel. -/
abbrev KnowsLatest (state : RuntimeState) (facts : List WorkerFact) : Prop :=
  ∀ channelId, state.latestEventMs channelId = latestEventMs facts channelId

/-- The times of the latest records have passed. -/
theorem past_of_gapless {world : ProviderWorld}
    (gapless : Gapless floors facts world) (latest : KnowsLatest state facts)
    (computed : sessionHighwaterMs syncer state provider = .ok highwater) :
    Past highwater world := by
  intro sessionId confirmedMs known
  rcases (get?_sessionHighwaterMs computed _ _).mp known with
    ⟨channelId, -, -, isLatest⟩
  rw [latest] at isLatest
  rcases latestEventMs_eq_some isLatest with ⟨key, prevSeq, -, member⟩
  exact gapless.eventMs_le member

/-! ## What lies before the first windows -/

/-- All sessions are of the provider. -/
abbrev OnlyProvider (syncer : P2PSyncer) (provider : String) : Prop :=
  ∀ channelId session, syncer.mapping.providerSession channelId = .ok session →
    session.1 = provider

section Windows

variable {puller : ProviderMessagePuller} {nowMs confirmedMs : Int}
  {generation : Nat} {sessionId : String} {world : ProviderWorld}

theorem get?_startedAt :
    ((create provider config).startedAt highwater nowMs
      generation).sessions.get? sessionId =
      (highwater.get? sessionId).map
        ((create provider config).startedSession nowMs) :=
  Dict.get?_mapValues _ _ _

theorem confirmedOf_startedAt :
    confirmedOf ((create provider config).startedAt highwater nowMs generation)
      sessionId = (highwater.get? sessionId).join := by
  rw [confirmedOf, get?_startedAt]
  cases highwater.get? sessionId <;> rfl

theorem firstHandoffs_startedAt :
    firstHandoffs ((create provider config).startedAt highwater nowMs
        generation) sessionId =
      (highwater.get? sessionId).elim 0 fun confirmedMs =>
        (newHistoryScan config confirmedMs nowMs).startMs := by
  rw [firstHandoffs, get?_startedAt]
  cases highwater.get? sessionId <;> rfl

theorem firstHandoffs_bounds (passed : nowMs ≤ world.clock) :
    0 ≤ firstHandoffs ((create provider config).startedAt highwater nowMs
        generation) sessionId ∧
      firstHandoffs ((create provider config).startedAt highwater nowMs
        generation) sessionId ≤ max 0 world.clock := by
  rw [firstHandoffs_startedAt]
  cases highwater.get? sessionId with
  | none => exact ⟨le_rfl, le_max_left _ _⟩
  | some confirmed =>
      cases confirmed with
      | none =>
          simp only [Option.elim_some, newHistoryScan]
          omega
      | some confirmedMs =>
          simp only [Option.elim_some, newHistoryScan]
          omega

/-- A session with a record starts from its latest one. -/
theorem confirmedOf_of_record {key : InboundKey} {prevSeq : Option Nat}
    {eventMs : Int} (only : OnlyProvider syncer provider)
    (latest : KnowsLatest state facts)
    (computed : sessionHighwaterMs syncer state provider = .ok highwater)
    (mapped : syncer.mapping.providerSession key.channelId =
      .ok (key.provider, key.sessionId))
    (member : .record key prevSeq eventMs ∈ facts) :
    (confirmedOf ((create provider config).startedAt highwater nowMs
      generation) key.sessionId).isSome = true := by
  have selected : key.channelId ∈ syncer.mapping.channelIds :=
    MappingQueries.mem_channelIds.mpr
      (Mapping.P2PMappingIndex.ownsChannel_of_providerSession syncer.built
        mapped)
  have ofProvider := only _ _ mapped
  have known := (get?_sessionHighwaterMs computed key.sessionId
    (latestEventMs facts key.channelId)).mpr ⟨key.channelId, selected, by
      rw [mapped]
      exact congrArg Except.ok (Prod.ext ofProvider rfl), latest _⟩
  rw [confirmedOf_startedAt, known]
  exact latestEventMs_isSome member

/-- What a started puller will not ask for is in the log. -/
theorem backed_started {entries : List LogEntry}
    (gapless : Gapless floors (logFacts syncer entries) world)
    (only : OnlyProvider syncer provider)
    (latest : KnowsLatest state (logFacts syncer entries))
    (computed : sessionHighwaterMs syncer state provider = .ok highwater)
    (started : puller = (create provider config).startedAt highwater nowMs
      generation) (passed : nowMs ≤ world.clock) :
    Backed syncer provider (deliveredFrom floors puller) (firstHandoffs puller)
      [] (logFacts syncer entries) world := by
  subst started
  have bounds (sessionId : String) :=
    @firstHandoffs_bounds provider config highwater nowMs generation sessionId
      world passed
  constructor
  · apply gapless.withFloors
    · intro sessionId
      rw [deliveredFrom]
      split_ifs
      · exact gapless.floor sessionId
      · exact (bounds sessionId).1
    · intro key prevSeq eventMs member
      rw [deliveredFrom, if_pos (confirmedOf_of_record only latest computed
        (session_of_record member) member)]
  · exact fun _ member => absurd member List.not_mem_nil
  · intro channelId sessionId mapped
    refine ⟨(bounds sessionId).2, ?_⟩
    intro message owed early
    rw [deliveredFrom] at owed
    cases confirmed : confirmedOf ((create provider config).startedAt highwater
        nowMs generation) sessionId with
    | none =>
        -- a session without records is delivered from its first window on
        have above := owed.aboveFloor
        rw [confirmed, Option.isSome_none, if_neg Bool.false_ne_true] at above
        exact absurd early (not_lt.mpr above)
    | some latestMs =>
        have above := owed.aboveFloor
        rw [confirmed, Option.isSome_some, if_pos rfl] at above
        rw [confirmedOf_startedAt, Option.join_eq_some_iff] at confirmed
        rcases (get?_sessionHighwaterMs computed _ _).mp confirmed with
          ⟨other, -, otherMapped, isLatest⟩
        have sameChannel : other = channelId := by
          have inverse := @Mapping.P2PMappingIndex.channelForProviderSession_iff
            syncer.config syncer.mapping syncer.built
          exact Except.ok.inj
            ((inverse.mpr otherMapped).symm.trans (inverse.mpr mapped))
        rw [latest, sameChannel] at isLatest
        rcases latestEventMs_eq_some isLatest with
          ⟨key, prevSeq, ofChannel, member⟩
        have ofSession : key.sessionId = sessionId := by
          have session := session_of_record member
          rw [ofChannel, mapped] at session
          exact (congrArg Prod.snd (Except.ok.inj session)).symm
        have noGap := gapless.noGap key prevSeq latestMs member
        rw [ofSession, ofChannel] at noGap
        apply noGap message ⟨owed.sent, owed.ofSession, above⟩
        have floor := gapless.floor sessionId
        rw [firstHandoffs_startedAt, confirmed, Option.elim_some,
          newHistoryScan] at early
        dsimp only at early
        omega

end Windows

/-! ## The calls of `start` -/

/-- Before the stream is opened. -/
structure Unopened (highwater : Dict String (Option Int))
    (current : StreamedProvider) : Prop where
  consistent : Consistent current.world []
  stopped : current.world.running = false
  past : Past highwater current.world

/-- After it has been opened; no reconnect completes. -/
structure Opened (highwater : Dict String (Option Int))
    (current : StreamedProvider) : Prop where
  opening : current.opening = true
  consistent : Consistent current.world []
  running : current.world.running = true
  subscribed : current.world.subscribed = highwater.keys
  past : Past highwater current.world

/-- A puller with the windows that end at a time, in a safe state. -/
structure Started (provider : String) (config : ProviderSyncConfig)
    (highwater : Dict String (Option Int)) (nowMs : Int) (generation : Nat)
    (world : ProviderWorld) : Prop where
  passed : nowMs ≤ world.clock
  safe : PullerSafe config
    (firstHandoffs ((create provider config).startedAt highwater nowMs
      generation)) []
    (confirmedOf ((create provider config).startedAt highwater nowMs
      generation)) world
    ((create provider config).startedAt highwater nowMs generation)

/-- The clock has been read in a world of this generation. -/
structure Clocked (provider : String) (config : ProviderSyncConfig)
    (highwater : Dict String (Option Int)) (nowMs : Int)
    (current : StreamedProvider) : Prop where
  opening : current.opening = true
  started : Started provider config highwater nowMs current.world.generation
    current.world

section Calls

variable {after : StreamedProvider} {world next : ProviderWorld}
  {reconnecting : Bool}

theorem past_steps (past : Past highwater world)
    (steps : ProviderSteps reconnecting world next) : Past highwater next :=
  fun sessionId confirmedMs known =>
    (past sessionId confirmedMs known).trans (clock_steps steps)

theorem Started.steps {nowMs : Int} {generation : Nat}
    (started : Started provider config highwater nowMs generation world)
    (steps : ProviderSteps reconnecting world next) :
    Started provider config highwater nowMs generation next :=
  ⟨started.passed.trans (clock_steps steps), started.safe.steps steps⟩

/-- What the steps of the provider keep is stable. -/
theorem stable_ofProvider {assertion : StreamedProvider → Prop}
    (kept : ∀ before world,
      ProviderSteps (!before.opening) before.world world →
        assertion before → assertion { before with world }) :
    (delivering foreign committable).Stable fun state =>
      assertion state.provider := by
  intro before after step holds
  cases step with
  | published => exact holds
  | provider steps =>
      cases steps with
      | provider steps => exact kept _ _ steps holds
      | ends allowed => cases allowed

theorem stable_unopened : (delivering foreign committable).Stable
    fun state => Unopened highwater state.provider :=
  stable_ofProvider fun _ _ steps unopened =>
    { consistent := unopened.consistent.steps steps
      stopped := (running_steps steps).trans unopened.stopped
      past := past_steps unopened.past steps }

theorem stable_opened : (delivering foreign committable).Stable
    fun state => Opened highwater state.provider :=
  stable_ofProvider fun _ _ steps opened =>
    { opening := opened.opening
      consistent := opened.consistent.steps steps
      running := (running_steps steps).trans opened.running
      subscribed := (subscribed_steps steps).trans opened.subscribed
      past := past_steps opened.past steps }

theorem stable_clocked {nowMs : Int} : (delivering foreign committable).Stable
    fun state => Clocked provider config highwater nowMs state.provider := by
  apply stable_ofProvider
  intro before world steps clocked
  refine ⟨clocked.opening, ?_⟩
  have same : world.generation = before.world.generation := by
    cases steps with
    | reconnects allowed =>
        rw [clocked.opening] at allowed
        cases allowed
    | passes => rfl
    | sends => rfl
    | disconnects => rfl
  dsimp only
  rw [same]
  exact clocked.started.steps steps

/-- `start` leaves a safe puller. -/
theorem safe_starts (unopened : Unopened highwater current.provider) :
    Safe (delivering foreign committable) (fun _ => True)
      (fun puller after => ∃ nowMs generation,
        puller = (create provider config).startedAt highwater nowMs
          generation ∧
          Started provider config highwater nowMs generation
            after.provider.world)
      (fun _ _ => True) ((create provider config).start highwater) current := by
  rw [start]
  split_ifs with running empty
  · cases running
  · exact ⟨trivial, trivial⟩
  · apply Safe.callBind stable_unopened (fun _ _ => trivial) unopened
    rintro ready answer answered unopened answers
    cases answer with
    | error exc => exact ⟨trivial, trivial⟩
    | ok done =>
        have world : answered.provider.world =
            ready.provider.world.opened highwater.keys :=
          provider_answers answers
        have opening : answered.provider.opening = true :=
          StreamedAnswers.opening answers.1.provider
        have opened : Opened highwater answered.provider := by
          refine ⟨opening, ?_, ?_, ?_, ?_⟩
          · rw [world]
            exact unopened.consistent.opened unopened.stopped
          · rw [world]
            rfl
          · rw [world]
            rfl
          · rw [world]
            exact unopened.past
        apply Safe.callBind stable_opened (fun _ _ => trivial) opened
        rintro asked nowMs timed opened answers
        obtain ⟨now, -⟩ : nowMs = asked.provider.world.clock ∧
          timed.provider.world = asked.provider.world :=
          provider_answers answers
        have provider_eq := provider_eq_of_answers answers.1 rfl
        rw [← provider_eq] at opened now
        have clocked : Clocked provider config highwater nowMs
            timed.provider := by
          refine ⟨opened.opening, now.le, ?_⟩
          rw [now]
          exact pullerSafe_startedIn opened.consistent opened.running
            opened.subscribed opened.past
        apply Safe.callBind stable_clocked (fun _ _ => trivial) clocked
        rintro reading answer read clocked answers
        cases answer with
        | error exc => exact ⟨trivial, trivial⟩
        | ok generation =>
            obtain ⟨isGeneration, same⟩ :
                generation = reading.provider.world.generation ∧
                  read.provider.world = reading.provider.world :=
              provider_answers answers
            refine ⟨trivial, nowMs, generation, rfl, ?_⟩
            rw [same, isGeneration]
            exact clocked.started

end Calls

end OpenEventIm.Syncer.GaplessStarts
