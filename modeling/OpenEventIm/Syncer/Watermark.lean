import OpenEventIm.Syncer.PullerSessions
import OpenEventIm.Syncer.SessionDelivery

/-!
# The puller's watermark

The puller at a provider that delivers: started while no reconnect completes,
then taking messages and acknowledging what it took, in any interleaving with
the provider.  The invariant of every session is kept through every statement
of `start` and `take_message`, so at every moment all messages below a session's
`confirmed_event_ms`, less the overlap, have been acknowledged.
-/

namespace OpenEventIm.Syncer.Watermark

open OpenEventIm.Foundation
open OpenEventIm.Foundation.Interaction
open OpenEventIm.Sdk.Errors
open OpenEventIm.Service.Calls
open OpenEventIm.Syncer.Models
open OpenEventIm.Syncer.ProviderMessages
open OpenEventIm.Syncer.ProviderMessages.ProviderMessagePuller
open OpenEventIm.Syncer.PullerSessions
open OpenEventIm.Syncer.ProviderDelivery
open OpenEventIm.Syncer.SessionDelivery

/-! ## The invariant of the puller -/

/-- The `confirmed_event_ms` of a session. -/
def confirmedOf (puller : ProviderMessagePuller) (sessionId : String) :
    Option Int :=
  (puller.sessions.get? sessionId).bind SessionPullState.confirmedEventMs

/-- Every message of a session from its first handoff on, and below its
confirmed time less the overlap, is acknowledged. -/
def SkipsNothing (config : ProviderSyncConfig) (floors : String → Int)
    (acknowledged : List ProviderMessage) (confirmed : String → Option Int)
    (world : ProviderWorld) : Prop :=
  ∀ sessionId confirmedMs, confirmed sessionId = some confirmedMs →
    AllBelow world sessionId (floors sessionId)
      (confirmedMs - config.historyOverlapMs) (· ∈ acknowledged)

/-- The invariant of a puller with these confirmed times. -/
structure PullerSafe (config : ProviderSyncConfig) (floors : String → Int)
    (acknowledged : List ProviderMessage) (confirmed : String → Option Int)
    (world : ProviderWorld) (puller : ProviderMessagePuller) : Prop where
  configured : puller.config = config
  recorded : confirmedOf puller = confirmed
  consistent : Consistent world puller.liveEvents
  running : world.running = true
  counted : puller.streamGeneration ≤ world.generation
  subscribed : ∀ sessionId state, puller.sessions.get? sessionId = some state →
    sessionId ∈ world.subscribed
  sessions : ∀ sessionId state, puller.sessions.get? sessionId = some state →
    SessionSafe world puller.liveEvents puller.streamGeneration acknowledged
      config.historyOverlapMs (floors sessionId) sessionId state

/-- The puller has handled every reconnect that its live events came after. -/
abbrev Handled (puller : ProviderMessagePuller) (world : ProviderWorld) :
    Prop :=
  LiveHandled world puller.liveEvents puller.streamGeneration

theorem liveHandled_of_sent {before after : ProviderWorld}
    {live : List ProviderEvent} {generation : Nat}
    (handled : LiveHandled before live generation)
    (kept : ∀ sent ∈ before.sent, sent ∈ after.sent) :
    LiveHandled after live generation := by
  intro event member
  rcases handled event member with ⟨sent, inSent, rest⟩
  exact ⟨sent, kept sent inSent, rest⟩

section Steps

variable {before after : ProviderWorld} {reconnecting : Bool}

theorem sent_steps (steps : ProviderSteps reconnecting before after) :
    ∀ sent ∈ before.sent, sent ∈ after.sent := by
  cases steps with
  | sends => exact fun sent member => List.mem_append_left _ member
  | passes => exact fun _ member => member
  | disconnects => exact fun _ member => member
  | reconnects => exact fun _ member => member

theorem running_steps (steps : ProviderSteps reconnecting before after) :
    after.running = before.running := by
  cases steps <;> rfl

theorem subscribed_steps (steps : ProviderSteps reconnecting before after) :
    after.subscribed = before.subscribed := by
  cases steps <;> rfl

theorem queries_steps (steps : ProviderSteps reconnecting before after) :
    after.queries = before.queries := by
  cases steps <;> rfl

theorem generation_steps (steps : ProviderSteps reconnecting before after) :
    before.generation ≤ after.generation := by
  cases steps with
  | reconnects => exact Nat.le_succ _
  | passes => exact le_rfl
  | sends => exact le_rfl
  | disconnects => exact le_rfl

end Steps

section Invariant

variable {config : ProviderSyncConfig} {floors : String → Int}
  {acknowledged : List ProviderMessage} {confirmed : String → Option Int}
  {world after : ProviderWorld} {puller : ProviderMessagePuller}

theorem PullerSafe.skipsNothing
    (safe : PullerSafe config floors acknowledged confirmed world puller) :
    SkipsNothing config floors acknowledged confirmed world := by
  intro sessionId confirmedMs given
  rw [← safe.recorded] at given
  rcases Option.bind_eq_some_iff.mp given with ⟨state, known, reached⟩
  exact ((safe.sessions sessionId state known).confirmed confirmedMs reached).2

/-- The queries that the puller goes on with stay as they are. -/
def KeepsQueries (puller : ProviderMessagePuller)
    (before after : ProviderWorld) : Prop :=
  ∀ sessionId state scan token, puller.sessions.get? sessionId = some state →
    state.historyScan = some scan → scan.pageToken = some token →
      after.queries sessionId token = before.queries sessionId token

theorem keepsQueries_of_eq (same : after.queries = world.queries) :
    KeepsQueries puller world after := by
  intro sessionId _ _ token _ _ _
  rw [same]

/-- What happens at the provider, seen by a puller with these live events. -/
theorem PullerSafe.grown {live : List ProviderEvent}
    (safe : PullerSafe config floors acknowledged confirmed world puller)
    (grown : Grown world after puller.liveEvents live)
    (consistent : Consistent after live)
    (running : after.running = world.running)
    (subscribed : after.subscribed = world.subscribed)
    (generation : world.generation ≤ after.generation)
    (queries : KeepsQueries puller world after) :
    PullerSafe config floors acknowledged confirmed after
      { puller with liveEvents := live } where
  configured := safe.configured
  recorded := safe.recorded
  consistent := consistent
  running := running.trans safe.running
  counted := safe.counted.trans generation
  subscribed sessionId state known := by
    rw [subscribed]
    exact safe.subscribed sessionId state known
  sessions sessionId state known :=
    (safe.sessions sessionId state known).grown grown
      (fun _ => safe.consistent.eventMs_le) safe.running
      (safe.subscribed sessionId state known) safe.counted
      (queries sessionId state · · known)

theorem PullerSafe.steps {reconnecting : Bool}
    (safe : PullerSafe config floors acknowledged confirmed world puller)
    (steps : ProviderSteps reconnecting world after) :
    PullerSafe config floors acknowledged confirmed after puller :=
  safe.grown (grown_steps steps) (safe.consistent.steps steps)
    (running_steps steps) (subscribed_steps steps) (generation_steps steps)
    (keepsQueries_of_eq (queries_steps steps))

/-- A page token is issued, which is not the one that the session has. -/
theorem PullerSafe.queried {sessionId next : String}
    {state : SessionPullState} {scan : HistoryScan} {query : HistoryQuery}
    (safe : PullerSafe config floors acknowledged confirmed world puller)
    (known : puller.sessions.get? sessionId = some state)
    (given : state.historyScan = some scan)
    (advances : scan.pageToken ≠ some next) :
    PullerSafe config floors acknowledged confirmed
      { world with
        queries := Function.update world.queries sessionId
          (Function.update (world.queries sessionId) next (some query)) }
      puller := by
  refine @PullerSafe.grown _ _ _ _ _ _ _ puller.liveEvents safe
    (grown_of_same le_rfl rfl rfl) safe.consistent.queried rfl rfl le_rfl ?_
  intro other otherState otherScan token isKnown isGiven named
  show Function.update world.queries sessionId _ other token = _
  by_cases same : other = sessionId
  · subst same
    rw [known] at isKnown
    cases isKnown
    rw [given] at isGiven
    cases isGiven
    have different : token ≠ next := by
      rintro rfl
      exact advances named
    rw [Function.update_self, Function.update_of_ne different]
  · rw [Function.update_of_ne same]

/-- One session has changed, and perhaps the live events. -/
theorem PullerSafe.updated {next : ProviderMessagePuller} {sessionId : String}
    {state changed : SessionPullState}
    (safe : PullerSafe config floors acknowledged confirmed world puller)
    (known : puller.sessions.get? sessionId = some state)
    (same : changed.confirmedEventMs = state.confirmedEventMs)
    (configured : next.config = puller.config)
    (generation : next.streamGeneration = puller.streamGeneration)
    (sessions : next.sessions = puller.sessions.set sessionId changed)
    (fewer : next.liveEvents.Sublist puller.liveEvents)
    (keeps : ∀ message, message.sessionId ≠ sessionId →
      message ∈ messagesOf puller.liveEvents →
        message ∈ messagesOf next.liveEvents)
    (sessionSafe : SessionSafe world next.liveEvents puller.streamGeneration
      acknowledged config.historyOverlapMs (floors sessionId) sessionId
      changed) :
    PullerSafe config floors acknowledged confirmed world next where
  configured := configured.trans safe.configured
  recorded := by
    rw [← safe.recorded]
    funext other
    rw [confirmedOf, confirmedOf, sessions, Dict.get?_set]
    split_ifs with equal
    · rw [← equal, known]
      exact same
    · rfl
  consistent := safe.consistent.dropped fewer
  running := safe.running
  counted := generation.trans_le safe.counted
  subscribed other otherState given := by
    rw [sessions, Dict.get?_set] at given
    split_ifs at given with equal
    · exact equal ▸ safe.subscribed sessionId state known
    · exact safe.subscribed other otherState given
  sessions other otherState given := by
    rw [generation]
    rw [sessions, Dict.get?_set] at given
    split_ifs at given with equal
    · cases given
      exact equal ▸ sessionSafe
    · apply (safe.sessions other otherState given).liveTaken
      intro message ofOther
      apply keeps
      rw [ofOther]
      exact Ne.symm equal

/-! ## Deliveries -/

/-- What `take_message` has found: the puller is safe, and a message it hands
over was sent. -/
structure Served (config : ProviderSyncConfig) (floors : String → Int)
    (acknowledged : List ProviderMessage) (confirmed : String → Option Int)
    (served : Option ProviderEvent × ProviderMessagePuller)
    (world : ProviderWorld) : Prop where
  safe : PullerSafe config floors acknowledged confirmed world served.2
  handled : served.1 = none → Handled served.2 world
  sent : ∀ event, served.1 = some event → messageOf event ∈ world.messages

theorem PullerSafe.deliverHistory {index : Nat} {sessionId : String}
    {state : SessionPullState} {event : ProviderEvent}
    {rest : List ProviderEvent}
    (safe : PullerSafe config floors acknowledged confirmed world puller)
    (known : puller.sessions.get? sessionId = some state)
    (idle : state.inFlight = none)
    (head : state.historyEvents = event :: rest) :
    Served config floors acknowledged confirmed
      (some event, puller.deliver index sessionId
        { state with historyEvents := rest } event) world where
  safe := by
    refine safe.updated known ?_ rfl rfl rfl (List.Sublist.refl _)
      (fun _ _ member => member)
      ((safe.sessions sessionId state known).deliveredHistory idle head)
    rfl
  handled := nofun
  sent := by
    rintro _ ⟨⟩
    exact ((safe.sessions sessionId state known).queued [] event rest head).sent

theorem PullerSafe.deliverLive {index : Nat} {sessionId : String}
    {state : SessionPullState} {event : ProviderEvent}
    {next : ProviderMessagePuller}
    (safe : PullerSafe config floors acknowledged confirmed world puller)
    (handled : Handled puller world)
    (known : puller.sessions.get? sessionId = some state)
    (idle : state.inFlight = none) (drained : state.historyEvents = [])
    (delivered : puller.deliverLive index sessionId state =
      some (event, next)) :
    Served config floors acknowledged confirmed (some event, next) world := by
  rw [ProviderMessagePuller.deliverLive] at delivered
  split_ifs at delivered with ended
  rcases Option.map_eq_some_iff.mp delivered with ⟨⟨found, others⟩, taken, equal⟩
  cases equal
  rcases takeLiveEvent_eq_some taken with
    ⟨first, last, split, left, ofSession, before⟩
  have sessionSafe := safe.sessions sessionId state known
  refine ⟨?_, by rintro ⟨⟩, ?_⟩
  · refine safe.updated known ?_ rfl rfl rfl ?_ ?_ ?_
    · rfl
    · show others.Sublist puller.liveEvents
      rw [split, left]
      exact (List.Sublist.refl first).append (List.sublist_cons_self _ _)
    · intro message other member
      show message ∈ messagesOf others
      rw [split] at member
      rw [left]
      rcases List.mem_map.mp member with ⟨source, inLive, rfl⟩
      apply List.mem_map_of_mem
      rcases List.mem_append.mp inLive with inFirst | inLast
      · exact List.mem_append_left _ inFirst
      · rcases List.mem_cons.mp inLast with rfl | inLast
        · exact absurd ofSession other
        · exact List.mem_append_right _ inLast
    · show SessionSafe world others _ _ _ _ _ _
      rw [left]
      exact sessionSafe.deliveredLive safe.consistent handled ended idle drained
        split before
  · rintro _ ⟨⟩
    apply (safe.consistent.streamed _ _).mem
    rw [split]
    exact List.mem_append_left _ (List.mem_append_right _ List.mem_cons_self)

end Invariant

/-! ## The statements of `take_message` -/

section Statements

variable {config : ProviderSyncConfig} {floors : String → Int}
  {acknowledged : List ProviderMessage} {confirmed : String → Option Int}
  {world : ProviderWorld} {puller : ProviderMessagePuller}

/-- A safe puller that has handled every reconnect its live events came after. -/
structure Ready (config : ProviderSyncConfig) (floors : String → Int)
    (acknowledged : List ProviderMessage) (confirmed : String → Option Int)
    (puller : ProviderMessagePuller) (world : ProviderWorld) : Prop where
  safe : PullerSafe config floors acknowledged confirmed world puller
  handled : Handled puller world

theorem stable_pullerSafe :
    (providerWorld true).Stable fun world =>
      PullerSafe config floors acknowledged confirmed world puller :=
  fun _ _ steps safe => safe.steps steps

theorem stable_ready :
    (providerWorld true).Stable
      (Ready config floors acknowledged confirmed puller) :=
  fun _ _ steps ready =>
    ⟨ready.safe.steps steps, liveHandled_of_sent ready.handled (sent_steps steps)⟩

theorem Ready.skipsNothing
    (ready : Ready config floors acknowledged confirmed puller world) :
    SkipsNothing config floors acknowledged confirmed world :=
  ready.safe.skipsNothing

theorem safe_raiseStreamError
    (safe : PullerSafe config floors acknowledged confirmed world puller) :
    Safe (providerWorld true)
      (SkipsNothing config floors acknowledged confirmed)
      (fun _ world =>
        PullerSafe config floors acknowledged confirmed world puller)
      (fun _ _ => True) puller.raiseStreamError world := by
  apply Safe.callBind stable_pullerSafe (fun _ => PullerSafe.skipsNothing) safe
  intro ready answer answered safe answers
  have same : answered = ready := answers
  subst same
  cases answer with
  | error exc => exact ⟨safe.skipsNothing, trivial⟩
  | ok error =>
      cases error with
      | some raised => exact ⟨safe.skipsNothing, trivial⟩
      | none => exact ⟨safe.skipsNothing, safe⟩

/-- Reading the generation and, if it has grown, handing off. -/
theorem safe_scheduleReconnectHandoff
    (safe : PullerSafe config floors acknowledged confirmed world puller) :
    Safe (providerWorld true)
      (SkipsNothing config floors acknowledged confirmed)
      (fun puller => Ready config floors acknowledged confirmed puller)
      (fun _ _ => True) puller.scheduleReconnectHandoff world := by
  apply Safe.callBind stable_pullerSafe (fun _ => PullerSafe.skipsNothing) safe
  intro ready answer answered safe answers
  cases answer with
  | error exc =>
      have same : answered = ready := answers
      subst same
      exact ⟨safe.skipsNothing, trivial⟩
  | ok generation =>
      obtain ⟨read, same⟩ :
          generation = ready.generation ∧ answered = ready := answers
      subst same
      -- whatever is live was sent before the generation was read
      have handled : LiveHandled answered puller.liveEvents generation := by
        intro event member
        rcases safe.consistent.streamed event (List.mem_append_left _ member)
          with ⟨sent, inSent, ofEvent, notMissed⟩
        refine ⟨sent, inSent, ofEvent, notMissed, ?_⟩
        rw [read]
        exact (safe.consistent.past sent inSent).2
      simp only [Action.ofExcept_ok, Program.ret_bind]
      split_ifs with backwards unchanged
      · exact ⟨safe.skipsNothing, trivial⟩
      · rw [unchanged] at handled
        exact ⟨safe.skipsNothing, safe, handled⟩
      · have stable : (providerWorld true).Stable fun world : ProviderWorld =>
            PullerSafe config floors acknowledged confirmed world puller ∧
              LiveHandled world puller.liveEvents generation ∧
                generation ≤ world.generation := by
          rintro before after steps ⟨safe, handled, counted⟩
          exact ⟨safe.steps steps,
            liveHandled_of_sent handled (sent_steps steps),
            counted.trans (generation_steps steps)⟩
        apply Safe.callBind stable
        · exact fun _ held => held.1.skipsNothing
        · exact ⟨safe, handled, read.le⟩
        · rintro later nowMs after ⟨safe, handled, counted⟩ answers
          obtain ⟨now, same⟩ : nowMs = later.clock ∧ after = later := answers
          subst same now
          refine ⟨safe.skipsNothing, ⟨safe.configured, ?_, safe.consistent,
            safe.running, counted, ?_, ?_⟩, handled⟩
          · rw [← safe.recorded]
            funext sessionId
            rw [confirmedOf, confirmedOf]
            show ((puller.sessions.mapValues _).get? sessionId).bind _ = _
            rw [Dict.get?_mapValues, Option.bind_map]
            rfl
          · intro sessionId state known
            rcases Option.map_eq_some_iff.mp
              ((Dict.get?_mapValues _ _ _).symm.trans known) with
              ⟨before, given, -⟩
            exact safe.subscribed sessionId before given
          · intro sessionId state known
            rcases Option.map_eq_some_iff.mp
              ((Dict.get?_mapValues _ _ _).symm.trans known) with
              ⟨before, given, rfl⟩
            have sessionSafe := safe.sessions sessionId before given
            rw [← safe.configured] at sessionSafe ⊢
            exact sessionSafe.handOff safe.consistent generation

/-- Taking a live event from the stream. -/
theorem safe_collectLiveEvent
    (safe : PullerSafe config floors acknowledged confirmed world puller) :
    Safe (providerWorld true)
      (SkipsNothing config floors acknowledged confirmed)
      (fun puller world =>
        PullerSafe config floors acknowledged confirmed world puller)
      (fun _ _ => True) puller.collectLiveEvent world := by
  rw [collectLiveEvent]
  split_ifs with full
  · exact ⟨safe.skipsNothing, safe⟩
  · apply Safe.callBind stable_pullerSafe (fun _ => PullerSafe.skipsNothing)
      safe
    intro ready answer answered safe answers
    cases answer with
    | error exc =>
        have same : answered = ready := answers
        subst same
        exact ⟨safe.skipsNothing, trivial⟩
    | ok taken =>
        cases taken with
        | none =>
            have same : answered = ready := answers
            subst same
            exact ⟨safe.skipsNothing, safe⟩
        | some event =>
            obtain ⟨rest, split, same⟩ : ∃ rest, ready.queue = event :: rest ∧
              answered = { ready with queue := rest } := answers
            subst same
            have collected := safe.grown (grown_taken split)
              (safe.consistent.taken split) rfl rfl le_rfl
              (keepsQueries_of_eq rfl)
            simp only [Action.ofExcept_ok, Program.ret_bind]
            split_ifs with foreign unknown
            · exact ⟨collected.skipsNothing, trivial⟩
            · exact ⟨collected.skipsNothing, trivial⟩
            · exact ⟨collected.skipsNothing, collected⟩

/-- A session that has asked for a page: still idle, with a safe state. -/
structure Fetched (config : ProviderSyncConfig) (floors : String → Int)
    (acknowledged : List ProviderMessage) (confirmed : String → Option Int)
    (puller : ProviderMessagePuller) (sessionId : String)
    (state changed : SessionPullState) (world : ProviderWorld) : Prop where
  ready : Ready config floors acknowledged confirmed puller world
  sessionSafe : SessionSafe world puller.liveEvents puller.streamGeneration
    acknowledged config.historyOverlapMs (floors sessionId) sessionId changed
  unconfirmed : changed.confirmedEventMs = state.confirmedEventMs
  idle : changed.inFlight = none

theorem receivedPage_confirmedEventMs (state : SessionPullState)
    (scan : HistoryScan) (page : HistoryPage) :
    (receivedPage state scan page).confirmedEventMs =
      state.confirmedEventMs := by
  rw [receivedPage]
  cases page.nextPageToken <;> rfl

/-- An honest page, at the state of the provider that it leaves. -/
theorem Ready.received {ready answered : ProviderWorld} {sessionId : String}
    {state : SessionPullState} {scan : HistoryScan} {page : HistoryPage}
    (held : Ready config floors acknowledged confirmed puller ready)
    (known : puller.sessions.get? sessionId = some state)
    (idle : state.inFlight = none) (drained : state.historyEvents = [])
    (given : state.historyScan = some scan)
    (answers : HistoryAnswers ready sessionId scan.startMs scan.endMs
      scan.pageToken (.ok page) answered) :
    Fetched config floors acknowledged confirmed puller sessionId state
      (receivedPage state scan page) answered := by
  have unconfirmed := receivedPage_confirmedEventMs state scan page
  have stillIdle := (receivedPage_inFlight state scan page).trans idle
  cases answers with
  | last continues honest isLast =>
      refine ⟨held, ?_, unconfirmed, stillIdle⟩
      apply (held.safe.sessions sessionId state known).received given idle
        drained continues honest
      intro next named
      rw [isLast] at named
      cases named
  | @more query _ next continues honest named advances =>
      have safe := @PullerSafe.queried _ _ _ _ _ _ sessionId next state scan
        { query with returned := query.returned ++ messagesOf page.events }
        held.safe known given advances
      refine ⟨⟨safe, held.handled⟩, ?_, unconfirmed, stillIdle⟩
      refine (safe.sessions sessionId state known).received given idle drained
        ?_ ⟨honest.ofSession, honest.ascending, honest.complete⟩ ?_
      · generalize scan.pageToken = asked at continues advances
        cases continues with
        | first => exact .first
        | @next token found returned query =>
            refine .next ?_
            have different : token ≠ next := by
              rintro rfl
              exact advances rfl
            show Function.update ready.queries sessionId _ sessionId token = _
            rw [Function.update_self, Function.update_of_ne different]
            exact query
      · intro other same
        rw [named] at same
        cases same
        show Function.update ready.queries sessionId _ sessionId next = _
        rw [Function.update_self, Function.update_self]

theorem safe_fetchHistoryPageOf {sessionId : String} {state : SessionPullState}
    {nowMs : Int}
    (held : Ready config floors acknowledged confirmed puller world)
    (known : puller.sessions.get? sessionId = some state)
    (idle : state.inFlight = none) (drained : state.historyEvents = []) :
    Safe (providerWorld true)
      (SkipsNothing config floors acknowledged confirmed)
      (Fetched config floors acknowledged confirmed puller sessionId state)
      (fun _ _ => True)
      (puller.fetchHistoryPageOf sessionId state nowMs) world := by
  rw [fetchHistoryPageOf]
  cases given : state.historyScan with
  | none =>
      exact ⟨held.skipsNothing, held, held.safe.sessions sessionId state known,
        rfl, idle⟩
  | some scan =>
      apply Safe.call stable_ready (fun _ => Ready.skipsNothing) held
      intro ready answer answered held answers
      cases answer with
      | error exc =>
          have same : answered = ready := by
            cases (answers : HistoryAnswers ready sessionId scan.startMs
              scan.endMs scan.pageToken (.error exc) answered)
            rfl
          subst same
          have delayed := (held.safe.sessions sessionId state known).delayed
            (nowMs + puller.config.historyRetryDelayMs)
          rw [given] at delayed
          simp only []
          split_ifs with transient
          · exact ⟨held.skipsNothing, held, delayed, rfl, idle⟩
          · exact ⟨held.skipsNothing, trivial⟩
      | ok page =>
          have fetched := held.received known idle drained given answers
          simp only []
          split_ifs with foreign
          · exact ⟨fetched.ready.skipsNothing, trivial⟩
          · exact ⟨fetched.ready.skipsNothing, fetched⟩

theorem safe_serveLive {index : Nat} {sessionId : String}
    {state : SessionPullState}
    (held : Ready config floors acknowledged confirmed puller world)
    (known : puller.sessions.get? sessionId = some state)
    (idle : state.inFlight = none) (drained : state.historyEvents = []) :
    Safe (providerWorld true)
      (SkipsNothing config floors acknowledged confirmed)
      (Served config floors acknowledged confirmed) (fun _ _ => True)
      (match puller.deliverLive index sessionId state with
        | some (event, puller) => return (some event, puller)
        | none => return (none, puller) :
          Action (Option ProviderEvent × ProviderMessagePuller)) world := by
  cases delivered : puller.deliverLive index sessionId state with
  | none => exact ⟨held.skipsNothing, held.safe, fun _ => held.handled, by rintro _ ⟨⟩⟩
  | some served =>
      exact ⟨held.skipsNothing,
        held.safe.deliverLive held.handled known idle drained delivered⟩

/-- One session is served. -/
theorem safe_serveSession {nowMs : Int} {index : Nat} {sessionId : String}
    {state : SessionPullState}
    (held : Ready config floors acknowledged confirmed puller world)
    (known : puller.sessions.get? sessionId = some state) :
    Safe (providerWorld true)
      (SkipsNothing config floors acknowledged confirmed)
      (Served config floors acknowledged confirmed) (fun _ _ => True)
      (puller.serveSession nowMs index sessionId state) world := by
  rw [serveSession]
  by_cases busy : state.inFlight.isSome
  · rw [if_pos busy]
    exact ⟨held.skipsNothing, held.safe, fun _ => held.handled, by rintro _ ⟨⟩⟩
  · rw [if_neg busy]
    have idle : state.inFlight = none := Option.not_isSome_iff_eq_none.mp busy
    cases queue : state.historyEvents with
    | cons event rest =>
        exact ⟨held.skipsNothing, held.safe.deliverHistory known idle queue⟩
    | nil =>
        simp only []
        split_ifs with due
        · apply (safe_fetchHistoryPageOf held known idle queue).bind
          intro changed after _ fetched
          have safe : PullerSafe config floors acknowledged confirmed after
              (puller.advanced index sessionId changed) :=
            fetched.ready.safe.updated known fetched.unconfirmed rfl rfl rfl
              (List.Sublist.refl _) (fun _ _ member => member)
              fetched.sessionSafe
          have stored : (puller.advanced index sessionId changed).sessions.get?
              sessionId = some changed := Dict.get?_set_self _ _ _
          cases next : changed.historyEvents with
          | cons event rest =>
              exact ⟨safe.skipsNothing,
                safe.deliverHistory stored fetched.idle next⟩
          | nil =>
              exact safe_serveLive ⟨safe, fetched.ready.handled⟩ stored
                fetched.idle next
        · exact safe_serveLive held known idle queue

theorem safe_serveSessions {nowMs : Int} {offset remaining : Nat}
    (held : Ready config floors acknowledged confirmed puller world) :
    Safe (providerWorld true)
      (SkipsNothing config floors acknowledged confirmed)
      (Served config floors acknowledged confirmed) (fun _ _ => True)
      (puller.serveSessions nowMs offset remaining) world := by
  induction remaining generalizing puller world offset with
  | zero => exact ⟨held.skipsNothing, held.safe, fun _ => held.handled, by rintro _ ⟨⟩⟩
  | succ remaining ih =>
      rw [serveSessions]
      cases puller.sessionOrder[
          (puller.sessionCursor + offset) % puller.sessionOrder.length]? with
      | none => exact ⟨held.skipsNothing, trivial⟩
      | some sessionId =>
          simp only []
          cases known : puller.sessions.get? sessionId with
          | none => exact ⟨held.skipsNothing, trivial⟩
          | some state =>
              apply (safe_serveSession held known).bind
              rintro ⟨event, next⟩ after _ served
              cases event with
              | some event => exact ⟨served.safe.skipsNothing, served⟩
              | none => exact ih ⟨served.safe, served.handled rfl⟩

/-- `take_message` keeps the puller safe through all its statements. -/
theorem safe_takeMessage
    (safe : PullerSafe config floors acknowledged confirmed world puller) :
    Safe (providerWorld true)
      (SkipsNothing config floors acknowledged confirmed)
      (Served config floors acknowledged confirmed) (fun _ _ => True)
      puller.takeMessage world := by
  rw [takeMessage]
  split_ifs with stopped
  · exact ⟨safe.skipsNothing, trivial⟩
  · apply (safe_raiseStreamError safe).bind
    intro _ _ _ safe
    apply (safe_scheduleReconnectHandoff safe).bind
    intro puller _ _ held
    apply (safe_collectLiveEvent held.safe).bind
    intro puller _ _ safe
    apply (safe_raiseStreamError safe).bind
    intro _ _ _ safe
    apply (safe_scheduleReconnectHandoff safe).bind
    intro puller _ _ held
    apply Safe.callBind stable_ready (fun _ => Ready.skipsNothing) held
    intro ready nowMs answered held answers
    obtain ⟨-, same⟩ : nowMs = ready.clock ∧ answered = ready := answers
    subst same
    exact safe_serveSessions held

end Statements

/-! ## `start` -/

/-- The `start_ms` of the first handoff of each session. -/
def firstHandoffs (puller : ProviderMessagePuller) (sessionId : String) : Int :=
  ((puller.sessions.get? sessionId).bind SessionPullState.historyScan).elim 0
    HistoryScan.startMs

section Start

variable {provider : String} {config : ProviderSyncConfig}
  {sessionHighwaterMs : Dict String (Option Int)} {world : ProviderWorld}

/-- The confirmed times that a puller starts with have passed. -/
def Past (sessionHighwaterMs : Dict String (Option Int))
    (world : ProviderWorld) : Prop :=
  ∀ sessionId confirmedMs,
    sessionHighwaterMs.get? sessionId = some (some confirmedMs) →
      confirmedMs ≤ world.clock

theorem clock_steps {before after : ProviderWorld} {reconnecting : Bool}
    (steps : ProviderSteps reconnecting before after) :
    before.clock ≤ after.clock := by
  cases steps with
  | passes later => exact later
  | sends => exact le_rfl
  | disconnects => exact le_rfl
  | reconnects => exact le_rfl

/-- The puller as `start` leaves it, when it reads this state of the provider. -/
abbrev startedIn (provider : String) (config : ProviderSyncConfig)
    (sessionHighwaterMs : Dict String (Option Int)) (world : ProviderWorld) :
    ProviderMessagePuller :=
  (create provider config).startedAt sessionHighwaterMs world.clock
    world.generation

/-- A puller whose windows end now is safe. -/
theorem pullerSafe_startedIn
    (consistent : Consistent world []) (running : world.running = true)
    (subscribed : world.subscribed = sessionHighwaterMs.keys)
    (past : Past sessionHighwaterMs world) :
    PullerSafe config
      (firstHandoffs (startedIn provider config sessionHighwaterMs world)) []
      (confirmedOf (startedIn provider config sessionHighwaterMs world)) world
      (startedIn provider config sessionHighwaterMs world) where
  configured := rfl
  recorded := rfl
  consistent := consistent
  running := running
  counted := le_rfl
  subscribed sessionId state known := by
    rw [subscribed]
    have given : state ∈ (sessionHighwaterMs.mapValues _).get? sessionId := known
    rw [Dict.get?_mapValues] at given
    rcases Option.map_eq_some_iff.mp given with ⟨confirmedMs, member, -⟩
    exact Dict.mem_keys_iff.mpr ⟨confirmedMs, member⟩
  sessions sessionId state known := by
    have given : state ∈ (sessionHighwaterMs.mapValues _).get? sessionId := known
    rw [Dict.get?_mapValues] at given
    rcases Option.map_eq_some_iff.mp given with ⟨confirmedMs, member, rfl⟩
    have floor : firstHandoffs (startedIn provider config sessionHighwaterMs
        world) sessionId =
          (newHistoryScan config confirmedMs world.clock).startMs := by
      rw [firstHandoffs, known]
      rfl
    rw [floor]
    refine @sessionSafe_started world [] _ sessionId (create provider config)
      confirmedMs consistent ?_
    rintro confirmed rfl
    exact past sessionId confirmed member

/-- `start`, while no reconnect completes. -/
theorem safe_start (consistent : Consistent world [])
    (stopped : world.running = false) (past : Past sessionHighwaterMs world) :
    Safe (providerWorld false) (fun _ => True)
      (fun puller world => PullerSafe config (firstHandoffs puller) []
        (confirmedOf puller) world puller)
      (fun _ _ => True)
      ((create provider config).start sessionHighwaterMs) world := by
  rw [start]
  split_ifs with running empty
  · cases running
  · exact ⟨trivial, trivial⟩
  · have stableStopped : (providerWorld false).Stable
        fun world : ProviderWorld => Consistent world [] ∧
          world.running = false ∧ Past sessionHighwaterMs world := by
      rintro before after steps ⟨consistent, stopped, past⟩
      exact ⟨consistent.steps steps, (running_steps steps).trans stopped,
        fun sessionId confirmedMs given =>
          (past sessionId confirmedMs given).trans (clock_steps steps)⟩
    apply Safe.callBind stableStopped (fun _ _ => trivial)
      ⟨consistent, stopped, past⟩
    rintro ready answer answered ⟨consistent, stopped, past⟩ answers
    cases answer with
    | error exc => exact ⟨trivial, trivial⟩
    | ok opened =>
        have same : answered = ready.opened sessionHighwaterMs.keys := answers
        subst same
        have stableOpened : (providerWorld false).Stable
            fun world : ProviderWorld => Consistent world [] ∧
              world.running = true ∧
                world.subscribed = sessionHighwaterMs.keys ∧
                  Past sessionHighwaterMs world := by
          rintro before after steps ⟨consistent, running, subscribed, past⟩
          exact ⟨consistent.steps steps, (running_steps steps).trans running,
            (subscribed_steps steps).trans subscribed,
            fun sessionId confirmedMs given =>
              (past sessionId confirmedMs given).trans (clock_steps steps)⟩
        apply Safe.callBind stableOpened (fun _ _ => trivial)
          ⟨consistent.opened stopped, rfl, rfl, past⟩
        rintro ready nowMs answered ⟨consistent, running, subscribed, past⟩
          answers
        obtain ⟨now, same⟩ : nowMs = ready.clock ∧ answered = ready := answers
        subst same now
        -- no reconnect completes before the generation is read
        have safe := @pullerSafe_startedIn provider config _ _ consistent
          running subscribed past
        have stableRead : (providerWorld false).Stable
            fun world : ProviderWorld =>
              world.generation = answered.generation ∧
                PullerSafe config
                  (firstHandoffs
                    (startedIn provider config sessionHighwaterMs answered)) []
                  (confirmedOf
                    (startedIn provider config sessionHighwaterMs answered))
                  world
                  (startedIn provider config sessionHighwaterMs answered) := by
          rintro before after steps ⟨same, safe⟩
          refine ⟨?_, safe.steps steps⟩
          cases steps with
          | reconnects allowed => cases allowed
          | passes => exact same
          | sends => exact same
          | disconnects => exact same
        apply Safe.callBind stableRead (fun _ _ => trivial) ⟨rfl, safe⟩
        rintro later answer after ⟨same, safe⟩ answers
        cases answer with
        | error exc => exact ⟨trivial, trivial⟩
        | ok generation =>
            obtain ⟨read, unchanged⟩ :
                generation = later.generation ∧ after = later := answers
            subst unchanged
            rw [read, same]
            exact ⟨trivial, safe⟩

end Start

/-! ## Runs of the puller -/

/--
The states of a puller that was started in a world reached from an empty
provider, together with the messages it has acknowledged and the events that
`take_message` has returned.  The confirmed times that it started with were
stamped by the same clock; reconnects complete at any time after `start`.
-/
inductive PullerReaches (provider : String) (config : ProviderSyncConfig)
    (sessionHighwaterMs : Dict String (Option Int))
    (first : ProviderMessagePuller) :
    ProviderMessagePuller → ProviderWorld → List ProviderMessage →
      List ProviderEvent → Prop where
  | starts {clock : Int} {before after : ProviderWorld}
      (history : (providerWorld true).Evolves (ProviderWorld.empty clock)
        before)
      (past : Past sessionHighwaterMs before)
      (run : Runs (providerWorld false) before
        ((create provider config).start sessionHighwaterMs) after
        (.ok first)) :
      PullerReaches provider config sessionHighwaterMs first first after [] []
  | provider {puller : ProviderMessagePuller} {world after : ProviderWorld}
      {acknowledged : List ProviderMessage} {taken : List ProviderEvent}
      (reached : PullerReaches provider config sessionHighwaterMs first puller
        world acknowledged taken)
      (steps : ProviderSteps true world after) :
      PullerReaches provider config sessionHighwaterMs first puller after
        acknowledged taken
  | takes {puller next : ProviderMessagePuller} {world after : ProviderWorld}
      {acknowledged : List ProviderMessage} {taken : List ProviderEvent}
      {event : Option ProviderEvent}
      (reached : PullerReaches provider config sessionHighwaterMs first puller
        world acknowledged taken)
      (run : Runs (providerWorld true) world puller.takeMessage after
        (.ok (event, next))) :
      PullerReaches provider config sessionHighwaterMs first next after
        acknowledged (taken ++ event.toList)
  | acknowledges {puller next : ProviderMessagePuller} {world : ProviderWorld}
      {acknowledged : List ProviderMessage} {taken : List ProviderEvent}
      {event : ProviderEvent}
      (reached : PullerReaches provider config sessionHighwaterMs first puller
        world acknowledged taken)
      (returned : event ∈ taken) (done : puller.acknowledge event = .ok next) :
      PullerReaches provider config sessionHighwaterMs first next world
        (acknowledged ++ [messageOf event]) taken

section Runs

variable {provider : String} {config : ProviderSyncConfig}
  {sessionHighwaterMs : Dict String (Option Int)}
  {first puller next : ProviderMessagePuller} {world after : ProviderWorld}
  {acknowledged : List ProviderMessage} {taken : List ProviderEvent}
  {floors : String → Int} {event : ProviderEvent}

/-- Acknowledging a message that `take_message` has returned. -/
theorem PullerSafe.acknowledges
    (safe : PullerSafe config floors acknowledged (confirmedOf puller) world
      puller)
    (sent : messageOf event ∈ world.messages)
    (done : puller.acknowledge event = .ok next) :
    PullerSafe config floors (acknowledged ++ [messageOf event])
      (confirmedOf next) world next := by
  rcases acknowledge_eq_ok done with ⟨state, known, sameKey, rfl⟩
  have sessionSafe := safe.sessions event.sessionId state known
  have delivered : state.inFlight.map messageOf = some (messageOf event) := by
    rcases Option.map_eq_some_iff.mp sameKey with ⟨inFlight, given, same⟩
    rw [given, Option.map_some]
    exact congrArg some (safe.consistent.key_injective
      (sessionSafe.inFlight inFlight given).sent sent same)
  refine ⟨safe.configured, rfl, safe.consistent, safe.running, safe.counted,
    ?_, ?_⟩
  · intro other otherState given
    have lookup := (Dict.get?_set _ _ _ _).symm.trans given
    split_ifs at lookup with equal
    · exact equal ▸ safe.subscribed event.sessionId state known
    · exact safe.subscribed other otherState lookup
  · intro other otherState given
    have lookup := (Dict.get?_set _ _ _ _).symm.trans given
    split_ifs at lookup with equal
    · cases lookup
      exact equal ▸ sessionSafe.acknowledge safe.consistent delivered
    · exact (safe.sessions other otherState lookup).acknowledgedMore _

theorem consistent_of_evolves {clock : Int} {before : ProviderWorld}
    (history : (providerWorld true).Evolves (ProviderWorld.empty clock)
      before) :
    Consistent before [] ∧ before.running = false := by
  induction history with
  | refl => exact ⟨consistent_empty clock, rfl⟩
  | tail _ steps ih =>
      exact ⟨ih.1.steps steps, (running_steps steps).trans ih.2⟩

/-- No call changes what was sent. -/
theorem sent_answers {request : Call} {answer : Answer request}
    (answers : ProviderAnswers world request answer after) :
    after.sent = world.sent := by
  cases request with
  | currentTimeMs => exact congrArg ProviderWorld.sent answers.2
  | startEventStream =>
      cases answer with
      | error => exact congrArg ProviderWorld.sent answers
      | ok => exact @congrArg _ _ _ (world.opened _) ProviderWorld.sent answers
  | eventStreamGeneration =>
      cases answer with
      | error => exact congrArg ProviderWorld.sent answers
      | ok => exact congrArg ProviderWorld.sent answers.2
  | takeEvent =>
      cases answer with
      | error => exact congrArg ProviderWorld.sent answers
      | ok taken =>
          cases taken with
          | none => exact congrArg ProviderWorld.sent answers
          | some =>
              rcases answers with ⟨_, _, same⟩
              rw [same]
  | fetchHistoryPage provider sessionId startMs endMs token =>
      cases (answers : HistoryAnswers world sessionId startMs endMs token answer
        after) <;> rfl
  | _ => exact congrArg ProviderWorld.sent answers

/-- Messages are never lost. -/
theorem messages_visits {program : Action (Option ProviderEvent ×
      ProviderMessagePuller)}
    (visit : Visits (providerWorld true) world program after) :
    ∀ message ∈ world.messages, message ∈ after.messages := by
  have relates := @Visits.relates _ _ _ (providerWorld true) program
    (fun before after : ProviderWorld =>
      ∀ message ∈ before.messages, message ∈ after.messages) _ _ visit
  apply relates
  · exact fun _ _ member => member
  · exact fun _ _ _ left right message member =>
      right message (left message member)
  · exact fun before after steps =>
      (@grown_steps before after [] true steps).kept
  · intro before request answer after answers message member
    rw [ProviderWorld.messages, sent_answers answers]
    exact member

/-- The invariant holds in every state that the puller reaches. -/
theorem PullerReaches.safe
    (reached : PullerReaches provider config sessionHighwaterMs first puller
      world acknowledged taken) :
    PullerSafe config (firstHandoffs first) acknowledged (confirmedOf puller)
        world puller ∧
      ∀ event ∈ taken, messageOf event ∈ world.messages := by
  induction reached with
  | starts history past run =>
      rcases consistent_of_evolves history with ⟨consistent, stopped⟩
      exact ⟨((safe_start consistent stopped past).runs_ok run).2, nofun⟩
  | provider _ steps ih =>
      refine ⟨ih.1.steps steps, fun event member => ?_⟩
      exact (@grown_steps _ _ [] true steps).kept _ (ih.2 event member)
  | takes _ run ih =>
      have served := ((safe_takeMessage ih.1).runs_ok run).2
      have recorded := served.safe.recorded
      refine ⟨recorded ▸ served.safe, fun event member => ?_⟩
      rcases List.mem_append.mp member with member | member
      · exact messages_visits run.visits _ (ih.2 event member)
      · exact served.sent event (Option.mem_toList.mp member)
  | acknowledges _ returned done ih =>
      exact ⟨ih.1.acknowledges (ih.2 _ returned) done, ih.2⟩

/--
At every moment of every run of the puller, also in the middle of
`take_message`: a message of a session from the start of its first handoff on
is acknowledged when it is below the session's `confirmed_event_ms` less the
overlap, and no scan of a restart begins above one that is not.
-/
theorem acknowledged_below_watermark
    (reached : PullerReaches provider config sessionHighwaterMs first puller
      world acknowledged taken)
    (visit : Visits (providerWorld true) world puller.takeMessage after)
    {sessionId : String} {state started : SessionPullState}
    {scan : HistoryScan} {confirmedMs : Int}
    (known : puller.sessions.get? sessionId = some state)
    (confirmed : state.confirmedEventMs = some confirmedMs)
    (startedWith : first.sessions.get? sessionId = some started)
    (handoff : started.historyScan = some scan) {message : ProviderMessage}
    (sent : message ∈ after.messages)
    (ofSession : message.sessionId = sessionId)
    (above : scan.startMs ≤ message.eventMs) :
    (message.eventMs < confirmedMs - config.historyOverlapMs →
        message ∈ acknowledged) ∧
      (message ∉ acknowledged → ∀ nowMs,
        (newHistoryScan config (some confirmedMs) nowMs).startMs ≤
          message.eventMs) := by
  have safe := reached.safe.1
  have floor : firstHandoffs first sessionId = scan.startMs := by
    rw [firstHandoffs, startedWith, Option.bind_some, handoff]
    rfl
  have recorded : confirmedOf puller sessionId = some confirmedMs := by
    rw [confirmedOf, known, Option.bind_some, confirmed]
  have skipsNothing := (safe_takeMessage safe).visits visit sessionId
    confirmedMs recorded message
  have nonneg : 0 ≤ message.eventMs := by
    refine le_trans ?_ above
    rw [← floor]
    exact (safe.sessions sessionId state known).floor
  have below : message.eventMs < confirmedMs - config.historyOverlapMs →
      message ∈ acknowledged :=
    skipsNothing ⟨sent, ofSession, floor.trans_le above⟩
  refine ⟨below, fun missing nowMs => ?_⟩
  by_contra early
  apply missing
  apply below
  exact lt_of_lt_newHistoryScan_start nonneg (Int.not_le.mp early)

end Runs

/-! ## A run -/

section Sample

/-- A run continues with the answer of a call. -/
theorem runs_answered {Result : Type} {reconnecting : Bool}
    {world answered after : ProviderWorld} {request : Call}
    {answer : Answer request} {next : Answer request → Action Result}
    {outcome : Except PyError Result}
    (answers : ProviderAnswers world request answer answered)
    (run : Runs (providerWorld reconnecting) answered (next answer) after
      outcome) :
    Runs (providerWorld reconnecting) world (.call request next) after
      outcome :=
  .call .refl answers run

/-- On a quiet stream `take_message` goes on to serve the sessions. -/
theorem runs_takeMessage {puller : ProviderMessagePuller}
    {world after : ProviderWorld}
    {outcome : Except PyError (Option ProviderEvent × ProviderMessagePuller)}
    (started : puller.started = true)
    (current : puller.streamGeneration = world.generation)
    (run : Runs (providerWorld true) world
      (puller.serveSessions world.clock 0 puller.sessionOrder.length) after
      outcome) :
    Runs (providerWorld true) world puller.takeMessage after outcome := by
  have quiet : Runs (providerWorld true) world puller.raiseStreamError world
      (.ok ()) := by
    have answers : ProviderAnswers world (.eventStreamError puller.provider)
      (.ok none) world := rfl
    exact runs_answered answers .ret
  have unchanged : Runs (providerWorld true) world
      puller.scheduleReconnectHandoff world (.ok puller) := by
    have answers : ProviderAnswers world
      (.eventStreamGeneration puller.provider) (.ok world.generation) world :=
      ⟨rfl, rfl⟩
    refine runs_answered answers ?_
    simp only [Action.ofExcept_ok, Program.bind_eq, Program.ret_bind]
    rw [if_neg (Nat.not_lt.mpr current.le), if_pos current.symm]
    exact .ret
  have nothing : Runs (providerWorld true) world puller.collectLiveEvent world
      (.ok puller) := by
    rw [collectLiveEvent]
    split_ifs with full
    · exact .ret
    · have answers : ProviderAnswers world (.takeEvent puller.provider)
        (.ok none) world := rfl
      exact runs_answered answers .ret
  have timed : ProviderAnswers world .currentTimeMs world.clock world :=
    ⟨rfl, rfl⟩
  rw [takeMessage, if_neg (by simp [started])]
  exact quiet.bind (unchanged.bind (nothing.bind (quiet.bind
    (unchanged.bind (runs_answered timed run)))))

def sampleConfig : ProviderSyncConfig := ⟨1000, 10, 1000, 8⟩

def sampleEvent (providerMessageId : String) (eventMs : Int) :
    ProviderEvent where
  provider := "lark"
  sessionId := "oc1"
  providerMessageId := providerMessageId
  senderExternalUserId := "ou1"
  msgType := "text"
  contentRaw := []
  eventMs := eventMs
  text := none
  senderIdentityType := "open_id"
  wellFormed := Json.wellFormed_empty

/-- Two messages were sent before the puller starts. -/
def sampleWorld : ProviderWorld where
  clock := 200
  sent :=
    [⟨messageOf (sampleEvent "om1" 100), false, 0⟩,
      ⟨messageOf (sampleEvent "om2" 200), false, 0⟩]
  running := false
  subscribed := []
  connected := false
  generation := 0
  queue := []
  queries _ _ := none

theorem sampleWorld_reached :
    (providerWorld true).Evolves (ProviderWorld.empty 100) sampleWorld := by
  have first := Relation.ReflTransGen.single
    (@ProviderSteps.sends true (ProviderWorld.empty 100)
      (sampleEvent "om1" 100) rfl nofun)
  have later := first.tail (@ProviderSteps.passes true _ 200 (by decide))
  exact later.tail (@ProviderSteps.sends true _ (sampleEvent "om2" 200) rfl
    (by decide))

def sampleHighwater : Dict String (Option Int) :=
  (∅ : Dict String (Option Int)).set "oc1" none

def samplePuller : ProviderMessagePuller where
  provider := "lark"
  config := sampleConfig
  sessions := sampleHighwater.mapValues
    ((create "lark" sampleConfig).startedSession 200)
  sessionOrder := ["oc1"]
  sessionCursor := 0
  liveEvents := []
  streamGeneration := 0
  started := true

theorem startedAt_samplePuller :
    (create "lark" sampleConfig).startedAt sampleHighwater 200 0 =
      samplePuller :=
  congrArg (fun order => { samplePuller with sessionOrder := order })
    (List.mergeSort_singleton "oc1")

theorem sample_starts :
    Runs (providerWorld false) sampleWorld
      ((create "lark" sampleConfig).start sampleHighwater)
      (sampleWorld.opened ["oc1"]) (.ok samplePuller) := by
  have opens : ProviderAnswers sampleWorld
    (.startEventStream "lark" ["oc1"]) (.ok ()) (sampleWorld.opened ["oc1"]) :=
    rfl
  have timed : ProviderAnswers (sampleWorld.opened ["oc1"]) .currentTimeMs 200
    (sampleWorld.opened ["oc1"]) := ⟨rfl, rfl⟩
  have counted : ProviderAnswers (sampleWorld.opened ["oc1"])
    (.eventStreamGeneration "lark") (.ok 0) (sampleWorld.opened ["oc1"]) :=
    ⟨rfl, rfl⟩
  rw [start, if_neg (by nofun), if_neg (by nofun)]
  refine runs_answered opens (runs_answered timed (runs_answered counted ?_))
  rw [← startedAt_samplePuller]
  exact .ret

/-- The page of the first handoff. -/
def samplePage : HistoryPage where
  events := [sampleEvent "om1" 100, sampleEvent "om2" 200]
  nextPageToken := none

theorem samplePage_honest :
    HonestHistory (sampleWorld.opened ["oc1"])
      ⟨"oc1", 0, 200, (sampleWorld.opened ["oc1"]).window "oc1" 0 200, []⟩
      samplePage where
  ofSession := by decide
  ascending := by
    intro first message rest split earlier member
    rcases first with _ | ⟨head, tail⟩
    · cases split
      revert earlier
      decide
    · rcases tail with _ | ⟨second, others⟩
      · cases split
        revert earlier
        decide
      · have empty := congrArg List.length split
        simp [samplePage] at empty
  complete := by decide

/-- The session after the page, its head being delivered. -/
def sampleReceived : SessionPullState :=
  receivedPage ((create "lark" sampleConfig).startedSession 200 none)
    ⟨0, 200, none⟩ samplePage

def sampleDelivered : ProviderMessagePuller :=
  (samplePuller.advanced 0 "oc1" sampleReceived).deliver 0 "oc1"
    { sampleReceived with historyEvents := [sampleEvent "om2" 200] }
    (sampleEvent "om1" 100)

theorem sample_takesPage :
    Runs (providerWorld true) (sampleWorld.opened ["oc1"])
      samplePuller.takeMessage (sampleWorld.opened ["oc1"])
      (.ok (some (sampleEvent "om1" 100), sampleDelivered)) := by
  have paged : ProviderAnswers (sampleWorld.opened ["oc1"])
      (.fetchHistoryPage "lark" "oc1" 0 200 none) (.ok samplePage)
      (sampleWorld.opened ["oc1"]) :=
    HistoryAnswers.last .first samplePage_honest rfl
  exact runs_takeMessage rfl rfl (runs_answered paged .ret)

/-- Two messages taken from the first page and acknowledged. -/
theorem sample_reaches : ∃ puller state,
    PullerReaches "lark" sampleConfig sampleHighwater samplePuller puller
        (sampleWorld.opened ["oc1"])
        [messageOf (sampleEvent "om1" 100), messageOf (sampleEvent "om2" 200)]
        [sampleEvent "om1" 100, sampleEvent "om2" 200] ∧
      puller.sessions.get? "oc1" = some state ∧
        state.confirmedEventMs = some 200 := by
  have past : Past sampleHighwater sampleWorld := by
    intro sessionId confirmedMs given
    rw [sampleHighwater, Dict.get?_set] at given
    split_ifs at given <;> cases given
  have started := PullerReaches.starts sampleWorld_reached past sample_starts
  have first := started.takes sample_takesPage
  have firstDone := first.acknowledges List.mem_cons_self rfl
  have second := firstDone.takes (runs_takeMessage rfl rfl .ret)
  have secondDone := second.acknowledges
    (List.mem_cons_of_mem _ List.mem_cons_self) rfl
  exact ⟨_, _, secondDone, rfl, rfl⟩

/-- The first of two acknowledged messages is below the watermark. -/
theorem acknowledged_below_watermark_sample : ∃ puller acknowledged taken,
    PullerReaches "lark" sampleConfig sampleHighwater samplePuller puller
        (sampleWorld.opened ["oc1"]) acknowledged taken ∧
      messageOf (sampleEvent "om1" 100) ∈ acknowledged := by
  rcases sample_reaches with ⟨puller, state, reached, known, confirmed⟩
  have sent : messageOf (sampleEvent "om1" 100) ∈
      (sampleWorld.opened ["oc1"]).messages := by decide
  have below := acknowledged_below_watermark reached .here known confirmed rfl
    rfl sent rfl (by decide)
  exact ⟨puller, _, _, reached, below.1 (by decide)⟩

end Sample

end OpenEventIm.Syncer.Watermark
