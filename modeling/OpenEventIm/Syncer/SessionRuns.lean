import OpenEventIm.Foundation.LabelledPaths
import OpenEventIm.Syncer.LiveStream

/-!
# The runs of one session

A puller serves several sessions at once.  What a run of the puller does to one
of them is a path of small steps of that session alone: a reconnect schedules a
window, a page arrives or a query fails, an event is collected, delivered or
acknowledged.  Statements about a session are proved on its path; the path shows
the calls of the puller that concern the session, and nothing else.
-/

namespace OpenEventIm.Syncer.SessionRuns

open OpenEventIm.Foundation
open OpenEventIm.Foundation.Interaction
open OpenEventIm.Foundation.LabelledPaths
open OpenEventIm.Foundation.Transcripts
open OpenEventIm.Sdk.Errors
open OpenEventIm.Service.Calls
open OpenEventIm.Syncer.LiveStream
open OpenEventIm.Syncer.Models
open OpenEventIm.Syncer.ProviderMessages
open OpenEventIm.Syncer.ProviderMessages.ProviderMessagePuller
open OpenEventIm.Syncer.PullerSessions
open OpenEventIm.Syncer.PullerTurns
open OpenEventIm.Syncer.RoundRobin

/-! ## The steps of a session -/

/-- The part of a puller that belongs to one session: its state, and its events
in the live buffer. -/
structure SessionView where
  state : SessionPullState
  live : List ProviderEvent

def viewOf (puller : ProviderMessagePuller) (sessionId : String) :
    Option SessionView :=
  (puller.sessions.get? sessionId).map fun state =>
    ⟨state, ofSession sessionId puller.liveEvents⟩

inductive SessionAction where
  | schedules (scan : HistoryScan)
  | collects (event : ProviderEvent)
  | receives (scan : HistoryScan) (page : HistoryPage)
  | fails (scan : HistoryScan) (exc : PyError)
  | takesHistory (event : ProviderEvent)
  | takesLive (event : ProviderEvent)
  /-- The event in flight, and the one given to `acknowledge`. -/
  | acknowledges (event given : ProviderEvent)

/-- The window that a reconnect schedules. -/
def scheduledScan (config : ProviderSyncConfig) (nowMs : Int)
    (state : SessionPullState) : HistoryScan :=
  let replacement := newHistoryScan config
    (laterOf state.confirmedEventMs state.historyHighwaterMs) nowMs
  { replacement with
    startMs :=
      match state.historyScan with
      | some scan => min replacement.startMs scan.startMs
      | none => replacement.startMs }

/-- What can happen to a session, each with the conditions under which the
puller does it. -/
inductive SessionStep (config : ProviderSyncConfig)
    (provider sessionId : String) :
    SessionView → SessionAction → SessionView → Prop where
  | schedules {view} {nowMs : Int} :
      SessionStep config provider sessionId view
        (.schedules (scheduledScan config nowMs view.state))
        { view with state := { view.state with
            historyScan := some (scheduledScan config nowMs view.state)
            nextHistoryAtMs := 0 } }
  | collects {view} {event : ProviderEvent}
      (own : BelongsTo provider sessionId event) :
      SessionStep config provider sessionId view (.collects event)
        { view with live := view.live ++ [event] }
  | receives {view scan nowMs} {page : HistoryPage}
      (due : Due nowMs view.state)
      (scanning : view.state.historyScan = some scan)
      (own : ∀ event ∈ page.events, BelongsTo provider sessionId event) :
      SessionStep config provider sessionId view (.receives scan page)
        { view with state := receivedPage view.state scan page }
  | fails {view scan nowMs} {exc : PyError} (due : Due nowMs view.state)
      (scanning : view.state.historyScan = some scan)
      (transient : exc.cls = .transientProviderError) :
      SessionStep config provider sessionId view (.fails scan exc)
        { view with state := { view.state with
            nextHistoryAtMs := nowMs + config.historyRetryDelayMs } }
  | takesHistory {view event rest} (idle : view.state.inFlight = none)
      (queue : view.state.historyEvents = event :: rest) :
      SessionStep config provider sessionId view (.takesHistory event)
        { view with state := { view.state with
            historyEvents := rest
            inFlight := some event } }
  | takesLive {view event rest} (idle : view.state.inFlight = none)
      (empty : view.state.historyEvents = [])
      (scanned : view.state.historyScan = none)
      (live : view.live = event :: rest) :
      SessionStep config provider sessionId view (.takesLive event)
        ⟨{ view.state with inFlight := some event }, rest⟩
  | acknowledges {view event} {given : ProviderEvent}
      (inFlight : view.state.inFlight = some event)
      (same : eventKey event = eventKey given) :
      SessionStep config provider sessionId view (.acknowledges event given)
        { view with state := { view.state with
            confirmedEventMs := laterOf view.state.confirmedEventMs
              (some given.eventMs)
            inFlight := none } }

/-- The steps of a session from one view of it to another one. -/
abbrev SessionPath (config : ProviderSyncConfig) (provider sessionId : String)
    (before : SessionView) :
    List SessionAction → SessionView → Prop :=
  Path (SessionStep config provider sessionId) before

/-! ## What is seen of a session -/

/-- The call of an action and its answer. -/
def SessionAction.exchange? (provider sessionId : String) :
    SessionAction → Option (Exchanged service)
  | .collects event => some ⟨.takeEvent provider, .ok (some event)⟩
  | .receives scan page => some ⟨.fetchHistoryPage provider sessionId
      scan.startMs scan.endMs scan.pageToken, .ok page⟩
  | .fails scan exc => some ⟨.fetchHistoryPage provider sessionId scan.startMs
      scan.endMs scan.pageToken, .error exc⟩
  | _ => none

def SessionAction.scheduled? : SessionAction → Option HistoryScan
  | .schedules scan => some scan
  | _ => none

def SessionAction.delivered? : SessionAction → Option ProviderEvent
  | .takesHistory event => some event
  | .takesLive event => some event
  | _ => none

def SessionAction.given? : SessionAction → Option ProviderEvent
  | .acknowledges _ given => some given
  | _ => none

/-- The events that have arrived in a page. -/
def SessionAction.history : SessionAction → List ProviderEvent
  | .receives _ page => page.events
  | _ => []

def SessionAction.live? : SessionAction → Option ProviderEvent
  | .collects event => some event
  | _ => none

def SessionAction.historyDelivered? : SessionAction → Option ProviderEvent
  | .takesHistory event => some event
  | _ => none

def SessionAction.liveDelivered? : SessionAction → Option ProviderEvent
  | .takesLive event => some event
  | _ => none

/-- The event that was in flight. -/
def SessionAction.acknowledged? : SessionAction → Option ProviderEvent
  | .acknowledges event _ => some event
  | _ => none

/-- The exchange is a query of the session or gives an event of it. -/
def concerns (sessionId : String) : Exchanged service → Bool
  | ⟨.takeEvent _, .ok (some event)⟩ => event.sessionId = sessionId
  | ⟨.fetchHistoryPage _ queried _ _ _, _⟩ => queried = sessionId
  | _ => false

/-- The times at which the stream was seen to have reconnected: after an answer
with another generation the clock is read for the handoff. -/
def reconnectTimes : Bool → Nat → List (Exchanged service) → List Int
  | _, _, [] => []
  | _, current, ⟨.eventStreamGeneration _, .ok generation⟩ :: rest =>
      reconnectTimes (generation ≠ current) generation rest
  | true, current, ⟨.currentTimeMs, nowMs⟩ :: rest =>
      nowMs :: reconnectTimes false current rest
  | handing, current, _ :: rest => reconnectTimes handing current rest

/-- What is seen of a puller from outside. -/
structure Seen where
  exchanges : List (Exchanged service)
  reconnects : List Int
  /-- The events returned by `take_message`. -/
  delivered : List ProviderEvent
  /-- The events given to `acknowledge`. -/
  acknowledged : List ProviderEvent

def Seen.append (first second : Seen) : Seen where
  exchanges := first.exchanges ++ second.exchanges
  reconnects := first.reconnects ++ second.reconnects
  delivered := first.delivered ++ second.delivered
  acknowledged := first.acknowledged ++ second.acknowledged

/-- The calls of statements that neither return nor acknowledge an event. -/
def Seen.calls (exchanges : List (Exchanged service))
    (reconnects : List Int) : Seen :=
  ⟨exchanges, reconnects, [], []⟩

/-- The actions are what is seen of the session. -/
structure Shows (provider sessionId : String) (actions : List SessionAction)
    (seen : Seen) : Prop where
  exchanges : actions.filterMap (SessionAction.exchange? provider sessionId) =
    seen.exchanges.filter (concerns sessionId)
  reconnects : (actions.filterMap SessionAction.scheduled?).map
    HistoryScan.endMs = seen.reconnects
  delivered : actions.filterMap SessionAction.delivered? =
    ofSession sessionId seen.delivered
  acknowledged : actions.filterMap SessionAction.given? =
    ofSession sessionId seen.acknowledged

variable {provider sessionId : String} {first second : Seen}
  {actions more : List SessionAction}

theorem Shows.append (shows : Shows provider sessionId actions first)
    (later : Shows provider sessionId more second) :
    Shows provider sessionId (actions ++ more) (first.append second) where
  exchanges := by
    rw [List.filterMap_append, shows.exchanges, later.exchanges, Seen.append,
      List.filter_append]
  reconnects := by
    rw [List.filterMap_append, List.map_append, shows.reconnects,
      later.reconnects, Seen.append]
  delivered := by
    rw [List.filterMap_append, shows.delivered, later.delivered, Seen.append,
      ofSession_append]
  acknowledged := by
    rw [List.filterMap_append, shows.acknowledged, later.acknowledged,
      Seen.append, ofSession_append]

/-- What does not concern the session shows nothing of it. -/
theorem shows_nil {seen : Seen}
    (silent : ∀ exchange ∈ seen.exchanges,
      concerns sessionId exchange = false)
    (reconnects : seen.reconnects = [])
    (delivered : ∀ event ∈ seen.delivered, event.sessionId ≠ sessionId)
    (acknowledged : ∀ event ∈ seen.acknowledged,
      event.sessionId ≠ sessionId) : Shows provider sessionId [] seen where
  exchanges := by
    symm
    apply List.filter_eq_nil_iff.mpr
    intro exchange member
    rw [silent exchange member]
    exact Bool.false_ne_true
  reconnects := reconnects.symm
  delivered := by
    symm
    apply List.filter_eq_nil_iff.mpr
    intro event member
    simpa using delivered event member
  acknowledged := by
    symm
    apply List.filter_eq_nil_iff.mpr
    intro event member
    simpa using acknowledged event member

/-- What is read off the exchanges of a session can be read off its actions. -/
theorem Shows.flatMap_eq {Item : Type} {seen : Seen}
    {given : Exchanged service → List Item}
    {made : SessionAction → List Item}
    (shows : Shows provider sessionId actions seen)
    (silent : ∀ exchange, concerns sessionId exchange = false →
      given exchange = [])
    (unseen : ∀ action : SessionAction,
      action.exchange? provider sessionId = none → made action = [])
    (shown : ∀ (action : SessionAction) exchange,
      action.exchange? provider sessionId = some exchange →
        concerns sessionId exchange = true → given exchange = made action) :
    seen.exchanges.flatMap given = actions.flatMap made := by
  have kept : ∀ exchanges : List (Exchanged service),
      exchanges.flatMap given =
        (exchanges.filter (concerns sessionId)).flatMap given := by
    intro exchanges
    induction exchanges with
    | nil => rfl
    | cons exchange rest ih =>
        cases concerned : concerns sessionId exchange with
        | true => rw [List.filter_cons_of_pos concerned, List.flatMap_cons, ih,
            List.flatMap_cons]
        | false => rw [List.filter_cons_of_neg (by simp [concerned]),
            List.flatMap_cons, ih, silent exchange concerned, List.nil_append]
  have concerned : ∀ exchange ∈
      actions.filterMap (SessionAction.exchange? provider sessionId),
        concerns sessionId exchange = true := by
    rw [shows.exchanges]
    intro exchange member
    exact (List.mem_filter.mp member).2
  rw [kept, ← shows.exchanges]
  clear shows
  induction actions with
  | nil => rfl
  | cons action rest ih =>
      cases visible : action.exchange? provider sessionId with
      | none =>
          rw [List.filterMap_cons_none visible] at concerned ⊢
          rw [List.flatMap_cons, unseen action visible, List.nil_append]
          exact ih concerned
      | some exchange =>
          rw [List.filterMap_cons_some visible] at concerned ⊢
          have head := concerned exchange List.mem_cons_self
          rw [List.flatMap_cons, List.flatMap_cons,
            shown action exchange visible head]
          exact congrArg _ (ih fun other member =>
            concerned other (List.mem_cons_of_mem _ member))

/-! ## What the puller does to its sessions -/

/-- What the puller does between two moments: of every session, a path that
shows what is seen of it. -/
structure Does (before : ProviderMessagePuller) (seen : Seen)
    (after : ProviderMessagePuller) : Prop where
  wellFormed : WellFormed after
  provider : after.provider = before.provider
  config : after.config = before.config
  reconnects : ∀ rest,
    reconnectTimes false before.streamGeneration (seen.exchanges ++ rest) =
      seen.reconnects ++ reconnectTimes false after.streamGeneration rest
  sessions : ∀ sessionId view, viewOf before sessionId = some view →
    ∃ actions next, viewOf after sessionId = some next ∧
      SessionPath before.config before.provider sessionId view actions next ∧
        Shows before.provider sessionId actions seen

variable {before middle after : ProviderMessagePuller}

theorem Does.trans (does : Does before first middle)
    (later : Does middle second after) :
    Does before (first.append second) after where
  wellFormed := later.wellFormed
  provider := later.provider.trans does.provider
  config := later.config.trans does.config
  reconnects rest := by
    show reconnectTimes false before.streamGeneration
        ((first.exchanges ++ second.exchanges) ++ rest) =
      (first.reconnects ++ second.reconnects) ++ _
    rw [List.append_assoc, does.reconnects, later.reconnects,
      List.append_assoc]
  sessions sessionId view found := by
    rcases does.sessions sessionId view found with
      ⟨actions, between, refound, path, shows⟩
    rcases later.sessions sessionId between refound with
      ⟨more, next, last, rest, showsMore⟩
    rw [does.config, does.provider] at rest
    rw [does.provider] at showsMore
    exact ⟨actions ++ more, next, last, path.trans rest,
      shows.append showsMore⟩

section Statements

variable {environment : Environment service}
  {puller next : ProviderMessagePuller}
  {start finish : environment.State} {exchanges : List (Exchanged service)}
  {state : SessionPullState} {event : ProviderEvent}

theorem viewOf_eq_some {view : SessionView}
    (found : viewOf puller sessionId = some view) :
    ∃ state, puller.sessions.get? sessionId = some state ∧
      view = ⟨state, ofSession sessionId puller.liveEvents⟩ := by
  rcases Option.map_eq_some_iff.mp found with ⟨state, known, rfl⟩
  exact ⟨state, known, rfl⟩

theorem viewOf_of_get? (known : puller.sessions.get? sessionId = some state) :
    viewOf puller sessionId =
      some ⟨state, ofSession sessionId puller.liveEvents⟩ := by
  rw [viewOf, known]
  rfl

/-- Calls that concern no session. -/
theorem does_silent (wellFormed : WellFormed puller)
    (silent : ∀ sessionId, ∀ exchange ∈ exchanges,
      concerns sessionId exchange = false)
    (quiet : ∀ rest,
      reconnectTimes false puller.streamGeneration (exchanges ++ rest) =
        reconnectTimes false puller.streamGeneration rest) :
    Does puller (.calls exchanges []) puller where
  wellFormed := wellFormed
  provider := rfl
  config := rfl
  reconnects := quiet
  sessions sessionId view found :=
    ⟨[], view, found, .refl, shows_nil (silent sessionId) rfl
      (fun _ member => absurd member List.not_mem_nil)
      (fun _ member => absurd member List.not_mem_nil)⟩

theorem StreamQuiet.does {provider : String} (wellFormed : WellFormed puller)
    (quiet : StreamQuiet environment provider start exchanges finish) :
    Does puller (.calls exchanges []) puller := by
  cases quiet with
  | quiet =>
      apply does_silent wellFormed
      · intro sessionId exchange member
        rw [List.mem_singleton.mp member]
        rfl
      · intro rest
        rfl

/-- A reconnect schedules a window of every session. -/
theorem Handed.does (wellFormed : WellFormed puller)
    (handed : Handed environment puller start exchanges next finish) :
    ∃ times, Does puller (.calls exchanges times) next := by
  cases handed with
  | same =>
      refine ⟨[], does_silent wellFormed ?_ ?_⟩
      · intro sessionId exchange member
        rw [List.mem_singleton.mp member]
        rfl
      · intro rest
        simp [reconnectTimes]
  | @reconnected _ _ _ _ generation nowMs _ _ newer =>
      have took := took_handedOff wellFormed generation nowMs
      refine ⟨[nowMs], took.wellFormed, rfl, rfl, ?_, ?_⟩
      · intro rest
        have other : generation ≠ puller.streamGeneration := newer.ne'
        simp [Seen.calls, reconnectTimes, other, handedOff]
      · intro sessionId view found
        rcases viewOf_eq_some found with ⟨state, known, rfl⟩
        have refound : (puller.handedOff generation nowMs).sessions.get?
            sessionId = some (puller.handOff nowMs state) := by
          rw [handedOff, Dict.get?_mapValues, known]
          rfl
        exact ⟨[.schedules (scheduledScan puller.config nowMs state)], _,
          viewOf_of_get? refound, .single .schedules, ⟨rfl, rfl, rfl, rfl⟩⟩

/-- A collected event goes to the end of the live events of its session. -/
theorem Collected.does (wellFormed : WellFormed puller)
    (collected : Collected environment puller start exchanges next finish) :
    Does puller (.calls exchanges []) next := by
  cases collected with
  | full =>
      apply does_silent wellFormed
      · intro sessionId exchange member
        cases member
      · intro rest
        rfl
  | nothing =>
      apply does_silent wellFormed
      · intro sessionId exchange member
        rw [List.mem_singleton.mp member]
        rfl
      · intro rest
        rfl
  | @event _ _ event _ _ _ own known =>
      refine ⟨{ wellFormed with live := ?_ }, rfl, rfl, fun rest => rfl, ?_⟩
      · intro given member
        rcases List.mem_append.mp member with old | new
        · exact wellFormed.live given old
        · rw [List.mem_singleton.mp new]
          exact ⟨own, known⟩
      · intro sessionId view found
        rcases viewOf_eq_some found with ⟨state, stored, rfl⟩
        have refound : viewOf { puller with
            liveEvents := puller.liveEvents ++ [event] } sessionId =
          some ⟨state, ofSession sessionId puller.liveEvents ++
            ofSession sessionId [event]⟩ := by
          rw [← ofSession_append]
          exact viewOf_of_get? stored
        by_cases same : event.sessionId = sessionId
        · have isOwn : ofSession sessionId [event] = [event] := by
            simp [ofSession, same]
          rw [isOwn] at refound
          refine ⟨[.collects event], _, refound,
            .single (.collects ⟨own, same⟩), ?_, rfl, rfl, rfl⟩
          simp [SessionAction.exchange?, Seen.calls, concerns, same]
        · have foreign : ofSession sessionId [event] = [] := by
            simp [ofSession, same]
          rw [foreign, List.append_nil] at refound
          refine ⟨[], _, refound, .refl, shows_nil ?_ rfl ?_ ?_⟩
          · intro exchange member
            rw [List.mem_singleton.mp member]
            simpa [concerns] using same
          · exact fun _ member => absurd member List.not_mem_nil
          · exact fun _ member => absurd member List.not_mem_nil

/-- The statements before the loop. -/
theorem Prepared.does {nowMs : Int} (wellFormed : WellFormed puller)
    (prepared : Prepared environment puller start exchanges next nowMs
      finish) : ∃ times, Does puller (.calls exchanges times) next := by
  rcases prepared.steps with ⟨handed, collected, _, _, _, _, _, _, _, _, _, _,
    _, quiet, handoff, collects, quietAgain, handoffAgain, -, -, rfl⟩
  have first := StreamQuiet.does wellFormed quiet
  rcases Handed.does wellFormed handoff with ⟨times, second⟩
  have third := Collected.does second.wellFormed collects
  have fourth := StreamQuiet.does third.wellFormed quietAgain
  rcases Handed.does third.wellFormed handoffAgain with ⟨timesAgain, fifth⟩
  have last : Does next (.calls [⟨.currentTimeMs, nowMs⟩] []) next := by
    apply does_silent fifth.wellFormed
    · intro sessionId exchange member
      rw [List.mem_singleton.mp member]
      rfl
    · intro rest
      rfl
  exact ⟨_, first.trans (second.trans (third.trans (fourth.trans
    (fifth.trans last))))⟩

/-! ## The loop -/

/-- A statement about one session that leaves the other sessions alone. -/
theorem does_visited {seen : Seen}
    (found : puller.sessions.get? sessionId = some state)
    (wellFormed : WellFormed next) (provider : next.provider = puller.provider)
    (config : next.config = puller.config)
    (quiet : ∀ rest,
      reconnectTimes false puller.streamGeneration (seen.exchanges ++ rest) =
        seen.reconnects ++ reconnectTimes false next.streamGeneration rest)
    (visited : ∃ actions view, viewOf next sessionId = some view ∧
      SessionPath puller.config puller.provider sessionId
        ⟨state, ofSession sessionId puller.liveEvents⟩ actions view ∧
        Shows puller.provider sessionId actions seen)
    (others : ∀ other, other ≠ sessionId →
      viewOf next other = viewOf puller other ∧
        Shows puller.provider other [] seen) : Does puller seen next where
  wellFormed := wellFormed
  provider := provider
  config := config
  reconnects := quiet
  sessions other view known := by
    by_cases same : other = sessionId
    · subst same
      rw [viewOf_of_get? found] at known
      cases known
      exact visited
    · rcases others other same with ⟨unchanged, shows⟩
      rw [known] at unchanged
      exact ⟨[], view, unchanged, .refl, shows⟩

theorem viewOf_setSession_of_ne {other : String} (different : other ≠ sessionId) :
    viewOf (puller.setSession sessionId state) other = viewOf puller other := by
  rw [viewOf, get?_setSession, if_neg (Ne.symm different)]
  rfl

theorem viewOf_setSession_self :
    viewOf (puller.setSession sessionId state) sessionId =
      some ⟨state, ofSession sessionId puller.liveEvents⟩ := by
  apply viewOf_of_get?
  exact Dict.get?_set_self _ _ _

/-- What a returned event shows of the sessions it does not belong to. -/
theorem shows_otherEvent {provider other : String}
    (different : other ≠ event.sessionId) :
    Shows provider other [] ⟨[], [], [event], []⟩ := by
  apply shows_nil
  · exact fun _ member => absurd member List.not_mem_nil
  · rfl
  · intro given member
    rw [List.mem_singleton.mp member]
    exact Ne.symm different
  · exact fun _ member => absurd member List.not_mem_nil

/-- What a returned event shows of its own session. -/
theorem shows_event {provider : String} {action : SessionAction}
    (silent : action.exchange? provider sessionId = none)
    (unscheduled : action.scheduled? = none)
    (delivered : action.delivered? = some event) (unacked : action.given? = none)
    (own : event.sessionId = sessionId) :
    Shows provider sessionId [action] ⟨[], [], [event], []⟩ where
  exchanges := by simp [silent]
  reconnects := by simp [unscheduled]
  delivered := by simp [delivered, ofSession, own]
  acknowledged := by simp [unacked]

/-- The first event of the queue is returned. -/
theorem does_deliver (index : Nat) {rest : List ProviderEvent}
    (wellFormed : WellFormed puller)
    (found : puller.sessions.get? sessionId = some state)
    (idle : state.inFlight = none)
    (queue : state.historyEvents = event :: rest) :
    Does puller ⟨[], [], [event], []⟩
      (puller.deliver index sessionId { state with historyEvents := rest }
        event) := by
  have events := (wellFormed.own sessionId state found).history
  rw [queue] at events
  have belongs := events event List.mem_cons_self
  have took : Took puller (some event) (puller.deliver index sessionId
      { state with historyEvents := rest } event) :=
    took_deliver wellFormed found
      (fun other member => events other (List.mem_cons_of_mem _ member))
      belongs idle index
  refine does_visited found took.wellFormed rfl rfl (fun _ => rfl)
    ⟨[.takesHistory event], _, viewOf_setSession_self,
      .single (.takesHistory idle queue),
      shows_event rfl rfl rfl rfl belongs.sessionId⟩ ?_
  intro other different
  rw [← belongs.sessionId] at different
  exact ⟨viewOf_setSession_of_ne (belongs.sessionId ▸ different),
    shows_otherEvent different⟩

/-- The first live event of a session is returned. -/
theorem does_deliverLive {index : Nat} (wellFormed : WellFormed puller)
    (found : puller.sessions.get? sessionId = some state)
    (idle : state.inFlight = none) (empty : state.historyEvents = [])
    (delivered : puller.deliverLive index sessionId state =
      some (event, next)) :
    Does puller ⟨[], [], [event], []⟩ next := by
  have took := took_deliverLive wellFormed found idle delivered
  rw [deliverLive] at delivered
  split_ifs at delivered with scanned
  rcases Option.map_eq_some_iff.mp delivered with ⟨⟨taken, rest⟩, live, same⟩
  cases same
  rcases takeLiveEvent_eq_some live with ⟨-, -, -, -, own, -⟩
  have buffer : ∀ other, ofSession other puller.liveEvents =
      ofSession other [taken] ++ ofSession other rest :=
    fun other => ofSession_takeLiveEvent other live
  refine does_visited found took.wellFormed rfl rfl (fun _ => rfl)
    ⟨[.takesLive taken], _, viewOf_setSession_self,
      .single (.takesLive idle empty scanned ?_),
      shows_event rfl rfl rfl rfl own⟩ ?_
  · show ofSession sessionId puller.liveEvents = _
    rw [buffer]
    simp [ofSession, own]
  · intro other different
    have notOwn : ofSession other [taken] = [] := by
      simp [ofSession, own, Ne.symm different]
    refine ⟨?_, shows_otherEvent (own ▸ different)⟩
    show viewOf (setSession _ sessionId _) other = _
    rw [viewOf_setSession_of_ne different, viewOf, viewOf, buffer, notOwn]
    rfl

/-- The state that a query leaves. -/
theorem received_step {scan : HistoryScan} {nowMs : Int}
    {answer : Except PyError HistoryPage} {fetched : SessionPullState}
    {live : List ProviderEvent} (due : Due nowMs state)
    (scanning : state.historyScan = some scan)
    (received : Received puller sessionId state scan nowMs answer fetched) :
    ∃ action, SessionStep puller.config puller.provider sessionId
        ⟨state, live⟩ action ⟨fetched, live⟩ ∧
      Shows puller.provider sessionId [action]
        (.calls [⟨pageCall puller sessionId scan, answer⟩] []) := by
  cases received with
  | @failed exc transient =>
      refine ⟨.fails scan exc, .fails due scanning transient, ?_, rfl, rfl, rfl⟩
      simp [SessionAction.exchange?, Seen.calls, concerns, pageCall]
  | @page page own =>
      refine ⟨.receives scan page, .receives due scanning own, ?_, rfl, rfl,
        rfl⟩
      simp [SessionAction.exchange?, Seen.calls, concerns, pageCall]

theorem Received.ownEvents {scan : HistoryScan} {nowMs : Int}
    {answer : Except PyError HistoryPage} {fetched : SessionPullState}
    (own : OwnEvents puller.provider sessionId state)
    (received : Received puller sessionId state scan nowMs answer fetched) :
    OwnEvents puller.provider sessionId fetched ∧
      fetched.inFlight = state.inFlight := by
  cases received with
  | failed => exact ⟨⟨own.history, own.inFlight⟩, rfl⟩
  | page belong =>
      exact ⟨ownEvents_receivedPage own belong, receivedPage_inFlight _ _ _⟩

/-- A session asks for the next page of its scan. -/
theorem Queried.does (index : Nat) {nowMs : Int} {page : SessionPullState}
    (wellFormed : WellFormed puller)
    (found : puller.sessions.get? sessionId = some state)
    (queried : Queried environment puller nowMs sessionId state start exchanges
      page finish) :
    Does puller (.calls exchanges []) (puller.advanced index sessionId page) ∧
      page.inFlight = none := by
  rcases queried.asked with ⟨scan, answer, _, scanning, rfl, -, -, received⟩
  rcases Received.ownEvents (wellFormed.own sessionId state found) received with
    ⟨own, same⟩
  have took := took_advanced wellFormed found own same index
  rcases received_step queried.due scanning received with ⟨action, step, shows⟩
  refine ⟨does_visited found took.wellFormed rfl rfl (fun _ => rfl)
    ⟨[action], _, viewOf_setSession_self, .single step, shows⟩ ?_,
    same.trans queried.due.idle⟩
  intro other different
  refine ⟨viewOf_setSession_of_ne different, shows_nil ?_ rfl ?_ ?_⟩
  · intro exchange member
    rw [List.mem_singleton.mp member]
    simpa [pageCall, concerns] using Ne.symm different
  · exact fun _ member => absurd member List.not_mem_nil
  · exact fun _ member => absurd member List.not_mem_nil

/-- The loop body at one session. -/
theorem Served.does {nowMs : Int} {index : Nat} {taken : Option ProviderEvent}
    (wellFormed : WellFormed puller)
    (found : puller.sessions.get? sessionId = some state)
    (served : Served environment puller nowMs index sessionId state start
      exchanges taken next finish) :
    Does puller ⟨exchanges, [], taken.toList, []⟩ next := by
  have nothing : Does puller (.calls [] []) puller :=
    does_silent wellFormed
      (fun _ _ member => absurd member List.not_mem_nil) (fun _ => rfl)
  have refound : ∀ page, (puller.advanced index sessionId page).sessions.get?
      sessionId = some page := fun _ => Dict.get?_set_self _ _ _
  cases served with
  | busy => exact nothing
  | nothing => exact nothing
  | queued idle queue => exact does_deliver index wellFormed found idle queue
  | live idle empty _ delivered =>
      exact does_deliverLive wellFormed found idle empty delivered
  | @queriedEvent _ page _ _ _ queried received =>
      rcases Queried.does index wellFormed found queried with
        ⟨asks, idle⟩
      have delivers := does_deliver index asks.wellFormed
        (refound page) idle received
      have both := asks.trans delivers
      rw [Seen.append] at both
      simpa [Seen.calls] using both
  | @queriedLive _ page _ _ _ queried received delivered =>
      rcases Queried.does index wellFormed found queried with
        ⟨asks, idle⟩
      have delivers := does_deliverLive asks.wellFormed (refound page) idle
        received delivered
      have both := asks.trans delivers
      rw [Seen.append] at both
      simpa [Seen.calls] using both
  | queriedNothing queried =>
      exact (Queried.does index wellFormed found queried).1

theorem does_serveSessions {nowMs : Int} {offset remaining : Nat}
    {taken : Option ProviderEvent} (wellFormed : WellFormed puller)
    (transcript : Transcript environment start
      (puller.serveSessions nowMs offset remaining) exchanges finish
      (.ok (taken, next))) :
    Does puller ⟨exchanges, [], taken.toList, []⟩ next := by
  induction remaining generalizing puller offset start exchanges with
  | zero =>
      rcases transcript_ret transcript with ⟨rfl, rfl, returned⟩
      cases returned
      exact does_silent wellFormed
        (fun _ _ member => absurd member List.not_mem_nil) (fun _ => rfl)
  | succ remaining ih =>
      rcases serveSessions_of_transcript transcript with
        ⟨visited, state, found, reached, middle, first, rest, -, known, rfl,
          served, tail⟩
      have does := Served.does wellFormed known served
      cases found with
      | some event =>
          rcases tail with ⟨rfl, rfl, -, rfl⟩
          rw [List.append_nil]
          exact does
      | none => exact does.trans (ih does.wellFormed tail)

/-- A call of `take_message` that returns. -/
theorem does_takeMessage {taken : Option ProviderEvent}
    (wellFormed : WellFormed puller)
    (transcript : Transcript environment start puller.takeMessage exchanges
      finish (.ok (taken, next))) :
    Does puller ⟨exchanges,
      reconnectTimes false puller.streamGeneration exchanges, taken.toList, []⟩
      next := by
  rcases takes_of_transcript transcript with ⟨entry, nowMs, takes⟩
  rcases takes.parts with ⟨asked, queried, middle, rfl, prepared, loops⟩
  rcases Prepared.does wellFormed prepared with ⟨times, prepares⟩
  have does := prepares.trans (does_serveSessions prepares.wellFormed loops)
  have same : reconnectTimes false puller.streamGeneration (asked ++ queried) =
      times ++ [] := by
    have reconnects := does.reconnects []
    rw [List.append_nil] at reconnects
    exact reconnects.trans (List.append_nil _)
  rw [same]
  exact does

/-- A call of `acknowledge` that returns. -/
theorem does_acknowledge (wellFormed : WellFormed puller)
    (done : puller.acknowledge event = .ok next) :
    Does puller ⟨[], [], [], [event]⟩ next := by
  have acknowledged := acknowledged_of_eq_ok wellFormed done
  rcases acknowledge_eq_ok done with ⟨state, found, matching, rfl⟩
  rcases Option.map_eq_some_iff.mp matching with ⟨given, inFlight, same⟩
  refine does_visited found acknowledged.wellFormed rfl rfl (fun _ => rfl)
    ⟨[.acknowledges given event], _, viewOf_setSession_self,
      .single (.acknowledges inFlight same), rfl, rfl, rfl, ?_⟩ ?_
  · simp [SessionAction.given?, ofSession]
  · intro other different
    refine ⟨viewOf_setSession_of_ne different, shows_nil ?_ rfl ?_ ?_⟩
    · exact fun _ member => absurd member List.not_mem_nil
    · exact fun _ member => absurd member List.not_mem_nil
    · intro other member
      rw [List.mem_singleton.mp member]
      exact Ne.symm different

end Statements

/-! ## Runs of the puller -/

def clockReading? : Exchanged service → Option Int
  | ⟨.currentTimeMs, nowMs⟩ => some nowMs
  | _ => none

/-- The clock readings among some calls. -/
def clockReadings (exchanges : List (Exchanged service)) : List Int :=
  exchanges.filterMap clockReading?

/-- A puller that has been started at `startedMs`, and any calls of
`take_message` and `acknowledge` on it that do not raise. -/
inductive PullerRun (environment : Environment service) (provider : String)
    (config : ProviderSyncConfig) (highwater : Dict String (Option Int))
    (startedMs : Int) : Seen → ProviderMessagePuller → environment.State →
      Prop where
  | starts {before after : environment.State} {exchanges}
      {puller : ProviderMessagePuller}
      (transcript : Transcript environment before
        ((create provider config).start highwater) exchanges after
        (.ok puller))
      (clock : clockReadings exchanges = [startedMs]) :
      PullerRun environment provider config highwater startedMs
        (.calls exchanges []) puller after
  | evolves {seen} {puller : ProviderMessagePuller}
      {before after : environment.State}
      (run : PullerRun environment provider config highwater startedMs seen
        puller before)
      (evolves : environment.Evolves before after) :
      PullerRun environment provider config highwater startedMs seen puller
        after
  | takes {seen exchanges taken} {puller next : ProviderMessagePuller}
      {before after : environment.State}
      (run : PullerRun environment provider config highwater startedMs seen
        puller before)
      (transcript : Transcript environment before puller.takeMessage exchanges
        after (.ok (taken, next))) :
      PullerRun environment provider config highwater startedMs
        (seen.append ⟨exchanges,
          reconnectTimes false puller.streamGeneration exchanges,
          taken.toList, []⟩) next after
  | acknowledges {seen event} {puller next : ProviderMessagePuller}
      {state : environment.State}
      (run : PullerRun environment provider config highwater startedMs seen
        puller state)
      (done : puller.acknowledge event = .ok next) :
      PullerRun environment provider config highwater startedMs
        (seen.append ⟨[], [], [], [event]⟩) next state

/-- A session as `start` leaves it. -/
def startedView (provider : String) (config : ProviderSyncConfig)
    (startedMs : Int) (confirmedMs : Option Int) : SessionView :=
  ⟨(create provider config).startedSession startedMs confirmedMs, []⟩

/-- The path of a session through a run: it begins where `start` leaves the
session, ends where the run ends, and shows what is seen of the session. -/
structure Follows (provider : String) (config : ProviderSyncConfig)
    (sessionId : String) (startedMs : Int) (confirmedMs : Option Int) (seen : Seen)
    (puller : ProviderMessagePuller) (actions : List SessionAction)
    (state : SessionPullState) : Prop where
  found : puller.sessions.get? sessionId = some state
  path : SessionPath config provider sessionId
    (startedView provider config startedMs confirmedMs) actions
    ⟨state, ofSession sessionId puller.liveEvents⟩
  shows : Shows provider sessionId actions seen

/-- What is common to every puller of a run. -/
structure RunInvariant (provider : String) (config : ProviderSyncConfig)
    (highwater : Dict String (Option Int)) (startedMs : Int) (seen : Seen)
    (puller : ProviderMessagePuller) : Prop where
  wellFormed : WellFormed puller
  sameProvider : puller.provider = provider
  sameConfig : puller.config = config
  follows : ∀ sessionId confirmedMs,
    highwater.get? sessionId = some confirmedMs →
      ∃ actions state, Follows provider config sessionId startedMs confirmedMs
        seen puller actions state

section Runs

variable {environment : Environment service} {provider : String}
  {config : ProviderSyncConfig} {highwater : Dict String (Option Int)}
  {startedMs : Int} {seen more : Seen} {puller next : ProviderMessagePuller}
  {state before after : environment.State}

theorem RunInvariant.does
    (invariant : RunInvariant provider config highwater startedMs seen puller)
    (does : Does puller more next) :
    RunInvariant provider config highwater startedMs (seen.append more)
      next where
  wellFormed := does.wellFormed
  sameProvider := does.provider.trans invariant.sameProvider
  sameConfig := does.config.trans invariant.sameConfig
  follows sessionId confirmedMs known := by
    rcases invariant.follows sessionId confirmedMs known with
      ⟨actions, state, follows⟩
    rcases does.sessions sessionId _ (viewOf_of_get? follows.found) with
      ⟨later, view, refound, rest, showsMore⟩
    rcases viewOf_eq_some refound with ⟨reached, found, rfl⟩
    rw [invariant.sameConfig, invariant.sameProvider] at rest
    rw [invariant.sameProvider] at showsMore
    exact ⟨actions ++ later, reached, found, follows.path.trans rest,
      follows.shows.append showsMore⟩

/-- `start` leaves every session with its first window. -/
theorem runInvariant_start {exchanges : List (Exchanged service)}
    (transcript : Transcript environment before
      ((create provider config).start highwater) exchanges after (.ok puller))
    (clock : clockReadings exchanges = [startedMs]) :
    RunInvariant provider config highwater startedMs (.calls exchanges [])
      puller := by
  have fresh : ¬(create provider config).started = true := Bool.false_ne_true
  rw [ProviderMessagePuller.start, if_neg fresh] at transcript
  split_ifs at transcript with empty
  · cases (transcript_fail transcript).2.2
  · rcases transcript_callBind transcript with
      ⟨_, answer, _, rest, rfl, -, -, tail⟩
    cases answer with
    | error => cases (transcript_fail tail).2.2
    | ok done =>
        rcases transcript_callBind tail with
          ⟨_, nowMs, _, rest, rfl, -, -, last⟩
        rcases transcript_callBind last with
          ⟨_, answer, _, rest, rfl, -, -, final⟩
        cases answer with
        | error => cases (transcript_fail final).2.2
        | ok generation =>
            rcases transcript_ret final with ⟨rfl, rfl, returned⟩
            cases returned
            cases clock
            refine ⟨wellFormed_startedAt rfl rfl, rfl, rfl, ?_⟩
            intro sessionId confirmedMs known
            refine ⟨[], _, ?_, .refl, shows_nil ?_ rfl ?_ ?_⟩
            · rw [startedAt, Dict.get?_mapValues, known]
              rfl
            · intro exchange member
              simp only [Seen.calls, List.mem_cons, List.not_mem_nil,
                or_false] at member
              rcases member with rfl | rfl | rfl
              · rfl
              · rfl
              · rfl
            · exact fun _ member => absurd member List.not_mem_nil
            · exact fun _ member => absurd member List.not_mem_nil

/-- Every session of a run has its path. -/
theorem PullerRun.invariant
    (run : PullerRun environment provider config highwater startedMs seen
      puller state) :
    RunInvariant provider config highwater startedMs seen puller := by
  induction run with
  | starts transcript clock => exact runInvariant_start transcript clock
  | evolves _ _ ih => exact ih
  | takes _ transcript ih =>
      exact ih.does (does_takeMessage ih.wellFormed transcript)
  | acknowledges _ done ih =>
      exact ih.does (does_acknowledge ih.wellFormed done)

end Runs

/-! ## A reconnect, a failed query and a live event -/

def transientError : PyError :=
  .raised .transientProviderError "lark list messages temporarily failed"

/-- The calls of `start`. -/
def startCalls : List (Exchanged service) := [
  ⟨.startEventStream "lark" ["oc1"], .ok ()⟩,
  ⟨.currentTimeMs, (200 : Int)⟩,
  ⟨.eventStreamGeneration "lark", .ok 0⟩]

/-- An event is collected and a reconnect noticed; the history query fails. -/
def failingCalls : List (Exchanged service) := [
  ⟨.eventStreamError "lark", .ok none⟩,
  ⟨.eventStreamGeneration "lark", .ok 0⟩,
  ⟨.takeEvent "lark", .ok (some enqueuedEvent)⟩,
  ⟨.eventStreamError "lark", .ok none⟩,
  ⟨.eventStreamGeneration "lark", .ok 1⟩,
  ⟨.currentTimeMs, (300 : Int)⟩,
  ⟨.currentTimeMs, (300 : Int)⟩,
  ⟨.fetchHistoryPage "lark" "oc1" 0 300 none, .error transientError⟩]

/-- The query succeeds later on. -/
def succeedingCalls : List (Exchanged service) := [
  ⟨.eventStreamError "lark", .ok none⟩,
  ⟨.eventStreamGeneration "lark", .ok 1⟩,
  ⟨.takeEvent "lark", .ok none⟩,
  ⟨.eventStreamError "lark", .ok none⟩,
  ⟨.eventStreamGeneration "lark", .ok 1⟩,
  ⟨.currentTimeMs, (1300 : Int)⟩,
  ⟨.fetchHistoryPage "lark" "oc1" 0 300 none, .ok emptyPage⟩]

def sampleSeen : Seen :=
  (((Seen.calls startCalls []).append ⟨failingCalls, [300], [], []⟩).append
    ⟨succeedingCalls, [], [enqueuedEvent], []⟩).append
      ⟨[], [], [], [enqueuedEvent]⟩

/-- The adapter may give any answer. -/
theorem transcript_answered {Result : Type} {request : Call}
    {continuation : Answer request → Action Result} {answer : Answer request}
    {exchanges : List (Exchanged service)} {outcome : Except PyError Result}
    (rest : Transcript arbitraryAdapter () (continuation answer) exchanges ()
      outcome) :
    Transcript arbitraryAdapter () (.call request continuation)
      (⟨request, answer⟩ :: exchanges) () outcome :=
  .call .refl trivial rest

theorem starts_sample :
    Transcript arbitraryAdapter ()
      ((create "lark" sampleConfig).start firstHighwater) startCalls ()
      (.ok firstPuller) := by
  have started : (create "lark" sampleConfig).startedAt firstHighwater 200 0 =
      firstPuller := startedAt_startedPuller (List.mergeSort_singleton "oc1")
  rw [← started]
  exact transcript_answered (transcript_answered (transcript_answered .ret))

/-- The puller after the failed query. -/
def failedPuller : ProviderMessagePuller :=
  let puller := { firstPuller with liveEvents := [enqueuedEvent] }
  let puller := puller.handedOff 1 300
  puller.advanced 0 "oc1"
    { firstPuller.startedSession 300 none with nextHistoryAtMs := 1300 }

theorem fails_sample :
    Transcript arbitraryAdapter () firstPuller.takeMessage failingCalls ()
      (.ok (none, failedPuller)) := by
  apply transcript_answered
  apply transcript_answered
  apply transcript_answered
  apply transcript_answered
  apply transcript_answered
  apply transcript_answered
  apply transcript_answered
  apply transcript_answered
  exact .ret

/-- The session after the page of the second query. -/
def reconnectedSession : SessionPullState :=
  receivedPage (firstPuller.startedSession 300 none) ⟨0, 300, none⟩ emptyPage

/-- The puller after the live event. -/
def succeededPuller : ProviderMessagePuller :=
  ({ failedPuller with liveEvents := [] }.advanced 0 "oc1"
    reconnectedSession).deliver 0 "oc1" reconnectedSession enqueuedEvent

theorem succeeds_sample :
    Transcript arbitraryAdapter () failedPuller.takeMessage succeedingCalls ()
      (.ok (some enqueuedEvent, succeededPuller)) := by
  apply transcript_answered
  apply transcript_answered
  apply transcript_answered
  apply transcript_answered
  apply transcript_answered
  apply transcript_answered
  apply transcript_answered
  exact .ret

def acknowledgedPuller : ProviderMessagePuller :=
  succeededPuller.setSession "oc1" { reconnectedSession with
    confirmedEventMs := some 100 }

theorem pullerRun_sample :
    PullerRun arbitraryAdapter "lark" sampleConfig firstHighwater 200
      sampleSeen acknowledgedPuller () := by
  have starts := PullerRun.starts starts_sample rfl
  have run := (starts.takes fails_sample).takes succeeds_sample
  have acknowledges : succeededPuller.acknowledge enqueuedEvent =
      .ok acknowledgedPuller := rfl
  exact run.acknowledges acknowledges

end OpenEventIm.Syncer.SessionRuns
