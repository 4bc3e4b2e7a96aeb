import OpenEventIm.Syncer.ProviderMessages

/-!
# The sessions of a puller

What every puller keeps true of its sessions, whatever the adapter answers:
each session is in the order once, its events are its own, and live events
belong to known sessions.  `Took` says what a call of `take_message` does to
the events in flight: nothing, or it puts the returned event in flight in its
own session, where none was before.
-/

namespace OpenEventIm.Syncer.PullerSessions

open OpenEventIm.Foundation
open OpenEventIm.Foundation.Interaction
open OpenEventIm.Sdk.Errors
open OpenEventIm.Service.Calls
open OpenEventIm.Syncer.Models
open OpenEventIm.Syncer.ProviderMessages
open OpenEventIm.Syncer.ProviderMessages.ProviderMessagePuller

/-! ## Well-formed pullers -/

/-- The event belongs to the provider's session. -/
structure BelongsTo (provider sessionId : String) (event : ProviderEvent) :
    Prop where
  provider : event.provider = provider
  sessionId : event.sessionId = sessionId

/-- The events of a session are its own. -/
structure OwnEvents (provider sessionId : String) (state : SessionPullState) :
    Prop where
  history : ∀ event ∈ state.historyEvents,
    BelongsTo provider sessionId event
  inFlight : ∀ event, state.inFlight = some event →
    BelongsTo provider sessionId event

/-- What every statement of the puller keeps true. -/
structure WellFormed (puller : ProviderMessagePuller) : Prop where
  distinct : puller.sessionOrder.Nodup
  known : ∀ sessionId, sessionId ∈ puller.sessionOrder ↔
    puller.sessions.contains sessionId = true
  cursor : puller.sessionOrder ≠ [] →
    puller.sessionCursor < puller.sessionOrder.length
  own : ∀ sessionId state, puller.sessions.get? sessionId = some state →
    OwnEvents puller.provider sessionId state
  live : ∀ event ∈ puller.liveEvents, event.provider = puller.provider ∧
    puller.sessions.contains event.sessionId = true

/-- The event in flight in a session. -/
def inFlightOf (puller : ProviderMessagePuller) (sessionId : String) :
    Option ProviderEvent :=
  (puller.sessions.get? sessionId).bind SessionPullState.inFlight

/-- An event in flight belongs to its session. -/
theorem WellFormed.belongs {puller : ProviderMessagePuller}
    {sessionId : String} {event : ProviderEvent}
    (wellFormed : WellFormed puller)
    (inFlight : inFlightOf puller sessionId = some event) :
    BelongsTo puller.provider sessionId event := by
  rcases Option.bind_eq_some_iff.mp inFlight with ⟨state, found, isEvent⟩
  exact (wellFormed.own sessionId state found).inFlight event isEvent

/-- What `take_message` does to the events in flight. -/
structure Took (before : ProviderMessagePuller) (event : Option ProviderEvent)
    (after : ProviderMessagePuller) : Prop where
  wellFormed : WellFormed after
  provider : after.provider = before.provider
  config : after.config = before.config
  started : after.started = before.started
  sessionOrder : after.sessionOrder = before.sessionOrder
  inFlight : ∀ sessionId, inFlightOf after sessionId =
    if event.map ProviderEvent.sessionId = some sessionId then event
    else inFlightOf before sessionId
  taken : ∀ given, event = some given → given.provider = before.provider ∧
    inFlightOf before given.sessionId = none ∧
      before.sessions.contains given.sessionId = true

variable {puller before middle after : ProviderMessagePuller}
  {event : Option ProviderEvent} {sessionId : String}
  {state next : SessionPullState}

theorem WellFormed.took (wellFormed : WellFormed puller) :
    Took puller none puller where
  wellFormed := wellFormed
  provider := rfl
  config := rfl
  started := rfl
  sessionOrder := rfl
  inFlight _ := by simp
  taken := nofun

theorem Took.contains (took : Took before event after)
    (wellFormed : WellFormed before) :
    after.sessions.contains sessionId =
      before.sessions.contains sessionId := by
  rw [Bool.eq_iff_iff, ← took.wellFormed.known, ← wellFormed.known,
    took.sessionOrder]

theorem Took.trans (first : Took before none middle)
    (wellFormed : WellFormed before) (second : Took middle event after) :
    Took before event after where
  wellFormed := second.wellFormed
  provider := second.provider.trans first.provider
  config := second.config.trans first.config
  started := second.started.trans first.started
  sessionOrder := second.sessionOrder.trans first.sessionOrder
  inFlight sessionId := by
    rw [second.inFlight, first.inFlight]
    simp
  taken given same := by
    rcases second.taken given same with ⟨provider, idle, known⟩
    rw [first.inFlight] at idle
    rw [first.contains wellFormed] at known
    exact ⟨provider.trans first.provider, by simpa using idle, known⟩

/-! ## Storing a session's state -/

theorem contains_of_get? (found : puller.sessions.get? sessionId = some state) :
    puller.sessions.contains sessionId = true := by
  rw [Dict.contains, found]
  rfl

theorem contains_setSession {other : String}
    (found : puller.sessions.get? sessionId = some state) :
    (puller.setSession sessionId next).sessions.contains other =
      puller.sessions.contains other := by
  rw [ProviderMessagePuller.setSession, Dict.contains, Dict.get?_set]
  split_ifs with same
  · rw [← same, contains_of_get? found]
    rfl
  · rfl

theorem get?_setSession {other : String} :
    (puller.setSession sessionId next).sessions.get? other =
      if sessionId = other then some next else puller.sessions.get? other :=
  Dict.get?_set _ _ _ _

/-- Storing a state whose events are the session's own. -/
theorem WellFormed.setSession (wellFormed : WellFormed puller)
    (found : puller.sessions.get? sessionId = some state)
    (own : OwnEvents puller.provider sessionId next) :
    WellFormed (puller.setSession sessionId next) where
  distinct := wellFormed.distinct
  known other := by
    rw [contains_setSession found]
    exact wellFormed.known other
  cursor := wellFormed.cursor
  own other given same := by
    rw [get?_setSession] at same
    split_ifs at same with equal
    · cases same
      exact equal ▸ own
    · exact wellFormed.own other given same
  live given member := by
    rw [contains_setSession found]
    exact wellFormed.live given member

/-- The cursor stays within the order. -/
theorem WellFormed.withCursor (wellFormed : WellFormed puller) (index : Nat) :
    WellFormed { puller with
      sessionCursor := (index + 1) % puller.sessionOrder.length } where
  distinct := wellFormed.distinct
  known := wellFormed.known
  cursor nonempty := Nat.mod_lt _ (List.length_pos_iff.mpr nonempty)
  own := wellFormed.own
  live := wellFormed.live

/-- Some live events may be dropped. -/
theorem WellFormed.withLive {fewer : List ProviderEvent}
    (wellFormed : WellFormed puller)
    (kept : ∀ given ∈ fewer, given ∈ puller.liveEvents) :
    WellFormed { puller with liveEvents := fewer } where
  distinct := wellFormed.distinct
  known := wellFormed.known
  cursor := wellFormed.cursor
  own := wellFormed.own
  live given member := wellFormed.live given (kept given member)

theorem inFlightOf_setSession {other : String} :
    inFlightOf (puller.setSession sessionId next) other =
      if sessionId = other then next.inFlight else inFlightOf puller other := by
  rw [inFlightOf, get?_setSession]
  split_ifs <;> rfl

/-- Asking for a session's history leaves the events in flight alone. -/
theorem took_advanced (wellFormed : WellFormed puller)
    (found : puller.sessions.get? sessionId = some state)
    (own : OwnEvents puller.provider sessionId next)
    (same : next.inFlight = state.inFlight) (index : Nat) :
    Took puller none (puller.advanced index sessionId next) where
  wellFormed := (wellFormed.setSession found own).withCursor index
  provider := rfl
  config := rfl
  started := rfl
  sessionOrder := rfl
  inFlight other := by
    rw [if_neg (by simp)]
    show inFlightOf (puller.setSession sessionId next) other = _
    rw [inFlightOf_setSession]
    split_ifs with equal
    · rw [← equal, inFlightOf, found]
      exact same
    · rfl
  taken := nofun

/-- An idle session delivers one of its events. -/
theorem took_deliver {given : ProviderEvent} (wellFormed : WellFormed puller)
    (found : puller.sessions.get? sessionId = some state)
    (own : ∀ event ∈ next.historyEvents,
      BelongsTo puller.provider sessionId event)
    (belongs : BelongsTo puller.provider sessionId given)
    (idle : state.inFlight = none) (index : Nat) :
    Took puller (some given) (puller.deliver index sessionId next given) where
  wellFormed := by
    have owned : OwnEvents puller.provider sessionId
        { next with inFlight := some given } := by
      refine ⟨own, ?_⟩
      rintro _ ⟨⟩
      exact belongs
    exact (wellFormed.setSession found owned).withCursor index
  provider := rfl
  config := rfl
  started := rfl
  sessionOrder := rfl
  inFlight other := by
    simp only [Option.map_some, belongs.sessionId, Option.some.injEq]
    exact inFlightOf_setSession
  taken := by
    rintro _ ⟨⟩
    refine ⟨belongs.provider, ?_, ?_⟩
    · rw [belongs.sessionId, inFlightOf, found]
      exact idle
    · rw [belongs.sessionId]
      exact contains_of_get? found

/-- The first live event of a session. -/
theorem takeLiveEvent_eq_some {sessionId : String} {event : ProviderEvent}
    {live rest : List ProviderEvent}
    (taken : takeLiveEvent sessionId live = some (event, rest)) :
    ∃ first last, live = first ++ event :: last ∧ rest = first ++ last ∧
      event.sessionId = sessionId ∧
        ∀ other ∈ first, other.sessionId ≠ sessionId := by
  induction live generalizing rest with
  | nil => cases taken
  | cons head tail ih =>
      rw [takeLiveEvent] at taken
      split_ifs at taken with same
      · cases taken
        exact ⟨[], tail, rfl, rfl, same, nofun⟩
      · rcases Option.map_eq_some_iff.mp taken with
          ⟨⟨found, others⟩, inTail, equal⟩
        cases equal
        rcases ih inTail with ⟨first, last, split, left, ofSession, before⟩
        refine ⟨head :: first, last, ?_, ?_, ofSession, ?_⟩
        · rw [split]
          rfl
        · exact congrArg (List.cons head) left
        · intro other member
          rcases List.mem_cons.mp member with rfl | member
          · exact same
          · exact before other member

/-- A session without a scan delivers its first live event. -/
theorem took_deliverLive {given : ProviderEvent} {index : Nat}
    (wellFormed : WellFormed puller)
    (found : puller.sessions.get? sessionId = some state)
    (idle : state.inFlight = none)
    (delivered : puller.deliverLive index sessionId state =
      some (given, after)) : Took puller (some given) after := by
  rw [deliverLive] at delivered
  split_ifs at delivered with scanned
  rcases Option.map_eq_some_iff.mp delivered with ⟨⟨taken, rest⟩, live, same⟩
  cases same
  rcases takeLiveEvent_eq_some live with ⟨first, last, split, left, ofSession, -⟩
  have kept : ∀ event ∈ rest, event ∈ puller.liveEvents := by
    intro event member
    rw [split, List.mem_append, List.mem_cons]
    rw [left, List.mem_append] at member
    exact member.imp_right Or.inr
  have isLive : taken ∈ puller.liveEvents := by
    rw [split]
    exact List.mem_append_right _ List.mem_cons_self
  have fewer := (wellFormed.withLive kept).took
  have took : Took { puller with liveEvents := rest } (some taken)
      ({ puller with liveEvents := rest }.deliver index sessionId state taken) :=
    took_deliver fewer.wellFormed found (wellFormed.own _ _ found).history
      ⟨(wellFormed.live taken isLive).1, ofSession⟩ idle index
  exact { took with taken := took.taken, inFlight := took.inFlight }

/-! ## The statements of `take_message` -/

/-- A page of the session's own events keeps the events its own. -/
theorem ownEvents_receivedPage {provider : String} {scan : HistoryScan}
    {page : HistoryPage} (own : OwnEvents provider sessionId state)
    (belong : ∀ event ∈ page.events, BelongsTo provider sessionId event) :
    OwnEvents provider sessionId (receivedPage state scan page) := by
  constructor
  · rw [receivedPage_historyEvents]
    intro event member
    rcases List.mem_append.mp member with old | new
    · exact own.history event old
    · exact belong event new
  · rw [receivedPage_inFlight]
    exact own.inFlight

/-- What asking for a page leaves of a session. -/
theorem yields_fetchHistoryPageOf {nowMs : Int}
    (own : OwnEvents puller.provider sessionId state) :
    (puller.fetchHistoryPageOf sessionId state nowMs).Yields fun next =>
      OwnEvents puller.provider sessionId next ∧
        next.inFlight = state.inFlight := by
  rw [fetchHistoryPageOf]
  cases state.historyScan with
  | none => exact ⟨own, rfl⟩
  | some scan =>
      intro answer
      cases answer with
      | error error =>
          dsimp only
          split_ifs with transient
          · exact ⟨⟨own.history, own.inFlight⟩, rfl⟩
          · exact True.intro
      | ok page =>
          dsimp only
          split_ifs with foreign
          · exact True.intro
          · refine ⟨ownEvents_receivedPage own fun event member => ?_,
              receivedPage_inFlight state scan page⟩
            have ofSession := not_or.mp (not_exists.mp foreign event ∘
              And.intro member)
            exact ⟨not_not.mp ofSession.1, not_not.mp ofSession.2⟩

/-- The two statements at the end of the loop body. -/
theorem yields_serveLive {index : Nat} (wellFormed : WellFormed puller)
    (found : puller.sessions.get? sessionId = some state)
    (idle : state.inFlight = none) :
    (match puller.deliverLive index sessionId state with
      | some (event, puller) => return (some event, puller)
      | none => return (none, puller) :
        Action (Option ProviderEvent × ProviderMessagePuller)).Yields
          fun result => Took puller result.1 result.2 := by
  cases delivered : puller.deliverLive index sessionId state with
  | none => exact wellFormed.took
  | some result => exact took_deliverLive wellFormed found idle delivered

/-- The loop body. -/
theorem yields_serveSession {nowMs : Int} {index : Nat}
    (wellFormed : WellFormed puller)
    (found : puller.sessions.get? sessionId = some state) :
    (puller.serveSession nowMs index sessionId state).Yields fun result =>
      Took puller result.1 result.2 := by
  have own := wellFormed.own sessionId state found
  rw [serveSession]
  by_cases busy : state.inFlight.isSome
  · rw [if_pos busy]
    exact wellFormed.took
  · have idle : state.inFlight = none := by simpa using busy
    rw [if_neg busy]
    cases queued : state.historyEvents with
    | cons event rest =>
        have events := own.history
        rw [queued] at events
        exact took_deliver wellFormed found
          (fun other member => events other (List.mem_cons_of_mem _ member))
          (events event List.mem_cons_self) idle index
    | nil =>
        dsimp only
        split_ifs with due
        · apply (yields_fetchHistoryPageOf own).bind
          rintro fetched ⟨fetchedOwn, same⟩
          have advanced := took_advanced wellFormed found fetchedOwn same index
          have refound : (puller.advanced index sessionId fetched).sessions.get?
              sessionId = some fetched := Dict.get?_set_self _ _ _
          have fetchedIdle := same.trans idle
          cases received : fetched.historyEvents with
          | cons event rest =>
              have events := fetchedOwn.history
              rw [received] at events
              exact advanced.trans wellFormed (took_deliver advanced.wellFormed
                refound
                (fun other member => events other
                  (List.mem_cons_of_mem _ member))
                (events event List.mem_cons_self) fetchedIdle index)
          | nil =>
              exact (yields_serveLive advanced.wellFormed refound
                fetchedIdle).mono fun result took =>
                  advanced.trans wellFormed took
        · exact yields_serveLive wellFormed found idle

/-- The loop. -/
theorem yields_serveSessions {nowMs : Int} {offset remaining : Nat}
    (wellFormed : WellFormed puller) :
    (puller.serveSessions nowMs offset remaining).Yields fun result =>
      Took puller result.1 result.2 := by
  induction remaining generalizing puller offset with
  | zero => exact wellFormed.took
  | succ remaining ih =>
      rw [serveSessions]
      cases puller.sessionOrder[(puller.sessionCursor + offset) %
          puller.sessionOrder.length]? with
      | none => exact True.intro
      | some sessionId =>
          dsimp only
          cases found : puller.sessions.get? sessionId with
          | none => exact True.intro
          | some state =>
              dsimp only
              apply (yields_serveSession wellFormed found).bind
              rintro ⟨event, next⟩ took
              cases event with
              | some event => exact took
              | none => exact (ih took.wellFormed).mono fun result later =>
                  took.trans wellFormed later

/-- A handoff replaces the scans only. -/
theorem took_handedOff (wellFormed : WellFormed puller) (generation : Nat)
    (nowMs : Int) : Took puller none (puller.handedOff generation nowMs) := by
  have contains : ∀ other,
      (puller.handedOff generation nowMs).sessions.contains other =
        puller.sessions.contains other := by
    intro other
    rw [handedOff, Dict.contains, Dict.get?_mapValues, Dict.contains]
    simp
  refine { wellFormed := ⟨wellFormed.distinct, ?_, wellFormed.cursor, ?_, ?_⟩,
           provider := rfl, config := rfl, started := rfl, sessionOrder := rfl,
           inFlight := ?_, taken := by rintro _ ⟨⟩ }
  · intro other
    rw [contains]
    exact wellFormed.known other
  · intro other given same
    rw [handedOff, Dict.get?_mapValues] at same
    rcases Option.map_eq_some_iff.mp same with ⟨old, found, rfl⟩
    exact ⟨(wellFormed.own other old found).history,
      (wellFormed.own other old found).inFlight⟩
  · intro given member
    rw [contains]
    exact wellFormed.live given member
  · intro other
    rw [if_neg (by simp), inFlightOf, inFlightOf, handedOff,
      Dict.get?_mapValues]
    cases puller.sessions.get? other <;> rfl

theorem yields_scheduleReconnectHandoff (wellFormed : WellFormed puller) :
    puller.scheduleReconnectHandoff.Yields (Took puller none) := by
  intro answer
  cases answer with
  | error => exact True.intro
  | ok generation =>
      simp only [Action.ofExcept_ok, Program.bind_eq, Program.ret_bind]
      split_ifs
      · exact True.intro
      · exact wellFormed.took
      · exact fun nowMs => took_handedOff wellFormed generation nowMs

theorem yields_collectLiveEvent (wellFormed : WellFormed puller) :
    puller.collectLiveEvent.Yields (Took puller none) := by
  rw [collectLiveEvent]
  split_ifs with full
  · exact wellFormed.took
  · intro answer
    cases answer with
    | error => exact True.intro
    | ok taken =>
        cases taken with
        | none => exact wellFormed.took
        | some event =>
            simp only [Action.ofExcept_ok, Program.bind_eq, Program.ret_bind]
            split_ifs with foreign unknown
            · exact True.intro
            · exact True.intro
            · refine { wellFormed.took with wellFormed :=
                { wellFormed with live := ?_ } }
              intro given member
              rcases List.mem_append.mp member with old | new
              · exact wellFormed.live given old
              · cases List.mem_singleton.mp new
                exact ⟨not_not.mp foreign, by simpa using unknown⟩

/-- What a returning call of `take_message` has done. -/
theorem yields_takeMessage (wellFormed : WellFormed puller) :
    puller.takeMessage.Yields fun result => Took puller result.1 result.2 := by
  have quiet : ∀ current : ProviderMessagePuller,
      current.raiseStreamError.Yields fun _ => True := by
    intro current answer
    cases answer with
    | error => exact True.intro
    | ok error =>
        cases error with
        | none => exact True.intro
        | some => exact True.intro
  rw [takeMessage]
  split_ifs
  · exact True.intro
  · refine (quiet puller).bind fun _ _ => ?_
    refine (yields_scheduleReconnectHandoff wellFormed).bind
      fun handed first => ?_
    refine (yields_collectLiveEvent first.wellFormed).bind
      fun collected second => ?_
    refine (quiet collected).bind fun _ _ => ?_
    refine (yields_scheduleReconnectHandoff second.wellFormed).bind
      fun again third => ?_
    intro nowMs
    refine (yields_serveSessions third.wellFormed).mono fun result took => ?_
    exact first.trans wellFormed (second.trans first.wellFormed
      (third.trans second.wellFormed took))

/-! ## Acknowledging -/

/-- An acknowledged event is the one in flight in its session. -/
theorem acknowledge_eq_ok {event : ProviderEvent}
    {next : ProviderMessagePuller} (done : puller.acknowledge event = .ok next) :
    ∃ state, puller.sessions.get? event.sessionId = some state ∧
      state.inFlight.map eventKey = some (eventKey event) ∧
        next = puller.setSession event.sessionId
          { state with
            confirmedEventMs := laterOf state.confirmedEventMs
              (some event.eventMs)
            inFlight := none } := by
  rw [ProviderMessagePuller.acknowledge] at done
  split_ifs at done with foreign
  cases known : puller.sessions.get? event.sessionId with
  | none =>
      rw [known] at done
      cases done
  | some state =>
      simp only [known] at done
      split_ifs at done with different
      cases done
      exact ⟨state, rfl, not_not.mp different, rfl⟩

/-- What `acknowledge` does to a puller. -/
structure Acknowledged (before : ProviderMessagePuller) (event : ProviderEvent)
    (after : ProviderMessagePuller) : Prop where
  wellFormed : WellFormed after
  provider : after.provider = before.provider
  config : after.config = before.config
  started : after.started = before.started
  sessionOrder : after.sessionOrder = before.sessionOrder
  inFlight : ∀ sessionId, inFlightOf after sessionId =
    if event.sessionId = sessionId then none else inFlightOf before sessionId

theorem acknowledged_of_eq_ok {event : ProviderEvent}
    {next : ProviderMessagePuller} (wellFormed : WellFormed puller)
    (done : puller.acknowledge event = .ok next) :
    Acknowledged puller event next := by
  rcases acknowledge_eq_ok done with ⟨state, found, -, rfl⟩
  have own := wellFormed.own event.sessionId state found
  exact {
    wellFormed := wellFormed.setSession found ⟨own.history, nofun⟩
    provider := rfl
    config := rfl
    started := rfl
    sessionOrder := rfl
    inFlight := fun _ => inFlightOf_setSession }

/-- The event in flight can be acknowledged. -/
theorem acknowledge_inFlight {event : ProviderEvent}
    (wellFormed : WellFormed puller)
    (inFlight : inFlightOf puller event.sessionId = some event) :
    ∃ next, puller.acknowledge event = .ok next := by
  rcases Option.bind_eq_some_iff.mp inFlight with ⟨state, found, isEvent⟩
  have belongs := (wellFormed.own event.sessionId state found).inFlight event
    isEvent
  rw [ProviderMessagePuller.acknowledge, if_neg (not_not.mpr belongs.provider)]
  simp only [found]
  rw [if_neg (by rw [isEvent]; simp)]
  exact ⟨_, rfl⟩

/-! ## New and started pullers -/

/-- `start` leaves a puller without events. -/
theorem wellFormed_startedAt {highwater : Dict String (Option Int)}
    {nowMs : Int} {generation : Nat} (fresh : puller.liveEvents = [])
    (cursor : puller.sessionCursor = 0) :
    WellFormed (puller.startedAt highwater nowMs generation) := by
  have contains : ∀ other, (puller.startedAt highwater nowMs
      generation).sessions.contains other = highwater.contains other := by
    intro other
    rw [startedAt, Dict.contains, Dict.get?_mapValues, Dict.contains]
    simp
  refine ⟨?_, ?_, ?_, ?_, ?_⟩
  · exact (List.mergeSort_perm _ _).nodup_iff.mpr highwater.distinct
  · intro other
    rw [contains, Dict.contains_iff]
    exact (List.mergeSort_perm _ _).mem_iff
  · intro nonempty
    show puller.sessionCursor < _
    rw [cursor]
    exact List.length_pos_iff.mpr nonempty
  · intro other given same
    rw [startedAt, Dict.get?_mapValues] at same
    rcases Option.map_eq_some_iff.mp same with ⟨old, -, rfl⟩
    exact ⟨by rintro _ ⟨⟩, by rintro _ ⟨⟩⟩
  · intro event member
    have noEvent : event ∈ puller.liveEvents := member
    rw [fresh] at noEvent
    cases noEvent

theorem inFlightOf_startedAt {highwater : Dict String (Option Int)}
    {nowMs : Int} {generation : Nat} :
    inFlightOf (puller.startedAt highwater nowMs generation) sessionId =
      none := by
  rw [inFlightOf, startedAt, Dict.get?_mapValues]
  cases highwater.get? sessionId <;> rfl

end OpenEventIm.Syncer.PullerSessions
