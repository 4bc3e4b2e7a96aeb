import OpenEventIm.Syncer.PullerTurns
import Mathlib.Data.List.Rotate

/-!
# The round robin of `take_message`

The loop visits the sessions from the cursor on, but a history query moves the
cursor while the loop still counts from it.  A call that returns nothing has
gone round all sessions when its only query came last, or when it made none;
otherwise sessions are skipped and others are visited twice.
-/

namespace OpenEventIm.Syncer.RoundRobin

open OpenEventIm.Foundation
open OpenEventIm.Foundation.Interaction
open OpenEventIm.Foundation.Transcripts
open OpenEventIm.Sdk.Errors
open OpenEventIm.Service.Calls
open OpenEventIm.Syncer.Models
open OpenEventIm.Syncer.ProviderMessages
open OpenEventIm.Syncer.ProviderMessages.ProviderMessagePuller
open OpenEventIm.Syncer.PullerSessions
open OpenEventIm.Syncer.PullerTurns

variable {environment : Environment service}
  {puller entry next : ProviderMessagePuller} {nowMs : Int}
  {before after : environment.State} {exchanges : List (Exchanged service)}
  {sessionId other : String} {state : SessionPullState}

/-! ## What a session has to do -/

/-- The sessions in the order in which a round visits them. -/
def roundOf (puller : ProviderMessagePuller) : List String :=
  puller.sessionOrder.rotate puller.sessionCursor

/-- The session's history is due, and it has no event to deliver first. -/
def MustQuery (nowMs : Int) (puller : ProviderMessagePuller)
    (sessionId : String) : Prop :=
  ∃ state, puller.sessions.get? sessionId = some state ∧ Due nowMs state

/-- The session has an event to deliver: one of its history, or a live one when
it has no history scan. -/
def HasEvent (puller : ProviderMessagePuller) (sessionId : String) : Prop :=
  ∃ state, puller.sessions.get? sessionId = some state ∧
    state.inFlight = none ∧
      (state.historyEvents ≠ [] ∨ state.historyScan = none ∧
        ∃ event ∈ puller.liveEvents, event.sessionId = sessionId)

/-- The session has nothing to do. -/
structure Quiet (nowMs : Int) (puller : ProviderMessagePuller)
    (sessionId : String) : Prop where
  query : ¬MustQuery nowMs puller sessionId
  event : ¬HasEvent puller sessionId

/-- The first session of a round that has something to do asks for its history
only when it is the last of the round. -/
def QueriesLast (nowMs : Int) (puller : ProviderMessagePuller) : Prop :=
  ∀ earlier sessionId later,
    roundOf puller = earlier ++ sessionId :: later →
      (∀ other ∈ earlier, Quiet nowMs puller other) →
        MustQuery nowMs puller sessionId → later = []

/-- The call asks for the history of the session. -/
def isPageCall (sessionId : String) : Call → Bool
  | .fetchHistoryPage _ asked _ _ _ => asked = sessionId
  | _ => false

/-- How often the session's history was asked for. -/
def queriesOf (sessionId : String) (exchanges : List (Exchanged service)) :
    Nat :=
  exchanges.countP fun exchange => isPageCall sessionId exchange.1

/-- A call that returned nothing left nothing undone. -/
structure WorkConserving (entry : ProviderMessagePuller) (nowMs : Int)
    (exchanges : List (Exchanged service)) (next : ProviderMessagePuller) :
    Prop where
  delivered : ∀ sessionId, ¬HasEvent next sessionId
  queried : ∀ sessionId, MustQuery nowMs entry sessionId →
    queriesOf sessionId exchanges = 1

/-- Each session is in the order once. -/
structure Ordered (puller : ProviderMessagePuller) : Prop where
  distinct : puller.sessionOrder.Nodup
  known : ∀ sessionId, sessionId ∈ puller.sessionOrder ↔
    puller.sessions.contains sessionId = true

/-! ## Live events -/

theorem takeLiveEvent_eq_none_iff {live : List ProviderEvent} :
    takeLiveEvent sessionId live = none ↔
      ∀ event ∈ live, event.sessionId ≠ sessionId := by
  induction live with
  | nil => exact iff_of_true rfl fun _ member => by cases member
  | cons head rest ih =>
      rw [takeLiveEvent, List.forall_mem_cons]
      by_cases same : head.sessionId = sessionId
      · rw [if_pos same]
        exact iff_of_false (Option.some_ne_none _) fun both => both.1 same
      · rw [if_neg same, Option.map_eq_none_iff, ih]
        exact ⟨fun rest => ⟨same, rest⟩, And.right⟩

/-- Nothing live is delivered to a session with a scan or without events. -/
theorem deliverLive_eq_none_iff {index : Nat} :
    puller.deliverLive index sessionId state = none ↔
      (state.historyScan = none →
        ∀ event ∈ puller.liveEvents, event.sessionId ≠ sessionId) := by
  rw [deliverLive]
  by_cases scanned : state.historyScan = none
  · rw [if_pos scanned, Option.map_eq_none_iff, takeLiveEvent_eq_none_iff]
    exact ⟨fun noneLive _ => noneLive, fun noneLive => noneLive scanned⟩
  · rw [if_neg scanned]
    exact iff_of_true rfl fun absent => absurd absent scanned

theorem hasEvent_of_deliverLive {index : Nat} {event : ProviderEvent}
    (found : puller.sessions.get? sessionId = some state)
    (idle : state.inFlight = none)
    (delivered : puller.deliverLive index sessionId state =
      some (event, next)) : HasEvent puller sessionId := by
  refine ⟨state, found, idle, Or.inr ?_⟩
  have someLive : ¬puller.deliverLive index sessionId state = none := by
    rw [delivered]
    nofun
  rw [deliverLive_eq_none_iff] at someLive
  push Not at someLive
  exact someLive

/-- When a session has nothing to do. -/
theorem quiet_iff (found : puller.sessions.get? sessionId = some state) :
    Quiet nowMs puller sessionId ↔ ¬Due nowMs state ∧
      (state.inFlight = none → state.historyEvents = [] ∧
        (state.historyScan = none →
          ∀ event ∈ puller.liveEvents, event.sessionId ≠ sessionId)) := by
  constructor
  · rintro ⟨query, event⟩
    refine ⟨fun due => query ⟨state, found, due⟩, fun idle => ?_⟩
    by_contra undone
    apply event
    refine ⟨state, found, idle, ?_⟩
    by_cases empty : state.historyEvents = []
    · refine Or.inr ?_
      by_contra noneLive
      push Not at noneLive
      exact undone ⟨empty, noneLive⟩
    · exact Or.inl empty
  · rintro ⟨notDue, done⟩
    constructor
    · rintro ⟨stored, again, due⟩
      rw [found] at again
      cases again
      exact notDue due
    · rintro ⟨stored, again, idle, hasEvent⟩
      rw [found] at again
      cases again
      rcases hasEvent with queued | ⟨scanned, event, live, own⟩
      · exact queued (done idle).1
      · exact (done idle).2 scanned event live own

/-! ## The loop -/

/-- At a session with nothing to do, nothing happens. -/
theorem served_quiet {index : Nat} {taken : Option ProviderEvent}
    (found : puller.sessions.get? sessionId = some state)
    (quiet : Quiet nowMs puller sessionId)
    (served : Served environment puller nowMs index sessionId state before
      exchanges taken next after) :
    taken = none ∧ next = puller ∧ exchanges = [] ∧ after = before := by
  cases served with
  | busy => exact ⟨rfl, rfl, rfl, rfl⟩
  | nothing => exact ⟨rfl, rfl, rfl, rfl⟩
  | queued idle queue =>
      apply absurd _ quiet.event
      exact ⟨state, found, idle, Or.inl (by rw [queue]; nofun)⟩
  | live idle _ _ delivered =>
      exact absurd (hasEvent_of_deliverLive found idle delivered) quiet.event
  | queriedEvent queried =>
      exact absurd ⟨state, found, queried.due⟩ quiet.query
  | queriedLive queried =>
      exact absurd ⟨state, found, queried.due⟩ quiet.query
  | queriedNothing queried =>
      exact absurd ⟨state, found, queried.due⟩ quiet.query

/-- What a round that returns nothing has done. -/
inductive RoundDone (environment : Environment service)
    (puller : ProviderMessagePuller) (nowMs : Int)
    (before : environment.State) : List String →
      List (Exchanged service) → ProviderMessagePuller → environment.State →
        Prop where
  | idle {visited} (quiet : ∀ other ∈ visited, Quiet nowMs puller other) :
      RoundDone environment puller nowMs before visited [] puller before
  | asked {earlier sessionId state index asked page after}
      (quiet : ∀ other ∈ earlier, Quiet nowMs puller other)
      (found : puller.sessions.get? sessionId = some state)
      (queried : Queried environment puller nowMs sessionId state before asked
        page after)
      (received : page.historyEvents = [])
      (noneLive : (puller.advanced index sessionId page).deliverLive index
        sessionId page = none) :
      RoundDone environment puller nowMs before (earlier ++ [sessionId]) asked
        (puller.advanced index sessionId page) after

/-- The loop visits the round from the offset on. -/
theorem getElem?_roundOf {earlier later : List String}
    (round : roundOf puller = earlier ++ sessionId :: later) :
    puller.sessionOrder[(puller.sessionCursor + earlier.length) %
      puller.sessionOrder.length]? = some sessionId := by
  have inside : earlier.length < puller.sessionOrder.length := by
    have length := congrArg List.length round
    rw [roundOf, List.length_rotate, List.length_append, List.length_cons]
      at length
    omega
  rw [Nat.add_comm, ← List.getElem?_rotate inside]
  show (roundOf puller)[earlier.length]? = _
  rw [round, List.getElem?_append_right (Nat.le_refl _), Nat.sub_self]
  rfl

theorem roundDone_of_transcript {earlier later : List String}
    (condition : QueriesLast nowMs puller)
    (round : roundOf puller = earlier ++ later)
    (quiet : ∀ other ∈ earlier, Quiet nowMs puller other)
    (transcript : Transcript environment before
      (puller.serveSessions nowMs earlier.length later.length) exchanges after
      (.ok (none, next))) :
    RoundDone environment puller nowMs before (earlier ++ later) exchanges
      next after := by
  induction later generalizing earlier with
  | nil =>
      rcases transcript_ret transcript with ⟨rfl, rfl, returned⟩
      cases returned
      rw [List.append_nil]
      exact .idle quiet
  | cons sessionId later ih =>
      rcases serveSessions_of_transcript transcript with
        ⟨visited, state, found, reached, middle, first, rest, inOrder, known,
          rfl, served, tail⟩
      rw [getElem?_roundOf round] at inOrder
      cases inOrder
      by_cases isQuiet : Quiet nowMs puller sessionId
      · rcases served_quiet known isQuiet served with ⟨rfl, rfl, rfl, rfl⟩
        have split : roundOf reached = (earlier ++ [sessionId]) ++ later := by
          rw [round, List.append_assoc]
          rfl
        have quietNow : ∀ other ∈ earlier ++ [sessionId],
            Quiet nowMs reached other := by
          intro other member
          rcases List.mem_append.mp member with old | new
          · exact quiet other old
          · rw [List.mem_singleton.mp new]
            exact isQuiet
        have done := ih split quietNow (by
          rw [List.length_append]
          exact tail)
        rw [List.append_assoc] at done
        exact done
      · cases served with
        | busy busy =>
            apply absurd _ isQuiet
            rw [quiet_iff known]
            refine ⟨fun due => ?_, fun idle => ?_⟩
            · rw [due.idle] at busy
              cases busy
            · rw [idle] at busy
              cases busy
        | queued => cases tail.1
        | live => cases tail.1
        | queriedEvent => cases tail.1
        | queriedLive => cases tail.1
        | nothing idle empty notDue noneLive =>
            apply absurd _ isQuiet
            rw [quiet_iff known]
            exact ⟨notDue, fun _ =>
              ⟨empty, deliverLive_eq_none_iff.mp noneLive⟩⟩
        | queriedNothing queried received noneLive =>
            have last := condition earlier sessionId later round quiet
              ⟨state, known, queried.due⟩
            subst last
            rcases transcript_ret tail with ⟨rfl, rfl, returned⟩
            cases returned
            rw [List.append_nil]
            exact .asked quiet known queried received noneLive

theorem mem_roundOf (ordered : Ordered puller)
    (found : puller.sessions.get? sessionId = some state) :
    sessionId ∈ roundOf puller := by
  rw [roundOf, List.mem_rotate, ordered.known]
  exact contains_of_get? found

/-- A whole round leaves nothing undone. -/
theorem RoundDone.workConserving (ordered : Ordered puller)
    (done : RoundDone environment puller nowMs before (roundOf puller)
      exchanges next after) :
    WorkConserving puller nowMs exchanges next := by
  generalize visitedEq : roundOf puller = visited at done
  cases done with
  | idle quiet =>
      constructor
      · rintro sessionId ⟨state, found, hasEvent⟩
        have visited := mem_roundOf ordered found
        exact (quiet sessionId (visitedEq ▸ visited)).event
          ⟨state, found, hasEvent⟩
      · rintro sessionId ⟨state, found, due⟩
        have visited := mem_roundOf ordered found
        exact absurd ⟨state, found, due⟩
          (quiet sessionId (visitedEq ▸ visited)).query
  | @asked earlier last state index _ page _ quiet found queried received
      noneLive =>
      have known : ∀ {sessionId stored},
          puller.sessions.get? sessionId = some stored →
            sessionId ≠ last → Quiet nowMs puller sessionId := by
        intro sessionId stored given different
        have visited := mem_roundOf ordered given
        rw [visitedEq] at visited
        rcases List.mem_append.mp visited with inside | isLast
        · exact quiet sessionId inside
        · exact absurd (List.mem_singleton.mp isLast) different
      constructor
      · rintro sessionId ⟨stored, given, idle, hasEvent⟩
        have sessions : (puller.setSession last page).sessions.get? sessionId =
            some stored := given
        rw [get?_setSession] at sessions
        split_ifs at sessions with same
        · cases sessions
          subst same
          rcases hasEvent with queued | ⟨scanned, event, live, own⟩
          · exact queued received
          · exact deliverLive_eq_none_iff.mp noneLive scanned event live own
        · exact (known sessions (Ne.symm same)).event
            ⟨stored, sessions, idle, hasEvent⟩
      · rintro sessionId ⟨stored, given, due⟩
        by_cases same : sessionId = last
        · subst same
          rcases queried.asked with ⟨scan, answer, ready, -, rfl, -⟩
          simp [queriesOf, isPageCall, pageCall]
        · exact absurd ⟨stored, given, due⟩ (known given same).query

theorem Ordered.of_sameSessions (ordered : Ordered puller)
    (same : SameSessions puller next) : Ordered next where
  distinct := same.sessionOrder ▸ ordered.distinct
  known sessionId := by
    rw [same.sessionOrder, same.contains]
    exact ordered.known sessionId

/-! ## Reachable pullers -/

/-- `start` puts each session into the order once. -/
theorem ordered_startedAt {highwater : Dict String (Option Int)}
    {generation : Nat} :
    Ordered (puller.startedAt highwater nowMs generation) where
  distinct := (List.mergeSort_perm _ _).nodup_iff.mpr highwater.distinct
  known sessionId := by
    have contains : (puller.startedAt highwater nowMs
        generation).sessions.contains sessionId =
          highwater.contains sessionId := by
      rw [startedAt, Dict.contains, Dict.get?_mapValues, Dict.contains]
      simp
    rw [contains, Dict.contains_iff]
    exact (List.mergeSort_perm _ _).mem_iff

theorem ordered_of_start {highwater : Dict String (Option Int)}
    (ordered : puller.started = true → Ordered puller)
    (run : Runs environment before (puller.start highwater) after
      (.ok next)) : Ordered next := by
  rw [start] at run
  split_ifs at run with started empty
  · rcases runs_ret.mp run with ⟨rfl, returned⟩
    cases returned
    exact ordered started
  · cases (runs_fail.mp run).2
  · rcases runs_bind run with ⟨_, _, -, rest⟩ | ⟨_, _, failed⟩
    · rcases runs_bind rest with ⟨_, nowMs, -, rest⟩ | ⟨_, _, failed⟩
      · rcases runs_bind rest with ⟨_, generation, -, last⟩ | ⟨_, _, failed⟩
        · rcases runs_ret.mp last with ⟨rfl, returned⟩
          cases returned
          exact ordered_startedAt
        · cases failed
      · cases failed
    · cases failed

/-- A started puller has each of its sessions in the order once. -/
theorem ordered_of_reachable {provider : String} {config : ProviderSyncConfig}
    (reached : Reachable environment provider config puller before) :
    puller.started = true → Ordered puller := by
  induction reached with
  | created => nofun
  | evolves _ _ ih => exact ih
  | starts _ run ih => exact fun _ => ordered_of_start ih run
  | failsToStart _ _ notStarted =>
      intro started
      rw [notStarted] at started
      cases started
  | stops _ run =>
      rcases runs_bind run with ⟨_, _, -, rest⟩ | ⟨_, _, failed⟩
      · rcases runs_ret.mp rest with ⟨rfl, returned⟩
        cases returned
        nofun
      · cases failed
  | takes _ run ih =>
      intro started
      rcases transcript_of_runs run with ⟨exchanges, transcript⟩
      rcases takes_of_transcript transcript with ⟨entry, nowMs, takes⟩
      exact (ih takes.started).of_sameSessions takes.sameSessions
  | raises _ _ same ih =>
      intro started
      exact (ih (same.started ▸ started)).of_sameSessions same
  | acknowledges _ done ih =>
      intro started
      rcases acknowledge_eq_ok done with ⟨state, found, -, rfl⟩
      exact (ih started).of_sameSessions (sameSessions_setSession found)

/-! ## The call -/

theorem queriesOf_append {first second : List (Exchanged service)} :
    queriesOf sessionId (first ++ second) =
      queriesOf sessionId first + queriesOf sessionId second :=
  List.countP_append

/-- No history is asked for before the loop. -/
theorem queriesOf_prepared
    (prepared : Prepared environment puller before exchanges entry nowMs
      after) : queriesOf sessionId exchanges = 0 := by
  rcases prepared.steps with ⟨handed, collected, _, _, _, _, _, _, _, _, _, _,
    _, quiet, handoff, collects, quietAgain, handoffAgain, -, -, rfl⟩
  have handing : ∀ {start : environment.State} {puller asked next after},
      Handed environment puller start asked next after →
        queriesOf sessionId asked = 0 := by
    intro start puller asked next after handed
    cases handed <;> rfl
  simp only [queriesOf_append]
  rw [handing handoff, handing handoffAgain]
  cases quiet
  cases quietAgain
  cases collects <;> rfl

/--
A call of `take_message` that returns nothing, from any reachable puller and
whatever the adapter answers: if the first session of the round that has
something to do does not ask for its history, or is the last of the round, then
no session is left with an event to deliver, and each session whose history was
due has been asked exactly once.
-/
theorem takeMessage_workConserving {provider : String}
    {config : ProviderSyncConfig}
    (reached : Reachable environment provider config puller before)
    (takes : Takes environment puller before exchanges entry nowMs none next
      after)
    (condition : QueriesLast nowMs entry) :
    WorkConserving entry nowMs exchanges next := by
  have ordered := ordered_of_reachable reached takes.started
  rcases takes.parts with ⟨asked, queried, middle, rfl, prepared, loops⟩
  have entered := ordered.of_sameSessions prepared.sameSessions
  have length : (roundOf entry).length = entry.sessionOrder.length :=
    List.length_rotate _ _
  have done := @roundDone_of_transcript _ _ _ nowMs _ _ _ [] (roundOf entry)
    condition rfl (fun _ member => by cases member) (by
      rw [length]
      exact loops)
  have conserving := RoundDone.workConserving entered done
  refine ⟨conserving.delivered, fun sessionId mustQuery => ?_⟩
  rw [queriesOf_append, queriesOf_prepared prepared, Nat.zero_add]
  exact conserving.queried sessionId mustQuery

/-! ## Started pullers -/

/-- An adapter that may answer anything. -/
@[reducible]
def arbitraryAdapter : Environment service where
  State := Unit
  Interferes _ _ := False
  Answers _ _ _ _ := True

def sampleConfig : ProviderSyncConfig := ⟨1000, 10, 1000, 8⟩

def emptyPage : HistoryPage := ⟨[], none⟩

/-- No session has a confirmed message. -/
def firstHighwater : Dict String (Option Int) :=
  (∅ : Dict String (Option Int)).set "oc1" none

def bothHighwater : Dict String (Option Int) := firstHighwater.set "oc2" none

/-- A puller that has been started, its cursor at the first session. -/
def startedPuller (config : ProviderSyncConfig)
    (highwater : Dict String (Option Int)) : ProviderMessagePuller :=
  { create "lark" config with
    sessions := highwater.mapValues
      ((create "lark" config).startedSession 200)
    sessionOrder := highwater.keys
    started := true }

theorem startedAt_startedPuller {config : ProviderSyncConfig}
    {highwater : Dict String (Option Int)}
    (sorted : highwater.keys.mergeSort = highwater.keys) :
    (create "lark" config).startedAt highwater 200 0 =
      startedPuller config highwater := by
  rw [startedAt, sorted]
  rfl

theorem reachable_startedPuller {config : ProviderSyncConfig}
    {highwater : Dict String (Option Int)} (nonempty : highwater.items ≠ [])
    (sorted : highwater.keys.mergeSort = highwater.keys) :
    Reachable arbitraryAdapter "lark" config (startedPuller config highwater)
      () := by
  have started := @startedAt_startedPuller config highwater sorted
  refine @Reachable.starts arbitraryAdapter _ _ (create "lark" config) _
    () () highwater .created ?_
  rw [start, if_neg (by nofun), if_neg nonempty, ← started]
  have opened : arbitraryAdapter.Answers ()
    (.startEventStream "lark" highwater.keys) (.ok ()) () := trivial
  have timed : arbitraryAdapter.Answers () .currentTimeMs (200 : Int) () :=
    trivial
  have counted : arbitraryAdapter.Answers () (.eventStreamGeneration "lark")
    (.ok 0) () := trivial
  exact .call .refl opened (.call .refl timed (.call .refl counted .ret))

/-- The calls before the loop when nothing has happened. -/
def quietCalls (nowMs : Int) : List (Exchanged service) := [
  ⟨.eventStreamError "lark", .ok none⟩,
  ⟨.eventStreamGeneration "lark", .ok 0⟩,
  ⟨.takeEvent "lark", .ok none⟩,
  ⟨.eventStreamError "lark", .ok none⟩,
  ⟨.eventStreamGeneration "lark", .ok 0⟩,
  ⟨.currentTimeMs, nowMs⟩]

theorem prepared_quiet (puller : ProviderMessagePuller)
    (provider : puller.provider = "lark")
    (generation : puller.streamGeneration = 0)
    (room : puller.liveEvents.length < puller.config.eventQueueSize)
    (nowMs : Int) :
    Prepared arbitraryAdapter puller () (quietCalls nowMs) puller nowMs () := by
  cases puller
  cases provider
  cases generation
  exact ⟨_, _, (), (), (), (), (), (), _, _, _, _, _, .quiet .refl trivial,
    .same .refl trivial, .nothing room .refl trivial, .quiet .refl trivial,
    .same .refl trivial, .refl, trivial, rfl⟩

def queryOf (sessionId : String) : Exchanged service :=
  ⟨.fetchHistoryPage "lark" sessionId 0 200 none, .ok emptyPage⟩

/-- The session after its only page, which was empty. -/
def scannedSession : SessionPullState :=
  receivedPage ((create "lark" sampleConfig).startedSession 200 none)
    ⟨0, 200, none⟩ emptyPage

def firstPuller : ProviderMessagePuller :=
  startedPuller sampleConfig firstHighwater

def bothPuller : ProviderMessagePuller :=
  startedPuller sampleConfig bothHighwater

theorem sorted_bothHighwater :
    bothHighwater.keys.mergeSort = bothHighwater.keys :=
  List.mergeSort_of_pairwise (by decide)

/-! ## The first session blocked -/

def liveEvent (sessionId providerMessageId : String) : ProviderEvent where
  provider := "lark"
  sessionId := sessionId
  providerMessageId := providerMessageId
  senderExternalUserId := "ou1"
  msgType := "text"
  contentRaw := []
  eventMs := 300
  text := none
  senderIdentityType := "user"
  wellFormed := Json.wellFormed_empty

/-- A call that finds the stream running and connected. -/
theorem runs_takeMessage {before entry : ProviderMessagePuller}
    {outcome : Except PyError (Option ProviderEvent × ProviderMessagePuller)}
    (started : before.started = true)
    (collects : Runs arbitraryAdapter () before.collectLiveEvent ()
      (.ok entry))
    (loops : Runs arbitraryAdapter () (wholeLoop entry 200) () outcome) :
    Runs arbitraryAdapter () before.takeMessage () outcome := by
  have quiet (puller : ProviderMessagePuller) :
      Runs arbitraryAdapter () puller.raiseStreamError () (.ok ()) := by
    have answered : arbitraryAdapter.Answers ()
      (.eventStreamError puller.provider) (.ok none) () := trivial
    exact .call .refl answered .ret
  have same (puller : ProviderMessagePuller) :
      Runs arbitraryAdapter () puller.scheduleReconnectHandoff ()
        (.ok puller) := by
    have answered : arbitraryAdapter.Answers ()
      (.eventStreamGeneration puller.provider) (.ok puller.streamGeneration)
        () := trivial
    refine .call .refl answered ?_
    show Runs _ _ (if _ < _ then _ else if _ = _ then _ else _) _ _
    rw [if_neg (Nat.lt_irrefl _), if_pos rfl]
    exact .ret
  have timed : Runs arbitraryAdapter () currentTimeMs () (.ok (200 : Int)) := by
    have answered : arbitraryAdapter.Answers () .currentTimeMs (200 : Int) () :=
      trivial
    exact .call .refl answered .ret
  rw [takeMessage, if_neg (by simp [started])]
  exact .bind (quiet _) (.bind (same _) (.bind collects (.bind (quiet _)
    (.bind (same _) (.bind timed loops)))))

theorem taken_answers (event : Option ProviderEvent) :
    arbitraryAdapter.Answers () (.takeEvent "lark") (.ok event) () := trivial

theorem page_answers (sessionId : String)
    (answer : Except PyError HistoryPage) :
    arbitraryAdapter.Answers ()
      (.fetchHistoryPage "lark" sessionId 0 200 none) answer () := trivial

/-- The first session's history holds one message. -/
def filledPage : HistoryPage := ⟨[liveEvent "oc1" "om1"], none⟩

def filledSession : SessionPullState :=
  receivedPage ((create "lark" sampleConfig).startedSession 200 none)
    ⟨0, 200, none⟩ filledPage

/-- The first session has its message in flight. -/
def blockedPuller : ProviderMessagePuller :=
  (bothPuller.advanced 0 "oc1" filledSession).deliver 0 "oc1"
    { filledSession with historyEvents := [] } (liveEvent "oc1" "om1")

theorem reachable_blockedPuller :
    Reachable arbitraryAdapter "lark" sampleConfig blockedPuller () := by
  have started := @reachable_startedPuller sampleConfig bothHighwater nofun
    sorted_bothHighwater
  have delivers : Runs arbitraryAdapter () bothPuller.takeMessage ()
      (.ok (some (liveEvent "oc1" "om1"), blockedPuller)) :=
    runs_takeMessage rfl (.call .refl (taken_answers none) .ret)
      (.call .refl (page_answers "oc1" (.ok filledPage)) .ret)
  exact started.takes delivers

def unavailable : PyError := .raised .transientProviderError "unavailable"

/-- The second session's history query has failed. -/
def retryingPuller : ProviderMessagePuller :=
  blockedPuller.advanced 1 "oc2"
    { bothPuller.startedSession 200 none with nextHistoryAtMs := 1200 }

theorem reachable_retryingPuller :
    Reachable arbitraryAdapter "lark" sampleConfig retryingPuller () := by
  have fails : Runs arbitraryAdapter () blockedPuller.takeMessage ()
      (.ok (none, retryingPuller)) :=
    runs_takeMessage rfl (.call .refl (taken_answers none) .ret)
      (.call .refl (page_answers "oc2" (.error unavailable)) .ret)
  exact reachable_blockedPuller.takes fails

/-- Behind a blocked session, the other one's query is the last of the round. -/
theorem takeMessage_workConserving_sample :
    WorkConserving retryingPuller 1300 (quietCalls 1300 ++ [queryOf "oc2"])
      (retryingPuller.advanced 1 "oc2" scannedSession) := by
  have loops : Transcript arbitraryAdapter () (wholeLoop retryingPuller 1300)
      [queryOf "oc2"] ()
      (.ok (none, retryingPuller.advanced 1 "oc2" scannedSession)) :=
    .call .refl trivial .ret
  refine takeMessage_workConserving reachable_retryingPuller
    ⟨rfl, _, _, (), rfl, prepared_quiet retryingPuller rfl rfl
      (Nat.zero_lt_succ 7) 1300, loops⟩ ?_
  intro earlier sessionId later round _ due
  have order : ["oc1", "oc2"] = earlier ++ sessionId :: later := round
  cases earlier with
  | nil =>
      cases order
      rcases due with ⟨state, found, due⟩
      cases found
      cases due.idle
  | cons first rest =>
      have length := congrArg List.length order
      simp only [List.length_append, List.length_cons, List.length_nil]
        at length
      exact List.eq_nil_of_length_eq_zero (by omega)

/-! ## A query that hides the next session -/

/-- With two sessions, the first one's query hides the second one. -/
theorem takeMessage_skipsSession :
    Reachable arbitraryAdapter "lark" sampleConfig bothPuller () ∧
      Takes arbitraryAdapter bothPuller () (quietCalls 200 ++ [queryOf "oc1"])
        bothPuller 200 none (bothPuller.advanced 0 "oc1" scannedSession) () ∧
      ¬WorkConserving bothPuller 200 (quietCalls 200 ++ [queryOf "oc1"])
        (bothPuller.advanced 0 "oc1" scannedSession) := by
  have loops : Transcript arbitraryAdapter () (wholeLoop bothPuller 200)
      [queryOf "oc1"] ()
      (.ok (none, bothPuller.advanced 0 "oc1" scannedSession)) :=
    .call .refl trivial .ret
  refine ⟨@reachable_startedPuller sampleConfig bothHighwater nofun
      sorted_bothHighwater,
    ⟨rfl, _, _, (), rfl, prepared_quiet bothPuller rfl rfl
      (Nat.zero_lt_succ 7) 200, loops⟩, ?_⟩
  intro conserving
  have due : MustQuery 200 bothPuller "oc2" :=
    ⟨_, rfl, rfl, rfl, rfl, by decide⟩
  have once := conserving.queried "oc2" due
  revert once
  decide

end OpenEventIm.Syncer.RoundRobin
