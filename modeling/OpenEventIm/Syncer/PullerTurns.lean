import OpenEventIm.Foundation.Transcripts
import OpenEventIm.Syncer.PullerSessions

/-!
# What a call of `take_message` does

The executions of `take_message`, statement by statement: what the statements
before the loop leave of the puller, and what the loop does at one session.
Everything later about single calls is read off these cases.
-/

namespace OpenEventIm.Syncer.PullerTurns

open OpenEventIm.Foundation
open OpenEventIm.Foundation.Interaction
open OpenEventIm.Foundation.Transcripts
open OpenEventIm.Sdk.Errors
open OpenEventIm.Service.Calls
open OpenEventIm.Syncer.Models
open OpenEventIm.Syncer.ProviderMessages
open OpenEventIm.Syncer.ProviderMessages.ProviderMessagePuller
open OpenEventIm.Syncer.PullerSessions

variable {environment : Environment service}
  {puller next : ProviderMessagePuller}
  {before after : environment.State} {exchanges : List (Exchanged service)}

/-! ## Before the loop -/

/-- The statements of `take_message` before its loop. -/
def beforeLoop (puller : ProviderMessagePuller) :
    Action (ProviderMessagePuller × Int) := do
  puller.raiseStreamError
  let puller ← puller.scheduleReconnectHandoff
  let puller ← puller.collectLiveEvent
  puller.raiseStreamError
  let puller ← puller.scheduleReconnectHandoff
  let nowMs ← currentTimeMs
  return (puller, nowMs)

/-- The loop of `take_message`, over all sessions. -/
def wholeLoop (puller : ProviderMessagePuller) (nowMs : Int) :
    Action (Option ProviderEvent × ProviderMessagePuller) :=
  puller.serveSessions nowMs 0 puller.sessionOrder.length

theorem takeMessage_eq (started : puller.started = true) :
    puller.takeMessage =
      beforeLoop puller >>= fun entered => wholeLoop entered.1 entered.2 := by
  rw [takeMessage, if_neg (by simp [started]), beforeLoop]
  simp only [bind_assoc, pure_bind]
  rfl

/-- The stream has no error. -/
inductive StreamQuiet (environment : Environment service) (provider : String)
    (before : environment.State) :
    List (Exchanged service) → environment.State → Prop where
  | quiet {ready after} (evolves : environment.Evolves before ready)
      (answers : environment.Answers ready (.eventStreamError provider)
        (.ok none) after) :
      StreamQuiet environment provider before
        [⟨.eventStreamError provider, .ok none⟩] after

/-- What `_schedule_reconnect_handoff` leaves of a puller. -/
inductive Handed (environment : Environment service)
    (puller : ProviderMessagePuller) (before : environment.State) :
    List (Exchanged service) → ProviderMessagePuller → environment.State →
      Prop where
  | same {ready after} (evolves : environment.Evolves before ready)
      (answers : environment.Answers ready
        (.eventStreamGeneration puller.provider)
        (.ok puller.streamGeneration) after) :
      Handed environment puller before
        [⟨.eventStreamGeneration puller.provider,
          .ok puller.streamGeneration⟩] puller after
  | reconnected {ready answered timed after} {generation : Nat} {nowMs : Int}
      (evolves : environment.Evolves before ready)
      (answers : environment.Answers ready
        (.eventStreamGeneration puller.provider) (.ok generation) answered)
      (newer : puller.streamGeneration < generation)
      (passes : environment.Evolves answered timed)
      (clock : environment.Answers timed .currentTimeMs nowMs after) :
      Handed environment puller before
        [⟨.eventStreamGeneration puller.provider, .ok generation⟩,
          ⟨.currentTimeMs, nowMs⟩]
        (puller.handedOff generation nowMs) after

/-- What `_collect_live_event` leaves of a puller. -/
inductive Collected (environment : Environment service)
    (puller : ProviderMessagePuller) (before : environment.State) :
    List (Exchanged service) → ProviderMessagePuller → environment.State →
      Prop where
  | full (full : puller.config.eventQueueSize ≤ puller.liveEvents.length) :
      Collected environment puller before [] puller before
  | nothing {ready after}
      (room : puller.liveEvents.length < puller.config.eventQueueSize)
      (evolves : environment.Evolves before ready)
      (answers : environment.Answers ready (.takeEvent puller.provider)
        (.ok none) after) :
      Collected environment puller before
        [⟨.takeEvent puller.provider, .ok none⟩] puller after
  | event {ready after} {event : ProviderEvent}
      (room : puller.liveEvents.length < puller.config.eventQueueSize)
      (evolves : environment.Evolves before ready)
      (answers : environment.Answers ready (.takeEvent puller.provider)
        (.ok (some event)) after)
      (provider : event.provider = puller.provider)
      (known : puller.sessions.contains event.sessionId = true) :
      Collected environment puller before
        [⟨.takeEvent puller.provider, .ok (some event)⟩]
        { puller with liveEvents := puller.liveEvents ++ [event] } after

theorem streamQuiet_of_transcript
    (transcript : Transcript environment before puller.raiseStreamError
      exchanges after (.ok ())) :
    StreamQuiet environment puller.provider before exchanges after := by
  rcases transcript_callBind transcript with
    ⟨ready, answer, answered, rest, rfl, evolves, answers, tail⟩
  cases answer with
  | error => cases (transcript_fail tail).2.2
  | ok error =>
      cases error with
      | some => cases (transcript_fail tail).2.2
      | none =>
          rcases transcript_ret tail with ⟨rfl, rfl, -⟩
          exact .quiet evolves answers

theorem handed_of_transcript
    (transcript : Transcript environment before
      puller.scheduleReconnectHandoff exchanges after (.ok next)) :
    Handed environment puller before exchanges next after := by
  rcases transcript_callBind transcript with
    ⟨ready, answer, answered, rest, rfl, evolves, answers, tail⟩
  cases answer with
  | error => cases (transcript_fail tail).2.2
  | ok generation =>
      simp only [Action.ofExcept_ok, Program.ret_bind] at tail
      split_ifs at tail with backwards equal
      · cases (transcript_fail tail).2.2
      · rcases transcript_ret tail with ⟨rfl, rfl, returned⟩
        cases returned
        subst equal
        exact .same evolves answers
      · rcases transcript_callBind tail with
          ⟨timed, nowMs, _, rest, rfl, passes, clock, last⟩
        rcases transcript_ret last with ⟨rfl, rfl, returned⟩
        cases returned
        have newer : puller.streamGeneration < generation := by omega
        exact .reconnected evolves answers newer passes clock

theorem collected_of_transcript
    (transcript : Transcript environment before puller.collectLiveEvent
      exchanges after (.ok next)) :
    Collected environment puller before exchanges next after := by
  rw [collectLiveEvent] at transcript
  split_ifs at transcript with full
  · rcases transcript_ret transcript with ⟨rfl, rfl, returned⟩
    cases returned
    exact .full full
  · have room := Nat.lt_of_not_le full
    rcases transcript_callBind transcript with
      ⟨ready, answer, answered, rest, rfl, evolves, answers, tail⟩
    cases answer with
    | error => cases (transcript_fail tail).2.2
    | ok taken =>
        cases taken with
        | none =>
            rcases transcript_ret tail with ⟨rfl, rfl, returned⟩
            cases returned
            exact .nothing room evolves answers
        | some event =>
            simp only [Action.ofExcept_ok, Program.ret_bind] at tail
            split_ifs at tail with foreign unknown
            · cases (transcript_fail tail).2.2
            · cases (transcript_fail tail).2.2
            · rcases transcript_ret tail with ⟨rfl, rfl, returned⟩
              cases returned
              exact .event room evolves answers (not_not.mp foreign)
                (by simpa using unknown)

/-- The statements before the loop, one after the other. -/
structure Prepared (environment : Environment service)
    (puller : ProviderMessagePuller) (before : environment.State)
    (exchanges : List (Exchanged service)) (entry : ProviderMessagePuller)
    (nowMs : Int) (after : environment.State) : Prop where
  steps : ∃ (handed collected : ProviderMessagePuller)
      (first second third fourth fifth ready : environment.State)
      (asked handing collecting asking handingAgain :
        List (Exchanged service)),
    StreamQuiet environment puller.provider before asked first ∧
    Handed environment puller first handing handed second ∧
    Collected environment handed second collecting collected third ∧
    StreamQuiet environment collected.provider third asking fourth ∧
    Handed environment collected fourth handingAgain entry fifth ∧
    environment.Evolves fifth ready ∧
    environment.Answers ready .currentTimeMs nowMs after ∧
    exchanges = asked ++ (handing ++ (collecting ++ (asking ++ (handingAgain ++
      [⟨.currentTimeMs, nowMs⟩]))))

theorem prepared_of_transcript {entry : ProviderMessagePuller} {nowMs : Int}
    (transcript : Transcript environment before (beforeLoop puller) exchanges
      after (.ok (entry, nowMs))) :
    Prepared environment puller before exchanges entry nowMs after := by
  rcases transcript_bind transcript with
    ⟨first, _, asked, _, rfl, quiet, rest⟩ | ⟨_, failed, -⟩
  · rcases transcript_bind rest with
      ⟨second, handed, handing, _, rfl, handoff, rest⟩ | ⟨_, failed, -⟩
    · rcases transcript_bind rest with
        ⟨third, collected, collecting, _, rfl, collects, rest⟩ |
          ⟨_, failed, -⟩
      · rcases transcript_bind rest with
          ⟨fourth, _, asking, _, rfl, quietAgain, rest⟩ | ⟨_, failed, -⟩
        · rcases transcript_bind rest with
            ⟨fifth, again, handingAgain, _, rfl, handoffAgain, rest⟩ |
              ⟨_, failed, -⟩
          · rcases transcript_callBind rest with
              ⟨ready, now, answered, last, rfl, evolves, answers, returned⟩
            rcases transcript_ret returned with ⟨rfl, rfl, same⟩
            cases same
            exact ⟨handed, collected, first, second, third, fourth, fifth,
              ready, asked, handing, collecting, asking, handingAgain,
              streamQuiet_of_transcript quiet, handed_of_transcript handoff,
              collected_of_transcript collects,
              streamQuiet_of_transcript quietAgain,
              handed_of_transcript handoffAgain, evolves, answers, rfl⟩
          · cases failed
        · cases failed
      · cases failed
    · cases failed
  · cases failed

/-! ## The loop -/

section Loop

variable {sessionId : String} {state fetched : SessionPullState}
  {nowMs : Int} {index : Nat} {taken : Option ProviderEvent}

/-- The call for the next page of a scan. -/
def pageCall (puller : ProviderMessagePuller) (sessionId : String)
    (scan : HistoryScan) : Call :=
  .fetchHistoryPage puller.provider sessionId scan.startMs scan.endMs
    scan.pageToken

/-- The session after the answer of a history query that does not raise. -/
inductive Received (puller : ProviderMessagePuller) (sessionId : String)
    (state : SessionPullState) (scan : HistoryScan) (nowMs : Int) :
    Except PyError HistoryPage → SessionPullState → Prop where
  | failed {exc : PyError} (transient : exc.cls = .transientProviderError) :
      Received puller sessionId state scan nowMs (.error exc)
        { state with
          nextHistoryAtMs := nowMs + puller.config.historyRetryDelayMs }
  | page {page : HistoryPage}
      (own : ∀ event ∈ page.events,
        BelongsTo puller.provider sessionId event) :
      Received puller sessionId state scan nowMs (.ok page)
        (receivedPage state scan page)

/-- The session may ask for the next page of its scan. -/
structure Due (nowMs : Int) (state : SessionPullState) : Prop where
  idle : state.inFlight = none
  empty : state.historyEvents = []
  scanning : state.historyScan.isSome = true
  waited : state.nextHistoryAtMs ≤ nowMs

/-- The one history query of a session that is due. -/
structure Queried (environment : Environment service)
    (puller : ProviderMessagePuller) (nowMs : Int) (sessionId : String)
    (state : SessionPullState) (before : environment.State)
    (exchanges : List (Exchanged service)) (fetched : SessionPullState)
    (after : environment.State) : Prop where
  due : Due nowMs state
  asked : ∃ scan answer ready, state.historyScan = some scan ∧
    exchanges = [⟨pageCall puller sessionId scan, answer⟩] ∧
    environment.Evolves before ready ∧
    environment.Answers ready (pageCall puller sessionId scan) answer after ∧
    Received puller sessionId state scan nowMs answer fetched

/-- What the loop does at one session. -/
inductive Served (environment : Environment service)
    (puller : ProviderMessagePuller) (nowMs : Int) (index : Nat)
    (sessionId : String) (state : SessionPullState)
    (before : environment.State) : List (Exchanged service) →
      Option ProviderEvent → ProviderMessagePuller → environment.State →
        Prop where
  | busy (busy : state.inFlight.isSome = true) :
      Served environment puller nowMs index sessionId state before [] none
        puller before
  | queued {event rest} (idle : state.inFlight = none)
      (queue : state.historyEvents = event :: rest) :
      Served environment puller nowMs index sessionId state before []
        (some event)
        (puller.deliver index sessionId { state with historyEvents := rest }
          event) before
  | live {event next} (idle : state.inFlight = none)
      (empty : state.historyEvents = []) (notDue : ¬Due nowMs state)
      (delivered : puller.deliverLive index sessionId state =
        some (event, next)) :
      Served environment puller nowMs index sessionId state before []
        (some event) next before
  | nothing (idle : state.inFlight = none)
      (empty : state.historyEvents = []) (notDue : ¬Due nowMs state)
      (noneLive : puller.deliverLive index sessionId state = none) :
      Served environment puller nowMs index sessionId state before [] none
        puller before
  | queriedEvent {asked page event rest after}
      (queried : Queried environment puller nowMs sessionId state before
        asked page after)
      (received : page.historyEvents = event :: rest) :
      Served environment puller nowMs index sessionId state before asked
        (some event)
        ((puller.advanced index sessionId page).deliver index sessionId
          { page with historyEvents := rest } event) after
  | queriedLive {asked page event next after}
      (queried : Queried environment puller nowMs sessionId state before
        asked page after)
      (received : page.historyEvents = [])
      (delivered : (puller.advanced index sessionId page).deliverLive index
        sessionId page = some (event, next)) :
      Served environment puller nowMs index sessionId state before asked
        (some event) next after
  | queriedNothing {asked page after}
      (queried : Queried environment puller nowMs sessionId state before
        asked page after)
      (received : page.historyEvents = [])
      (noneLive : (puller.advanced index sessionId page).deliverLive index
        sessionId page = none) :
      Served environment puller nowMs index sessionId state before asked
        none (puller.advanced index sessionId page) after

theorem queried_of_transcript (due : Due nowMs state)
    (transcript : Transcript environment before
      (puller.fetchHistoryPageOf sessionId state nowMs) exchanges after
      (.ok fetched)) :
    Queried environment puller nowMs sessionId state before exchanges fetched
      after := by
  refine ⟨due, ?_⟩
  rw [fetchHistoryPageOf] at transcript
  split at transcript
  · next absent =>
      have scanning := due.scanning
      rw [absent] at scanning
      cases scanning
  · next scan scanning =>
      rcases transcript_call transcript with
        ⟨ready, answer, answered, rest, rfl, evolves, answers, tail⟩
      cases answer with
      | error exc =>
          dsimp only at tail
          split_ifs at tail with transient
          · rcases transcript_ret tail with ⟨rfl, rfl, returned⟩
            cases returned
            exact ⟨scan, _, ready, scanning, rfl, evolves, answers,
              .failed transient⟩
          · cases (transcript_fail tail).2.2
      | ok page =>
          dsimp only at tail
          split_ifs at tail with foreign
          · cases (transcript_fail tail).2.2
          · rcases transcript_ret tail with ⟨rfl, rfl, returned⟩
            cases returned
            refine ⟨scan, _, ready, scanning, rfl, evolves, answers, .page ?_⟩
            intro event member
            have own := not_or.mp (not_exists.mp foreign event ∘
              And.intro member)
            exact ⟨not_not.mp own.1, not_not.mp own.2⟩

theorem served_of_transcript
    (transcript : Transcript environment before
      (puller.serveSession nowMs index sessionId state) exchanges after
      (.ok (taken, next))) :
    Served environment puller nowMs index sessionId state before exchanges
      taken next after := by
  rw [serveSession] at transcript
  cases busy : state.inFlight with
  | some event =>
      rw [if_pos (by rw [busy]; rfl)] at transcript
      rcases transcript_ret transcript with ⟨rfl, rfl, returned⟩
      cases returned
      exact .busy (by rw [busy]; rfl)
  | none =>
      rw [if_neg (by simp [busy])] at transcript
      cases queue : state.historyEvents with
      | cons event rest =>
          simp only [queue] at transcript
          rcases transcript_ret transcript with ⟨rfl, rfl, returned⟩
          cases returned
          exact .queued busy queue
      | nil =>
          simp only [queue] at transcript
          split_ifs at transcript with isDue
          · have due : Due nowMs state := ⟨busy, queue, isDue.1, isDue.2⟩
            rcases transcript_bind transcript with
              ⟨middle, fetched, first, rest, rfl, fetches, tail⟩ |
                ⟨_, failed, -⟩
            · have queried := queried_of_transcript due fetches
              cases received : fetched.historyEvents with
              | cons event rest =>
                  simp only [received] at tail
                  rcases transcript_ret tail with ⟨rfl, rfl, returned⟩
                  cases returned
                  rw [List.append_nil]
                  exact .queriedEvent queried received
              | nil =>
                  simp only [received] at tail
                  cases live : (puller.advanced index sessionId
                      fetched).deliverLive index sessionId fetched with
                  | some delivered =>
                      rw [live] at tail
                      rcases transcript_ret tail with ⟨rfl, rfl, returned⟩
                      cases returned
                      rw [List.append_nil]
                      exact .queriedLive queried received live
                  | none =>
                      rw [live] at tail
                      rcases transcript_ret tail with ⟨rfl, rfl, returned⟩
                      cases returned
                      rw [List.append_nil]
                      exact .queriedNothing queried received live
            · cases failed
          · have notDue : ¬Due nowMs state := fun due =>
              isDue ⟨due.scanning, due.waited⟩
            cases live : puller.deliverLive index sessionId state with
            | some delivered =>
                rw [live] at transcript
                rcases transcript_ret transcript with ⟨rfl, rfl, returned⟩
                cases returned
                exact .live busy queue notDue live
            | none =>
                rw [live] at transcript
                rcases transcript_ret transcript with ⟨rfl, rfl, returned⟩
                cases returned
                exact .nothing busy queue notDue live

/-- One round of the loop, and the rounds after it. -/
theorem serveSessions_of_transcript {offset remaining : Nat}
    (transcript : Transcript environment before
      (puller.serveSessions nowMs offset (remaining + 1)) exchanges after
      (.ok (taken, next))) :
    ∃ sessionId state found reached middle first rest,
      puller.sessionOrder[(puller.sessionCursor + offset) %
        puller.sessionOrder.length]? = some sessionId ∧
      puller.sessions.get? sessionId = some state ∧
      exchanges = first ++ rest ∧
      Served environment puller nowMs
        ((puller.sessionCursor + offset) % puller.sessionOrder.length)
        sessionId state before first found reached middle ∧
      match found with
      | some event =>
          taken = some event ∧ next = reached ∧ after = middle ∧ rest = []
      | none => Transcript environment middle
          (reached.serveSessions nowMs (offset + 1) remaining) rest after
            (.ok (taken, next)) := by
  rw [serveSessions] at transcript
  cases inOrder : puller.sessionOrder[(puller.sessionCursor + offset) %
      puller.sessionOrder.length]? with
  | none =>
      simp only [inOrder] at transcript
      cases (transcript_fail transcript).2.2
  | some sessionId =>
      simp only [inOrder] at transcript
      cases known : puller.sessions.get? sessionId with
      | none =>
          simp only [known] at transcript
          cases (transcript_fail transcript).2.2
      | some state =>
          simp only [known] at transcript
          rcases transcript_bind transcript with
            ⟨middle, ⟨found, reached⟩, first, rest, rfl, serves, tail⟩ |
              ⟨_, failed, -⟩
          · refine ⟨sessionId, state, found, reached, middle, first, rest, rfl,
              known, rfl, served_of_transcript serves, ?_⟩
            cases found with
            | some event =>
                rcases transcript_ret tail with ⟨rfl, rfl, returned⟩
                cases returned
                exact ⟨rfl, rfl, rfl, rfl⟩
            | none => exact tail
          · cases failed

end Loop

/-! ## The sessions stay the same -/

section Same

variable {entry : ProviderMessagePuller} {nowMs : Int} {sessionId : String}
  {state : SessionPullState}

/-- The sessions and their order are the same. -/
structure SameSessions (before after : ProviderMessagePuller) : Prop where
  sessionOrder : after.sessionOrder = before.sessionOrder
  contains : ∀ sessionId, after.sessions.contains sessionId =
    before.sessions.contains sessionId
  started : after.started = before.started

theorem SameSessions.refl (puller : ProviderMessagePuller) :
    SameSessions puller puller := ⟨rfl, fun _ => rfl, rfl⟩

theorem SameSessions.trans {middle : ProviderMessagePuller}
    (first : SameSessions puller middle) (second : SameSessions middle next) :
    SameSessions puller next where
  sessionOrder := second.sessionOrder.trans first.sessionOrder
  contains sessionId := (second.contains sessionId).trans
    (first.contains sessionId)
  started := second.started.trans first.started

theorem sameSessions_setSession {stored : SessionPullState}
    (found : puller.sessions.get? sessionId = some state) :
    SameSessions puller (puller.setSession sessionId stored) :=
  ⟨rfl, fun _ => contains_setSession found, rfl⟩

theorem sameSessions_deliverLive {index : Nat} {event : ProviderEvent}
    (found : puller.sessions.get? sessionId = some state)
    (delivered : puller.deliverLive index sessionId state =
      some (event, next)) : SameSessions puller next := by
  rw [deliverLive] at delivered
  split_ifs at delivered with scanned
  rcases Option.map_eq_some_iff.mp delivered with ⟨⟨taken, rest⟩, -, same⟩
  cases same
  exact ⟨rfl, (sameSessions_setSession found).contains, rfl⟩

theorem Handed.sameSessions
    (handed : Handed environment puller before exchanges next after) :
    SameSessions puller next := by
  cases handed with
  | same => exact SameSessions.refl _
  | reconnected =>
      refine ⟨rfl, fun sessionId => ?_, rfl⟩
      rw [handedOff, Dict.contains, Dict.get?_mapValues, Dict.contains]
      simp

theorem Collected.sameSessions
    (collected : Collected environment puller before exchanges next after) :
    SameSessions puller next := by
  cases collected with
  | full => exact SameSessions.refl _
  | nothing => exact SameSessions.refl _
  | event => exact ⟨rfl, fun _ => rfl, rfl⟩

theorem Prepared.sameSessions
    (prepared : Prepared environment puller before exchanges entry nowMs
      after) : SameSessions puller entry := by
  rcases prepared.steps with ⟨handed, collected, _, _, _, _, _, _, _, _, _, _,
    _, -, first, second, -, third, -⟩
  exact first.sameSessions.trans (second.sameSessions.trans third.sameSessions)

theorem Served.sameSessions {index : Nat} {taken : Option ProviderEvent}
    (found : puller.sessions.get? sessionId = some state)
    (served : Served environment puller nowMs index sessionId state before
      exchanges taken next after) : SameSessions puller next := by
  have refound : ∀ page, (puller.advanced index sessionId page).sessions.get?
      sessionId = some page := fun _ => Dict.get?_set_self _ _ _
  have advanced : ∀ page,
      SameSessions puller (puller.advanced index sessionId page) := fun page =>
    ⟨rfl, (sameSessions_setSession found).contains, rfl⟩
  cases served with
  | busy => exact SameSessions.refl _
  | nothing => exact SameSessions.refl _
  | queued => exact ⟨rfl, (sameSessions_setSession found).contains, rfl⟩
  | live _ _ _ delivered => exact sameSessions_deliverLive found delivered
  | @queriedEvent _ page =>
      refine (advanced page).trans ⟨rfl, ?_, rfl⟩
      exact (sameSessions_setSession (refound page)).contains
  | @queriedLive _ page _ _ _ _ _ delivered =>
      exact (advanced page).trans
        (sameSessions_deliverLive (refound page) delivered)
  | @queriedNothing _ page => exact advanced page

theorem sameSessions_serveSessions {offset remaining : Nat}
    {taken : Option ProviderEvent}
    (transcript : Transcript environment before
      (puller.serveSessions nowMs offset remaining) exchanges after
      (.ok (taken, next))) : SameSessions puller next := by
  induction remaining generalizing puller offset before exchanges with
  | zero =>
      rcases transcript_ret transcript with ⟨rfl, rfl, returned⟩
      cases returned
      exact SameSessions.refl _
  | succ remaining ih =>
      rcases serveSessions_of_transcript transcript with
        ⟨visited, state, found, reached, middle, first, rest, -, known, rfl,
          served, tail⟩
      have same := Served.sameSessions known served
      cases found with
      | some event =>
          rw [tail.2.1]
          exact same
      | none => exact same.trans (ih tail)

end Same

/-! ## Whole calls -/

/-- A call of `take_message` that returns, with the puller and the time at
which its loop begins: after the reconnect checks. -/
structure Takes (environment : Environment service)
    (puller : ProviderMessagePuller) (before : environment.State)
    (exchanges : List (Exchanged service)) (entry : ProviderMessagePuller)
    (nowMs : Int) (taken : Option ProviderEvent)
    (next : ProviderMessagePuller) (after : environment.State) : Prop where
  started : puller.started = true
  parts : ∃ asked queried middle, exchanges = asked ++ queried ∧
    Prepared environment puller before asked entry nowMs middle ∧
    Transcript environment middle (wholeLoop entry nowMs) queried after
      (.ok (taken, next))

theorem takes_of_transcript {taken : Option ProviderEvent}
    (transcript : Transcript environment before puller.takeMessage exchanges
      after (.ok (taken, next))) :
    ∃ entry nowMs, Takes environment puller before exchanges entry nowMs taken
      next after := by
  cases started : puller.started with
  | false =>
      rw [takeMessage, if_pos started] at transcript
      cases (transcript_fail transcript).2.2
  | true =>
      rw [takeMessage_eq started] at transcript
      rcases transcript_bind transcript with
        ⟨middle, ⟨entry, nowMs⟩, asked, queried, rfl, prepares, loops⟩ |
          ⟨_, failed, -⟩
      · exact ⟨entry, nowMs, started, asked, queried, middle, rfl,
          prepared_of_transcript prepares, loops⟩
      · cases failed

theorem Takes.sameSessions {entry : ProviderMessagePuller} {nowMs : Int}
    {taken : Option ProviderEvent}
    (takes : Takes environment puller before exchanges entry nowMs taken next
      after) : SameSessions puller next := by
  rcases takes.parts with ⟨asked, queried, middle, -, prepared, loops⟩
  exact prepared.sameSessions.trans (sameSessions_serveSessions loops)

/-! ## Reachable pullers -/

/-- The pullers that can be reached, with the state of the environment.  Of a
call that raises only the sessions are followed. -/
inductive Reachable (environment : Environment service) (provider : String)
    (config : ProviderSyncConfig) :
    ProviderMessagePuller → environment.State → Prop where
  | created {state} : Reachable environment provider config
      (ProviderMessagePuller.create provider config) state
  | evolves {puller : ProviderMessagePuller}
      {before after : environment.State}
      (reached : Reachable environment provider config puller before)
      (evolves : environment.Evolves before after) :
      Reachable environment provider config puller after
  | starts {puller next : ProviderMessagePuller}
      {before after : environment.State} {highwater}
      (reached : Reachable environment provider config puller before)
      (run : Runs environment before (puller.start highwater) after
        (.ok next)) :
      Reachable environment provider config next after
  | failsToStart {puller next : ProviderMessagePuller}
      {before after : environment.State} {highwater exc}
      (reached : Reachable environment provider config puller before)
      (run : Runs environment before (puller.start highwater) after
        (.error exc)) (notStarted : next.started = false) :
      Reachable environment provider config next after
  | stops {puller next : ProviderMessagePuller}
      {before after : environment.State}
      (reached : Reachable environment provider config puller before)
      (run : Runs environment before puller.stop after (.ok next)) :
      Reachable environment provider config next after
  | takes {puller next : ProviderMessagePuller}
      {before after : environment.State} {taken}
      (reached : Reachable environment provider config puller before)
      (run : Runs environment before puller.takeMessage after
        (.ok (taken, next))) :
      Reachable environment provider config next after
  | raises {puller next : ProviderMessagePuller}
      {before after : environment.State} {exc}
      (reached : Reachable environment provider config puller before)
      (run : Runs environment before puller.takeMessage after (.error exc))
      (same : SameSessions puller next) :
      Reachable environment provider config next after
  | acknowledges {puller next : ProviderMessagePuller} {state event}
      (reached : Reachable environment provider config puller state)
      (done : puller.acknowledge event = .ok next) :
      Reachable environment provider config next state

end OpenEventIm.Syncer.PullerTurns
