import OpenEventIm.Syncer.RoundRobin
import Mathlib.Data.Nat.Find

/-!
# Isolation of the sessions of a puller

One session is ready to take its live events while every other session stays
blocked.  Its next event waits behind the events of the others, first in the
adapter's queue and then in the puller's bounded buffer, which nothing leaves.
The event is delivered when it gets into the buffer, and when again and again a
round reaches its session before any history is due.
-/

namespace OpenEventIm.Syncer.SessionIsolation

open OpenEventIm.Foundation
open OpenEventIm.Foundation.Interaction
open OpenEventIm.Foundation.Transcripts
open OpenEventIm.Sdk.Errors
open OpenEventIm.Service.Calls
open OpenEventIm.Syncer.Models
open OpenEventIm.Syncer.ProviderMessages
open OpenEventIm.Syncer.ProviderMessages.ProviderMessagePuller
open OpenEventIm.Syncer.PullerSessions
open OpenEventIm.Syncer.PullerTurns
open OpenEventIm.Syncer.RoundRobin

/-! ## The adapter -/

/-- The adapter's queue is first in, first out; the stream has no error and does
not reconnect; every history query fails transiently. -/
def AdapterAnswers (generation : Nat) (queue : List ProviderEvent) :
    (request : Call) → Answer request → List ProviderEvent → Prop
  | .eventStreamError _, answer, after => answer = .ok none ∧ after = queue
  | .eventStreamGeneration _, answer, after =>
      answer = .ok generation ∧ after = queue
  | .takeEvent _, answer, after =>
      answer = .ok queue.head? ∧ after = queue.tail
  | .fetchHistoryPage .., answer, after =>
      ∃ exc : PyError, exc.cls = .transientProviderError ∧
        answer = .error exc ∧ after = queue
  | _, _, after => after = queue

/-- The adapter; at any time its subscription may enqueue an event. -/
@[reducible]
def blockedAdapter (generation : Nat) : Environment service where
  State := List ProviderEvent
  Interferes queue after := ∃ event, after = queue ++ [event]
  Answers := AdapterAnswers generation

variable {generation : Nat} {queue middle after : List ProviderEvent}
  {puller entry next : ProviderMessagePuller} {nowMs : Int}
  {exchanges : List (Exchanged service)} {sessionId other : String}
  {state : SessionPullState} {taken : Option ProviderEvent}

theorem prefix_of_evolves
    (evolves : (blockedAdapter generation).Evolves queue after) :
    queue <+: after := by
  induction evolves with
  | refl => exact List.prefix_rfl
  | tail _ step ih =>
      rcases step with ⟨event, rfl⟩
      exact ih.trans (List.prefix_append _ _)

/-! ## Blocked sessions -/

/-- The session waits for an acknowledgement, or for its history. -/
def Blocked (state : SessionPullState) : Prop :=
  state.inFlight.isSome = true ∨
    state.historyScan.isSome = true ∧ state.historyEvents = []

/-- The session takes live events only. -/
structure TakesLive (state : SessionPullState) : Prop where
  idle : state.inFlight = none
  scanned : state.historyScan = none
  empty : state.historyEvents = []

/-- One session takes live events while the others are blocked. -/
structure Isolated (generation : Nat) (sessionId : String)
    (puller : ProviderMessagePuller) : Prop where
  ordered : Ordered puller
  generation : puller.streamGeneration = generation
  takesLive : ∃ state, puller.sessions.get? sessionId = some state ∧
    TakesLive state
  blocked : ∀ other state, other ≠ sessionId →
    puller.sessions.get? other = some state → Blocked state

/-- Nothing but the cursor and the times of the next queries has changed. -/
structure Waits (generation : Nat) (sessionId : String)
    (before after : ProviderMessagePuller) : Prop where
  isolated : Isolated generation sessionId after
  config : after.config = before.config
  liveEvents : after.liveEvents = before.liveEvents

theorem Waits.refl (isolated : Isolated generation sessionId puller) :
    Waits generation sessionId puller puller := ⟨isolated, rfl, rfl⟩

theorem Waits.trans {between : ProviderMessagePuller}
    (first : Waits generation sessionId puller between)
    (second : Waits generation sessionId between next) :
    Waits generation sessionId puller next where
  isolated := second.isolated
  config := second.config.trans first.config
  liveEvents := second.liveEvents.trans first.liveEvents

/-- A blocked session delivers nothing live. -/
theorem Blocked.deliverLive {index : Nat} (blocked : Blocked state)
    (idle : state.inFlight = none) :
    puller.deliverLive index other state = none := by
  rw [deliverLive_eq_none_iff]
  intro absent
  rcases blocked with busy | ⟨scanning, -⟩
  · rw [idle] at busy
    cases busy
  · rw [absent] at scanning
    cases scanning

/-- At a blocked session only a query can happen, and it fails. -/
theorem served_blocked {index : Nat}
    (isolated : Isolated generation sessionId puller)
    (different : other ≠ sessionId)
    (found : puller.sessions.get? other = some state)
    (served : Served (blockedAdapter generation) puller nowMs index other state
      queue exchanges taken next after) :
    taken = none ∧ Waits generation sessionId puller next ∧
      queue <+: after := by
  have blocked := isolated.blocked other state different found
  -- a query that fails leaves the session blocked
  have fails : ∀ {page}, Queried (blockedAdapter generation) puller nowMs other
      state queue exchanges page after →
        page.historyEvents = [] ∧ page.inFlight = none ∧ Blocked page ∧
          queue <+: after := by
    intro page queried
    rcases queried.asked with
      ⟨scan, answer, ready, scanning, -, evolves, answers, received⟩
    rcases answers with ⟨exc, -, rfl, rfl⟩
    cases received with
    | failed => exact ⟨queried.due.empty, queried.due.idle,
        Or.inr ⟨queried.due.scanning, queried.due.empty⟩,
        prefix_of_evolves evolves⟩
  rcases served with ⟨-⟩ | ⟨idle, queue⟩ | ⟨idle, -, -, delivered⟩ | ⟨-⟩ |
    ⟨queried, received⟩ | ⟨queried, received, delivered⟩ |
    @⟨_, page, _, queried, -, -⟩
  · exact ⟨rfl, .refl isolated, List.prefix_rfl⟩
  · rcases blocked with busy | ⟨-, empty⟩
    · rw [idle] at busy
      cases busy
    · rw [empty] at queue
      cases queue
  · rw [blocked.deliverLive idle] at delivered
    cases delivered
  · exact ⟨rfl, .refl isolated, List.prefix_rfl⟩
  · rw [(fails queried).1] at received
    cases received
  · rcases fails queried with ⟨-, idle, stays, -⟩
    rw [stays.deliverLive idle] at delivered
    cases delivered
  · rcases fails queried with ⟨-, idle, stays, grows⟩
    refine ⟨rfl, ⟨⟨?_, isolated.generation, ?_, ?_⟩, rfl, rfl⟩, grows⟩
    · exact isolated.ordered.of_sameSessions
        ⟨rfl, (sameSessions_setSession found).contains, rfl⟩
    · rcases isolated.takesLive with ⟨own, isOwn, takesLive⟩
      refine ⟨own, ?_, takesLive⟩
      show (puller.setSession other page).sessions.get? sessionId = _
      rw [get?_setSession, if_neg different]
      exact isOwn
    · intro third stored apart given
      have sessions : (puller.setSession other page).sessions.get? third =
          some stored := given
      rw [get?_setSession] at sessions
      split_ifs at sessions
      · cases sessions
        exact stays
      · exact isolated.blocked third stored apart sessions

/-- The session itself delivers its first live event. -/
theorem served_own {index : Nat}
    (isolated : Isolated generation sessionId puller)
    (found : puller.sessions.get? sessionId = some state)
    (served : Served (blockedAdapter generation) puller nowMs index sessionId
      state queue exchanges taken next after) :
    (taken = none ∧ next = puller ∧ after = queue ∧
        ∀ event ∈ puller.liveEvents, event.sessionId ≠ sessionId) ∨
      ∃ event ∈ puller.liveEvents, taken = some event ∧
        event.sessionId = sessionId := by
  rcases isolated.takesLive with ⟨own, isOwn, idle, scanned, empty⟩
  rw [found] at isOwn
  cases isOwn
  have notDue : ¬Due nowMs state := by
    intro due
    have scanning := due.scanning
    rw [scanned] at scanning
    cases scanning
  rcases served with ⟨busy⟩ | ⟨-, queue⟩ | ⟨-, -, -, delivered⟩ |
    ⟨-, -, -, noneLive⟩ | ⟨queried, -⟩ | ⟨queried, -, -⟩ | ⟨queried, -, -⟩
  · rw [idle] at busy
    cases busy
  · rw [empty] at queue
    cases queue
  · rw [deliverLive, if_pos scanned] at delivered
    rcases Option.map_eq_some_iff.mp delivered with ⟨⟨event, rest⟩, live, same⟩
    cases same
    rcases takeLiveEvent_eq_some live with ⟨first, last, split, -, ofSession, -⟩
    refine Or.inr ⟨event, ?_, rfl, ofSession⟩
    rw [split]
    exact List.mem_append_right _ List.mem_cons_self
  · exact Or.inl ⟨rfl, rfl, rfl, deliverLive_eq_none_iff.mp noneLive scanned⟩
  · exact absurd queried.due notDue
  · exact absurd queried.due notDue
  · exact absurd queried.due notDue

/-! ## The loop -/

/-- A loop delivers an event of the session, or everything waits. -/
theorem loop_isolated {offset remaining : Nat}
    (isolated : Isolated generation sessionId puller)
    (transcript : Transcript (blockedAdapter generation) queue
      (puller.serveSessions nowMs offset remaining) exchanges after
      (.ok (taken, next))) :
    (taken = none ∧ Waits generation sessionId puller next ∧
        queue <+: after) ∨
      ∃ event ∈ puller.liveEvents, taken = some event ∧
        event.sessionId = sessionId := by
  induction remaining generalizing puller offset queue exchanges with
  | zero =>
      rcases transcript_ret transcript with ⟨rfl, rfl, returned⟩
      cases returned
      exact Or.inl ⟨rfl, .refl isolated, List.prefix_rfl⟩
  | succ remaining ih =>
      rcases serveSessions_of_transcript transcript with
        ⟨visited, state, found, reached, middle, first, rest, -, known, rfl,
          served, tail⟩
      have once : (found = none ∧ Waits generation sessionId puller reached ∧
          queue <+: middle) ∨ ∃ event ∈ puller.liveEvents,
            found = some event ∧ event.sessionId = sessionId := by
        by_cases same : visited = sessionId
        · subst same
          rcases served_own isolated known served with
            ⟨rfl, rfl, rfl, -⟩ | delivers
          · exact Or.inl ⟨rfl, .refl isolated, List.prefix_rfl⟩
          · exact Or.inr delivers
        · exact Or.inl (served_blocked isolated same known served)
      rcases once with ⟨rfl, waits, grows⟩ | ⟨event, live, rfl, own⟩
      · rcases ih waits.isolated tail with
          ⟨rfl, later, growsLater⟩ | ⟨event, live, isTaken, own⟩
        · exact Or.inl ⟨rfl, waits.trans later, grows.trans growsLater⟩
        · rw [waits.liveEvents] at live
          exact Or.inr ⟨event, live, isTaken, own⟩
      · exact Or.inr ⟨event, live, tail.1, own⟩

/-- No history is due before the round reaches the session. -/
def TurnComes (nowMs : Int) (sessionId : String)
    (puller : ProviderMessagePuller) : Prop :=
  ∀ earlier later, roundOf puller = earlier ++ sessionId :: later →
    ∀ other ∈ earlier, ¬MustQuery nowMs puller other

theorem loop_reaches {earlier later : List String}
    (isolated : Isolated generation sessionId puller)
    (apart : ∀ other ∈ later, other ≠ sessionId)
    (notDue : ∀ other ∈ later, ¬MustQuery nowMs puller other)
    {rest : List String}
    (round : roundOf puller = earlier ++ (later ++ sessionId :: rest))
    (waiting : ∃ event ∈ puller.liveEvents, event.sessionId = sessionId)
    (transcript : Transcript (blockedAdapter generation) queue
      (puller.serveSessions nowMs earlier.length
        (later ++ sessionId :: rest).length) exchanges after
      (.ok (taken, next))) : taken ≠ none := by
  induction later generalizing earlier with
  | nil =>
      rcases serveSessions_of_transcript transcript with
        ⟨visited, state, found, reached, middle, first, last, inOrder, known,
          rfl, served, tail⟩
      rw [getElem?_roundOf round] at inOrder
      cases inOrder
      rcases served_own isolated known served with
        ⟨-, -, -, noneLive⟩ | ⟨event, -, rfl, -⟩
      · rcases waiting with ⟨event, live, own⟩
        exact absurd own (noneLive event live)
      · rw [tail.1]
        nofun
  | cons head later ih =>
      rcases serveSessions_of_transcript transcript with
        ⟨visited, state, found, reached, middle, first, last, inOrder, known,
          rfl, served, tail⟩
      rw [getElem?_roundOf round] at inOrder
      cases inOrder
      have different := apart head List.mem_cons_self
      have quiet : Quiet nowMs puller head := by
        have query := notDue head List.mem_cons_self
        rw [quiet_iff known]
        refine ⟨fun due => query ⟨state, known, due⟩, fun idle => ?_⟩
        rcases isolated.blocked head state different known with
          busy | ⟨scanning, empty⟩
        · rw [idle] at busy
          cases busy
        · refine ⟨empty, fun absent => ?_⟩
          rw [absent] at scanning
          cases scanning
      rcases served_quiet known quiet served with ⟨rfl, rfl, rfl, rfl⟩
      have split : roundOf reached =
          (earlier ++ [head]) ++ (later ++ sessionId :: rest) := by
        rw [round, List.append_assoc]
        rfl
      refine ih (fun other member => apart other (List.mem_cons_of_mem _ member))
        (fun other member => notDue other (List.mem_cons_of_mem _ member))
        split ?_
      rw [List.length_append]
      exact tail

/-! ## Before the loop -/

/-- How the buffer is filled from the adapter's queue. -/
structure Fills (before : ProviderMessagePuller) (queue : List ProviderEvent)
    (after : ProviderMessagePuller) (later : List ProviderEvent) : Prop where
  config : after.config = before.config
  stream : before.liveEvents ++ queue <+: after.liveEvents ++ later
  kept : before.liveEvents <+: after.liveEvents
  bounded : after.liveEvents.length ≤
    max before.liveEvents.length before.config.eventQueueSize
  advances : queue ≠ [] →
    before.liveEvents.length < before.config.eventQueueSize →
      before.liveEvents.length < after.liveEvents.length

/-- Without a reconnect nothing is handed off. -/
theorem handed_same (same : puller.streamGeneration = generation)
    (handed : Handed (blockedAdapter generation) puller queue exchanges next
      after) : next = puller ∧ queue <+: after := by
  rcases handed with ⟨evolves, answers⟩ | ⟨_, answers, newer, _, _⟩
  · rw [show after = _ from answers.2]
    exact ⟨rfl, prefix_of_evolves evolves⟩
  · rcases answers with ⟨answered, -⟩
    cases answered
    exact absurd newer (Nat.not_lt.mpr (Nat.le_of_eq same.symm))

theorem quiet_grows {provider : String}
    (quiet : StreamQuiet (blockedAdapter generation) provider queue exchanges
      after) : queue <+: after := by
  rcases quiet with ⟨evolves, answers⟩
  rw [show after = _ from answers.2]
  exact prefix_of_evolves evolves

theorem collected_fills
    (collected : Collected (blockedAdapter generation) puller queue exchanges
      next after) : Fills puller queue next after := by
  rcases collected with ⟨full⟩ | ⟨room, evolves, answers⟩ |
    ⟨room, evolves, answers, -, -⟩
  · exact ⟨rfl, List.prefix_rfl, List.prefix_rfl, Nat.le_max_left _ _,
      fun _ room => absurd full (Nat.not_le.mpr room)⟩
  · rcases answers with ⟨answered, rfl⟩
    have grows := prefix_of_evolves evolves
    have empty := List.head?_eq_none_iff.mp (Except.ok.inj answered).symm
    rw [empty] at grows ⊢
    cases List.prefix_nil.mp grows
    exact ⟨rfl, List.prefix_rfl, List.prefix_rfl, Nat.le_max_left _ _,
      fun nonempty => absurd rfl nonempty⟩
  · rename_i ready event
    rcases answers with ⟨answered, rfl⟩
    have grows := prefix_of_evolves evolves
    rcases List.head?_eq_some_iff.mp (Except.ok.inj answered).symm with
      ⟨rest, rfl⟩
    refine ⟨rfl, ?_, List.prefix_append _ _, ?_, fun _ _ => ?_⟩
    · show puller.liveEvents ++ queue <+: (puller.liveEvents ++ [event]) ++ rest
      rw [List.append_assoc]
      exact (List.prefix_append_right_inj _).mpr grows
    · show (puller.liveEvents ++ [event]).length ≤ _
      rw [List.length_append, List.length_singleton]
      exact Nat.le_trans room (Nat.le_max_right _ _)
    · show _ < (puller.liveEvents ++ [event]).length
      rw [List.length_append, List.length_singleton]
      exact Nat.lt_succ_self _

/-- A queue that has grown before or after makes no difference. -/
theorem Fills.grown {earlier later : List ProviderEvent}
    (fills : Fills puller queue next after) (before : earlier <+: queue)
    (behind : after <+: later) : Fills puller earlier next later where
  config := fills.config
  stream := ((List.prefix_append_right_inj _).mpr before).trans
    (fills.stream.trans ((List.prefix_append_right_inj _).mpr behind))
  kept := fills.kept
  bounded := fills.bounded
  advances nonempty := fills.advances fun empty =>
    nonempty (List.prefix_nil.mp (empty ▸ before))

theorem collected_isolated
    (isolated : Isolated generation sessionId puller)
    (collected : Collected (blockedAdapter generation) puller queue exchanges
      next after) : Isolated generation sessionId next := by
  rcases collected with ⟨-⟩ | ⟨-, -, -⟩ | ⟨-, -, -, -, -⟩
  · exact isolated
  · exact isolated
  · exact ⟨⟨isolated.ordered.distinct, isolated.ordered.known⟩,
      isolated.generation, isolated.takesLive, isolated.blocked⟩

theorem prepared_isolated
    (isolated : Isolated generation sessionId puller)
    (prepared : Prepared (blockedAdapter generation) puller queue exchanges
      entry nowMs after) :
    Isolated generation sessionId entry ∧ Fills puller queue entry after := by
  rcases prepared.steps with ⟨handed, collected, _, _, _, _, _, _, _, _, _, _,
    _, quiet, handoff, collects, quietAgain, handoffAgain, evolves, answers,
    -⟩
  rcases handed_same isolated.generation handoff with ⟨rfl, grows⟩
  have isolatedNow := collected_isolated isolated collects
  rcases handed_same isolatedNow.generation handoffAgain with
    ⟨rfl, growsAgain⟩
  refine ⟨isolatedNow, (collected_fills collects).grown
    ((quiet_grows quiet).trans grows) ?_⟩
  rw [show after = _ from answers]
  exact (quiet_grows quietAgain).trans
    (growsAgain.trans (prefix_of_evolves evolves))

/-! ## One call -/

/-- A call fills the buffer; then it delivers an event of the session, or
everything waits. -/
theorem takes_isolated
    (isolated : Isolated generation sessionId puller)
    (takes : Takes (blockedAdapter generation) puller queue exchanges entry
      nowMs taken next after) :
    (∃ reached, Fills puller queue entry reached) ∧
      ((taken = none ∧ Isolated generation sessionId next ∧
          Fills puller queue next after) ∨
        ∃ event ∈ entry.liveEvents, taken = some event ∧
          event.sessionId = sessionId) := by
  rcases takes.parts with ⟨asked, queried, middle, -, prepared, loops⟩
  rcases prepared_isolated isolated prepared with ⟨entered, fills⟩
  refine ⟨⟨middle, fills⟩, ?_⟩
  rcases loop_isolated entered loops with ⟨rfl, waits, grows⟩ | delivers
  · refine Or.inl ⟨rfl, waits.isolated, ?_⟩
    have filled := fills.grown List.prefix_rfl grows
    exact {
      config := waits.config.trans filled.config
      stream := by rw [waits.liveEvents]; exact filled.stream
      kept := by rw [waits.liveEvents]; exact filled.kept
      bounded := by rw [waits.liveEvents]; exact filled.bounded
      advances := by rw [waits.liveEvents]; exact filled.advances }
  · exact Or.inr delivers

/-- A call in which the session's turn comes delivers what has been buffered. -/
theorem takes_turnComes
    (isolated : Isolated generation sessionId puller)
    (takes : Takes (blockedAdapter generation) puller queue exchanges entry
      nowMs taken next after)
    (turn : TurnComes nowMs sessionId entry)
    (waiting : ∃ event ∈ puller.liveEvents, event.sessionId = sessionId) :
    taken ≠ none := by
  rcases takes.parts with ⟨asked, queried, middle, -, prepared, loops⟩
  rcases prepared_isolated isolated prepared with ⟨entered, fills⟩
  rcases entered.takesLive with ⟨state, found, -⟩
  rcases List.append_of_mem (mem_roundOf entered.ordered found) with
    ⟨earlier, later, round⟩
  have distinct : (roundOf entry).Nodup :=
    List.nodup_rotate.mpr entered.ordered.distinct
  have apart : ∀ other ∈ earlier, other ≠ sessionId := by
    rintro other member rfl
    rw [round] at distinct
    exact (List.disjoint_of_nodup_append distinct) member List.mem_cons_self
  have length : (earlier ++ sessionId :: later).length =
      entry.sessionOrder.length := by
    rw [← round]
    exact List.length_rotate _ _
  rcases waiting with ⟨event, live, own⟩
  have whole : Transcript (blockedAdapter generation) middle
      (entry.serveSessions nowMs ([] : List String).length
        (earlier ++ sessionId :: later).length) queried after
      (.ok (taken, next)) := by
    rw [length]
    exact loops
  have fromStart : roundOf entry = [] ++ (earlier ++ sessionId :: later) := round
  exact loop_reaches entered apart (turn earlier later round) fromStart
    ⟨event, fills.kept.subset live, own⟩ whole

/-! ## Repeated calls -/

/-- `take_message` is called again and again, and nothing is acknowledged. -/
structure RepeatedCalls where
  pullers : Nat → ProviderMessagePuller
  queues : Nat → List ProviderEvent
  /-- The pullers and the times with which the loops begin. -/
  entries : Nat → ProviderMessagePuller
  times : Nat → Int
  taken : Nat → Option ProviderEvent
  calls : ∀ index, ∃ exchanges,
    Takes (blockedAdapter (pullers 0).streamGeneration) (pullers index)
      (queues index) exchanges (entries index) (times index) (taken index)
      (pullers (index + 1)) (queues (index + 1))

/-- An event of the session is returned after finitely many calls. -/
def RepeatedCalls.Delivers (run : RepeatedCalls) (sessionId : String) : Prop :=
  ∃ index event, run.taken index = some event ∧ event.sessionId = sessionId

/-- An event of the session is in the buffer, or the buffer has room for it and
for all events before it. -/
def Room (sessionId : String) (puller : ProviderMessagePuller)
    (queue : List ProviderEvent) : Prop :=
  ∃ ahead event behind, puller.liveEvents ++ queue = ahead ++ event :: behind ∧
    event.sessionId = sessionId ∧
      (ahead.length < puller.liveEvents.length ∨
        ahead.length < puller.config.eventQueueSize)

/-- What holds after a number of calls that returned nothing. -/
structure StillWaiting (sessionId : String) (first : ProviderMessagePuller)
    (queue : List ProviderEvent) (calls : Nat) (puller : ProviderMessagePuller)
    (later : List ProviderEvent) : Prop where
  isolated : Isolated first.streamGeneration sessionId puller
  config : puller.config = first.config
  stream : first.liveEvents ++ queue <+: puller.liveEvents ++ later
  bounded : puller.liveEvents.length ≤
    max first.liveEvents.length first.config.eventQueueSize
  progress : ∀ ahead event behind,
    first.liveEvents ++ queue = ahead ++ event :: behind →
      (ahead.length < first.liveEvents.length ∨
        ahead.length < first.config.eventQueueSize) →
        ahead.length < puller.liveEvents.length ∨
          first.liveEvents.length + calls ≤ puller.liveEvents.length

theorem stillWaiting_start
    (isolated : Isolated puller.streamGeneration sessionId puller) :
    StillWaiting sessionId puller queue 0 puller queue where
  isolated := isolated
  config := rfl
  stream := List.prefix_rfl
  bounded := Nat.le_max_left _ _
  progress _ _ _ _ _ := Or.inr (Nat.le_refl _)

theorem StillWaiting.fills {first : ProviderMessagePuller} {calls : Nat}
    (waiting : StillWaiting sessionId first queue calls puller middle)
    (isolated : Isolated first.streamGeneration sessionId next)
    (fills : Fills puller middle next after) :
    StillWaiting sessionId first queue (calls + 1) next after where
  isolated := isolated
  config := fills.config.trans waiting.config
  stream := waiting.stream.trans fills.stream
  bounded := by
    have bounded := fills.bounded
    rw [waiting.config] at bounded
    exact bounded.trans (max_le waiting.bounded (Nat.le_max_right _ _))
  progress ahead event behind split room := by
    have grows := fills.kept.length_le
    have started := waiting.stream.length_le
    rw [split, List.length_append, List.length_cons, List.length_append]
      at started
    by_cases reached : ahead.length < puller.liveEvents.length
    · exact Or.inl (reached.trans_le grows)
    · have nonempty : middle ≠ [] := by
        rintro rfl
        rw [List.length_nil] at started
        omega
      rcases waiting.progress ahead event behind split room with
        inside | counted
      · exact absurd inside reached
      · have advances := fills.advances nonempty
        rw [waiting.config] at advances
        refine Or.inr ?_
        omega

variable {run : RepeatedCalls}

/-- As long as nothing is returned, everything waits. -/
theorem RepeatedCalls.stillWaiting
    (isolated : Isolated (run.pullers 0).streamGeneration sessionId
      (run.pullers 0)) (calls : Nat)
    (nothing : ∀ index < calls, run.taken index = none) :
    StillWaiting sessionId (run.pullers 0) (run.queues 0) calls
      (run.pullers calls) (run.queues calls) := by
  induction calls with
  | zero => exact stillWaiting_start isolated
  | succ calls ih =>
      have waiting := ih fun index earlier =>
        nothing index (Nat.lt_succ_of_lt earlier)
      rcases run.calls calls with ⟨exchanges, takes⟩
      rcases (takes_isolated waiting.isolated takes).2 with
        ⟨-, isolatedNext, fills⟩ | ⟨event, -, isTaken, -⟩
      · exact waiting.fills isolatedNext fills
      · rw [nothing calls (Nat.lt_succ_self _)] at isTaken
        cases isTaken

/-- The first event that is returned is one of the session, out of the buffer. -/
theorem RepeatedCalls.firstTaken {calls : Nat} {event : ProviderEvent}
    (isolated : Isolated (run.pullers 0).streamGeneration sessionId
      (run.pullers 0))
    (nothing : ∀ index < calls, run.taken index = none)
    (isTaken : run.taken calls = some event) :
    event.sessionId = sessionId ∧ event ∈ (run.entries calls).liveEvents ∧
      ∃ reached, StillWaiting sessionId (run.pullers 0) (run.queues 0)
        (calls + 1) { run.pullers calls with
          liveEvents := (run.entries calls).liveEvents } reached := by
  have waiting := run.stillWaiting isolated calls nothing
  rcases run.calls calls with ⟨exchanges, takes⟩
  rcases takes_isolated waiting.isolated takes with
    ⟨⟨reached, fills⟩, ⟨none, -⟩ | ⟨given, live, same, own⟩⟩
  · rw [isTaken] at none
    cases none
  · rw [isTaken] at same
    cases same
    refine ⟨own, live, reached, waiting.fills ?_ ⟨rfl, fills.stream, fills.kept,
      fills.bounded, fills.advances⟩⟩
    exact ⟨⟨waiting.isolated.ordered.distinct, waiting.isolated.ordered.known⟩,
      waiting.isolated.generation, waiting.isolated.takesLive,
      waiting.isolated.blocked⟩

theorem room_of_delivers
    (isolated : Isolated (run.pullers 0).streamGeneration sessionId
      (run.pullers 0))
    (waiting : ∃ event ∈ (run.pullers 0).liveEvents ++ run.queues 0,
      event.sessionId = sessionId)
    (delivers : run.Delivers sessionId) :
    Room sessionId (run.pullers 0) (run.queues 0) := by
  classical
  have someTaken : ∃ index, run.taken index ≠ none := by
    rcases delivers with ⟨index, event, isTaken, -⟩
    exact ⟨index, by rw [isTaken]; nofun⟩
  have nothing : ∀ index < Nat.find someTaken, run.taken index = none :=
    fun index earlier => not_not.mp (Nat.find_min someTaken earlier)
  rcases Option.ne_none_iff_exists'.mp (Nat.find_spec someTaken) with
    ⟨event, isTaken⟩
  rcases run.firstTaken isolated nothing isTaken with
    ⟨own, live, reached, still⟩
  rcases waiting with ⟨other, inStream, otherOwn⟩
  rcases List.append_of_mem inStream with ⟨ahead, behind, split⟩
  by_cases fits : ahead.length < (run.pullers 0).liveEvents.length ∨
      ahead.length < (run.pullers 0).config.eventQueueSize
  · exact ⟨ahead, other, behind, split, otherOwn, fits⟩
  · -- the buffer holds a part of what is ahead
    push Not at fits
    have bounded := still.bounded
    have short : (run.entries (Nat.find someTaken)).liveEvents.length ≤
        ahead.length := bounded.trans (max_le fits.1 fits.2)
    have stream := still.stream
    rw [split] at stream
    have buffered : (run.entries (Nat.find someTaken)).liveEvents <+: ahead :=
      List.prefix_of_prefix_length_le (List.prefix_append _ _)
        ((List.prefix_append _ _).trans stream) short
    rcases List.append_of_mem live with ⟨earlier, later, inside⟩
    rcases buffered with ⟨rest, filled⟩
    refine ⟨earlier, event, later ++ rest ++ other :: behind, ?_, own, ?_⟩
    · rw [split, ← filled, inside]
      simp
    · have within : earlier.length <
          (run.entries (Nat.find someTaken)).liveEvents.length := by
        rw [inside, List.length_append, List.length_cons]
        omega
      exact lt_max_iff.mp (within.trans_le bounded)

theorem delivers_of_room
    (isolated : Isolated (run.pullers 0).streamGeneration sessionId
      (run.pullers 0))
    (turns : ∀ index, ∃ later, index ≤ later ∧
      TurnComes (run.times later) sessionId (run.entries later))
    (room : Room sessionId (run.pullers 0) (run.queues 0)) :
    run.Delivers sessionId := by
  by_contra undelivered
  have nothing : ∀ index, run.taken index = none := by
    intro index
    induction index using Nat.strong_induction_on with
    | _ index ih =>
        cases isTaken : run.taken index with
        | none => rfl
        | some event =>
            have own := (run.firstTaken isolated ih isTaken).1
            exact absurd ⟨index, event, isTaken, own⟩ undelivered
  rcases room with ⟨ahead, event, behind, split, own, fits⟩
  rcases turns (ahead.length + 1) with ⟨index, late, turn⟩
  have waiting := run.stillWaiting isolated index fun _ _ => nothing _
  have buffered : ahead.length < (run.pullers index).liveEvents.length := by
    rcases waiting.progress ahead event behind split fits with inside | counted
    · exact inside
    · omega
  have live : event ∈ (run.pullers index).liveEvents := by
    have stream := waiting.stream
    rw [split] at stream
    have upTo : ahead ++ [event] <+: ahead ++ event :: behind :=
      (List.prefix_append_right_inj _).mpr ⟨behind, rfl⟩
    have within : ahead ++ [event] <+: (run.pullers index).liveEvents := by
      refine List.prefix_of_prefix_length_le (upTo.trans stream)
        (List.prefix_append _ _) ?_
      rw [List.length_append, List.length_singleton]
      exact buffered
    exact within.subset (List.mem_append_right _ (List.mem_singleton_self _))
  rcases run.calls index with ⟨exchanges, takes⟩
  exact takes_turnComes waiting.isolated takes turn ⟨event, live, own⟩
    (nothing index)

/--
From every reachable puller: while the other sessions stay blocked and again
and again the session's turn comes before any history is due, an event of the
session is returned if and only if one is in the buffer, or the buffer has room
for it and all events before it.
-/
theorem delivers_iff_room {provider : String} {config : ProviderSyncConfig}
    (reached : Reachable arbitraryAdapter provider config (run.pullers 0) ())
    (takesLive : ∃ state, (run.pullers 0).sessions.get? sessionId =
      some state ∧ TakesLive state)
    (blocked : ∀ other state, other ≠ sessionId →
      (run.pullers 0).sessions.get? other = some state → Blocked state)
    (waiting : ∃ event ∈ (run.pullers 0).liveEvents ++ run.queues 0,
      event.sessionId = sessionId)
    (turns : ∀ index, ∃ later, index ≤ later ∧
      TurnComes (run.times later) sessionId (run.entries later)) :
    run.Delivers sessionId ↔
      Room sessionId (run.pullers 0) (run.queues 0) := by
  rcases run.calls 0 with ⟨exchanges, takes⟩
  have isolated : Isolated (run.pullers 0).streamGeneration sessionId
      (run.pullers 0) :=
    ⟨ordered_of_reachable reached takes.started, rfl, takesLive, blocked⟩
  exact ⟨room_of_delivers isolated waiting, delivers_of_room isolated turns⟩

/-! ## A session beside a blocked one -/

/-- The first session has a message in flight, the second one takes live
events. -/
def openPuller : ProviderMessagePuller :=
  blockedPuller.advanced 1 "oc2" scannedSession

theorem reachable_openPuller :
    Reachable arbitraryAdapter "lark" sampleConfig openPuller () := by
  have scans : Runs arbitraryAdapter () blockedPuller.takeMessage ()
      (.ok (none, openPuller)) :=
    runs_takeMessage rfl (.call .refl (taken_answers none) .ret)
      (.call .refl (page_answers "oc2" (.ok emptyPage)) .ret)
  exact reachable_blockedPuller.takes scans

/-- An event of the blocked session is in the buffer. -/
def besidePuller : ProviderMessagePuller :=
  { openPuller with liveEvents := [liveEvent "oc1" "om2"] }

/-- The event behind it has been delivered. -/
def passedPuller : ProviderMessagePuller :=
  besidePuller.deliver 1 "oc2" scannedSession (liveEvent "oc2" "om3")

/-- The event of the second session comes out of the adapter's queue behind one
of the first session. -/
def openCalls : RepeatedCalls where
  pullers
    | 0 => openPuller
    | 1 => besidePuller
    | _ + 2 => passedPuller
  queues
    | 0 => [liveEvent "oc1" "om2", liveEvent "oc2" "om3"]
    | 1 => [liveEvent "oc2" "om3"]
    | _ + 2 => []
  entries
    | 0 => besidePuller
    | 1 => { openPuller with
        liveEvents := [liveEvent "oc1" "om2", liveEvent "oc2" "om3"] }
    | _ + 2 => passedPuller
  times _ := 200
  taken
    | 1 => some (liveEvent "oc2" "om3")
    | _ => none
  calls index := by
    rcases index with _ | _ | index
    · refine ⟨_, rfl, _, [], _, rfl, ⟨openPuller, besidePuller, _, _, _, _, _,
        _, _, _, _, _, _, .quiet .refl ⟨rfl, rfl⟩, .same .refl ⟨rfl, rfl⟩,
        .event (Nat.zero_lt_succ 7) .refl ⟨rfl, rfl⟩ rfl rfl,
        .quiet .refl ⟨rfl, rfl⟩, .same .refl ⟨rfl, rfl⟩, .refl, rfl, rfl⟩, ?_⟩
      exact .ret
    · refine ⟨_, rfl, _, [], _, rfl, ⟨besidePuller, _, _, _, _, _, _, _, _, _,
        _, _, _, .quiet .refl ⟨rfl, rfl⟩, .same .refl ⟨rfl, rfl⟩,
        .event (Nat.succ_lt_succ (Nat.zero_lt_succ 6)) .refl ⟨rfl, rfl⟩ rfl rfl,
        .quiet .refl ⟨rfl, rfl⟩, .same .refl ⟨rfl, rfl⟩, .refl, rfl, rfl⟩, ?_⟩
      exact .ret
    · refine ⟨_, rfl, _, [], _, rfl, ⟨passedPuller, passedPuller, _, _, _, _, _,
        _, _, _, _, _, _, .quiet .refl ⟨rfl, rfl⟩, .same .refl ⟨rfl, rfl⟩,
        .nothing (Nat.succ_lt_succ (Nat.zero_lt_succ 6)) .refl ⟨rfl, rfl⟩,
        .quiet .refl ⟨rfl, rfl⟩, .same .refl ⟨rfl, rfl⟩, .refl, rfl, rfl⟩, ?_⟩
      exact .ret

/-- The blocked session leaves room for the other one. -/
theorem delivers_iff_room_sample : openCalls.Delivers "oc2" := by
  have room : Room "oc2" (openCalls.pullers 0) (openCalls.queues 0) :=
    ⟨[liveEvent "oc1" "om2"], liveEvent "oc2" "om3", [], rfl, rfl,
      Or.inr (Nat.succ_lt_succ (Nat.zero_lt_succ 6))⟩
  have blocked : ∀ other state, other ≠ "oc2" →
      (openCalls.pullers 0).sessions.get? other = some state →
        Blocked state := by
    intro other state different found
    have ordered := ordered_of_reachable reachable_openPuller rfl
    have listed : other ∈ ["oc1", "oc2"] :=
      (ordered.known other).mpr (contains_of_get? found)
    rcases List.mem_pair.mp listed with rfl | rfl
    · cases found
      exact Or.inl rfl
    · exact absurd rfl different
  -- from the third call on each session has an event in flight
  have turns : ∀ index, ∃ later, index ≤ later ∧
      TurnComes (openCalls.times later) "oc2" (openCalls.entries later) := by
    intro index
    refine ⟨index + 2, Nat.le_add_right _ _, ?_⟩
    rintro earlier later round other member ⟨state, found, due⟩
    have listed : other ∈ ["oc1", "oc2"] := by
      have inRound : other ∈ roundOf passedPuller := by
        rw [show roundOf passedPuller = _ from round]
        exact List.mem_append_left _ member
      exact inRound
    rcases List.mem_pair.mp listed with rfl | rfl
    · cases found
      cases due.idle
    · cases found
      cases due.idle
  exact (delivers_iff_room reachable_openPuller
    ⟨scannedSession, rfl, rfl, rfl, rfl⟩ blocked
    ⟨liveEvent "oc2" "om3", List.mem_cons_of_mem _
      (List.mem_singleton_self _), rfl⟩ turns).mpr room

/-! ## A session behind a full buffer -/

/-- A buffer of one event. -/
def fullConfig : ProviderSyncConfig := ⟨1000, 10, 1000, 1⟩

def oncePuller : ProviderMessagePuller :=
  (startedPuller fullConfig bothHighwater).advanced 0 "oc1" scannedSession

/-- Both sessions after their histories. -/
def twicePuller : ProviderMessagePuller :=
  oncePuller.advanced 1 "oc2" scannedSession

/-- The first session has an event in flight. -/
def busyPuller : ProviderMessagePuller :=
  twicePuller.deliver 0 "oc1" scannedSession (liveEvent "oc1" "om1")

/-- Its next event fills the buffer. -/
def fullPuller : ProviderMessagePuller :=
  { busyPuller with liveEvents := [liveEvent "oc1" "om2"] }

theorem reachable_fullPuller :
    Reachable arbitraryAdapter "lark" fullConfig fullPuller () := by
  have started := @reachable_startedPuller fullConfig bothHighwater nofun
    sorted_bothHighwater
  have once : Runs arbitraryAdapter ()
      (startedPuller fullConfig bothHighwater).takeMessage ()
      (.ok (none, oncePuller)) :=
    runs_takeMessage rfl (.call .refl (taken_answers none) .ret)
      (.call .refl (page_answers "oc1" (.ok emptyPage)) .ret)
  have twice : Runs arbitraryAdapter () oncePuller.takeMessage ()
      (.ok (none, twicePuller)) :=
    runs_takeMessage rfl (.call .refl (taken_answers none) .ret)
      (.call .refl (page_answers "oc2" (.ok emptyPage)) .ret)
  have delivers : Runs arbitraryAdapter () twicePuller.takeMessage ()
      (.ok (some (liveEvent "oc1" "om1"), busyPuller)) :=
    runs_takeMessage rfl
      (.call .refl (taken_answers (some (liveEvent "oc1" "om1"))) .ret) .ret
  have fills : Runs arbitraryAdapter () busyPuller.takeMessage ()
      (.ok (none, fullPuller)) :=
    runs_takeMessage rfl
      (.call .refl (taken_answers (some (liveEvent "oc1" "om2"))) .ret) .ret
  exact ((((started.takes once).takes twice).takes delivers).takes fills)

/-- Calls that change nothing any more. -/
def fullCalls : RepeatedCalls where
  pullers _ := fullPuller
  queues _ := [liveEvent "oc2" "om3"]
  entries _ := fullPuller
  times _ := 200
  taken _ := none
  calls index := by
    refine ⟨_, rfl, _, [], [liveEvent "oc2" "om3"], rfl, ⟨fullPuller,
      fullPuller, _, _, _, _, _, _, _, _, _, _, _, .quiet .refl ⟨rfl, rfl⟩,
      .same .refl ⟨rfl, rfl⟩, .full (Nat.le_refl 1), .quiet .refl ⟨rfl, rfl⟩,
      .same .refl ⟨rfl, rfl⟩, .refl, rfl, rfl⟩, ?_⟩
    exact .ret

/-- The event of the second session waits in the adapter's queue for ever. -/
theorem fullBuffer_neverDelivers :
    Reachable arbitraryAdapter "lark" fullConfig (fullCalls.pullers 0) () ∧
      (∃ state, (fullCalls.pullers 0).sessions.get? "oc2" = some state ∧
        TakesLive state) ∧
      (∀ other state, other ≠ "oc2" →
        (fullCalls.pullers 0).sessions.get? other = some state →
          Blocked state) ∧
      (∃ event ∈ fullCalls.queues 0, event.sessionId = "oc2") ∧
      ¬fullCalls.Delivers "oc2" := by
  refine ⟨reachable_fullPuller, ⟨scannedSession, rfl, rfl, rfl, rfl⟩, ?_,
    ⟨_, List.mem_singleton_self _, rfl⟩, ?_⟩
  · intro other state different found
    have ordered := ordered_of_reachable reachable_fullPuller rfl
    have listed : other ∈ ["oc1", "oc2"] :=
      (ordered.known other).mpr (contains_of_get? found)
    rcases List.mem_pair.mp listed with rfl | rfl
    · cases found
      exact Or.inl rfl
    · exact absurd rfl different
  · rintro ⟨index, event, isTaken, -⟩
    cases isTaken

end OpenEventIm.Syncer.SessionIsolation
