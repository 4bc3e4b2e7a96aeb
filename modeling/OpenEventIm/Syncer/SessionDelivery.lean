import OpenEventIm.Syncer.ProviderDelivery

/-!
# What a session of the puller keeps

The invariant of one session: which of its messages are already acknowledged,
on their way, awaited by the history scan, on the stream, or missed since the
last reconnect that was handled.  Each operation of the puller on the session
keeps it, and so does everything that happens at the provider.

The argument is about order.  An event enters the session's queue only when all
earlier messages are known, and leaves it only at its head, so an
acknowledgement never overtakes an earlier message.
-/

namespace OpenEventIm.Syncer.SessionDelivery

open OpenEventIm.Foundation
open OpenEventIm.Service.Calls
open OpenEventIm.Syncer.Models
open OpenEventIm.Syncer.ProviderMessages
open OpenEventIm.Syncer.ProviderMessages.ProviderMessagePuller
open OpenEventIm.Syncer.ProviderDelivery

/-! ## Where a message can be -/

/-- A message of the session that its first handoff asks for. -/
structure Owed (world : ProviderWorld) (sessionId : String) (floorMs : Int)
    (message : ProviderMessage) : Prop where
  sent : message ∈ world.messages
  ofSession : message.sessionId = sessionId
  aboveFloor : floorMs ≤ message.eventMs

/-- Something holds of every owed message below a time. -/
def AllBelow (world : ProviderWorld) (sessionId : String) (floorMs : Int)
    (boundMs : Int) (holds : ProviderMessage → Prop) : Prop :=
  ∀ message, Owed world sessionId floorMs message →
    message.eventMs < boundMs → holds message

/-- The stream has missed the message, and no handled reconnect came after. -/
def Missed (world : ProviderWorld) (generation : Nat)
    (message : ProviderMessage) : Prop :=
  ∃ sent ∈ world.sent, sent.message = message ∧ sent.missed = true ∧
    generation ≤ sent.generation

/-- The message is on the stream, or a later handoff will ask for it. -/
def Pending (world : ProviderWorld) (live : List ProviderEvent)
    (generation : Nat) (message : ProviderMessage) : Prop :=
  message ∈ messagesOf (live ++ world.queue) ∨
    Missed world generation message

/-- The message is acknowledged, in flight or queued. -/
def Known (acknowledged : List ProviderMessage) (state : SessionPullState)
    (message : ProviderMessage) : Prop :=
  message ∈ acknowledged ∨ state.inFlight.map messageOf = some message ∨
    message ∈ messagesOf state.historyEvents

/-- The scan will still return the message, unless it is known. -/
def Awaited (world : ProviderWorld) (scan : HistoryScan)
    (message : ProviderMessage) : Prop :=
  message.eventMs ≤ scan.endMs ∧
    ∀ token query, scan.pageToken = some token →
      world.queries message.sessionId token = some query →
        scan.startMs ≤ message.eventMs → message ∈ query.found

/-- A scan of the session: all owed messages before its window are known, and a
token continues a query for this window. -/
structure ScanSafe (world : ProviderWorld) (acknowledged : List ProviderMessage)
    (sessionId : String) (floorMs : Int) (state : SessionPullState)
    (scan : HistoryScan) : Prop where
  start_le : scan.startMs ≤ max 0 world.clock
  end_le : scan.endMs ≤ world.clock
  before : AllBelow world sessionId floorMs scan.startMs
    (Known acknowledged state)
  query : ∀ token, scan.pageToken = some token → ∃ found returned,
    world.queries sessionId token =
        some ⟨sessionId, scan.startMs, scan.endMs, found, returned⟩ ∧
      (∀ message ∈ returned, Known acknowledged state message) ∧
      ∀ message, Owed world sessionId floorMs message →
        scan.startMs ≤ message.eventMs → message.eventMs < scan.endMs →
          message ∈ found

/-- A message of the session, and all owed messages below it. -/
structure Reached (world : ProviderWorld) (sessionId : String) (floorMs : Int)
    (earlier : ProviderMessage → Prop) (message : ProviderMessage) : Prop where
  sent : message ∈ world.messages
  below : AllBelow world sessionId floorMs message.eventMs earlier

/-- The invariant of a session. -/
structure SessionSafe (world : ProviderWorld) (live : List ProviderEvent)
    (generation : Nat) (acknowledged : List ProviderMessage) (overlapMs : Nat)
    (floorMs : Int) (sessionId : String) (state : SessionPullState) : Prop where
  floor : 0 ≤ floorMs
  scan : ∀ scan, state.historyScan = some scan →
    ScanSafe world acknowledged sessionId floorMs state scan
  highwater : ∀ highwaterMs, state.historyHighwaterMs = some highwaterMs →
    highwaterMs ≤ max 0 world.clock ∧
      AllBelow world sessionId floorMs (highwaterMs - overlapMs)
        (Known acknowledged state)
  confirmed : ∀ confirmedMs, state.confirmedEventMs = some confirmedMs →
    confirmedMs ≤ max 0 world.clock ∧
      AllBelow world sessionId floorMs (confirmedMs - overlapMs)
        (· ∈ acknowledged)
  queued : ∀ first event rest, state.historyEvents = first ++ event :: rest →
    Reached world sessionId floorMs
      (fun message => message ∈ acknowledged ∨
        state.inFlight.map messageOf = some message ∨
        message ∈ messagesOf first) (messageOf event)
  inFlight : ∀ event, state.inFlight = some event →
    Reached world sessionId floorMs (· ∈ acknowledged) (messageOf event)
  complete : ∀ message, Owed world sessionId floorMs message →
    Known acknowledged state message ∨
      (∃ scan, state.historyScan = some scan ∧ Awaited world scan message) ∨
      Pending world live generation message
  finished : state.historyScan = none →
    ∃ highwaterMs, state.historyHighwaterMs = some highwaterMs

/-! ## What happens at the provider -/

/-- The provider has only gone on: its messages stay, new ones are at the
present time, and what was on the stream or missed still is. -/
structure Grown (before after : ProviderWorld)
    (liveBefore liveAfter : List ProviderEvent) : Prop where
  clock : before.clock ≤ after.clock
  kept : ∀ message ∈ before.messages, message ∈ after.messages
  fresh : ∀ message ∈ after.messages, message ∈ before.messages ∨
    before.clock ≤ message.eventMs ∧
      (before.running = true → message.sessionId ∈ before.subscribed →
        ∀ generation ≤ before.generation,
          Pending after liveAfter generation message)
  pending : ∀ generation message, Pending before liveBefore generation message →
    Pending after liveAfter generation message

section Growth

variable {before after : ProviderWorld}
  {live liveBefore liveAfter : List ProviderEvent}

/-- A change that concerns neither messages nor the stream. -/
theorem grown_of_same (clock : before.clock ≤ after.clock)
    (sent : after.sent = before.sent) (queue : after.queue = before.queue) :
    Grown before after live live where
  clock := clock
  kept message member := by
    rw [ProviderWorld.messages, sent]
    exact member
  fresh message member := by
    rw [ProviderWorld.messages, sent] at member
    exact Or.inl member
  pending generation message pending := by
    rw [Pending, Missed, sent, queue]
    exact pending

theorem grown_steps {reconnecting : Bool}
    (steps : ProviderSteps reconnecting before after) :
    Grown before after live live := by
  cases steps with
  | passes later => exact grown_of_same later rfl rfl
  | disconnects => exact grown_of_same le_rfl rfl rfl
  | reconnects => exact grown_of_same le_rfl rfl rfl
  | @sends event stamped fresh =>
      refine ⟨le_rfl, ?_, ?_, ?_⟩
      · intro message member
        rw [ProviderWorld.messages, List.map_append]
        exact List.mem_append_left _ member
      · intro message member
        rw [ProviderWorld.messages, List.map_append] at member
        rcases List.mem_append.mp member with member | member
        · exact Or.inl member
        · rw [List.map_singleton, List.mem_singleton] at member
          subst member
          refine Or.inr ⟨stamped.ge, ?_⟩
          intro running subscribed generation handled
          cases connected : before.connected with
          | true =>
              left
              rw [if_pos ⟨running, rfl, subscribed⟩, ← List.append_assoc,
                messagesOf_append]
              exact List.mem_append_right _ (List.mem_singleton_self _)
          | false =>
              right
              refine ⟨_, List.mem_append_right _ (List.mem_singleton_self _),
                rfl, ?_, handled⟩
              rw [running]
              rfl
      · intro generation message pending
        rcases pending with onStream | ⟨sent, member, missed⟩
        · left
          split_ifs with enqueued
          · rw [← List.append_assoc, messagesOf_append]
            exact List.mem_append_left _ onStream
          · exact onStream
        · exact Or.inr ⟨sent, List.mem_append_left _ member, missed⟩

/-- An event moves from the queue to the live events. -/
theorem grown_taken {event : ProviderEvent} {rest : List ProviderEvent}
    (split : before.queue = event :: rest) :
    Grown before { before with queue := rest } live (live ++ [event]) where
  clock := le_rfl
  kept _ member := member
  fresh _ member := Or.inl member
  pending generation message pending := by
    refine pending.imp_left fun onStream => ?_
    rw [split] at onStream
    rw [List.append_assoc]
    exact onStream

variable {acknowledged : List ProviderMessage} {overlapMs : Nat}
  {floorMs boundMs : Int} {sessionId : String} {state : SessionPullState}
  {generation : Nat}

/-- New messages are not below a time that has passed. -/
theorem AllBelow.grown {holds : ProviderMessage → Prop}
    (below : AllBelow before sessionId floorMs boundMs holds)
    (grown : Grown before after liveBefore liveAfter) (floor : 0 ≤ floorMs)
    (passed : boundMs ≤ max 0 before.clock) :
    AllBelow after sessionId floorMs boundMs holds := by
  intro message owed early
  rcases grown.fresh message owed.sent with old | ⟨recent, -⟩
  · exact below message ⟨old, owed.ofSession, owed.aboveFloor⟩ early
  · have above := owed.aboveFloor
    omega

theorem ScanSafe.grown {scan : HistoryScan}
    (safe : ScanSafe before acknowledged sessionId floorMs state scan)
    (grown : Grown before after liveBefore liveAfter) (floor : 0 ≤ floorMs)
    (queries : ∀ token, scan.pageToken = some token →
      after.queries sessionId token = before.queries sessionId token) :
    ScanSafe after acknowledged sessionId floorMs state scan where
  start_le := safe.start_le.trans (max_le_max le_rfl grown.clock)
  end_le := safe.end_le.trans grown.clock
  before := safe.before.grown grown floor safe.start_le
  query := by
    intro token named
    obtain ⟨found, returned, known, allKnown, allFound⟩ :=
      safe.query token named
    refine ⟨found, returned, (queries token named).trans known, allKnown, ?_⟩
    intro message owed low high
    rcases grown.fresh message owed.sent with old | ⟨recent, -⟩
    · exact allFound message ⟨old, owed.ofSession, owed.aboveFloor⟩ low high
    · have ended := safe.end_le
      omega

theorem Reached.grown {earlier : ProviderMessage → Prop}
    {message : ProviderMessage}
    (reached : Reached before sessionId floorMs earlier message)
    (grown : Grown before after liveBefore liveAfter) (floor : 0 ≤ floorMs)
    (past : message.eventMs ≤ before.clock) :
    Reached after sessionId floorMs earlier message where
  sent := grown.kept _ reached.sent
  below := reached.below.grown grown floor (past.trans (le_max_right _ _))

/-- What happens at the provider keeps the invariant. -/
theorem SessionSafe.grown
    (safe : SessionSafe before liveBefore generation acknowledged overlapMs
      floorMs sessionId state)
    (grown : Grown before after liveBefore liveAfter)
    (past : ∀ message ∈ before.messages, message.eventMs ≤ before.clock)
    (running : before.running = true)
    (subscribed : sessionId ∈ before.subscribed)
    (handled : generation ≤ before.generation)
    (queries : ∀ scan token, state.historyScan = some scan →
      scan.pageToken = some token →
        after.queries sessionId token = before.queries sessionId token) :
    SessionSafe after liveAfter generation acknowledged overlapMs floorMs
      sessionId state where
  floor := safe.floor
  scan scan given :=
    (safe.scan scan given).grown grown safe.floor (queries scan · given)
  highwater highwaterMs given := by
    obtain ⟨small, below⟩ := safe.highwater highwaterMs given
    exact ⟨small.trans (max_le_max le_rfl grown.clock),
      below.grown grown safe.floor (by omega)⟩
  confirmed confirmedMs given := by
    obtain ⟨small, below⟩ := safe.confirmed confirmedMs given
    exact ⟨small.trans (max_le_max le_rfl grown.clock),
      below.grown grown safe.floor (by omega)⟩
  queued first event rest split := by
    have reached := safe.queued first event rest split
    exact reached.grown grown safe.floor (past _ reached.sent)
  inFlight event given := by
    have reached := safe.inFlight event given
    exact reached.grown grown safe.floor (past _ reached.sent)
  complete := by
    intro message owed
    rcases grown.fresh message owed.sent with old | ⟨-, pending⟩
    · rcases safe.complete message ⟨old, owed.ofSession, owed.aboveFloor⟩ with
        known | ⟨scan, given, inside, found⟩ | pending
      · exact Or.inl known
      · refine Or.inr (Or.inl ⟨scan, given, inside, ?_⟩)
        intro token query named known low
        rw [owed.ofSession, queries scan token given named] at known
        rw [owed.ofSession] at found
        exact found token query named known low
      · exact Or.inr (Or.inr (grown.pending _ _ pending))
    · refine Or.inr (Or.inr (pending running ?_ generation handled))
      rw [owed.ofSession]
      exact subscribed
  finished := safe.finished

end Growth

/-! ## What the puller does with a session -/

section Operations

variable {world : ProviderWorld} {live : List ProviderEvent}
  {generation : Nat} {acknowledged : List ProviderMessage} {overlapMs : Nat}
  {floorMs : Int} {sessionId : String} {state : SessionPullState}

theorem AllBelow.mono {boundMs : Int} {holds weaker : ProviderMessage → Prop}
    (below : AllBelow world sessionId floorMs boundMs holds)
    (kept : ∀ message, holds message → weaker message) :
    AllBelow world sessionId floorMs boundMs weaker := by
  intro message owed early
  exact kept message (below message owed early)

theorem Reached.mono {earlier more : ProviderMessage → Prop}
    {message : ProviderMessage}
    (reached : Reached world sessionId floorMs earlier message)
    (kept : ∀ other, earlier other → more other) :
    Reached world sessionId floorMs more message where
  sent := reached.sent
  below := reached.below.mono kept

/-- A scan stays safe while nothing that was known is forgotten. -/
theorem ScanSafe.mono {scan : HistoryScan} {state' : SessionPullState}
    {acknowledged' : List ProviderMessage}
    (safe : ScanSafe world acknowledged sessionId floorMs state scan)
    (kept : ∀ message, Known acknowledged state message →
      Known acknowledged' state' message) :
    ScanSafe world acknowledged' sessionId floorMs state' scan where
  start_le := safe.start_le
  end_le := safe.end_le
  before := safe.before.mono kept
  query := by
    intro token named
    obtain ⟨found, returned, continued, allKnown, allFound⟩ :=
      safe.query token named
    refine ⟨found, returned, continued, ?_, allFound⟩
    intro message member
    exact kept message (allKnown message member)

theorem newHistoryScan_start_nonneg (config : ProviderSyncConfig)
    (confirmedMs : Option Int) (nowMs : Int) :
    0 ≤ (newHistoryScan config confirmedMs nowMs).startMs := by
  cases confirmedMs with
  | none => exact le_max_left _ _
  | some confirmed => exact le_max_left _ _

theorem newHistoryScan_start_le (config : ProviderSyncConfig)
    (confirmedMs : Option Int) (nowMs : Int) :
    (newHistoryScan config confirmedMs nowMs).startMs ≤ max 0 nowMs := by
  cases confirmedMs with
  | none =>
      show max 0 (nowMs - _) ≤ _
      omega
  | some confirmed =>
      show max 0 (min confirmed nowMs - _) ≤ _
      omega

/-- A confirmed time is at most the overlap above the scan that it leads to. -/
theorem lt_of_lt_newHistoryScan_start {config : ProviderSyncConfig}
    {confirmedMs nowMs boundMs : Int} (floor : 0 ≤ boundMs)
    (early : boundMs <
      (newHistoryScan config (some confirmedMs) nowMs).startMs) :
    boundMs < confirmedMs - config.historyOverlapMs := by
  have start : (newHistoryScan config (some confirmedMs) nowMs).startMs =
      max 0 (min confirmedMs nowMs - config.historyOverlapMs) := rfl
  omega

/-- The session as `start` makes it, when nothing confirmed is in the future. -/
theorem sessionSafe_started {puller : ProviderMessagePuller}
    {confirmedMs : Option Int} (consistent : Consistent world live)
    (past : ∀ confirmed, confirmedMs = some confirmed →
      confirmed ≤ world.clock) :
    SessionSafe world live generation [] puller.config.historyOverlapMs
      (newHistoryScan puller.config confirmedMs world.clock).startMs sessionId
      (puller.startedSession world.clock confirmedMs) := by
  have nothing : ∀ confirmed, confirmedMs = some confirmed →
      confirmed ≤ max 0 world.clock ∧ ∀ holds, AllBelow world sessionId
        (newHistoryScan puller.config confirmedMs world.clock).startMs
        (confirmed - puller.config.historyOverlapMs) holds := by
    rintro confirmed rfl
    refine ⟨(past confirmed rfl).trans (le_max_right _ _), ?_⟩
    intro holds message owed early
    have above := owed.aboveFloor
    have start : (newHistoryScan puller.config (some confirmed)
        world.clock).startMs = max 0 (min confirmed world.clock -
          puller.config.historyOverlapMs) := rfl
    have recorded := past confirmed rfl
    omega
  refine ⟨newHistoryScan_start_nonneg _ _ _, ?_, ?_, ?_, ?_, nofun, ?_, nofun⟩
  · rintro _ ⟨⟩
    refine ⟨newHistoryScan_start_le _ _ _, le_rfl, ?_, nofun⟩
    intro message owed early
    exact absurd owed.aboveFloor (Int.not_le.mpr early)
  · intro highwaterMs given
    exact ⟨(nothing highwaterMs given).1, (nothing highwaterMs given).2 _⟩
  · intro confirmed given
    exact ⟨(nothing confirmed given).1, (nothing confirmed given).2 _⟩
  · intro first event rest split
    exact absurd split.symm
      (List.append_ne_nil_of_right_ne_nil _ (List.cons_ne_nil _ _))
  · intro message owed
    exact Or.inr (Or.inl ⟨_, rfl, consistent.eventMs_le owed.sent, nofun⟩)

/-- A handoff: everything up to the present is awaited. -/
theorem SessionSafe.handOff {puller : ProviderMessagePuller}
    (safe : SessionSafe world live generation acknowledged
      puller.config.historyOverlapMs floorMs sessionId state)
    (consistent : Consistent world live) (later : Nat) :
    SessionSafe world live later acknowledged puller.config.historyOverlapMs
      floorMs sessionId (puller.handOff world.clock state) where
  floor := safe.floor
  scan := by
    intro scan given
    have started := newHistoryScan_start_le puller.config
      (laterOf state.confirmedEventMs state.historyHighwaterMs) world.clock
    cases given
    refine ⟨?_, le_rfl, ?_, nofun⟩
    · cases state.historyScan with
      | none => exact started
      | some old => exact (min_le_left _ _).trans started
    · intro message owed early
      cases active : state.historyScan with
      | some old =>
          simp only [active] at early
          exact (safe.scan old active).before message owed
            (early.trans_le (min_le_right _ _))
      | none =>
          -- the scan before has ended, so a highwater is known
          obtain ⟨highwaterMs, ended⟩ := safe.finished active
          simp only [active, ended] at early
          have nonneg := safe.floor.trans owed.aboveFloor
          cases confirmed : state.confirmedEventMs with
          | none =>
              rw [confirmed] at early
              exact (safe.highwater highwaterMs ended).2 message owed
                (lt_of_lt_newHistoryScan_start nonneg early)
          | some confirmedMs =>
              rw [confirmed] at early
              have below := lt_of_lt_newHistoryScan_start nonneg early
              rcases le_total confirmedMs highwaterMs with less | less
              · rw [max_eq_right less] at below
                exact (safe.highwater highwaterMs ended).2 message owed below
              · rw [max_eq_left less] at below
                exact Or.inl ((safe.confirmed confirmedMs confirmed).2 message
                  owed below)
  highwater := safe.highwater
  confirmed := safe.confirmed
  queued := safe.queued
  inFlight := safe.inFlight
  complete := by
    intro message owed
    exact Or.inr (Or.inl ⟨_, rfl, consistent.eventMs_le owed.sent, nofun⟩)
  finished := nofun

/-- A failed page only delays the next one. -/
theorem SessionSafe.delayed (safe : SessionSafe world live generation
      acknowledged overlapMs floorMs sessionId state) (nextMs : Int) :
    SessionSafe world live generation acknowledged overlapMs floorMs sessionId
      { state with nextHistoryAtMs := nextMs } where
  floor := safe.floor
  scan scan given :=
    { start_le := (safe.scan scan given).start_le
      end_le := (safe.scan scan given).end_le
      before := (safe.scan scan given).before
      query := (safe.scan scan given).query }
  highwater := safe.highwater
  confirmed := safe.confirmed
  queued := safe.queued
  inFlight := safe.inFlight
  complete := safe.complete
  finished := safe.finished

/-- Other acknowledgements do no harm. -/
theorem SessionSafe.acknowledgedMore
    (safe : SessionSafe world live generation acknowledged overlapMs floorMs
      sessionId state) (message : ProviderMessage) :
    SessionSafe world live generation (acknowledged ++ [message]) overlapMs
      floorMs sessionId state := by
  have more : ∀ other, other ∈ acknowledged →
      other ∈ acknowledged ++ [message] := fun _ =>
    List.mem_append_left _
  have known : ∀ other, Known acknowledged state other →
      Known (acknowledged ++ [message]) state other := fun other =>
    Or.imp_left (more other)
  exact
    { floor := safe.floor
      scan := fun scan given => (safe.scan scan given).mono known
      highwater := fun highwaterMs given =>
        ⟨(safe.highwater highwaterMs given).1,
          (safe.highwater highwaterMs given).2.mono known⟩
      confirmed := fun confirmedMs given =>
        ⟨(safe.confirmed confirmedMs given).1,
          (safe.confirmed confirmedMs given).2.mono more⟩
      queued := fun first event rest split =>
        (safe.queued first event rest split).mono fun other =>
          Or.imp_left (more other)
      inFlight := fun event given => (safe.inFlight event given).mono more
      complete := fun other owed =>
        (safe.complete other owed).imp_left (known other)
      finished := safe.finished }

/-- Live events of other sessions may be taken. -/
theorem SessionSafe.liveTaken {fewer : List ProviderEvent}
    (safe : SessionSafe world live generation acknowledged overlapMs floorMs
      sessionId state)
    (keeps : ∀ message, message.sessionId = sessionId →
      message ∈ messagesOf live → message ∈ messagesOf fewer) :
    SessionSafe world fewer generation acknowledged overlapMs floorMs sessionId
      state where
  floor := safe.floor
  scan := safe.scan
  highwater := safe.highwater
  confirmed := safe.confirmed
  queued := safe.queued
  inFlight := safe.inFlight
  complete message owed := by
    refine (safe.complete message owed).imp_right (Or.imp_right ?_)
    refine Or.imp_left fun onStream => ?_
    rw [messagesOf_append, List.mem_append] at onStream ⊢
    exact onStream.imp_left (keeps message owed.ofSession)
  finished := safe.finished

/-! ### Pages -/

section Pages

variable {scan : HistoryScan} {query : HistoryQuery} {page : HistoryPage}

theorem ContinuesQuery.isOf
    (continues : ContinuesQuery world sessionId scan.startMs scan.endMs
      scan.pageToken query) :
    query.sessionId = sessionId ∧ query.startMs = scan.startMs ∧
      query.endMs = scan.endMs := by
  generalize scan.pageToken = token at continues
  cases continues with
  | first => exact ⟨rfl, rfl, rfl⟩
  | next known => exact ⟨rfl, rfl, rfl⟩

/-- What the pages before have returned is known. -/
theorem ScanSafe.returned
    (safe : ScanSafe world acknowledged sessionId floorMs state scan)
    (continues : ContinuesQuery world sessionId scan.startMs scan.endMs
      scan.pageToken query) :
    ∀ message ∈ query.returned, Known acknowledged state message := by
  generalize named : scan.pageToken = token at continues
  cases continues with
  | first => exact fun _ member => absurd member List.not_mem_nil
  | next known =>
      obtain ⟨_, _, same, allKnown, -⟩ := safe.query _ named
      rw [same] at known
      cases known
      exact allKnown

/-- The query will return what the scan covers. -/
theorem ScanSafe.found
    (safe : ScanSafe world acknowledged sessionId floorMs state scan)
    (continues : ContinuesQuery world sessionId scan.startMs scan.endMs
      scan.pageToken query) {message : ProviderMessage}
    (owed : Owed world sessionId floorMs message)
    (low : scan.startMs ≤ message.eventMs)
    (covered : message.eventMs < scan.endMs ∨ Awaited world scan message) :
    message ∈ query.found := by
  generalize named : scan.pageToken = token at continues
  cases continues with
  | first =>
      have high : message.eventMs ≤ scan.endMs :=
        covered.elim le_of_lt And.left
      apply List.mem_filter.mpr
      exact ⟨owed.sent, decide_eq_true ⟨owed.ofSession, low, high⟩⟩
  | @next token found returned known =>
      rcases covered with high | awaited
      · obtain ⟨_, _, same, -, allFound⟩ := safe.query _ named
        rw [same] at known
        cases known
        exact allFound message owed low high
      · have isFound := awaited.2 token
          ⟨sessionId, scan.startMs, scan.endMs, found, returned⟩ named
        rw [owed.ofSession] at isFound
        exact isFound known low

theorem known_idle {message : ProviderMessage} (idle : state.inFlight = none)
    (drained : state.historyEvents = [])
    (known : Known acknowledged state message) : message ∈ acknowledged := by
  rcases known with acknowledged | inFlight | queued
  · exact acknowledged
  · rw [idle] at inFlight
    cases inFlight
  · rw [drained] at queued
    cases queued

/-- An event of a page has only known messages below it. -/
theorem ScanSafe.reachedPage
    (safe : ScanSafe world acknowledged sessionId floorMs state scan)
    (continues : ContinuesQuery world sessionId scan.startMs scan.endMs
      scan.pageToken query)
    (honest : HonestHistory world query page) (idle : state.inFlight = none)
    (drained : state.historyEvents = []) {first rest : List ProviderEvent}
    {event : ProviderEvent} (split : page.events = first ++ event :: rest) :
    Reached world sessionId floorMs
      (fun message => message ∈ acknowledged ∨ message ∈ messagesOf first)
      (messageOf event) := by
  obtain ⟨ofSession, startMs, endMs⟩ := ContinuesQuery.isOf continues
  have paged : messagesOf page.events =
      messagesOf first ++ messageOf event :: messagesOf rest := by
    rw [split, messagesOf_append]
    rfl
  have onPage : messageOf event ∈ messagesOf page.events := by
    rw [paged]
    exact List.mem_append_right _ List.mem_cons_self
  refine ⟨(honest.ofSession _ onPage).1, fun message owed early => ?_⟩
  rcases lt_or_ge message.eventMs scan.startMs with low | low
  · exact Or.inl (known_idle idle drained (safe.before message owed low))
  · rw [← startMs] at low
    have before := honest.ascending (query.returned ++ messagesOf first)
      (messageOf event) (messagesOf rest)
      (by rw [paged, List.append_assoc]) message owed.sent
      (owed.ofSession.trans ofSession.symm) low early
    rcases List.mem_append.mp before with returned | onPage
    · exact Or.inl (known_idle idle drained
        (safe.returned continues message returned))
    · exact Or.inr onPage

/-- A page that the provider gives to a session at rest. -/
structure GivesPage (world : ProviderWorld)
    (acknowledged : List ProviderMessage) (sessionId : String) (floorMs : Int)
    (state : SessionPullState) (scan : HistoryScan) (query : HistoryQuery)
    (page : HistoryPage) : Prop where
  scanSafe : ScanSafe world acknowledged sessionId floorMs state scan
  idle : state.inFlight = none
  drained : state.historyEvents = []
  continues : ContinuesQuery world sessionId scan.startMs scan.endMs
    scan.pageToken query
  honest : HonestHistory world query page
  recorded : ∀ next, page.nextPageToken = some next →
    world.queries sessionId next = some { query with
      returned := query.returned ++ messagesOf page.events }

section GivesPage

variable {message : ProviderMessage}

theorem GivesPage.historyEvents
    (gives : GivesPage world acknowledged sessionId floorMs state scan query
      page) : (receivedPage state scan page).historyEvents = page.events := by
  rw [receivedPage_historyEvents, gives.drained, List.nil_append]

theorem GivesPage.inFlight
    (gives : GivesPage world acknowledged sessionId floorMs state scan query
      page) : (receivedPage state scan page).inFlight = none :=
  (receivedPage_inFlight state scan page).trans gives.idle

/-- The session knows what it has known. -/
theorem GivesPage.kept
    (gives : GivesPage world acknowledged sessionId floorMs state scan query
      page) (known : Known acknowledged state message) :
    Known acknowledged (receivedPage state scan page) message :=
  Or.inl (known_idle gives.idle gives.drained known)

/-- The session knows what the query has returned. -/
theorem GivesPage.returned
    (gives : GivesPage world acknowledged sessionId floorMs state scan query
      page) (member : message ∈ query.returned ++ messagesOf page.events) :
    Known acknowledged (receivedPage state scan page) message := by
  rcases List.mem_append.mp member with returned | onPage
  · exact gives.kept (gives.scanSafe.returned gives.continues message returned)
  · refine Or.inr (Or.inr ?_)
    rw [gives.historyEvents]
    exact onPage

/-- After the last page the session knows all that the scan covers. -/
theorem GivesPage.covered
    (gives : GivesPage world acknowledged sessionId floorMs state scan query
      page) (last : page.nextPageToken = none)
    (owed : Owed world sessionId floorMs message)
    (inside : message.eventMs < scan.endMs ∨ Awaited world scan message) :
    Known acknowledged (receivedPage state scan page) message := by
  rcases lt_or_ge message.eventMs scan.startMs with low | low
  · exact gives.kept (gives.scanSafe.before message owed low)
  · exact gives.returned (gives.honest.complete last _
      (gives.scanSafe.found gives.continues owed low inside))

/-- With another page to come, the scan goes on. -/
theorem GivesPage.scanGoesOn
    (gives : GivesPage world acknowledged sessionId floorMs state scan query
      page) {token : String} (more : page.nextPageToken = some token) :
    ScanSafe world acknowledged sessionId floorMs
      (receivedPage state scan page)
      { scan with pageToken := some token } where
  start_le := gives.scanSafe.start_le
  end_le := gives.scanSafe.end_le
  before := gives.scanSafe.before.mono fun message => gives.kept
  query := by
    rintro other ⟨⟩
    have ofQuery := ContinuesQuery.isOf gives.continues
    refine ⟨query.found, _, ?_, fun message => gives.returned, ?_⟩
    · rw [gives.recorded token more, ofQuery.1, ofQuery.2.1, ofQuery.2.2]
    · intro message owed low high
      exact gives.scanSafe.found gives.continues owed low (Or.inl high)

/-- The last page moves the highwater to the end of the scan. -/
theorem GivesPage.highwater_last
    (gives : GivesPage world acknowledged sessionId floorMs state scan query
      page) (last : page.nextPageToken = none)
    (safe : SessionSafe world live generation acknowledged overlapMs floorMs
      sessionId state) :
    max (state.historyHighwaterMs.getD 0) scan.endMs ≤ max 0 world.clock ∧
      AllBelow world sessionId floorMs
        (max (state.historyHighwaterMs.getD 0) scan.endMs - overlapMs)
        (Known acknowledged (receivedPage state scan page)) := by
  have ended := gives.scanSafe.end_le
  have floor := safe.floor
  cases before : state.historyHighwaterMs with
  | none =>
      rw [Option.getD_none]
      refine ⟨max_le_max le_rfl ended, fun message owed early => ?_⟩
      have above := owed.aboveFloor
      exact gives.covered last owed (Or.inl (by omega))
  | some beforeMs =>
      obtain ⟨small, below⟩ := safe.highwater beforeMs before
      rw [Option.getD_some]
      refine ⟨max_le small (ended.trans (le_max_right _ _)), ?_⟩
      intro message owed early
      rcases lt_or_ge message.eventMs (beforeMs - overlapMs) with low | low
      · exact gives.kept (below message owed low)
      · exact gives.covered last owed (Or.inl (by omega))

/-- What the scan awaited is known, or awaited of its next page. -/
theorem GivesPage.awaited
    (gives : GivesPage world acknowledged sessionId floorMs state scan query
      page) (owed : Owed world sessionId floorMs message)
    (awaited : Awaited world scan message) :
    Known acknowledged (receivedPage state scan page) message ∨
      ∃ next, (receivedPage state scan page).historyScan = some next ∧
        Awaited world next message := by
  cases named : page.nextPageToken with
  | none => exact Or.inl (gives.covered named owed (Or.inr awaited))
  | some token =>
      refine Or.inr ⟨{ scan with pageToken := some token }, ?_, awaited.1, ?_⟩
      · rw [receivedPage, named]
      · intro other found same known low
        cases same
        rw [owed.ofSession, gives.recorded token named] at known
        cases known
        exact gives.scanSafe.found gives.continues owed low (Or.inr awaited)

end GivesPage

/-- A page is added to the session's queue. -/
theorem SessionSafe.received
    (safe : SessionSafe world live generation acknowledged overlapMs floorMs
      sessionId state)
    (given : state.historyScan = some scan) (idle : state.inFlight = none)
    (drained : state.historyEvents = [])
    (continues : ContinuesQuery world sessionId scan.startMs scan.endMs
      scan.pageToken query)
    (honest : HonestHistory world query page)
    (recorded : ∀ next, page.nextPageToken = some next →
      world.queries sessionId next = some { query with
        returned := query.returned ++ messagesOf page.events }) :
    SessionSafe world live generation acknowledged overlapMs floorMs sessionId
      (receivedPage state scan page) := by
  have gives : GivesPage world acknowledged sessionId floorMs state scan query
      page :=
    ⟨safe.scan scan given, idle, drained, continues, honest, recorded⟩
  refine ⟨safe.floor, ?_, ?_, ?_, ?_, ?_, ?_, ?_⟩
  · intro next active
    cases named : page.nextPageToken with
    | none =>
        rw [receivedPage, named] at active
        cases active
    | some token =>
        have rescan : next = { scan with pageToken := some token } := by
          rw [receivedPage, named] at active
          exact (Option.some.inj active).symm
        rw [rescan]
        exact gives.scanGoesOn named
  · intro highwaterMs reached
    cases named : page.nextPageToken with
    | some token =>
        rw [receivedPage, named] at reached
        obtain ⟨small, below⟩ := safe.highwater highwaterMs reached
        exact ⟨small, below.mono fun message => gives.kept⟩
    | none =>
        rw [receivedPage, named] at reached
        rw [← Option.some.inj reached]
        exact gives.highwater_last named safe
  · intro confirmedMs confirmed
    apply safe.confirmed
    rw [receivedPage] at confirmed
    cases named : page.nextPageToken <;> rw [named] at confirmed <;>
      exact confirmed
  · intro first event rest split
    rw [gives.historyEvents] at split
    rw [gives.inFlight]
    have reached := gives.scanSafe.reachedPage continues honest idle drained
      split
    exact reached.mono fun message => Or.imp_right Or.inr
  · intro event inFlight
    rw [gives.inFlight] at inFlight
    cases inFlight
  · intro message owed
    rcases safe.complete message owed with known | ⟨old, active, awaited⟩ |
      pending
    · exact Or.inl (gives.kept known)
    · rw [given] at active
      cases active
      exact (gives.awaited owed awaited).imp_right Or.inl
    · exact Or.inr (Or.inr pending)
  · intro ended
    cases named : page.nextPageToken with
    | none =>
        rw [receivedPage, named]
        exact ⟨_, rfl⟩
    | some token =>
        rw [receivedPage, named] at ended
        cases ended

end Pages

/-! ### Deliveries -/

/-- The head of the session's queue is delivered. -/
theorem SessionSafe.deliveredHistory {event : ProviderEvent}
    {rest : List ProviderEvent}
    (safe : SessionSafe world live generation acknowledged overlapMs floorMs
      sessionId state)
    (idle : state.inFlight = none)
    (head : state.historyEvents = event :: rest) :
    SessionSafe world live generation acknowledged overlapMs floorMs sessionId
      { state with historyEvents := rest, inFlight := some event } := by
  have kept : ∀ message, Known acknowledged state message →
      Known acknowledged
        { state with historyEvents := rest, inFlight := some event }
        message := by
    rintro message (known | inFlight | queued)
    · exact Or.inl known
    · rw [idle] at inFlight
      cases inFlight
    · rw [head] at queued
      rcases List.mem_cons.mp queued with rfl | queued
      · exact Or.inr (Or.inl rfl)
      · exact Or.inr (Or.inr queued)
  refine ⟨safe.floor, ?_, ?_, safe.confirmed, ?_, ?_, ?_, safe.finished⟩
  · intro scan given
    exact (safe.scan scan given).mono kept
  · intro highwaterMs given
    obtain ⟨small, below⟩ := safe.highwater highwaterMs given
    exact ⟨small, below.mono kept⟩
  · intro first other others split
    have whole : state.historyEvents = (event :: first) ++ other :: others := by
      rw [head]
      exact congrArg (List.cons event) split
    apply (safe.queued _ _ _ whole).mono
    rintro message (known | inFlight | queued)
    · exact Or.inl known
    · rw [idle] at inFlight
      cases inFlight
    · rcases List.mem_cons.mp queued with rfl | queued
      · exact Or.inr (Or.inl rfl)
      · exact Or.inr (Or.inr queued)
  · rintro _ ⟨⟩
    apply (safe.queued [] event rest head).mono
    rintro message (known | inFlight | queued)
    · exact known
    · rw [idle] at inFlight
      cases inFlight
    · cases queued
  · exact fun message owed => (safe.complete message owed).imp_left (kept _)

/-- Every live event was sent at a generation that has been handled. -/
def LiveHandled (world : ProviderWorld) (live : List ProviderEvent)
    (generation : Nat) : Prop :=
  ∀ event ∈ live, ∃ sent ∈ world.sent, sent.message = messageOf event ∧
    sent.missed = false ∧ sent.generation ≤ generation

/-- A live event that comes first of its session has only acknowledged messages
below it, once the history is drained. -/
theorem SessionSafe.reachedLive {first rest : List ProviderEvent}
    {event : ProviderEvent}
    (safe : SessionSafe world live generation acknowledged overlapMs floorMs
      sessionId state)
    (consistent : Consistent world live)
    (handled : LiveHandled world live generation)
    (ended : state.historyScan = none) (idle : state.inFlight = none)
    (drained : state.historyEvents = [])
    (split : live = first ++ event :: rest)
    (others : ∀ other ∈ first, other.sessionId ≠ sessionId) :
    Reached world sessionId floorMs (· ∈ acknowledged) (messageOf event) := by
  have member : event ∈ live := by
    rw [split]
    exact List.mem_append_right _ List.mem_cons_self
  refine ⟨(consistent.streamed event (List.mem_append_left _ member)).mem, ?_⟩
  intro message owed early
  rcases safe.complete message owed with known | ⟨scan, active, -⟩ |
    onStream | ⟨missed, inSent, rfl, wasMissed, unhandled⟩
  · exact known_idle idle drained known
  · rw [ended] at active
    cases active
  · -- an earlier event on the stream would have come first
    exfalso
    obtain ⟨other, inStream, rfl⟩ := List.mem_map.mp onStream
    have inOrder := consistent.inOrder
    rw [split, List.append_assoc, List.pairwise_append] at inOrder
    rw [split, List.append_assoc] at inStream
    rcases List.mem_append.mp inStream with inFirst | inRest
    · exact others other inFirst owed.ofSession
    · rcases List.mem_cons.mp inRest with rfl | inRest
      · exact lt_irrefl _ early
      · have later := (List.pairwise_cons.mp inOrder.2.1).1 other inRest
        exact absurd early (Int.not_lt.mpr later)
  · -- a reconnect after the gap would not have been handled
    exfalso
    obtain ⟨sent, sentMember, same, notMissed, old⟩ := handled event member
    rw [← same] at early
    have different : missed ≠ sent := by
      rintro rfl
      exact lt_irrefl _ early
    rcases consistent.precedes_or inSent sentMember different with
      precedes | precedes
    · have reconnected := precedes.reconnected wasMissed notMissed
      omega
    · exact absurd early (Int.not_lt.mpr precedes.ascending)

/-- A live event is delivered. -/
theorem SessionSafe.deliveredLive {first rest : List ProviderEvent}
    {event : ProviderEvent}
    (safe : SessionSafe world live generation acknowledged overlapMs floorMs
      sessionId state)
    (consistent : Consistent world live)
    (handled : LiveHandled world live generation)
    (ended : state.historyScan = none) (idle : state.inFlight = none)
    (drained : state.historyEvents = [])
    (split : live = first ++ event :: rest)
    (others : ∀ other ∈ first, other.sessionId ≠ sessionId) :
    SessionSafe world (first ++ rest) generation acknowledged overlapMs floorMs
      sessionId { state with inFlight := some event } := by
  have kept : ∀ message, Known acknowledged state message →
      Known acknowledged { state with inFlight := some event } message :=
    fun _ known => Or.inl (known_idle idle drained known)
  refine ⟨safe.floor, ?_, ?_, safe.confirmed, ?_, ?_, ?_, safe.finished⟩
  · intro scan active
    rw [ended] at active
    cases active
  · intro highwaterMs given
    obtain ⟨small, below⟩ := safe.highwater highwaterMs given
    exact ⟨small, below.mono kept⟩
  · intro before other after queued
    rw [drained] at queued
    exact absurd queued.symm (List.append_ne_nil_of_right_ne_nil _
      (List.cons_ne_nil _ _))
  · rintro _ ⟨⟩
    exact safe.reachedLive consistent handled ended idle drained split others
  · intro message owed
    rcases safe.complete message owed with known | ⟨scan, active, -⟩ |
      onStream | missed
    · exact Or.inl (kept _ known)
    · rw [ended] at active
      cases active
    · rw [split] at onStream
      simp only [messagesOf, List.map_append, List.map_cons, List.mem_append,
        List.mem_cons, or_assoc] at onStream
      rcases onStream with inFirst | rfl | inRest
      · refine Or.inr (Or.inr (Or.inl ?_))
        simp only [messagesOf, List.map_append, List.mem_append]
        exact Or.inl (Or.inl inFirst)
      · exact Or.inl (Or.inr (Or.inl rfl))
      · refine Or.inr (Or.inr (Or.inl ?_))
        simp only [messagesOf, List.map_append, List.mem_append]
        exact inRest.imp_left Or.inr
    · exact Or.inr (Or.inr (Or.inr missed))

/-! ### Acknowledgements -/

/-- The delivered event is acknowledged. -/
theorem SessionSafe.acknowledge {event : ProviderEvent}
    (safe : SessionSafe world live generation acknowledged overlapMs floorMs
      sessionId state)
    (consistent : Consistent world live)
    (delivered : state.inFlight.map messageOf = some (messageOf event)) :
    SessionSafe world live generation (acknowledged ++ [messageOf event])
      overlapMs floorMs sessionId
      { state with
        confirmedEventMs := laterOf state.confirmedEventMs (some event.eventMs)
        inFlight := none } := by
  have last : messageOf event ∈ acknowledged ++ [messageOf event] :=
    List.mem_append_right _ (List.mem_singleton_self _)
  have more : ∀ message ∈ acknowledged,
      message ∈ acknowledged ++ [messageOf event] :=
    fun _ => List.mem_append_left _
  have reached : Reached world sessionId floorMs (· ∈ acknowledged)
      (messageOf event) := by
    obtain ⟨inFlight, given, same⟩ := Option.map_eq_some_iff.mp delivered
    rw [← same]
    exact safe.inFlight inFlight given
  have kept : ∀ message, Known acknowledged state message →
      Known (acknowledged ++ [messageOf event])
        { state with
          confirmedEventMs :=
            laterOf state.confirmedEventMs (some event.eventMs)
          inFlight := none } message := by
    rintro message (known | inFlight | queued)
    · exact Or.inl (more _ known)
    · rw [delivered] at inFlight
      cases inFlight
      exact Or.inl last
    · exact Or.inr (Or.inr queued)
  refine ⟨safe.floor, ?_, ?_, ?_, ?_, nofun, ?_, safe.finished⟩
  · intro scan given
    exact (safe.scan scan given).mono kept
  · intro highwaterMs given
    obtain ⟨small, below⟩ := safe.highwater highwaterMs given
    exact ⟨small, below.mono kept⟩
  · intro confirmedMs confirmed
    have past : event.eventMs ≤ max 0 world.clock :=
      (consistent.eventMs_le reached.sent).trans (le_max_right _ _)
    have belowEvent : ∀ message, Owed world sessionId floorMs message →
        message.eventMs < event.eventMs - overlapMs →
          message ∈ acknowledged ++ [messageOf event] := by
      intro message owed early
      refine more _ (reached.below message owed ?_)
      show message.eventMs < event.eventMs
      omega
    cases before : state.confirmedEventMs with
    | none =>
        rw [before] at confirmed
        cases confirmed
        exact ⟨past, belowEvent⟩
    | some beforeMs =>
        rw [before] at confirmed
        cases confirmed
        obtain ⟨small, below⟩ := safe.confirmed beforeMs before
        refine ⟨max_le small past, fun message owed early => ?_⟩
        rcases lt_or_ge message.eventMs (beforeMs - overlapMs) with low | low
        · exact more _ (below message owed low)
        · exact belowEvent message owed (by omega)
  · intro first other rest split
    apply (safe.queued first other rest split).mono
    rintro message (known | inFlight | queued)
    · exact Or.inl (more _ known)
    · rw [delivered] at inFlight
      cases inFlight
      exact Or.inl last
    · exact Or.inr (Or.inr queued)
  · exact fun message owed => (safe.complete message owed).imp_left (kept _)

end Operations

end OpenEventIm.Syncer.SessionDelivery
