import OpenEventIm.Syncer.SessionDelivery
import OpenEventIm.Syncer.SessionRuns

/-!
# Handoff windows leave no gap

A session is read in windows: one at startup, and one for each reconnect, which
replaces a window that is still being read.  As long as the clock does not go
backwards, every instant since the first window is in a window that has been
read, in the one being read, or so far before the confirmed time that the
overlap covers it.
-/

namespace OpenEventIm.Syncer.HistoryWindows

open OpenEventIm.Foundation
open OpenEventIm.Foundation.Interaction
open OpenEventIm.Foundation.LabelledPaths
open OpenEventIm.Foundation.Transcripts
open OpenEventIm.Sdk.Errors
open OpenEventIm.Service.Calls
open OpenEventIm.Syncer.LarkMessages
open OpenEventIm.Syncer.LiveStream
open OpenEventIm.Syncer.Models
open OpenEventIm.Syncer.ProviderMessages
open OpenEventIm.Syncer.ProviderMessages.ProviderMessagePuller
open OpenEventIm.Syncer.PullerSessions
open OpenEventIm.Syncer.PullerTurns
open OpenEventIm.Syncer.RoundRobin
open OpenEventIm.Syncer.SessionDelivery
open OpenEventIm.Syncer.SessionRuns

/-! ## Windows -/

/-- The instant lies in the window of the scan. -/
def InWindow (scan : HistoryScan) (atMs : Int) : Prop :=
  scan.startMs ≤ atMs ∧ atMs ≤ scan.endMs

/-- The window begins after the epoch and does not end before it begins. -/
structure Proper (scan : HistoryScan) : Prop where
  nonneg : 0 ≤ scan.startMs
  ordered : scan.startMs ≤ scan.endMs

/-- The last of the windows scheduled, of which there is a first one. -/
def lastScheduled (first : HistoryScan) (actions : List SessionAction) :
    HistoryScan :=
  (actions.filterMap SessionAction.scheduled?).getLastD first

/-- The window whose last page has arrived. -/
def completedBy? : SessionAction → Option HistoryScan
  | .receives scan page => if page.nextPageToken = none then some scan else none
  | _ => none

/-- The windows whose last page has been fetched. -/
def completed (actions : List SessionAction) : List HistoryScan :=
  actions.filterMap completedBy?

def completedWindow? (sessionId : String) :
    Exchanged service → Option HistoryScan
  | ⟨.fetchHistoryPage _ queried startMs endMs token, .ok page⟩ =>
      if queried = sessionId ∧ page.nextPageToken = none then
        some ⟨startMs, endMs, token⟩
      else none
  | _ => none

/-- The same, in the answers of the adapter. -/
def completedIn (sessionId : String) (exchanges : List (Exchanged service)) :
    List HistoryScan :=
  exchanges.filterMap (completedWindow? sessionId)

/-- The instant does not need to be read any more, or will be read. -/
inductive Covered (config : ProviderSyncConfig) (read : List HistoryScan)
    (state : SessionPullState) (atMs : Int) : Prop where
  | read (scan : HistoryScan) (fetched : scan ∈ read)
      (inside : InWindow scan atMs)
  | outstanding (scan : HistoryScan)
      (scanning : state.historyScan = some scan) (inside : InWindow scan atMs)
  | confirmed (confirmedMs : Int)
      (confirmed : state.confirmedEventMs = some confirmedMs)
      (later : atMs + config.historyOverlapMs ≤ confirmedMs)

/-- What holds of a session after each of its steps. -/
structure Gapless (config : ProviderSyncConfig) (first : HistoryScan)
    (actions : List SessionAction) (state : SessionPullState) : Prop where
  windows : ∀ scan ∈ first :: actions.filterMap SessionAction.scheduled?,
    Proper scan
  outstanding : ∀ scan, state.historyScan = some scan →
    Proper scan ∧ scan.endMs = (lastScheduled first actions).endMs
  highwater : ∀ highwaterMs, state.historyHighwaterMs = some highwaterMs →
    highwaterMs ≤ (lastScheduled first actions).endMs ∨
      ∃ confirmedMs, state.confirmedEventMs = some confirmedMs ∧
        highwaterMs ≤ confirmedMs
  unread : state.confirmedEventMs = none → state.historyHighwaterMs = none →
    ∃ scan, state.historyScan = some scan ∧ scan.startMs ≤ first.startMs
  covered : ∀ atMs, first.startMs ≤ atMs →
    atMs ≤ (lastScheduled first actions).endMs →
      Covered config (completed actions) state atMs

variable {config : ProviderSyncConfig} {provider sessionId : String}
  {first : HistoryScan} {actions : List SessionAction} {action : SessionAction}
  {state : SessionPullState} {view next : SessionView}

theorem lastScheduled_concat_none (unscheduled : action.scheduled? = none) :
    lastScheduled first (actions ++ [action]) =
      lastScheduled first actions := by
  rw [lastScheduled, List.filterMap_append, List.filterMap_cons_none unscheduled,
    List.filterMap_nil, List.append_nil]
  rfl

theorem lastScheduled_concat_some {scan : HistoryScan}
    (scheduled : action.scheduled? = some scan) :
    lastScheduled first (actions ++ [action]) = scan := by
  rw [lastScheduled, List.filterMap_append, List.filterMap_cons_some scheduled,
    List.filterMap_nil]
  simp [List.getLastD_eq_getLast?]

theorem scheduled_concat_none (unscheduled : action.scheduled? = none) :
    (actions ++ [action]).filterMap SessionAction.scheduled? =
      actions.filterMap SessionAction.scheduled? := by
  rw [List.filterMap_append, List.filterMap_cons_none unscheduled,
    List.filterMap_nil, List.append_nil]

theorem completed_concat_none (unread : completedBy? action = none) :
    completed (actions ++ [action]) = completed actions := by
  rw [completed, List.filterMap_append, List.filterMap_cons_none unread,
    List.filterMap_nil, List.append_nil]
  rfl

/-- The window that `start` schedules. -/
def firstScan (config : ProviderSyncConfig) (startedMs : Int)
    (confirmedMs : Option Int) : HistoryScan :=
  newHistoryScan config confirmedMs startedMs

theorem gapless_started {startedMs : Int} {confirmedMs : Option Int}
    (clock : 0 ≤ startedMs) :
    Gapless config (firstScan config startedMs confirmedMs) []
      (startedView provider config startedMs confirmedMs).state := by
  have proper : Proper (firstScan config startedMs confirmedMs) := by
    refine ⟨newHistoryScan_start_nonneg config confirmedMs startedMs, ?_⟩
    have start := newHistoryScan_start_le config confirmedMs startedMs
    rw [max_eq_right clock] at start
    exact start
  constructor
  · intro scan member
    rw [List.mem_singleton.mp member]
    exact proper
  · rintro _ ⟨⟩
    exact ⟨proper, rfl⟩
  · rintro highwaterMs same
    exact Or.inr ⟨highwaterMs, same, le_rfl⟩
  · rintro - -
    exact ⟨_, rfl, le_rfl⟩
  · intro atMs early late
    exact .outstanding _ rfl ⟨early, late⟩

/-- A step that changes neither the windows nor the watermarks. -/
theorem Gapless.unchanged {later : SessionPullState}
    (gapless : Gapless config first actions state)
    (unscheduled : action.scheduled? = none)
    (unread : completedBy? action = none)
    (scan : later.historyScan = state.historyScan)
    (highwater : later.historyHighwaterMs = state.historyHighwaterMs)
    (confirmed : later.confirmedEventMs = state.confirmedEventMs) :
    Gapless config first (actions ++ [action]) later := by
  constructor
  · rw [scheduled_concat_none unscheduled]
    exact gapless.windows
  · rw [scan, lastScheduled_concat_none unscheduled]
    exact gapless.outstanding
  · rw [highwater, confirmed, lastScheduled_concat_none unscheduled]
    exact gapless.highwater
  · rw [scan, highwater, confirmed]
    exact gapless.unread
  · rw [lastScheduled_concat_none unscheduled, completed_concat_none unread]
    intro atMs early late
    rcases gapless.covered atMs early late with
      ⟨found, member, inside⟩ | ⟨found, scanning, inside⟩ |
        ⟨confirmedMs, isConfirmed, after⟩
    · exact .read found member inside
    · exact .outstanding found (scan.trans scanning) inside
    · exact .confirmed confirmedMs (confirmed.trans isConfirmed) after

/-- The confirmed time only grows. -/
theorem laterOf_some (confirmedMs : Option Int) (eventMs : Int) :
    ∃ later, laterOf confirmedMs (some eventMs) = some later ∧
      ∀ earlier, confirmedMs = some earlier → earlier ≤ later := by
  cases confirmedMs with
  | none =>
      refine ⟨eventMs, rfl, ?_⟩
      rintro _ ⟨⟩
  | some confirmed =>
      refine ⟨max confirmed eventMs, rfl, ?_⟩
      rintro _ ⟨⟩
      exact le_max_left _ _

theorem Gapless.acknowledged {event given : ProviderEvent}
    (gapless : Gapless config first actions state) :
    Gapless config first (actions ++ [.acknowledges event given])
      { state with
        confirmedEventMs := laterOf state.confirmedEventMs (some given.eventMs)
        inFlight := none } := by
  rcases laterOf_some state.confirmedEventMs given.eventMs with
    ⟨later, isLater, grown⟩
  constructor
  · rw [scheduled_concat_none rfl]
    exact gapless.windows
  · rw [lastScheduled_concat_none rfl]
    exact gapless.outstanding
  · intro highwaterMs isHighwater
    rw [lastScheduled_concat_none rfl]
    rcases gapless.highwater highwaterMs isHighwater with
      early | ⟨confirmedMs, confirmed, below⟩
    · exact Or.inl early
    · exact Or.inr ⟨later, isLater, below.trans (grown _ confirmed)⟩
  · intro absent
    rw [isLater] at absent
    cases absent
  · rw [lastScheduled_concat_none rfl, completed_concat_none rfl]
    intro atMs early late
    rcases gapless.covered atMs early late with
      ⟨found, member, inside⟩ | ⟨found, scanning, inside⟩ |
        ⟨confirmedMs, confirmed, after⟩
    · exact .read found member inside
    · exact .outstanding found scanning inside
    · exact .confirmed later isLater (after.trans (grown _ confirmed))

/-- A page that is not the last one leaves the window as it is. -/
theorem Gapless.receivedPart {scan : HistoryScan} {page : HistoryPage}
    {token : String} (gapless : Gapless config first actions state)
    (scanning : state.historyScan = some scan)
    (more : page.nextPageToken = some token) :
    Gapless config first (actions ++ [.receives scan page])
      (receivedPage state scan page) := by
  have received : receivedPage state scan page = { state with
      historyEvents := state.historyEvents ++ page.events
      nextHistoryAtMs := 0
      historyScan := some { scan with pageToken := some token } } := by
    rw [receivedPage, more]
  have unread : completedBy? (.receives scan page) = none :=
    if_neg (by simp [more])
  rcases gapless.outstanding scan scanning with ⟨proper, last⟩
  rw [received]
  constructor
  · rw [scheduled_concat_none rfl]
    exact gapless.windows
  · rw [lastScheduled_concat_none rfl]
    rintro _ ⟨⟩
    exact ⟨⟨proper.nonneg, proper.ordered⟩, last⟩
  · rw [lastScheduled_concat_none rfl]
    exact gapless.highwater
  · intro absent none
    rcases gapless.unread absent none with ⟨found, isScan, start⟩
    rw [scanning] at isScan
    cases isScan
    exact ⟨_, rfl, start⟩
  · rw [lastScheduled_concat_none rfl, completed_concat_none unread]
    intro atMs early late
    rcases gapless.covered atMs early late with
      ⟨found, member, inside⟩ | ⟨found, isScan, inside⟩ |
        ⟨confirmedMs, confirmed, after⟩
    · exact .read found member inside
    · rw [scanning] at isScan
      cases isScan
      exact .outstanding _ rfl inside
    · exact .confirmed confirmedMs confirmed after

/-- With its last page the outstanding window is completed. -/
theorem Gapless.receivedLast {scan : HistoryScan} {page : HistoryPage}
    (gapless : Gapless config first actions state)
    (scanning : state.historyScan = some scan)
    (complete : page.nextPageToken = none) :
    Gapless config first (actions ++ [.receives scan page])
      (receivedPage state scan page) := by
  have received : receivedPage state scan page = { state with
      historyEvents := state.historyEvents ++ page.events
      nextHistoryAtMs := 0
      historyHighwaterMs :=
        some (max (state.historyHighwaterMs.getD 0) scan.endMs)
      historyScan := none } := by
    rw [receivedPage, complete]
  have read : completed (actions ++ [.receives scan page]) =
      completed actions ++ [scan] := by
    rw [completed, List.filterMap_append]
    simp [completedBy?, complete, completed]
  rcases gapless.outstanding scan scanning with ⟨proper, last⟩
  have nonneg : 0 ≤ scan.endMs := proper.nonneg.trans proper.ordered
  rw [received]
  constructor
  · rw [scheduled_concat_none rfl]
    exact gapless.windows
  · rintro _ ⟨⟩
  · rw [lastScheduled_concat_none rfl, ← last]
    rintro _ ⟨⟩
    cases known : state.historyHighwaterMs with
    | none => exact Or.inl (max_le nonneg le_rfl)
    | some highwaterMs =>
        rcases gapless.highwater highwaterMs known with
          early | ⟨confirmedMs, confirmed, below⟩
        · rw [← last] at early
          exact Or.inl (max_le early le_rfl)
        · rcases le_total highwaterMs scan.endMs with early | late
          · exact Or.inl (max_le early le_rfl)
          · exact Or.inr ⟨confirmedMs, confirmed,
              (max_le le_rfl late).trans below⟩
  · rintro - ⟨⟩
  · rw [lastScheduled_concat_none rfl, read]
    intro atMs early late
    rcases gapless.covered atMs early late with
      ⟨found, member, inside⟩ | ⟨found, isScan, inside⟩ |
        ⟨confirmedMs, confirmed, after⟩
    · exact .read found (List.mem_append_left _ member) inside
    · rw [scanning] at isScan
      cases isScan
      exact .read scan (List.mem_append_right _ List.mem_cons_self) inside
    · exact .confirmed confirmedMs confirmed after

theorem scheduledScan_start_le (nowMs : Int) :
    (scheduledScan config nowMs state).startMs ≤
      (newHistoryScan config (laterOf state.confirmedEventMs
        state.historyHighwaterMs) nowMs).startMs := by
  rw [scheduledScan]
  cases state.historyScan with
  | none => exact le_rfl
  | some scan => exact min_le_left _ _

/-- The window that a reconnect schedules is proper. -/
theorem proper_scheduledScan {nowMs : Int} (clock : 0 ≤ nowMs)
    (outstanding : ∀ scan, state.historyScan = some scan → Proper scan) :
    Proper (scheduledScan config nowMs state) := by
  have replacement := newHistoryScan_start_nonneg config
    (laterOf state.confirmedEventMs state.historyHighwaterMs) nowMs
  have start := newHistoryScan_start_le config
    (laterOf state.confirmedEventMs state.historyHighwaterMs) nowMs
  rw [max_eq_right clock] at start
  refine ⟨?_, (scheduledScan_start_le nowMs).trans start⟩
  rw [scheduledScan]
  cases scanning : state.historyScan with
  | none => exact replacement
  | some scan => exact le_min replacement (outstanding scan scanning).nonneg

/-- The larger of the two watermarks is one of them. -/
theorem laterOf_cases {confirmedMs highwaterMs : Option Int} {laterMs : Int}
    (isLater : laterOf confirmedMs highwaterMs = some laterMs) :
    confirmedMs = some laterMs ∨ highwaterMs = some laterMs := by
  cases confirmedMs with
  | none => exact Or.inr isLater
  | some confirmed =>
      cases highwaterMs with
      | none => exact Or.inl isLater
      | some highwater =>
          cases isLater
          rcases le_total confirmed highwater with below | above
          · rw [max_eq_right below]
            exact Or.inr rfl
          · rw [max_eq_left above]
            exact Or.inl rfl

theorem laterOf_eq_none {confirmedMs highwaterMs : Option Int}
    (absent : laterOf confirmedMs highwaterMs = none) :
    confirmedMs = none ∧ highwaterMs = none := by
  cases confirmedMs with
  | none => exact ⟨rfl, absent⟩
  | some confirmed => cases highwaterMs <;> cases absent

/-- What lies before the new window lies before the replacement and before the
window that is replaced. -/
theorem beforeScheduled {nowMs atMs : Int}
    (before : atMs < (scheduledScan config nowMs state).startMs) :
    atMs < (newHistoryScan config (laterOf state.confirmedEventMs
        state.historyHighwaterMs) nowMs).startMs ∧
      ∀ scan, state.historyScan = some scan → atMs < scan.startMs := by
  refine ⟨before.trans_le (scheduledScan_start_le nowMs), ?_⟩
  intro scan scanning
  rw [scheduledScan, scanning] at before
  exact before.trans_le (min_le_right _ _)

/-- An instant before the replacement is confirmed, by the overlap, or in the
time that has been scheduled already. -/
theorem Gapless.before_cases {nowMs atMs : Int}
    (gapless : Gapless config first actions state)
    (early : first.startMs ≤ atMs)
    (before : atMs < (newHistoryScan config (laterOf state.confirmedEventMs
      state.historyHighwaterMs) nowMs).startMs)
    (outside : ∀ scan, state.historyScan = some scan →
      atMs < scan.startMs) :
    (∃ confirmedMs, state.confirmedEventMs = some confirmedMs ∧
        atMs + config.historyOverlapMs ≤ confirmedMs) ∨
      atMs ≤ (lastScheduled first actions).endMs := by
  have floor : 0 ≤ atMs :=
    (gapless.windows first List.mem_cons_self).nonneg.trans early
  cases known : laterOf state.confirmedEventMs state.historyHighwaterMs with
  | none =>
      -- nothing is confirmed or read: the first window is outstanding
      have absent := laterOf_eq_none known
      rcases gapless.unread absent.1 absent.2 with ⟨scan, scanning, start⟩
      exact absurd (outside scan scanning) (not_lt.mpr (start.trans early))
  | some laterMs =>
      rw [known] at before
      have below := lt_of_lt_newHistoryScan_start floor before
      rcases laterOf_cases known with confirmed | highwater
      · exact Or.inl ⟨laterMs, confirmed, by omega⟩
      · rcases gapless.highwater laterMs highwater with
          scheduled | ⟨confirmedMs, confirmed, above⟩
        · exact Or.inr (by omega)
        · exact Or.inl ⟨confirmedMs, confirmed, by omega⟩

/--
A reconnect replaces the outstanding window by one that begins no later.  What
lies before the new window lies before the confirmed time or before the highest
window read, by the overlap.
-/
theorem Gapless.scheduled {nowMs : Int}
    (gapless : Gapless config first actions state)
    (clock : (lastScheduled first actions).endMs ≤ nowMs) (nonneg : 0 ≤ nowMs) :
    Gapless config first
      (actions ++ [.schedules (scheduledScan config nowMs state)])
      { state with
        historyScan := some (scheduledScan config nowMs state)
        nextHistoryAtMs := 0 } := by
  have proper : Proper (scheduledScan config nowMs state) :=
    proper_scheduledScan nonneg fun scan scanning =>
      (gapless.outstanding scan scanning).1
  have last : lastScheduled first
      (actions ++ [.schedules (scheduledScan config nowMs state)]) =
        scheduledScan config nowMs state := lastScheduled_concat_some rfl
  have ends : (scheduledScan config nowMs state).endMs = nowMs := rfl
  constructor
  · rw [List.filterMap_append, ← List.cons_append]
    intro scan member
    rcases List.mem_append.mp member with old | new
    · exact gapless.windows scan old
    · rw [List.mem_singleton.mp new]
      exact proper
  · rw [last]
    rintro _ ⟨⟩
    exact ⟨proper, rfl⟩
  · intro highwaterMs known
    rw [last, ends]
    rcases gapless.highwater highwaterMs known with early | confirmed
    · exact Or.inl (early.trans clock)
    · exact Or.inr confirmed
  · intro absent none
    rcases gapless.unread absent none with ⟨scan, scanning, start⟩
    refine ⟨_, rfl, le_trans ?_ start⟩
    rw [scheduledScan, scanning]
    exact min_le_right _ _
  · rw [last, ends, completed_concat_none rfl]
    intro atMs early late
    by_cases inside : (scheduledScan config nowMs state).startMs ≤ atMs
    · exact .outstanding _ rfl ⟨inside, late⟩
    · have before := beforeScheduled (not_le.mp inside)
      rcases gapless.before_cases early before.1 before.2 with later | earlier
      · rcases later with ⟨confirmedMs, confirmed, after⟩
        exact .confirmed confirmedMs confirmed after
      · rcases gapless.covered atMs early earlier with
          ⟨found, member, inside⟩ | ⟨found, scanning, inside⟩ |
            ⟨confirmedMs, confirmed, after⟩
        · exact .read found member inside
        · exact absurd inside.1 (not_le.mpr (before.2 found scanning))
        · exact .confirmed confirmedMs confirmed after

/-! ## Paths along which the clock does not go backwards -/

theorem lastScheduled_mem (actions : List SessionAction) :
    lastScheduled first actions ∈
      first :: actions.filterMap SessionAction.scheduled? := by
  rw [lastScheduled, List.getLastD_eq_getLast?]
  cases scheduled : (actions.filterMap SessionAction.scheduled?).getLast? with
  | none => exact List.mem_cons_self
  | some scan =>
      exact List.mem_cons_of_mem _ (List.mem_of_getLast? scheduled)

/-- The times at which windows have been scheduled, the first one included. -/
def scheduleTimes (first : HistoryScan) (actions : List SessionAction) :
    List Int :=
  (first :: actions.filterMap SessionAction.scheduled?).map HistoryScan.endMs

theorem Gapless.step
    (gapless : Gapless config first actions view.state)
    (step : SessionStep config provider sessionId view action next)
    (ordered : (scheduleTimes first (actions ++ [action])).Pairwise (· ≤ ·)) :
    Gapless config first (actions ++ [action]) next.state := by
  cases step with
  | @schedules nowMs =>
      have split : scheduleTimes first (actions ++
            [.schedules (scheduledScan config nowMs view.state)]) =
          scheduleTimes first actions ++ [nowMs] := by
        rw [scheduleTimes, List.filterMap_append, ← List.cons_append,
          List.map_append]
        rfl
      rw [split] at ordered
      have earlier := fun endMs member =>
        (List.pairwise_append.mp ordered).2.2 endMs member nowMs
          List.mem_cons_self
      have last := earlier _ (List.mem_map_of_mem (lastScheduled_mem actions))
      have proper := gapless.windows _ (lastScheduled_mem actions)
      exact gapless.scheduled last
        ((proper.nonneg.trans proper.ordered).trans last)
  | collects => exact gapless.unchanged rfl rfl rfl rfl rfl
  | @receives scan _ page _ scanning =>
      cases more : page.nextPageToken with
      | none => exact gapless.receivedLast scanning more
      | some token => exact gapless.receivedPart scanning more
  | fails => exact gapless.unchanged rfl rfl rfl rfl rfl
  | takesHistory => exact gapless.unchanged rfl rfl rfl rfl rfl
  | takesLive => exact gapless.unchanged rfl rfl rfl rfl rfl
  | acknowledges => exact gapless.acknowledged

theorem gapless_of_path {start : SessionView}
    (started : Gapless config first [] start.state)
    (path : SessionPath config provider sessionId start actions view)
    (ordered : (scheduleTimes first actions).Pairwise (· ≤ ·)) :
    Gapless config first actions view.state := by
  induction path with
  | refl => exact started
  | tail _ step ih =>
      refine (ih ?_).step step ordered
      refine ordered.sublist ?_
      rw [scheduleTimes, scheduleTimes, List.filterMap_append,
        ← List.cons_append, List.map_append]
      exact List.sublist_append_left _ _

/-! ## Queries in whole seconds -/

/-- The query asks for every message of the window, and for a time at all. -/
structure Contains (request : ListMessageRequest) (scan : HistoryScan) :
    Prop where
  nonempty : request.startTime < request.endTime
  start : request.startTime * 1000 ≤ scan.startMs
  stop : scan.endMs ≤ request.endTime * 1000

theorem listMessageRequest_contains (pageSize : Nat) (sessionId : String)
    (scan : HistoryScan) (pageToken : Option String) :
    Contains (listMessageRequest pageSize sessionId scan.startMs scan.endMs
      pageToken) scan := by
  have start : (listMessageRequest pageSize sessionId scan.startMs scan.endMs
      pageToken).startTime = scan.startMs / 1000 := rfl
  have stop : (listMessageRequest pageSize sessionId scan.startMs scan.endMs
      pageToken).endTime =
    max ((scan.endMs + 999) / 1000) (scan.startMs / 1000 + 1) := rfl
  constructor
  · rw [start, stop]
    exact lt_max_of_lt_right (Int.lt_succ _)
  · rw [start]
    omega
  · rw [stop]
    omega

/-! ## Every run of the puller -/

/-- The clock reads times since the epoch and does not go backwards. -/
structure ClockForward (exchanges : List (Exchanged service)) : Prop where
  nonneg : ∀ nowMs ∈ clockReadings exchanges, 0 ≤ nowMs
  ordered : (clockReadings exchanges).Pairwise (· ≤ ·)

theorem reconnectTimes_sublist (handing : Bool) (current : Nat)
    (exchanges : List (Exchanged service)) :
    (reconnectTimes handing current exchanges).Sublist
      (clockReadings exchanges) := by
  induction exchanges generalizing handing current with
  | nil => exact .slnil
  | cons exchange rest ih =>
      rcases exchange with ⟨request, answer⟩
      cases request with
      | currentTimeMs =>
          cases handing with
          | true => exact (ih false current).cons_cons answer
          | false => exact (ih false current).cons answer
      | eventStreamGeneration =>
          cases answer with
          | error => cases handing <;> exact ih _ current
          | ok generation => cases handing <;> exact ih _ generation
      | _ => cases handing <;> exact ih _ current

/-- The windows are scheduled at readings of the clock, one after the other. -/
theorem reconnects_sublist {environment : Environment service}
    {highwater : Dict String (Option Int)} {startedMs : Int} {seen : Seen}
    {puller : ProviderMessagePuller} {now : environment.State}
    (run : PullerRun environment provider config highwater startedMs seen puller
      now) :
    (startedMs :: seen.reconnects).Sublist (clockReadings seen.exchanges) := by
  induction run with
  | starts _ clock =>
      exact clock ▸ List.Sublist.refl [startedMs]
  | evolves _ _ ih => exact ih
  | @takes seen exchanges _ puller _ _ _ _ _ ih =>
      have later := reconnectTimes_sublist false puller.streamGeneration
        exchanges
      have both := ih.append later
      rw [clockReadings, clockReadings, ← List.filterMap_append] at both
      exact both
  | acknowledges _ _ ih =>
      simpa [Seen.append] using ih

/-- What holds of a session after a run: its path, and the instants that are
covered at each moment of the path. -/
structure WindowsGapless (provider : String) (config : ProviderSyncConfig)
    (sessionId : String) (startedMs : Int) (confirmedMs : Option Int)
    (seen : Seen) (puller : ProviderMessagePuller)
    (actions : List SessionAction) (state : SessionPullState) : Prop where
  follows : Follows provider config sessionId startedMs confirmedMs seen puller
    actions state
  windows : ∀ scan ∈ firstScan config startedMs confirmedMs ::
      actions.filterMap SessionAction.scheduled?,
    Proper scan ∧ ∀ pageSize pageToken, Contains
      (listMessageRequest pageSize sessionId scan.startMs scan.endMs pageToken)
      scan
  completed : completed actions = completedIn sessionId seen.exchanges
  covered : ∀ earlier later, actions = earlier ++ later → ∃ view,
    SessionPath config provider sessionId
        (startedView provider config startedMs confirmedMs) earlier view ∧
      ∀ atMs, (firstScan config startedMs confirmedMs).startMs ≤ atMs →
        atMs ≤ (lastScheduled (firstScan config startedMs confirmedMs)
          earlier).endMs →
        Covered config (HistoryWindows.completed earlier) view.state atMs
  now : ∀ atMs, (firstScan config startedMs confirmedMs).startMs ≤ atMs →
    atMs ≤ (lastScheduled (firstScan config startedMs confirmedMs)
      actions).endMs →
    Covered config (completedIn sessionId seen.exchanges) state atMs

theorem completedIn_eq {seen : Seen}
    (shows : Shows provider sessionId actions seen) :
    completedIn sessionId seen.exchanges = completed actions := by
  rw [completedIn, completed, List.filterMap_eq_flatMap_toList,
    List.filterMap_eq_flatMap_toList]
  apply shows.flatMap_eq
  · rintro ⟨request, answer⟩ foreign
    cases request with
    | fetchHistoryPage _ queried =>
        have other : queried ≠ sessionId := by simpa [concerns] using foreign
        cases answer <;> simp [completedWindow?, other]
    | _ => simp [completedWindow?]
  · intro action unseen
    cases action with
    | receives => cases unseen
    | _ => rfl
  · rintro action exchange visible -
    cases action with
    | receives scan page =>
        cases visible
        simp [completedWindow?, completedBy?]
    | _ => cases visible <;> rfl

/--
Handoff windows leave no gap, for whatever the adapter answers.  At each moment
of each run, every instant from the first window to the end of the last one that
has been scheduled is covered.
-/
theorem handoffWindows_leaveNoGap {environment : Environment service}
    {highwater : Dict String (Option Int)} {startedMs : Int} {seen : Seen}
    {puller : ProviderMessagePuller} {now : environment.State}
    (run : PullerRun environment provider config highwater startedMs seen puller
      now) (clock : ClockForward seen.exchanges) {confirmedMs : Option Int}
    (known : highwater.get? sessionId = some confirmedMs) :
    ∃ actions state, WindowsGapless provider config sessionId startedMs
      confirmedMs seen puller actions state := by
  rcases run.invariant.follows sessionId confirmedMs known with
    ⟨actions, state, follows⟩
  have readings := reconnects_sublist run
  have nonneg : 0 ≤ startedMs :=
    clock.nonneg startedMs (readings.subset List.mem_cons_self)
  have ordered : (scheduleTimes (firstScan config startedMs confirmedMs)
      actions).Pairwise (· ≤ ·) := by
    rw [scheduleTimes, List.map_cons, follows.shows.reconnects]
    exact clock.ordered.sublist readings
  have started : Gapless config (firstScan config startedMs confirmedMs) []
      (startedView provider config startedMs confirmedMs).state :=
    gapless_started nonneg
  have gapless := gapless_of_path started follows.path ordered
  have read := completedIn_eq follows.shows
  refine ⟨actions, state, follows, ?_, read.symm, ?_, ?_⟩
  · intro scan scheduled
    exact ⟨gapless.windows scan scheduled, fun pageSize pageToken =>
      listMessageRequest_contains pageSize sessionId scan pageToken⟩
  · intro earlier later split
    have path := follows.path
    rw [split] at path
    rcases path_append_iff.mp path with ⟨view, first, -⟩
    have earlierOrdered : (scheduleTimes (firstScan config startedMs
        confirmedMs) earlier).Pairwise (· ≤ ·) := by
      refine ordered.sublist ?_
      rw [split, scheduleTimes, scheduleTimes, List.filterMap_append,
        ← List.cons_append, List.map_append]
      exact List.sublist_append_left _ _
    exact ⟨view, first, (gapless_of_path started first earlierOrdered).covered⟩
  · rw [read]
    exact gapless.covered

/-- The window of a start is replaced at a reconnect, and read at the second
attempt. -/
theorem handoffWindows_leaveNoGap_sample :
    ∃ actions state, WindowsGapless "lark" sampleConfig "oc1" 200 none
      sampleSeen acknowledgedPuller actions state := by
  have clock : ClockForward sampleSeen.exchanges := by
    have readings : clockReadings sampleSeen.exchanges =
        [200, 300, 300, 1300] := rfl
    constructor
    · rw [readings]
      decide
    · rw [readings]
      decide
  exact handoffWindows_leaveNoGap pullerRun_sample clock rfl

end OpenEventIm.Syncer.HistoryWindows
