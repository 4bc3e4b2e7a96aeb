import OpenEventIm.Syncer.LogReading

/-!
# Every message exactly once

The two loops, with handlers that also record the messages they are given.  At
every point of every run the recorded messages are those of the mapped channels
below a cut, the history's up to the end of the scan and the live ones after it.
-/

namespace OpenEventIm.Syncer.LogConsumption

open OpenEventIm.Foundation
open OpenEventIm.Foundation.Interaction
open OpenEventIm.Sdk.Errors
open OpenEventIm.Service.Calls
open OpenEventIm.Service.Scenes
open OpenEventIm.Service.World
open OpenEventIm.Syncer.HistoryReplay
open OpenEventIm.Syncer.PollEvents
open OpenEventIm.Syncer.LogReading

/-- What the worker holds, and the messages that were handed to its handlers. -/
structure Recording (Held : Type) where
  held : Held
  history : List Message
  live : List Message

variable {Held : Type}

/-- The handlers, recording every message they are given. -/
def recorded (handlers : Handlers Held) : Handlers (Recording Held) where
  history recording message := do
    let held ← handlers.history recording.held message
    return { recording with
      held, history := recording.history ++ [message] }
  launch recording := do
    let held ← handlers.launch recording.held
    return { recording with held }
  live recording message := do
    let held ← handlers.live recording.held message
    return { recording with held, live := recording.live ++ [message] }
  tick recording := do
    let held ← handlers.tick recording.held
    return { recording with held }

variable {setting : Setting} {syncer : P2PSyncer} {handlers : Handlers Held}

theorem history_recorded {handed : List Message}
    {first last : Recording Held}
    (processed : handed.foldlM (recorded handlers).history first = .ok last) :
    last.history = first.history ++ handed ∧ last.live = first.live := by
  refine Checked.foldlM_induct (fun done recording =>
    recording.history = first.history ++ done ∧ recording.live = first.live)
    processed ⟨(List.append_nil _).symm, rfl⟩ ?_
  intro done message before after _ holds stepped
  obtain ⟨held, -, returned⟩ := Checked.bind_eq_ok_iff.mp stepped
  cases returned
  refine ⟨?_, holds.2⟩
  rw [← List.append_assoc, ← holds.1]

/-- The messages handed over so far, the history's being fixed. -/
def RecordedUpto (history handed : List Message) (recording : Recording Held)
    (_ : WorldState setting) : Prop :=
  recording.history = history ∧ history ++ recording.live = handed

/-- A handler without messages leaves the record as it is. -/
theorem safe_unrecorded {step : Held → Action Held}
    {history handed : List Message} {recording : Recording Held}
    {state : WorldState setting}
    (holds : RecordedUpto history handed recording state) :
    Safe (world setting) (fun _ => True)
      (fun next after => RecordedUpto history handed next after)
      (fun _ _ => True)
      (do
        let held ← step recording.held
        return { recording with held }) state := by
  have unknown : Safe (world setting) (fun _ => True) (fun _ _ => True)
      (fun _ _ => True) (step recording.held) state := safe_true _ _
  apply unknown.bind
  intro held after _ _
  exact ⟨trivial, holds⟩

theorem consumes_recorded (history : List Message) :
    Consumes syncer (recorded handlers)
      (fun _ : WorldState setting => True) (RecordedUpto history) where
  kept _ _ :=
    { stable := fun _ _ _ holds => holds
      reads := fun _ _ _ _ _ _ holds => holds }
  sound _ _ _ _ := trivial
  live := by
    intro handed recording message next state holds _ stepped
    obtain ⟨held, -, returned⟩ := Checked.bind_eq_ok_iff.mp stepped
    cases returned
    refine ⟨holds.1, ?_⟩
    rw [← List.append_assoc, holds.2]
  tick _ _ _ holds _ := safe_unrecorded holds

/-- What has been handed over when the poll loop starts an iteration. -/
structure ConsumedOnce (syncer : P2PSyncer) (log : Log)
    (scanEndSeq cut : Nat) (recording : Recording Held) : Prop where
  /-- No later message can come below the cut. -/
  final : cut ≤ log.frontier
  history : recording.history =
    messagesIn syncer.mapping.channelIds log 0 (scanEndSeq + 1)
  live : recording.live =
    messagesIn syncer.mapping.channelIds log (scanEndSeq + 1) cut
  all : recording.history ++ recording.live =
    messagesIn syncer.mapping.channelIds log 0 cut
  increasing : (recording.history ++ recording.live).Pairwise
    fun left right => left.seq < right.seq

/-- The record of a run of `start` before the poll loop. -/
theorem booted_recorded {held : Held} {before booted : WorldState setting}
    {first : PollVars (Recording Held)}
    (run : Runs (world setting) before
      (boot syncer (recorded handlers) ⟨held, [], []⟩) booted (.ok first)) :
    ∃ scanEndSeq handed, first = .start (scanEndSeq + 1) first.held ∧
      HandedOver syncer.mapping.channelIds booted.log (scanEndSeq + 1)
        handed ∧
      RecordedUpto handed handed first.held booted ∧
      ∃ begun, Grows before begun ∧ begun.log.last = scanEndSeq ∧
        begun.log.Extends booted.log := by
  have kept : KeptByReads (Grows before) :=
    { stable := stable_grows before
      reads := fun _ _ _ _ _ answers grown => grown.trans answers.grows }
  have safe : Safe (world setting) (fun _ => True)
      (fun first booted => ∃ scanEndSeq handed,
        first = .start (scanEndSeq + 1) first.held ∧
        HandedOver syncer.mapping.channelIds booted.log (scanEndSeq + 1)
          handed ∧
        RecordedUpto handed handed first.held booted ∧
        ∃ begun, Grows before begun ∧ begun.log.last = scanEndSeq ∧
          begun.log.Extends booted.log)
      (fun _ _ => True)
      (boot syncer (recorded handlers) ⟨held, [], []⟩) before := by
    rw [boot]
    have scan : Safe (world setting) (fun _ => True) _ (fun _ _ => True)
        (scanHistory syncer (recorded handlers) ⟨held, [], []⟩) before :=
      safe_scanHistory kept (fun _ _ => trivial) (Grows.refl before)
    apply scan.bind
    rintro ⟨scanEndSeq, recording⟩ scanned -
      ⟨-, ⟨handed, handedOver, folded⟩, begun, since, isLast, grown⟩
    obtain ⟨history, live⟩ := history_recorded folded
    have holds : RecordedUpto handed handed recording scanned :=
      ⟨history, by rw [live, List.append_nil]⟩
    have launched : Safe (world setting) (fun _ => True)
        (fun next after =>
          RecordedUpto handed handed next after ∧ Grows scanned after)
        (fun _ _ => True) ((recorded handlers).launch recording) scanned :=
      (safe_grown (Grows.refl scanned) (safe_unrecorded holds)).mono
        (fun _ _ _ both => both) (fun _ _ _ _ => trivial)
    apply launched.bind
    rintro next after - ⟨nextHolds, launchGrown⟩
    exact ⟨trivial, scanEndSeq, handed, rfl,
      handedOver.extends launchGrown.log, nextHolds, begun, since, isLast,
      grown.trans launchGrown.log⟩
  exact (safe.runs_ok run).2

/--
At every iteration of the poll loop, in every run and against every growth of
the log: the history was handed the mapped channels' messages up to the last
number that the log had when the scan began, the live processing those after it
up to a cut, all in increasing number; and while the loop ticks the cut is the
snapshot.
-/
theorem consumes_exactlyOnce (setting : Setting) (syncer : P2PSyncer)
    (handlers : Handlers Held) (held : Held)
    {before booted after : WorldState setting}
    {first vars : PollVars (Recording Held)}
    (run : Runs (world setting) before
      (boot syncer (recorded handlers) ⟨held, [], []⟩) booted (.ok first))
    (reached : LoopReaches (world setting)
      (pollBody syncer (recorded handlers)) first booted vars after) :
    ∃ begun scanEndSeq cut, Grows before begun ∧
      begun.log.last = scanEndSeq ∧ first.nextSeq = scanEndSeq + 1 ∧
      ConsumedOnce syncer after.log scanEndSeq cut vars.held ∧
      (vars.point = .ticking → ∃ lastSeq,
        vars.snapshotLastSeq = some lastSeq ∧ cut = lastSeq + 1) := by
  obtain ⟨scanEndSeq, history, firstEq, handedOver, holds, begun, since,
    isLast, grown⟩ := booted_recorded run
  rw [firstEq] at reached
  have polled := polled_of_loopReaches (consumes_recorded history)
    (polled_start handedOver (isLast ▸ grown.last_le) holds) reached
  have start : first.nextSeq = scanEndSeq + 1 := by
    rw [firstEq]
    rfl
  have historyFinal := handedOver.extends (loopReaches_grows reached).log
  have sofar : ∀ cut handed, scanEndSeq + 1 ≤ cut →
      HandedOver syncer.mapping.channelIds after.log cut handed →
        RecordedUpto history handed vars.held after →
          ConsumedOnce syncer after.log scanEndSeq cut vars.held := by
    rintro cut handed above cutOver ⟨isHistory, isAll⟩
    have split : messagesIn syncer.mapping.channelIds after.log 0
          (scanEndSeq + 1) ++
        messagesIn syncer.mapping.channelIds after.log (scanEndSeq + 1) cut =
          messagesIn syncer.mapping.channelIds after.log 0 cut :=
      messagesIn_append (Nat.zero_le _) above
    rw [← historyFinal.handed, ← cutOver.handed, ← isAll] at split
    have all : vars.held.history ++ vars.held.live =
        messagesIn syncer.mapping.channelIds after.log 0 cut := by
      rw [isHistory, isAll, cutOver.handed]
    exact {
      final := cutOver.final
      history := isHistory.trans historyFinal.handed
      live := (List.append_cancel_left split).symm
      all := all
      increasing := by
        rw [all]
        exact messagesIn_increasing }
  cases point : vars.point with
  | ticking =>
      obtain ⟨lastSeq, handed, snapshot, cutOver, upto, above⟩ :=
        polled.ticking point
      exact ⟨begun, scanEndSeq, lastSeq + 1, since, isLast, start,
        sofar _ _ above cutOver upto, fun _ => ⟨lastSeq, snapshot, rfl⟩⟩
  | polling =>
      obtain ⟨-, cut, handed, above, cutOver, upto, -⟩ := polled
      exact ⟨begun, scanEndSeq, cut, since, isLast, start,
        sofar _ _ above cutOver upto, by rintro ⟨⟩⟩

/-! ## A run -/

/-- Handlers that do nothing. -/
def idleHandlers : Handlers Unit where
  history _ _ := .ok ()
  launch _ := .ret ()
  live _ _ := .ok ()
  tick _ := .ret ()

def sampleMessage (seq : Nat) : Message where
  seq := seq
  channelId := 3
  principal := 8
  recipients := []
  payload := ByteArray.empty

/-- Others may publish anything. -/
def sharedSetting : Setting := { soleSetting with foreign _ _ := True }

def firstLog : Log :=
  SequencedLog.empty.push ⟨sampleMessage 1, false⟩ (by decide) (by decide)
    (by decide)

def secondLog : Log :=
  firstLog.push ⟨sampleMessage 2, false⟩ (by decide) (by decide) (by decide)

def thirdLog : Log :=
  secondLog.push ⟨sampleMessage 3, false⟩ (by decide) (by decide) (by decide)

def fourthLog : Log :=
  thirdLog.push ⟨sampleMessage 4, false⟩ (by decide) (by decide) (by decide)

/-- A scene of the sample run. -/
def sampleScene (log : Log) : Scene sharedSetting := ⟨log, ()⟩

def fetchExchange (fromSeq : Nat) (response : FetchResponse) : Exchange :=
  ⟨.fetch 9 "worker" fromSeq 1000 false [3], .ok response⟩

def bootCalls : List Exchange := [⟨.getStatus 9 "worker", .ok ⟨1⟩⟩,
  ⟨.stopIsSet, false⟩, fetchExchange 1 ⟨[sampleMessage 1], 2, 1⟩]

/-- The loop begins after the only message of the history. -/
def bootedVars : PollVars (Recording Unit) :=
  .start 2 ⟨(), [sampleMessage 1], []⟩

/-- A page of one message out of two fixes the snapshot. -/
def shortVars : PollVars (Recording Unit) :=
  { bootedVars with
    nextSeq := 3
    snapshotLastSeq := some 3
    snapshotHadMessages := true
    held := ⟨(), [sampleMessage 1], [sampleMessage 2]⟩ }

/-- The next page reaches past the snapshot. -/
def aheadVars : PollVars (Recording Unit) :=
  { shortVars with
    point := .ticking
    nextSeq := 5
    prefetchedMessages := [sampleMessage 4]
    prefetchedLastSeq := some 4
    held := ⟨(), [sampleMessage 1], [sampleMessage 2, sampleMessage 3]⟩ }

/-- After the tick, the message beyond becomes the next snapshot. -/
def drainedVars : PollVars (Recording Unit) :=
  { aheadVars with
    snapshotLastSeq := some 4
    prefetchedMessages := []
    prefetchedLastSeq := none
    held := ⟨(), [sampleMessage 1],
      [sampleMessage 2, sampleMessage 3, sampleMessage 4]⟩ }

theorem leads_boot :
    Leads (boot sampleSyncer (recorded idleHandlers) ⟨(), [], []⟩)
      (sampleScene firstLog) bootCalls (sampleScene firstLog)
      (.ok bootedVars) := by
  have honest : HonestPage firstLog 1 sampleSyncer.mapping.channelIds
      ⟨[sampleMessage 1], 2, 1⟩ := by
    rw [channelIds_sample]
    exact ⟨rfl, rfl, by decide, by decide⟩
  have replayed : [sampleMessage 1].foldlM (recorded idleHandlers).history
      ⟨(), [], []⟩ = .ok ⟨(), [sampleMessage 1], []⟩ := rfl
  have scanned := leads_scanHistory (sampleScene firstLog) (Nat.succ_ne_zero 0)
    honest rfl le_rfl replayed
  rw [channelIds_sample] at scanned
  exact Leads.calls_eq (.bind scanned (.bind leads_ret leads_ret)) rfl

/-- Two messages are published; the page has one of them. -/
theorem leads_short :
    Leads (pollBody sampleSyncer (recorded idleHandlers) bootedVars)
      (sampleScene firstLog) [⟨.stopIsSet, false⟩,
        fetchExchange 2 ⟨[sampleMessage 2], 3, 3⟩] (sampleScene thirdLog)
      (.ok (.inl shortVars)) := by
  have honest : HonestPage thirdLog 2 sampleSyncer.mapping.channelIds
      ⟨[sampleMessage 2], 3, 3⟩ := by
    rw [channelIds_sample]
    exact ⟨rfl, rfl, by decide, by decide⟩
  have taken : takePage (recorded idleHandlers) bootedVars
      ⟨[sampleMessage 2], 3, 3⟩ = .ok shortVars := rfl
  have fetched := leads_fetchLive (sampleScene thirdLog) taken honest
    (by decide)
  rw [channelIds_sample] at fetched
  have second : firstLog.Appends ⟨sampleMessage 2, false⟩ secondLog :=
    SequencedLog.appends_push _ _ _
  have third : secondLog.Appends ⟨sampleMessage 3, false⟩ thirdLog :=
    SequencedLog.appends_push _ _ _
  exact leads_pollBody rfl (Or.inr rfl) (leads_published trivial second
    (leads_published trivial third fetched))

/-- A further message is published; the page goes beyond the snapshot. -/
theorem leads_ahead :
    Leads (pollBody sampleSyncer (recorded idleHandlers) shortVars)
      (sampleScene thirdLog) [⟨.stopIsSet, false⟩,
        fetchExchange 3 ⟨[sampleMessage 3, sampleMessage 4], 5, 4⟩]
      (sampleScene fourthLog) (.ok (.inl aheadVars)) := by
  have honest : HonestPage fourthLog 3 sampleSyncer.mapping.channelIds
      ⟨[sampleMessage 3, sampleMessage 4], 5, 4⟩ := by
    rw [channelIds_sample]
    exact ⟨rfl, rfl, by decide, by decide⟩
  have taken : takePage (recorded idleHandlers) shortVars
      ⟨[sampleMessage 3, sampleMessage 4], 5, 4⟩ = .ok aheadVars := rfl
  have fetched := leads_fetchLive (sampleScene fourthLog) taken honest le_rfl
  rw [channelIds_sample] at fetched
  have fourth : thirdLog.Appends ⟨sampleMessage 4, false⟩ fourthLog :=
    SequencedLog.appends_push _ _ _
  exact leads_pollBody rfl (Or.inl nofun) (leads_published trivial fourth
    fetched)

theorem leads_tick :
    Leads (pollBody sampleSyncer (recorded idleHandlers) aheadVars)
      (sampleScene fourthLog) [] (sampleScene fourthLog)
      (.ok (.inl (aheadVars.reset aheadVars.held))) :=
  Leads.calls_eq (.bind (.bind leads_ret leads_ret) leads_ret) rfl

/-- The prefetched message needs no further page. -/
theorem leads_drained :
    Leads (pollBody sampleSyncer (recorded idleHandlers)
        (aheadVars.reset aheadVars.held)) (sampleScene fourthLog)
      [⟨.stopIsSet, false⟩] (sampleScene fourthLog)
      (.ok (.inl drainedVars)) := by
  have taken : takePrefetched (recorded idleHandlers)
      (aheadVars.reset aheadVars.held) 4 = .ok drainedVars := rfl
  refine leads_call replies_goesOn ?_
  show Leads (Action.ofExcept (takePrefetched _ _ 4) >>= _) _ _ _ _
  rw [taken]
  exact leads_ret

/-- At the second tick the history has been handed one message and the live
processing three, the last of them prefetched. -/
theorem consumes_exactlyOnce_sample :
    ConsumedOnce sampleSyncer fourthLog 1 5 drainedVars.held := by
  have reached := (((LoopReaches.start.iterate (leads_short bootCalls)).iterate
    (leads_ahead _)).iterate (leads_tick _)).iterate (leads_drained _)
  obtain ⟨begun, scanEndSeq, cut, -, -, start, consumed, ticks⟩ :=
    consumes_exactlyOnce sharedSetting sampleSyncer idleHandlers ()
      (leads_boot []) reached
  obtain ⟨lastSeq, snapshot, rfl⟩ := ticks rfl
  cases snapshot
  cases start
  exact consumed

end OpenEventIm.Syncer.LogConsumption
