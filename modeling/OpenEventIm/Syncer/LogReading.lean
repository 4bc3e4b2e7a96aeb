import OpenEventIm.Service.Scenes
import OpenEventIm.Syncer.PollEvents

/-!
# Reading the log once and in order

Rules for the two loops over the log.  Whatever the handlers do, the messages
handed to them are those of the selected channels below a cut, and the cut is
below the frontier of the log, so that no later message can come before it.

The cut of the poll loop is determined by its variables: it is the snapshot
while the loop ticks, and prefetched messages are those between the cut and the
next number to fetch.

The last section tells how the loops read a log that is known.
-/

namespace OpenEventIm.Syncer.LogReading

open OpenEventIm.Foundation
open OpenEventIm.Foundation.Checked
open OpenEventIm.Foundation.Interaction
open OpenEventIm.Sdk.Errors
open OpenEventIm.Service.Calls
open OpenEventIm.Service.Scenes
open OpenEventIm.Service.World
open OpenEventIm.Syncer.HistoryReplay
open OpenEventIm.Syncer.PollEvents

variable {setting : Setting} {Held : Type} {syncer : P2PSyncer}
  {handlers : Handlers Held} {invariant : WorldState setting → Prop}

/-! ## Cuts -/

/-- The messages handed over are those below the cut. -/
structure HandedOver (channels : List Nat) (log : Log) (cut : Nat)
    (handed : List Message) : Prop where
  handed : handed = messagesIn channels log 0 cut
  final : cut ≤ log.frontier

section Cuts

variable {channels : List Nat} {log old new : Log} {cut next : Nat}
  {handed : List Message}

theorem HandedOver.extends (handedOver : HandedOver channels old cut handed)
    (grown : old.Extends new) : HandedOver channels new cut handed where
  handed := by
    rw [messagesIn_final grown handedOver.final]
    exact handedOver.handed
  final := handedOver.final.trans grown.1

/-- The messages from the cut on are handed over as well. -/
theorem HandedOver.append (handedOver : HandedOver channels log cut handed)
    (forward : cut ≤ next) (final : next ≤ log.frontier) :
    HandedOver channels log next
      (handed ++ messagesIn channels log cut next) where
  handed := by
    rw [handedOver.handed, messagesIn_append (Nat.zero_le cut) forward]
  final := final

/-- The cut can be moved over numbers that no selected message has. -/
theorem HandedOver.move (handedOver : HandedOver channels log cut handed)
    (final : next ≤ log.frontier)
    (same : messagesIn channels log 0 next = messagesIn channels log 0 cut) :
    HandedOver channels log next handed :=
  ⟨handedOver.handed.trans same.symm, final⟩

/-- Numbers without messages between two cuts. -/
theorem messagesIn_zero_eq {low high : Nat} (ordered : low ≤ high)
    (none : messagesIn channels log low high = []) :
    messagesIn channels log 0 high = messagesIn channels log 0 low := by
  rw [← messagesIn_append (Nat.zero_le low) ordered, none, List.append_nil]

/-- Messages handed over, possibly up to the middle of a range. -/
def Handing (channels : List Nat) (log : Log) (handed : List Message) : Prop :=
  ∃ cut, cut ≤ log.frontier ∧ handed <+: messagesIn channels log 0 cut

theorem HandedOver.handing (handedOver : HandedOver channels log cut handed) :
    Handing channels log handed :=
  ⟨cut, handedOver.final, by rw [← handedOver.handed]⟩

end Cuts

/-! ## The history -/

section History

variable {assertion : WorldState setting → Prop} {first : Held}

/-- The state that the history holds after all messages below the cut. -/
def Scanned (handlers : Handlers Held) (channels : List Nat) (first : Held)
    (cut : Nat) (held : Held) (log : Log) : Prop :=
  ∃ handed, HandedOver channels log cut handed ∧
    handed.foldlM handlers.history first = .ok held

theorem Scanned.extends {channels : List Nat} {cut : Nat} {held : Held}
    {old new : Log} (scanned : Scanned handlers channels first cut held old)
    (grown : old.Extends new) :
    Scanned handlers channels first cut held new :=
  scanned.imp fun _ => And.imp_left fun handedOver => handedOver.extends grown

theorem scanned_kept {channels : List Nat} {cut : Nat} {held : Held} :
    KeptByReads fun state : WorldState setting =>
      Scanned handlers channels first cut held state.log :=
  keptByReads_of_extends fun _ _ grown scanned => scanned.extends grown

/-- A page of the history, up to the end of the scan. -/
theorem Scanned.page {channels : List Nat} {fromSeq scanEndSeq : Nat}
    {held next : Held} {response : FetchResponse} {log after : Log}
    (scanned : Scanned handlers channels first fromSeq held log)
    (within : fromSeq ≤ scanEndSeq)
    (honest : HonestPage log fromSeq channels response)
    (reserves : log.Reserves response.nextSeq after)
    (processed : (response.messages.filter (·.seq ≤ scanEndSeq)).foldlM
      handlers.history held = .ok next) :
    Scanned handlers channels first
      (min response.nextSeq (scanEndSeq + 1)) next after := by
  obtain ⟨handed, handedOver, folded⟩ := scanned.extends reserves.extends
  have forward := le_nextSeq_of_honestPage honest
  refine ⟨_, handedOver.append (le_min forward (Nat.le_succ_of_le within))
    ((Nat.min_le_left _ _).trans reserves.2.2), ?_⟩
  rw [List.foldlM_append, folded, ← filter_messagesIn_le,
    ← messages_of_honestPage (honestPage_of_reserves honest reserves)]
  exact processed

/-- The scan hands over everything up to its end. -/
theorem safe_scanFrom (kept : KeptByReads assertion)
    (sound : ∀ state, assertion state → invariant state)
    {scanEndSeq fromSeq : Nat} {held : Held} {state : WorldState setting}
    (holds : assertion state)
    (scanned : Scanned handlers syncer.mapping.channelIds first
      (min fromSeq (scanEndSeq + 1)) held state.log) :
    Safe (world setting) invariant
      (fun held state => assertion state ∧
        Scanned handlers syncer.mapping.channelIds first (scanEndSeq + 1) held
          state.log)
      (fun _ _ => True)
      (scanFrom syncer handlers scanEndSeq held fromSeq) state := by
  induction remaining : scanEndSeq + 1 - fromSeq using Nat.strong_induction_on
    generalizing fromSeq held state with
  | _ remaining ih =>
      rw [scanFrom]
      split_ifs with within
      · rw [min_eq_left (Nat.le_succ_of_le within)] at scanned
        have bothKept := kept.and
          (@scanned_kept setting Held handlers first
            syncer.mapping.channelIds fromSeq held)
        have bothSound : ∀ state, assertion state ∧
            Scanned handlers syncer.mapping.channelIds first fromSeq held
              state.log → invariant state :=
          fun state both => sound state both.1
        rw [stopIsSet]
        apply bothKept.safe_callBind onlyReads_stopIsSet bothSound
          ⟨holds, scanned⟩
        intro _ stopped asked _ askedHolds _
        rw [Program.ret_bind]
        split_ifs with isStopped
        · exact ⟨bothSound _ askedHolds, trivial⟩
        · rw [fetch]
          apply bothKept.safe_callBind onlyReads_fetch bothSound askedHolds
          intro before answer after beforeHolds afterHolds answers
          cases answer with
          | error exc => exact ⟨bothSound _ afterHolds, trivial⟩
          | ok response =>
              obtain ⟨honest, reserves⟩ := FetchAnswers.ok answers.server
              rw [Action.ofExcept_ok, Program.ret_bind]
              cases processed : (response.messages.filter
                  (·.seq ≤ scanEndSeq)).foldlM handlers.history held with
              | error exc => exact ⟨bothSound _ afterHolds, trivial⟩
              | ok next =>
                  rw [Action.ofExcept_ok, Program.ret_bind]
                  split_ifs with stuck
                  · exact ⟨bothSound _ afterHolds, trivial⟩
                  · have nextScanned := beforeHolds.2.page within honest
                      reserves processed
                    exact ih _ (by omega) afterHolds.1 nextScanned rfl
      · rw [min_eq_right (by omega)] at scanned
        exact ⟨sound state holds, holds, scanned⟩

/--
The scan ends at a number that was the last of the log when it began, and hands
over everything up to it.
-/
theorem safe_scanHistory (kept : KeptByReads assertion)
    (sound : ∀ state, assertion state → invariant state)
    {state : WorldState setting} (holds : assertion state) :
    Safe (world setting) invariant
      (fun result after => assertion after ∧
        Scanned handlers syncer.mapping.channelIds first (result.1 + 1)
          result.2 after.log ∧
        ∃ begun, assertion begun ∧ begun.log.last = result.1 ∧
          begun.log.Extends after.log)
      (fun _ _ => True)
      (scanHistory syncer handlers first) state := by
  rw [scanHistory, getStatus]
  apply kept.safe_callBind onlyReads_getStatus sound holds
  intro begun answer after begunHolds afterHolds answers
  cases answer with
  | error exc => exact ⟨sound _ afterHolds, trivial⟩
  | ok status =>
      obtain ⟨maxSeq, sameLog⟩ := answers.server
      have nothingBelow : messagesIn syncer.mapping.channelIds after.log 0 1 =
          [] := by
        apply messagesIn_eq_nil
        intro message member
        obtain ⟨⟨own, inside⟩, -, isLow, -⟩ := mem_messagesIn.mp member
        exact absurd (after.log.positive _ inside) (by
          show ¬0 < message.seq
          omega)
      have nothingYet : Scanned handlers syncer.mapping.channelIds first 1
          first after.log :=
        ⟨[], ⟨nothingBelow.symm, after.log.started⟩, rfl⟩
      rw [Action.ofExcept_ok, Program.ret_bind]
      split_ifs with isEmpty
      · refine ⟨sound _ afterHolds, afterHolds, nothingYet, begun, begunHolds,
          ?_, answers.extends⟩
        rw [← maxSeq, isEmpty]
      · have bothKept := kept.and (keptByReads_of_extends
          (@fun old new grown (since : begun.log.Extends old) =>
            since.trans grown))
        apply Safe.bind
          (safe_scanFrom bothKept (fun state both => sound state both.1)
            ⟨afterHolds, answers.extends⟩ (by
              rw [min_eq_left (by omega)]
              exact nothingYet))
        intro held last _ ⟨⟨lastHolds, since⟩, scanned⟩
        exact ⟨sound _ lastHolds, lastHolds, scanned, begun, begunHolds,
          maxSeq.symm, since⟩

end History

/-! ## The poll loop -/

/-- How the variables of the poll loop determine the cut. -/
structure Cursor (channels : List Nat) (log : Log) (cut : Nat)
    (vars : PollVars Held) : Prop where
  le : cut ≤ vars.nextSeq
  final : vars.nextSeq ≤ log.frontier
  prefetched :
    vars.prefetchedMessages = messagesIn channels log cut vars.nextSeq
  nothing : vars.prefetchedLastSeq = none → vars.prefetchedMessages = []
  last : ∀ lastSeq, vars.prefetchedLastSeq = some lastSeq →
    cut ≤ lastSeq + 1 ∧
      ∀ message ∈ vars.prefetchedMessages, message.seq ≤ lastSeq
  snapshot : ∀ lastSeq, vars.snapshotLastSeq = some lastSeq →
    match vars.point with
    | .polling => cut = vars.nextSeq ∧ vars.nextSeq ≤ lastSeq ∧
        vars.prefetchedLastSeq = none
    | .ticking => cut = lastSeq + 1
  ticks : vars.point = .ticking → vars.snapshotLastSeq ≠ none

/--
What the worker keeps while it consumes messages: `upto handed held` says that
it holds `held` after the messages `handed`.
-/
structure Consumes (syncer : P2PSyncer) (handlers : Handlers Held)
    (invariant : WorldState setting → Prop)
    (upto : List Message → Held → WorldState setting → Prop) : Prop where
  kept : ∀ handed held, KeptByReads (upto handed held)
  sound : ∀ handed held state, upto handed held state → invariant state
  live : ∀ handed held message next state, upto handed held state →
    Handing syncer.mapping.channelIds state.log (handed ++ [message]) →
      handlers.live held message = .ok next →
        upto (handed ++ [message]) next state
  tick : ∀ handed held state, upto handed held state →
    Handing syncer.mapping.channelIds state.log handed →
      Safe (world setting) invariant (fun next after => upto handed next after)
        (fun _ _ => True) (handlers.tick held) state

/-- The poll loop's invariant; the cut does not fall below a given one. -/
def Polled (syncer : P2PSyncer)
    (upto : List Message → Held → WorldState setting → Prop) (low : Nat)
    (vars : PollVars Held) (state : WorldState setting) : Prop :=
  low ≤ state.log.last + 1 ∧ ∃ cut handed, low ≤ cut ∧
    HandedOver syncer.mapping.channelIds state.log cut handed ∧
      upto handed vars.held state ∧
        Cursor syncer.mapping.channelIds state.log cut vars

section Poll

variable {upto : List Message → Held → WorldState setting → Prop}
  {low : Nat} {vars : PollVars Held} {state : WorldState setting}
  {channels : List Nat} {log old new : Log} {cut : Nat}

theorem Cursor.extends (cursor : Cursor channels old cut vars)
    (grown : old.Extends new) : Cursor channels new cut vars :=
  { cursor with
    final := cursor.final.trans grown.1
    prefetched := by
      rw [messagesIn_final grown cursor.final]
      exact cursor.prefetched }

theorem polled_kept (consumes : Consumes syncer handlers invariant upto) :
    KeptByReads (Polled syncer upto low vars) where
  stable := by
    rintro before after step
      ⟨reached, cut, handed, above, handedOver, holds, cursor⟩
    exact ⟨reached.trans (Nat.succ_le_succ step.extends.last_le), cut, handed,
      above, handedOver.extends step.extends,
      (consumes.kept handed vars.held).stable _ _ step holds,
      cursor.extends step.extends⟩
  reads := by
    rintro before request answer after reads answers
      ⟨reached, cut, handed, above, handedOver, holds, cursor⟩
    exact ⟨reached.trans (Nat.succ_le_succ answers.extends.last_le), cut,
      handed, above, handedOver.extends answers.extends,
      (consumes.kept handed vars.held).reads _ _ _ _ reads answers holds,
      cursor.extends answers.extends⟩

theorem polled_sound (consumes : Consumes syncer handlers invariant upto)
    (polled : Polled syncer upto low vars state) : invariant state := by
  obtain ⟨-, cut, handed, -, -, holds, -⟩ := polled
  exact consumes.sound _ _ _ holds

/-- The live handler along a list of messages. -/
theorem Consumes.foldlM (consumes : Consumes syncer handlers invariant upto)
    {handed more : List Message} {held next : Held}
    (holds : upto handed held state)
    (handing : Handing syncer.mapping.channelIds state.log (handed ++ more))
    (processed : more.foldlM handlers.live held = .ok next) :
    upto (handed ++ more) next state := by
  refine foldlM_induct (fun done held => upto (handed ++ done) held state)
    processed (by rw [List.append_nil]; exact holds) ?_
  intro done message before after isPrefix doneHolds stepped
  rw [← List.append_assoc]
  apply consumes.live _ _ _ _ _ doneHolds _ stepped
  obtain ⟨bound, final, whole⟩ := handing
  refine ⟨bound, final, List.IsPrefix.trans ?_ whole⟩
  rw [List.append_assoc]
  exact (List.prefix_append_right_inj handed).mpr isPrefix

/-- After the tick the cursor no longer has a snapshot. -/
theorem Cursor.reset {held : Held} (cursor : Cursor channels log cut vars) :
    Cursor channels log cut (vars.reset held) :=
  { le := cursor.le
    final := cursor.final
    prefetched := cursor.prefetched
    nothing := cursor.nothing
    last := cursor.last
    snapshot := by
      intro lastSeq impossible
      cases impossible
    ticks := by
      intro impossible
      cases impossible }

/-- A cursor without prefetched messages, right after its snapshot was read. -/
theorem cursor_settle {lastSeq : Nat} {vars : PollVars Held}
    (le : cut ≤ vars.nextSeq) (final : vars.nextSeq ≤ log.frontier)
    (prefetched : vars.prefetchedMessages =
      messagesIn channels log cut vars.nextSeq)
    (nothing : vars.prefetchedLastSeq = none → vars.prefetchedMessages = [])
    (last : ∀ lastSeq, vars.prefetchedLastSeq = some lastSeq →
      cut ≤ lastSeq + 1 ∧
        ∀ message ∈ vars.prefetchedMessages, message.seq ≤ lastSeq)
    (polling : vars.nextSeq ≤ lastSeq →
      cut = vars.nextSeq ∧ vars.prefetchedLastSeq = none)
    (ticking : lastSeq < vars.nextSeq → cut = lastSeq + 1) :
    Cursor channels log cut (vars.settle lastSeq) where
  le := le
  final := final
  prefetched := prefetched
  nothing := nothing
  last := last
  snapshot := by
    rintro _ ⟨⟩
    simp only [PollVars.settle]
    split
    · rename_i isPolling
      have within : vars.nextSeq ≤ lastSeq := by
        by_contra beyond
        rw [if_neg beyond] at isPolling
        cases isPolling
      exact ⟨(polling within).1, within, (polling within).2⟩
    · rename_i isTicking
      have beyond : ¬vars.nextSeq ≤ lastSeq := by
        intro within
        rw [if_pos within] at isTicking
        cases isTicking
      exact ticking (Nat.lt_of_not_le beyond)
  ticks _ := Option.some_ne_none lastSeq

/-- The branch that takes the prefetched messages. -/
theorem polled_takePrefetched
    (consumes : Consumes syncer handlers invariant upto) {lastSeq : Nat}
    {next : PollVars Held} (polled : Polled syncer upto low vars state)
    (present : vars.prefetchedLastSeq = some lastSeq)
    (taken : takePrefetched handlers vars lastSeq = .ok next) :
    Polled syncer upto low next state := by
  obtain ⟨reached, cut, handed, above, handedOver, holds, cursor⟩ := polled
  obtain ⟨nearby, small⟩ := cursor.last lastSeq present
  rw [takePrefetched, bind_eq_ok_iff] at taken
  obtain ⟨held, processed, returned⟩ := taken
  cases returned
  have whole := handedOver.append cursor.le cursor.final
  rw [← cursor.prefetched] at whole
  have nextHolds := consumes.foldlM holds whole.handing processed
  rcases Nat.lt_or_ge lastSeq vars.nextSeq with beyond | within
  · -- no message lies between the snapshot and the next number to fetch
    have gap : messagesIn syncer.mapping.channelIds state.log (lastSeq + 1)
        vars.nextSeq = [] := by
      apply messagesIn_eq_nil
      intro message member
      have inRange := mem_messagesIn.mp member
      have isPrefetched : message ∈ vars.prefetchedMessages := by
        rw [cursor.prefetched, mem_messagesIn]
        exact ⟨inRange.1, nearby.trans inRange.2.1, inRange.2.2⟩
      exact absurd inRange.2.1 (by
        have := small message isPrefetched
        omega)
    refine ⟨reached, lastSeq + 1, _, above.trans nearby,
      whole.move (beyond.trans_le cursor.final)
        (messagesIn_zero_eq beyond gap).symm, nextHolds, ?_⟩
    exact cursor_settle beyond cursor.final gap.symm (fun _ => rfl)
      (by rintro _ ⟨⟩) (fun within => absurd within (Nat.not_le.mpr beyond))
      (fun _ => rfl)
  · refine ⟨reached, vars.nextSeq, _, above.trans cursor.le, whole, nextHolds,
      ?_⟩
    exact cursor_settle le_rfl cursor.final (messagesIn_empty le_rfl).symm
      (fun _ => rfl) (by rintro _ ⟨⟩) (fun _ => ⟨rfl, rfl⟩)
      (fun beyond => absurd within (Nat.not_le.mpr beyond))

/-- Nothing is prefetched when a page is fetched. -/
theorem Cursor.prefetchedLastSeq_polling (cursor : Cursor channels log cut vars)
    (isPolling : vars.point = .polling)
    (fresh : vars.snapshotLastSeq = none → vars.prefetchedLastSeq = none) :
    vars.prefetchedLastSeq = none := by
  cases snapshot : vars.snapshotLastSeq with
  | none => exact fresh snapshot
  | some lastSeq =>
      have position := cursor.snapshot lastSeq snapshot
      rw [isPolling] at position
      exact position.2.2

theorem Cursor.handedOver_nextSeq (cursor : Cursor channels log cut vars)
    {handed : List Message} (handedOver : HandedOver channels log cut handed)
    (noMessages : vars.prefetchedMessages = []) :
    HandedOver channels log vars.nextSeq handed := by
  have whole := handedOver.append cursor.le cursor.final
  rw [← cursor.prefetched, noMessages, List.append_nil] at whole
  exact whole

/-- Behind the last number of the log no messages are left to hand over. -/
theorem messagesIn_after_last {low high : Nat} (beyond : log.last < low) :
    messagesIn channels log low high = [] := by
  apply messagesIn_eq_nil
  intro message member
  have small := seq_le_last member
  have large := (mem_messagesIn.mp member).2.1
  exact absurd (beyond.trans_le large) (Nat.not_lt.mpr small)

/-- A page that goes beyond the snapshot hands over the rest of the snapshot,
and what it has beyond it is left. -/
theorem handedOver_snapshot {handed : List Message}
    {fromSeq lastSeq nextSeq : Nat}
    (atNext : HandedOver channels log fromSeq handed)
    (beyond : lastSeq < nextSeq) (final : nextSeq ≤ log.frontier)
    (isLast : lastSeq + 1 < fromSeq → lastSeq = log.last) :
    HandedOver channels log (lastSeq + 1) (handed ++
        messagesIn channels log fromSeq (min nextSeq (lastSeq + 1))) ∧
      messagesIn channels log (max fromSeq (lastSeq + 1)) nextSeq =
        messagesIn channels log (lastSeq + 1) nextSeq := by
  have nextFinal : lastSeq + 1 ≤ log.frontier := Nat.le_trans beyond final
  rcases Nat.lt_or_ge (lastSeq + 1) fromSeq with far | near
  · have noneAfter (high : Nat) :
        messagesIn channels log (lastSeq + 1) high = [] := by
      apply messagesIn_after_last
      rw [isLast far]
      exact Nat.lt_succ_self _
    have noneBetween := messagesIn_zero_eq far.le (noneAfter fromSeq)
    constructor
    · rw [messagesIn_empty ((min_le_right _ _).trans far.le), List.append_nil]
      exact atNext.move nextFinal noneBetween.symm
    · rw [max_eq_left far.le, noneAfter]
      apply messagesIn_after_last
      rw [← isLast far]
      exact Nat.lt_of_succ_lt far
  · rw [min_eq_right beyond, max_eq_right near]
    exact ⟨atNext.append near nextFinal, rfl⟩

/-- The branch that has fetched an honest page. -/
theorem polled_takePage
    (consumes : Consumes syncer handlers invariant upto)
    {response : FetchResponse} {next : PollVars Held}
    (polled : Polled syncer upto low vars state)
    (isPolling : vars.point = .polling)
    (fresh : vars.snapshotLastSeq = none → vars.prefetchedLastSeq = none)
    (honest : HonestPage state.log vars.nextSeq syncer.mapping.channelIds
      response)
    (reserved : response.nextSeq ≤ state.log.frontier)
    (taken : takePage handlers vars response = .ok next) :
    Polled syncer upto low next state := by
  obtain ⟨reached, cut, handed, above, handedOver, holds, cursor⟩ := polled
  have noLast := cursor.prefetchedLastSeq_polling isPolling fresh
  have noMessages := cursor.nothing noLast
  have atNext := cursor.handedOver_nextSeq handedOver noMessages
  have forward := le_nextSeq_of_honestPage honest
  simp only [takePage, splitPage, noMessages, noLast, List.nil_append,
    bind_eq_ok_iff, messages_of_honestPage honest, filter_messagesIn_le,
    filter_messagesIn_lt, Option.getD_none, Nat.zero_max] at taken
  obtain ⟨held, processed, nextSeq, validated, returned⟩ := taken
  have nextEq : nextSeq = response.nextSeq := by
    rw [validatedNextSeq] at validated
    split_ifs at validated
    exact (Except.ok.inj validated).symm
  subst nextEq
  cases returned
  generalize lastEq : vars.snapshotLastSeq.getD response.lastSeq = lastSeq
    at processed ⊢
  rcases Nat.lt_or_ge lastSeq response.nextSeq with beyond | within
  · -- the snapshot is read completely
    -- only a fresh snapshot can lie before the next number
    have isLast : lastSeq + 1 < vars.nextSeq → lastSeq = state.log.last := by
      intro far
      cases snapshot : vars.snapshotLastSeq with
      | none =>
          rw [snapshot] at lastEq
          exact lastEq.symm.trans honest.lastSeq
      | some other =>
          have position := cursor.snapshot other snapshot
          rw [isPolling] at position
          rw [snapshot, Option.getD_some] at lastEq
          have := position.2.1
          omega
    obtain ⟨handedNext, later⟩ :=
      handedOver_snapshot atNext beyond reserved isLast
    have stillAbove : low ≤ lastSeq + 1 := by
      rcases Nat.lt_or_ge (lastSeq + 1) vars.nextSeq with far | near
      · rw [isLast far]
        exact reached
      · exact (above.trans cursor.le).trans near
    rw [later]
    refine ⟨reached, lastSeq + 1, _, stillAbove, handedNext,
      consumes.foldlM holds handedNext.handing processed, ?_⟩
    refine cursor_settle beyond reserved rfl ?_ ?_
      (fun within => absurd within (Nat.not_le.mpr beyond)) (fun _ => rfl)
    · intro absent
      by_contra present
      rw [if_neg (by simpa using present)] at absent
      cases absent
    · intro last isLast
      split_ifs at isLast with isEmpty
      cases isLast
      rw [honest.lastSeq]
      obtain ⟨message, member⟩ := List.exists_mem_of_ne_nil _
        (by simpa using isEmpty)
      have := seq_le_last member
      have := (mem_messagesIn.mp member).2.1
      exact ⟨by omega, fun message member => seq_le_last member⟩
  · -- the snapshot goes on behind the page
    have near : vars.nextSeq ≤ lastSeq + 1 := by omega
    have nothingLater : messagesIn syncer.mapping.channelIds state.log
        (max vars.nextSeq (lastSeq + 1)) response.nextSeq = [] :=
      messagesIn_empty (by omega)
    have handedNext := atNext.append forward reserved
    rw [min_eq_left (by omega)] at processed
    rw [nothingLater]
    refine ⟨reached, response.nextSeq, _,
      (above.trans cursor.le).trans forward, handedNext,
      consumes.foldlM holds handedNext.handing processed, ?_⟩
    exact cursor_settle le_rfl reserved (messagesIn_empty le_rfl).symm
      (fun _ => rfl) (by rintro _ ⟨⟩) (fun _ => ⟨rfl, rfl⟩)
      (fun beyond => absurd within (Nat.not_le.mpr beyond))

/-- The loop starts right behind the history. -/
theorem polled_start {scanEndSeq : Nat} {held : Held} {handed : List Message}
    (handedOver : HandedOver syncer.mapping.channelIds state.log
      (scanEndSeq + 1) handed)
    (reached : scanEndSeq ≤ state.log.last)
    (holds : upto handed held state) :
    Polled syncer upto (scanEndSeq + 1) (.start (scanEndSeq + 1) held)
      state := by
  refine ⟨Nat.succ_le_succ reached, scanEndSeq + 1, handed, le_rfl, handedOver,
    holds, ?_⟩
  exact {
    le := le_rfl
    final := handedOver.final
    prefetched := (messagesIn_empty le_rfl).symm
    nothing := fun _ => rfl
    last := by rintro _ ⟨⟩
    snapshot := by rintro _ ⟨⟩
    ticks := by rintro ⟨⟩ }

/-- While the loop ticks, everything up to the snapshot has been handed over. -/
theorem Polled.ticking (polled : Polled syncer upto low vars state)
    (isTicking : vars.point = .ticking) :
    ∃ lastSeq handed, vars.snapshotLastSeq = some lastSeq ∧
      HandedOver syncer.mapping.channelIds state.log (lastSeq + 1) handed ∧
        upto handed vars.held state ∧ low ≤ lastSeq + 1 := by
  obtain ⟨-, cut, handed, above, handedOver, holds, cursor⟩ := polled
  cases snapshot : vars.snapshotLastSeq with
  | none => exact absurd snapshot (cursor.ticks isTicking)
  | some lastSeq =>
      have position := cursor.snapshot lastSeq snapshot
      rw [isTicking] at position
      simp only at position
      rw [position] at above handedOver
      exact ⟨lastSeq, handed, rfl, handedOver, holds, above⟩

/-- What an iteration of the loop establishes. -/
def Continues (syncer : P2PSyncer)
    (upto : List Message → Held → WorldState setting → Prop) (low : Nat)
    (step : PollVars Held ⊕ Unit) (after : WorldState setting) : Prop :=
  ∀ next, step = .inl next → Polled syncer upto low next after

theorem continues_inl (polled : Polled syncer upto low vars state) :
    Continues syncer upto low (.inl vars) state := by
  rintro next ⟨⟩
  exact polled

theorem continues_inr : Continues syncer upto low (.inr ()) state := by
  rintro next ⟨⟩

theorem safe_fetchLive
    (consumes : Consumes syncer handlers invariant upto)
    (isPolling : vars.point = .polling)
    (fresh : vars.snapshotLastSeq = none → vars.prefetchedLastSeq = none)
    (polled : Polled syncer upto low vars state) :
    Safe (world setting) invariant (Continues syncer upto low)
      (fun _ _ => True) (fetchLive syncer handlers vars) state := by
  have kept : KeptByReads (Polled syncer upto low vars) := polled_kept consumes
  have sound : ∀ state, Polled syncer upto low vars state → invariant state :=
    fun state => polled_sound consumes
  apply kept.safe_call onlyReads_fetch sound polled
  intro before answer after beforePolled afterPolled answers
  cases answer with
  | error exc =>
      rw [stopIsSet]
      apply kept.safe_callBind onlyReads_stopIsSet sound afterPolled
      intro _ stopped asked _ askedPolled _
      rw [Program.ret_bind]
      split_ifs with isStopped isPermanent
      · exact ⟨sound _ askedPolled, continues_inr⟩
      · exact ⟨sound _ askedPolled, trivial⟩
      · rw [stopWait]
        apply kept.safe_callBind onlyReads_stopWait sound askedPolled
        intro _ _ waited _ waitedPolled _
        exact ⟨sound _ waitedPolled, continues_inl waitedPolled⟩
  | ok response =>
      obtain ⟨honest, reserves⟩ := FetchAnswers.ok answers.server
      show Safe _ _ _ _
        (Action.ofExcept (takePage handlers vars response) >>= _) _
      cases taken : takePage handlers vars response with
      | error exc => exact ⟨sound _ afterPolled, trivial⟩
      | ok next =>
          have nextPolled := polled_takePage consumes afterPolled isPolling
            fresh (honestPage_of_reserves honest reserves) reserves.2.2 taken
          exact ⟨polled_sound consumes nextPolled, continues_inl nextPolled⟩

theorem safe_pollOnce
    (consumes : Consumes syncer handlers invariant upto)
    (isPolling : vars.point = .polling)
    (polled : Polled syncer upto low vars state) :
    Safe (world setting) invariant (Continues syncer upto low)
      (fun _ _ => True) (pollOnce syncer handlers vars) state := by
  have kept : KeptByReads (Polled syncer upto low vars) := polled_kept consumes
  have sound : ∀ state, Polled syncer upto low vars state → invariant state :=
    fun state => polled_sound consumes
  rw [pollOnce, stopIsSet]
  apply kept.safe_callBind onlyReads_stopIsSet sound polled
  intro _ stopped asked _ askedPolled _
  rw [Program.ret_bind]
  split_ifs with isStopped
  · exact ⟨sound _ askedPolled, continues_inr⟩
  · split
    · rename_i lastSeq noSnapshot present
      cases taken : takePrefetched handlers vars lastSeq with
      | error exc => exact ⟨sound _ askedPolled, trivial⟩
      | ok next =>
          have nextPolled := polled_takePrefetched consumes askedPolled present
            taken
          exact ⟨polled_sound consumes nextPolled, continues_inl nextPolled⟩
    · rename_i notBoth
      apply safe_fetchLive consumes isPolling _ askedPolled
      intro noSnapshot
      cases present : vars.prefetchedLastSeq with
      | none => rfl
      | some lastSeq => exact absurd present (notBoth lastSeq noSnapshot)

theorem safe_tickOnce
    (consumes : Consumes syncer handlers invariant upto)
    (polled : Polled syncer upto low vars state) :
    Safe (world setting) invariant (Continues syncer upto low)
      (fun _ _ => True) (tickOnce syncer handlers vars) state := by
  obtain ⟨reached, cut, handed, above, handedOver, holds, cursor⟩ := polled
  have tickSafe : Safe (world setting) invariant
      (fun next after => upto handed next after ∧ Grows state after)
      (fun _ _ => True) (handlers.tick vars.held) state :=
    (safe_grown (Grows.refl state)
      (consumes.tick handed vars.held state holds handedOver.handing)).mono
      (fun _ _ _ both => both) (fun _ _ _ _ => trivial)
  rw [tickOnce]
  apply tickSafe.bind
  intro held ticked _ ⟨tickedHolds, grown⟩
  -- the tick moves neither the cut nor what was handed over before it
  have tickedPolled : Polled syncer upto low (vars.reset held) ticked :=
    ⟨reached.trans (Nat.succ_le_succ grown.log.last_le), cut, handed, above,
      handedOver.extends grown.log, tickedHolds,
      (cursor.extends grown.log).reset⟩
  split_ifs
  · exact ⟨polled_sound consumes tickedPolled, continues_inl tickedPolled⟩
  · rw [stopWait]
    apply (polled_kept consumes).safe_callBind onlyReads_stopWait
      (fun state => polled_sound consumes) tickedPolled
    intro _ _ waited _ waitedPolled _
    exact ⟨polled_sound consumes waitedPolled, continues_inl waitedPolled⟩

/-- One iteration keeps the invariant of the loop. -/
theorem safe_pollBody
    (consumes : Consumes syncer handlers invariant upto)
    (polled : Polled syncer upto low vars state) :
    Safe (world setting) invariant (Continues syncer upto low)
      (fun _ _ => True) (pollBody syncer handlers vars) state := by
  rw [pollBody]
  cases point : vars.point with
  | polling => exact safe_pollOnce consumes point polled
  | ticking => exact safe_tickOnce consumes polled

/-- The invariant holds whenever the loop starts an iteration. -/
theorem polled_of_loopReaches
    (consumes : Consumes syncer handlers invariant upto)
    {first : PollVars Held} {before after : WorldState setting}
    (polled : Polled syncer upto low first before)
    (reached : LoopReaches (world setting) (pollBody syncer handlers) first
      before vars after) : Polled syncer upto low vars after := by
  refine LoopReaches.invariant reached (fun vars => ?_) ?_ polled
  · exact (polled_kept consumes).stable
  · intro vars next middle after polled run
    exact ((safe_pollBody consumes polled).runs_ok run).2 next rfl

end Poll

/-! ## Reading a known log -/

section Known

variable {vars next : PollVars Held} {held last : Held}
  {response : FetchResponse} {later : Scene setting} {calls : List Exchange}

/-- A page of the log. -/
theorem leads_fetch (scene : Scene setting) {fromSeq : Nat}
    (honest : HonestPage scene.log fromSeq syncer.mapping.channelIds response)
    (reserved : response.nextSeq ≤ scene.log.frontier) :
    Leads (fetch syncer.config.worker.principal syncer.config.worker.token
        fromSeq syncer.mapping.channelIds) scene
      [⟨.fetch syncer.config.worker.principal syncer.config.worker.token fromSeq
        1000 false syncer.mapping.channelIds, .ok response⟩] scene
      (.ok response) :=
  leads_call (replies_server rfl (.page honest ⟨le_rfl, rfl, reserved⟩))
    leads_ret

/-- The history fits on one page. -/
theorem leads_scanHistory (scene : Scene setting) (logged : scene.log.last ≠ 0)
    (honest : HonestPage scene.log 1 syncer.mapping.channelIds response)
    (whole : response.nextSeq = scene.log.last + 1)
    (reserved : response.nextSeq ≤ scene.log.frontier)
    (replayed : (response.messages.filter (·.seq ≤ scene.log.last)).foldlM
      handlers.history held = .ok last) :
    Leads (scanHistory syncer handlers held) scene
      [⟨.getStatus syncer.config.worker.principal syncer.config.worker.token,
          .ok ⟨scene.log.last⟩⟩,
        ⟨.stopIsSet, false⟩,
        ⟨.fetch syncer.config.worker.principal syncer.config.worker.token 1 1000
          false syncer.mapping.channelIds, .ok response⟩] scene
      (.ok (scene.log.last, last)) := by
  have ended : Leads (scanFrom syncer handlers scene.log.last last
      response.nextSeq) scene [] scene (.ok last) := by
    rw [scanFrom, if_neg (by omega)]
    exact leads_ret
  have scans : Leads (scanFrom syncer handlers scene.log.last held 1)
      scene [⟨.stopIsSet, false⟩,
        ⟨.fetch syncer.config.worker.principal syncer.config.worker.token 1 1000
          false syncer.mapping.channelIds, .ok response⟩] scene (.ok last) := by
    have advances : ¬response.nextSeq ≤ 1 := by omega
    rw [scanFrom, if_pos (Nat.one_le_iff_ne_zero.mpr logged)]
    refine Leads.calls_eq (leads_call replies_goesOn (.bind leads_ret
      (.bind (leads_fetch scene honest reserved) ?_))) rfl
    rw [replayed]
    refine .bind leads_ret ?_
    rw [if_neg advances]
    exact ended
  refine leads_call replies_status ?_
  show Leads (if scene.log.last = 0 then _ else _) _ _ _ _
  rw [if_neg logged]
  exact Leads.calls_eq (.bind scans leads_ret) rfl

/-- The loop reads a page. -/
theorem leads_fetchLive (scene : Scene setting)
    (taken : takePage handlers vars response = .ok next)
    (honest : HonestPage scene.log vars.nextSeq syncer.mapping.channelIds
      response) (reserved : response.nextSeq ≤ scene.log.frontier) :
    Leads (fetchLive syncer handlers vars) scene
      [⟨.fetch syncer.config.worker.principal syncer.config.worker.token
        vars.nextSeq 1000 false syncer.mapping.channelIds, .ok response⟩] scene
      (.ok (.inl next)) := by
  refine leads_call (replies_server rfl (.page honest ⟨le_rfl, rfl, reserved⟩))
    ?_
  dsimp only
  rw [taken]
  exact leads_ret

/-- Without prefetched messages for a new snapshot, an iteration reads a page.
-/
theorem pollOnce_fetches
    (fetches : vars.snapshotLastSeq ≠ none ∨ vars.prefetchedLastSeq = none) :
    pollOnce syncer handlers vars = (do
      if ← stopIsSet then
        return .inr ()
      else
        fetchLive syncer handlers vars) := by
  rw [pollOnce]
  cases snapshot : vars.snapshotLastSeq with
  | none => rw [fetches.resolve_left (not_not.mpr snapshot)]
  | some lastSeq => rfl

theorem leads_pollBody {scene : Scene setting} (polls : vars.point = .polling)
    (fetches : vars.snapshotLastSeq ≠ none ∨ vars.prefetchedLastSeq = none)
    (fetched : Leads (fetchLive syncer handlers vars) scene calls later
      (.ok (.inl next))) :
    Leads (pollBody syncer handlers vars) scene (⟨.stopIsSet, false⟩ :: calls)
      later (.ok (.inl next)) := by
  rw [pollBody, polls]
  show Leads (pollOnce syncer handlers vars) _ _ _ _
  rw [pollOnce_fetches fetches]
  exact leads_call replies_goesOn fetched

end Known

end OpenEventIm.Syncer.LogReading
