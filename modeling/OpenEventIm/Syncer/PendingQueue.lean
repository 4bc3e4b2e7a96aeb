import OpenEventIm.Syncer.State

/-!
# The queue of pending requests

The runtime state keeps its pending requests in three places: the table of
requests, the heap and the table of blocked channels.  The operations keep them
consistent: a pending request is in the heap exactly once, or it is the blocked
request of its channel.  `next_pending_task` therefore finds the first request
whose channel is not blocked, and loses none.
-/

namespace OpenEventIm.Syncer.PendingQueue

open OpenEventIm.Foundation
open OpenEventIm.Sdk.Errors
open OpenEventIm.Sdk.Client
open OpenEventIm.Syncer.State
open OpenEventIm.Syncer.State.RuntimeState

/-! ## The heap -/

section Heap

theorem heapLE_total (left right : Nat × String) :
    HeapLE left right ∨ HeapLE right left := by
  rcases lt_trichotomy left.1 right.1 with less | same | more
  · exact Or.inl (Or.inl less)
  · rcases String.le_total left.2 right.2 with less | less
    · exact Or.inl (Or.inr ⟨same, less⟩)
    · exact Or.inr (Or.inr ⟨same.symm, less⟩)
  · exact Or.inr (Or.inl more)

theorem heapLE_trans {first second third : Nat × String}
    (left : HeapLE first second) (right : HeapLE second third) :
    HeapLE first third := by
  rcases left with less | ⟨same, less⟩
  · rcases right with more | ⟨equal, -⟩
    · exact Or.inl (less.trans more)
    · exact Or.inl (equal ▸ less)
  · rcases right with more | ⟨equal, more⟩
    · exact Or.inl (same ▸ more)
    · exact Or.inr ⟨same.trans equal, String.le_trans less more⟩

instance : Std.Total HeapLE := ⟨heapLE_total⟩

instance : IsTrans (Nat × String) HeapLE := ⟨fun _ _ _ => heapLE_trans⟩

theorem perm_heappush (heap : List (Nat × String)) (item : Nat × String) :
    (heappush heap item).Perm (item :: heap) :=
  List.perm_orderedInsert HeapLE item heap

theorem pairwise_heappush {heap : List (Nat × String)}
    (sorted : heap.Pairwise HeapLE) (item : Nat × String) :
    (heappush heap item).Pairwise HeapLE :=
  sorted.orderedInsert item heap

theorem perm_heappushAll (heap deferred : List (Nat × String)) :
    (heappushAll heap deferred).Perm (heap ++ deferred) := by
  induction deferred generalizing heap with
  | nil =>
      rw [List.append_nil]
      exact List.Perm.refl _
  | cons item rest ih =>
      apply (ih (heappush heap item)).trans
      apply ((perm_heappush heap item).append_right rest).trans
      exact List.perm_middle.symm

theorem pairwise_heappushAll {heap : List (Nat × String)}
    (sorted : heap.Pairwise HeapLE) (deferred : List (Nat × String)) :
    (heappushAll heap deferred).Pairwise HeapLE := by
  induction deferred generalizing heap with
  | nil => exact sorted
  | cons item rest ih => exact ih (pairwise_heappush sorted item)

end Heap

/-! ## Entries of the heap -/

section Entries

variable (state : RuntimeState)

/-- The entry is skipped for good. -/
def Stale (entry : Nat × String) : Prop :=
  ∀ task, state.requestsById.get? entry.2 = some task →
    task.seq ≠ entry.1 ∨ entry.2 ∈ state.completedRequestIds

/-- The entry is deferred: another request blocks its channel. -/
def Held (entry : Nat × String) : Prop :=
  ∃ task blocked, state.requestsById.get? entry.2 = some task ∧
    state.blockedByChannel.get? task.channelId = some blocked ∧
      blocked ≠ entry.2

/-- What `next_pending_task` does with the entries up to the one it takes. -/
structure Passes (dropped kept passed : List (Nat × String)) : Prop where
  split : passed.Perm (dropped ++ kept)
  stale : ∀ entry ∈ dropped, Stale state entry
  held : ∀ entry ∈ kept, Held state entry

/-- What the loop finds: nothing, or the first entry that it does not pass. -/
inductive Finds (deferred heap : List (Nat × String)) :
    Option OutboundTask × RuntimeState → Prop where
  | nothing {dropped kept : List (Nat × String)}
      (passes : Passes state dropped kept heap) :
      Finds deferred heap
        (none, { state with pendingHeap := heappushAll [] (deferred ++ kept) })
  | found {dropped kept passed rest : List (Nat × String)} {seq : Nat}
      {requestId : String} {task : OutboundTask}
      (split : heap = passed ++ (seq, requestId) :: rest)
      (passes : Passes state dropped kept passed)
      (known : state.requestsById.get? requestId = some task)
      (current : task.seq = seq)
      (incomplete : requestId ∉ state.completedRequestIds)
      (free : ∀ blocked, state.blockedByChannel.get? task.channelId =
        some blocked → blocked = requestId) :
      Finds deferred heap
        (some task, { state with
          blockedByChannel :=
            state.blockedByChannel.set task.channelId requestId
          pendingHeap := heappushAll rest (deferred ++ kept) })

variable {state}

theorem Passes.drop {dropped kept passed : List (Nat × String)}
    {entry : Nat × String} (passes : Passes state dropped kept passed)
    (stale : Stale state entry) :
    Passes state (entry :: dropped) kept (entry :: passed) where
  split := passes.split.cons entry
  stale other member := by
    rcases List.mem_cons.mp member with rfl | member
    · exact stale
    · exact passes.stale other member
  held := passes.held

theorem Passes.defer {dropped kept passed : List (Nat × String)}
    {entry : Nat × String} (passes : Passes state dropped kept passed)
    (held : Held state entry) :
    Passes state dropped (entry :: kept) (entry :: passed) where
  split := (passes.split.cons entry).trans List.perm_middle.symm
  stale := passes.stale
  held other member := by
    rcases List.mem_cons.mp member with rfl | member
    · exact held
    · exact passes.held other member

theorem Finds.drop {deferred heap : List (Nat × String)}
    {entry : Nat × String} {result : Option OutboundTask × RuntimeState}
    (finds : Finds state deferred heap result) (stale : Stale state entry) :
    Finds state deferred (entry :: heap) result := by
  cases finds with
  | nothing passes => exact .nothing (passes.drop stale)
  | found split passes known current incomplete free =>
      refine .found ?_ (passes.drop stale) known current incomplete free
      rw [split]
      rfl

theorem Finds.defer {deferred heap : List (Nat × String)}
    {entry : Nat × String} {result : Option OutboundTask × RuntimeState}
    (finds : Finds state (deferred ++ [entry]) heap result)
    (held : Held state entry) :
    Finds state deferred (entry :: heap) result := by
  cases finds with
  | nothing passes =>
      rw [List.append_assoc]
      exact .nothing (passes.defer held)
  | found split passes known current incomplete free =>
      rw [List.append_assoc]
      refine .found ?_ (passes.defer held) known current incomplete free
      rw [split]
      rfl

/-- The loop of `next_pending_task`, one case for each branch of its body. -/
theorem finds_takePending (state : RuntimeState)
    (deferred heap : List (Nat × String)) :
    Finds state deferred heap (state.takePending deferred heap) := by
  induction heap generalizing deferred with
  | nil =>
      have nothing := @Finds.nothing state deferred [] [] []
        ⟨List.Perm.refl _, nofun, nofun⟩
      rw [List.append_nil] at nothing
      exact nothing
  | cons entry heap ih =>
      rcases entry with ⟨seq, requestId⟩
      rw [takePending]
      cases known : state.requestsById.get? requestId with
      | none =>
          refine (ih deferred).drop ?_
          intro task found
          rw [known] at found
          cases found
      | some task =>
          simp only
          split_ifs with stale blocked
          · refine (ih deferred).drop ?_
            intro other found
            rw [known] at found
            cases found
            exact stale
          · rcases blocked with ⟨other, blocks, different⟩
            exact (ih _).defer ⟨task, other, known, blocks, different⟩
          · rw [not_or, not_not] at stale
            have found := @Finds.found state deferred
              ((seq, requestId) :: heap) [] [] [] heap seq requestId task rfl
              ⟨List.Perm.refl _, nofun, nofun⟩ known stale.1 stale.2
              (fun other blocks => not_not.mp fun different =>
                blocked ⟨other, blocks, different⟩)
            rw [List.append_nil] at found
            exact found

end Entries

/-! ## The invariant -/

/-- The entries of a request. -/
def entriesOf (heap : List (Nat × String)) (requestId : String) :
    List (Nat × String) :=
  heap.filter fun entry => entry.2 = requestId

/-- A pending request is in the heap once, or it blocks its channel. -/
inductive Placed (state : RuntimeState) (requestId : String)
    (task : OutboundTask) : Prop where
  | queued
      (entries : entriesOf state.pendingHeap requestId =
        [(task.seq, requestId)])
      (free : state.blockedByChannel.get? task.channelId ≠ some requestId)
  | blocks
      (entries : entriesOf state.pendingHeap requestId = [])
      (blocked : state.blockedByChannel.get? task.channelId = some requestId)

/-- The three places of the pending requests agree. -/
structure Linked (state : RuntimeState) : Prop where
  pending : ∀ requestId, state.requestsById.get? requestId =
    if requestId ∈ state.completedRequestIds then none
    else state.canonicalRequestsById.get? requestId
  placed : ∀ requestId task,
    state.requestsById.get? requestId = some task →
      Placed state requestId task
  blocked : ∀ channelId requestId,
    state.blockedByChannel.get? channelId = some requestId →
      ∃ task, state.requestsById.get? requestId = some task ∧
        task.channelId = channelId
  ownId : ∀ requestId task,
    state.canonicalRequestsById.get? requestId = some task →
      task.requestId = requestId
  answered : ∀ requestId ∈ state.completedRequestIds,
    state.canonicalRequestsById.get? requestId ≠ none
  known : ∀ entry ∈ state.pendingHeap,
    state.canonicalRequestsById.get? entry.2 ≠ none
  sorted : state.pendingHeap.Pairwise HeapLE

theorem linked_initial : Linked RuntimeState.initial where
  pending _ := rfl
  placed _ _ := nofun
  blocked _ _ := nofun
  ownId _ _ := nofun
  answered _ member := absurd member (Finset.notMem_empty _)
  known _ := nofun
  sorted := List.Pairwise.nil

section Entries

theorem entriesOf_append (heap more : List (Nat × String))
    (requestId : String) :
    entriesOf (heap ++ more) requestId =
      entriesOf heap requestId ++ entriesOf more requestId :=
  List.filter_append _ _

theorem entriesOf_perm {heap more : List (Nat × String)}
    (perm : heap.Perm more) (requestId : String) :
    (entriesOf heap requestId).Perm (entriesOf more requestId) :=
  perm.filter _

theorem entriesOf_eq_nil_iff {heap : List (Nat × String)}
    {requestId : String} :
    entriesOf heap requestId = [] ↔ ∀ entry ∈ heap, entry.2 ≠ requestId := by
  simp [entriesOf, List.filter_eq_nil_iff]

theorem entriesOf_cons_of_ne {heap : List (Nat × String)} {seq : Nat}
    {other requestId : String} (different : other ≠ requestId) :
    entriesOf ((seq, other) :: heap) requestId = entriesOf heap requestId := by
  simp [entriesOf, different]

theorem entriesOf_cons_self {heap : List (Nat × String)} {seq : Nat}
    {requestId : String} :
    entriesOf ((seq, requestId) :: heap) requestId =
      (seq, requestId) :: entriesOf heap requestId := by
  simp [entriesOf]

end Entries

section Operations

variable {state next : RuntimeState} {parsed : ParsedMessage}

/-- A request whose entries and whose block are kept stays placed. -/
theorem Placed.moved {requestId : String} {task : OutboundTask}
    (placed : Placed state requestId task)
    (entries : (entriesOf next.pendingHeap requestId).Perm
      (entriesOf state.pendingHeap requestId))
    (blocked : next.blockedByChannel.get? task.channelId = some requestId ↔
      state.blockedByChannel.get? task.channelId = some requestId) :
    Placed next requestId task := by
  cases placed with
  | queued before free =>
      rw [before] at entries
      exact .queued (List.perm_singleton.mp entries) (free ∘ blocked.mp)
  | blocks before isBlocked =>
      rw [before] at entries
      exact .blocks (List.perm_nil.mp entries) (blocked.mpr isBlocked)

/-- A pending request is the canonical one of its id. -/
theorem Linked.pending_some (linked : Linked state) {requestId : String}
    {task : OutboundTask}
    (found : state.requestsById.get? requestId = some task) :
    requestId ∉ state.completedRequestIds ∧
      state.canonicalRequestsById.get? requestId = some task := by
  rw [linked.pending] at found
  split_ifs at found with done
  exact ⟨done, found⟩

/-- The entry of a pending request carries its number. -/
theorem Linked.entry_seq (linked : Linked state) {entry : Nat × String}
    {task : OutboundTask} (member : entry ∈ state.pendingHeap)
    (found : state.requestsById.get? entry.2 = some task) :
    entry = (task.seq, entry.2) ∧
      state.blockedByChannel.get? task.channelId ≠ some entry.2 := by
  have inside : entry ∈ entriesOf state.pendingHeap entry.2 :=
    List.mem_filter.mpr ⟨member, decide_eq_true rfl⟩
  cases linked.placed entry.2 task found with
  | queued entries free =>
      rw [entries] at inside
      exact ⟨List.mem_singleton.mp inside, free⟩
  | blocks entries =>
      rw [entries] at inside
      cases inside

/-- Stale entries are those of completed requests. -/
theorem Linked.completed_of_stale (linked : Linked state)
    {entry : Nat × String} (member : entry ∈ state.pendingHeap)
    (stale : Stale state entry) :
    entry.2 ∈ state.completedRequestIds ∧
      state.requestsById.get? entry.2 = none := by
  have pending := linked.pending entry.2
  by_cases done : entry.2 ∈ state.completedRequestIds
  · rw [if_pos done] at pending
    exact ⟨done, pending⟩
  · rw [if_neg done] at pending
    rcases Option.ne_none_iff_exists'.mp (linked.known entry member) with
      ⟨task, found⟩
    rw [found] at pending
    have current := congrArg Prod.fst (linked.entry_seq member pending).1
    exact absurd (stale task pending) (not_or.mpr ⟨not_not.mpr current.symm, done⟩)

/-! ### Requests -/

theorem Linked.addSendRequest (linked : Linked state) :
    Linked (state.addSendRequest parsed).2 := by
  simp only [RuntimeState.addSendRequest]
  generalize OutboundTask.ofParsed parsed = task
  cases found : state.canonicalRequestsById.get? task.requestId with
  | some existing =>
      simp only
      split_ifs
      · exact linked
      · exact linked
  | none =>
      have incomplete : task.requestId ∉ state.completedRequestIds :=
        fun done => linked.answered _ done found
      have fresh : state.requestsById.get? task.requestId = none := by
        rw [linked.pending, if_neg incomplete, found]
      have unqueued : entriesOf state.pendingHeap task.requestId = [] := by
        rw [entriesOf_eq_nil_iff]
        intro entry member same
        exact linked.known entry member (same ▸ found)
      have pushed := perm_heappush state.pendingHeap (task.seq, task.requestId)
      simp only
      rw [if_neg incomplete]
      refine ⟨?_, ?_, ?_, ?_, ?_, ?_, pairwise_heappush linked.sorted _⟩
      · intro requestId
        rw [Dict.get?_set, Dict.get?_set, linked.pending]
        by_cases same : task.requestId = requestId
        · rw [if_pos same, if_neg (same ▸ incomplete), if_pos same]
        · rw [if_neg same, if_neg same]
      · intro requestId other known
        have entries := entriesOf_perm pushed requestId
        rw [Dict.get?_set] at known
        split_ifs at known with same
        · cases known
          subst same
          rw [entriesOf_cons_self, unqueued] at entries
          refine .queued (List.perm_singleton.mp entries) ?_
          intro blocked
          rcases linked.blocked _ _ blocked with ⟨_, pending, -⟩
          rw [fresh] at pending
          cases pending
        · rw [entriesOf_cons_of_ne same] at entries
          exact (linked.placed requestId other known).moved entries Iff.rfl
      · intro channelId requestId blocked
        rcases linked.blocked channelId requestId blocked with
          ⟨other, pending, ofChannel⟩
        refine ⟨other, ?_, ofChannel⟩
        rw [Dict.get?_set, if_neg, pending]
        rintro rfl
        rw [fresh] at pending
        cases pending
      · intro requestId other known
        rw [Dict.get?_set] at known
        split_ifs at known with same
        · cases known
          exact same
        · exact linked.ownId requestId other known
      · intro requestId done
        rw [Dict.get?_set]
        split_ifs
        · exact Option.some_ne_none _
        · exact linked.answered requestId done
      · intro entry member
        rw [Dict.get?_set]
        split_ifs with same
        · exact Option.some_ne_none _
        · rcases List.mem_cons.mp (pushed.mem_iff.mp member) with rfl | member
          · exact absurd rfl same
          · exact linked.known entry member

/-! ### The next task -/

/-- What `next_pending_task` returns and leaves behind. -/
theorem finds_nextPendingTask (state : RuntimeState) :
    Finds state [] state.pendingHeap state.nextPendingTask :=
  finds_takePending state [] state.pendingHeap

/-- The channel of the entry that is taken is not blocked. -/
theorem Linked.unblocked (linked : Linked state) {requestId : String}
    {task : OutboundTask} {seq : Nat}
    (member : (seq, requestId) ∈ state.pendingHeap)
    (known : state.requestsById.get? requestId = some task)
    (free : ∀ blocked, state.blockedByChannel.get? task.channelId =
      some blocked → blocked = requestId) :
    state.blockedByChannel.get? task.channelId = none := by
  apply Option.eq_none_iff_forall_ne_some.mpr
  intro blocked blocks
  have same := free blocked blocks
  subst same
  exact (linked.entry_seq member known).2 blocks

/-- Dropped entries are not those of a pending request. -/
theorem Linked.entriesOf_dropped (linked : Linked state)
    {dropped kept passed rest : List (Nat × String)}
    (split : state.pendingHeap = passed ++ rest)
    (passes : Passes state dropped kept passed) {requestId : String}
    {task : OutboundTask}
    (pending : state.requestsById.get? requestId = some task) :
    entriesOf dropped requestId = [] := by
  rw [entriesOf_eq_nil_iff]
  rintro entry member rfl
  have inHeap : entry ∈ state.pendingHeap := by
    rw [split]
    apply List.mem_append_left
    exact passes.split.mem_iff.mpr (List.mem_append_left _ member)
  have gone := (linked.completed_of_stale inHeap
    (passes.stale entry member)).2
  rw [pending] at gone
  cases gone

/-- The entry that is taken is the only one of its request. -/
theorem Linked.entriesOf_taken (linked : Linked state)
    {passed rest : List (Nat × String)} {seq : Nat} {requestId : String}
    (split : state.pendingHeap = passed ++ (seq, requestId) :: rest)
    {task : OutboundTask}
    (known : state.requestsById.get? requestId = some task) :
    entriesOf passed requestId = [] ∧ entriesOf rest requestId = [] := by
  cases linked.placed requestId task known with
  | blocks before =>
      rw [split, entriesOf_append, entriesOf_cons_self] at before
      cases (List.append_eq_nil_iff.mp before).2
  | queued before =>
      rw [split, entriesOf_append, entriesOf_cons_self] at before
      rcases List.append_eq_singleton_iff.mp before with
        ⟨none, ended⟩ | ⟨-, ended⟩
      · exact ⟨none, (List.cons_eq_cons.mp ended).2⟩
      · cases ended

theorem Linked.nextPendingTask (linked : Linked state) :
    Linked state.nextPendingTask.2 := by
  have finds := finds_nextPendingTask state
  generalize state.nextPendingTask = result at finds
  cases finds with
  | @nothing dropped kept passes =>
      have queue : (heappushAll [] ([] ++ kept)).Perm kept :=
        perm_heappushAll [] kept
      have whole : state.pendingHeap = state.pendingHeap ++ [] :=
        (List.append_nil _).symm
      refine ⟨linked.pending, ?_, linked.blocked, linked.ownId,
        linked.answered, ?_, pairwise_heappushAll List.Pairwise.nil _⟩
      · intro requestId task pending
        have entries := entriesOf_perm passes.split requestId
        rw [entriesOf_append, linked.entriesOf_dropped whole passes pending,
          List.nil_append] at entries
        have same := (entriesOf_perm queue requestId).trans entries.symm
        exact (linked.placed requestId task pending).moved same Iff.rfl
      · intro entry member
        apply linked.known entry
        apply passes.split.mem_iff.mpr
        exact List.mem_append_right _ (queue.mem_iff.mp member)
  | @found dropped kept passed rest seq requestId task split passes known
      current incomplete free =>
      have inHeap : (seq, requestId) ∈ state.pendingHeap := by
        rw [split]
        exact List.mem_append_right _ List.mem_cons_self
      have unblocked := linked.unblocked inHeap known free
      have queue : (heappushAll rest ([] ++ kept)).Perm (rest ++ kept) :=
        perm_heappushAll rest kept
      have restSorted : rest.Pairwise HeapLE := by
        have sorted := linked.sorted
        rw [split] at sorted
        exact (List.pairwise_append.mp sorted).2.1.of_cons
      refine ⟨linked.pending, ?_, ?_, linked.ownId, linked.answered, ?_,
        pairwise_heappushAll restSorted _⟩
      · intro other otherTask pending
        have entries := entriesOf_perm passes.split other
        rw [entriesOf_append, linked.entriesOf_dropped split passes pending,
          List.nil_append] at entries
        have after := entriesOf_perm queue other
        rw [entriesOf_append] at after
        by_cases same : other = requestId
        · subst same
          rw [known] at pending
          cases pending
          refine .blocks ?_ (Dict.get?_set_self _ _ _)
          have only := linked.entriesOf_taken split known
          rw [only.1] at entries
          rw [only.2, List.nil_append, List.nil_perm.mp entries] at after
          exact List.perm_nil.mp after
        · have whole : (entriesOf state.pendingHeap other).Perm
              (entriesOf (heappushAll rest ([] ++ kept)) other) := by
            rw [split, entriesOf_append,
              entriesOf_cons_of_ne (Ne.symm same)]
            exact ((entries.append_right _).trans
              List.perm_append_comm).trans after.symm
          apply (linked.placed other otherTask pending).moved whole.symm
          rw [Dict.get?_set]
          split_ifs with equal
          · rw [← equal, unblocked]
            exact iff_of_false (same ∘ Eq.symm ∘ Option.some.inj)
              (by rintro ⟨⟩)
          · exact Iff.rfl
      · intro channelId other blocks
        rw [Dict.get?_set] at blocks
        split_ifs at blocks with same
        · cases blocks
          exact ⟨task, known, same⟩
        · exact linked.blocked channelId other blocks
      · intro entry member
        apply linked.known entry
        rw [split]
        rcases List.mem_append.mp (queue.mem_iff.mp member) with inRest | inKept
        · exact List.mem_append_right _ (List.mem_cons_of_mem _ inRest)
        · apply List.mem_append_left
          exact passes.split.mem_iff.mpr (List.mem_append_right _ inKept)

/-! ### Results -/

/-- A request is completed: it leaves the table and unblocks its channel. -/
structure Completes (state next : RuntimeState) (task : OutboundTask) :
    Prop where
  completed : next.completedRequestIds =
    insert task.requestId state.completedRequestIds
  canonical : next.canonicalRequestsById = state.canonicalRequestsById
  pending : next.requestsById = state.requestsById.erase task.requestId
  heap : next.pendingHeap = state.pendingHeap
  blocked : next.blockedByChannel =
    (state.unblockChannel task.channelId task.requestId).blockedByChannel

theorem get?_unblockChannel (state : RuntimeState) (channelId other : Nat)
    (requestId : String) :
    (state.unblockChannel channelId requestId).blockedByChannel.get? other =
      if channelId = other ∧
          state.blockedByChannel.get? channelId = some requestId then
        none
      else
        state.blockedByChannel.get? other := by
  unfold unblockChannel
  by_cases blocks : state.blockedByChannel.get? channelId = some requestId
  · simp only [blocks, if_true, and_true]
    exact Dict.get?_erase _ _ _
  · simp only [blocks, if_false, and_false]

theorem Linked.completes {task : OutboundTask} (linked : Linked state)
    (canonical : state.canonicalRequestsById.get? task.requestId = some task)
    (completes : Completes state next task) : Linked next := by
  have stillPending : ∀ {requestId : String} {other : OutboundTask},
      next.requestsById.get? requestId = some other →
        task.requestId ≠ requestId ∧
          state.requestsById.get? requestId = some other := by
    intro requestId other found
    rw [completes.pending, Dict.get?_erase] at found
    split_ifs at found with same
    exact ⟨same, found⟩
  have blockedOf : ∀ {channelId : Nat} {requestId : String},
      task.requestId ≠ requestId →
        (next.blockedByChannel.get? channelId = some requestId ↔
          state.blockedByChannel.get? channelId = some requestId) := by
    intro channelId requestId different
    rw [completes.blocked, get?_unblockChannel]
    split_ifs with unblocks
    · rw [← unblocks.1, unblocks.2]
      exact iff_of_false not_false
        fun same => different (Option.some.inj same)
    · rfl
  refine ⟨?_, ?_, ?_, ?_, ?_, ?_, ?_⟩
  · intro requestId
    rw [completes.pending, Dict.get?_erase, completes.completed,
      completes.canonical, linked.pending]
    by_cases same : task.requestId = requestId
    · rw [if_pos same, if_pos (same ▸ Finset.mem_insert_self _ _)]
    · rw [if_neg same]
      have unchanged : requestId ∈ insert task.requestId
          state.completedRequestIds ↔ requestId ∈ state.completedRequestIds :=
        Finset.mem_insert.trans
          (or_iff_right fun equal => same equal.symm)
      simp only [unchanged]
  · intro requestId other found
    rcases stillPending found with ⟨different, before⟩
    apply (linked.placed requestId other before).moved
    · rw [completes.heap]
    · exact blockedOf different
  · intro channelId requestId blocked
    by_cases same : task.requestId = requestId
    · -- the completed request blocked its own channel only
      exfalso
      subst same
      rw [completes.blocked, get?_unblockChannel] at blocked
      split_ifs at blocked with unblocks
      rcases linked.blocked channelId _ blocked with ⟨other, found, rfl⟩
      have equal := (linked.pending_some found).2
      rw [canonical] at equal
      cases equal
      exact unblocks ⟨rfl, blocked⟩
    · rcases linked.blocked channelId requestId
        ((blockedOf same).mp blocked) with ⟨other, found, ofChannel⟩
      refine ⟨other, ?_, ofChannel⟩
      rw [completes.pending, Dict.get?_erase, if_neg same, found]
  · rw [completes.canonical]
    exact linked.ownId
  · intro requestId done
    rw [completes.completed] at done
    rw [completes.canonical]
    rcases Finset.mem_insert.mp done with rfl | done
    · rw [canonical]
      exact Option.some_ne_none _
    · exact linked.answered requestId done
  · rw [completes.canonical, completes.heap]
    exact linked.known
  · rw [completes.heap]
    exact linked.sorted

theorem completes_markSendResultSuccess (state : RuntimeState)
    (task : OutboundTask) (provider sessionId providerMessageId : String)
    (seq : Nat) :
    Completes state (state.markSendResultSuccess task provider sessionId
      providerMessageId seq) task := by
  unfold markSendResultSuccess unblockChannel
  by_cases blocks :
      state.blockedByChannel.get? task.channelId = some task.requestId
  · simp only [blocks, if_true]
    refine ⟨rfl, rfl, rfl, rfl, ?_⟩
    rw [unblockChannel, if_pos blocks]
  · simp only [blocks, if_false]
    refine ⟨rfl, rfl, rfl, rfl, ?_⟩
    rw [unblockChannel, if_neg blocks]

theorem completes_storeSendResult (state : RuntimeState) {task : OutboundTask}
    {provider sessionId : String}
    (ofRequest :
      (TerminalResult.ofParsed parsed).requestId = task.requestId) :
    Completes state (state.storeSendResult parsed task provider sessionId)
      task := by
  unfold storeSendResult unblockChannel
  simp only [ofRequest]
  by_cases blocks :
      state.blockedByChannel.get? task.channelId = some task.requestId
  · simp only [blocks, if_true]
    have unblocked : (state.unblockChannel task.channelId
        task.requestId).blockedByChannel =
          state.blockedByChannel.erase task.channelId := by
      rw [unblockChannel, if_pos blocks]
    split_ifs
    · exact ⟨rfl, rfl, rfl, rfl, unblocked.symm⟩
    · split <;> exact ⟨rfl, rfl, rfl, rfl, unblocked.symm⟩
  · simp only [blocks, if_false]
    have unblocked : (state.unblockChannel task.channelId
        task.requestId).blockedByChannel = state.blockedByChannel := by
      rw [unblockChannel, if_neg blocks]
    split_ifs
    · exact ⟨rfl, rfl, rfl, rfl, unblocked.symm⟩
    · split <;> exact ⟨rfl, rfl, rfl, rfl, unblocked.symm⟩

theorem canonicalRequestsById_storeSendResult (state : RuntimeState)
    (parsed : ParsedMessage) (task : OutboundTask)
    (provider sessionId : String) :
    (state.storeSendResult parsed task provider sessionId).canonicalRequestsById =
      state.canonicalRequestsById := by
  have unblocked := fun state : RuntimeState =>
    (state.sameRecords_unblockChannel task.channelId
      task.requestId).canonicalRequestsById
  simp only [storeSendResult]
  split_ifs
  · exact unblocked _
  · split
    · exact unblocked _
    · exact unblocked _

/-- A result that is not stored changes nothing. -/
theorem addSendResult_cases (state : RuntimeState) (parsed : ParsedMessage)
    (provider sessionId : String) :
    (state.addSendResult parsed provider sessionId).2 = state ∨
      (state.addSendResult parsed provider sessionId).1 = .ok () ∧
        ∃ task, state.canonicalRequestsById.get?
            (TerminalResult.ofParsed parsed).requestId = some task ∧
          (state.addSendResult parsed provider sessionId).2 =
            state.storeSendResult parsed task provider sessionId := by
  simp only [RuntimeState.addSendResult]
  cases state.terminalResultsById.get?
      (TerminalResult.ofParsed parsed).requestId with
  | some existing =>
      simp only
      split_ifs
      · exact Or.inl rfl
      · exact Or.inl rfl
  | none =>
      cases state.canonicalRequestsById.get?
          (TerminalResult.ofParsed parsed).requestId with
      | none => exact Or.inl rfl
      | some task =>
          simp only
          split_ifs
          · exact Or.inl rfl
          · exact Or.inl rfl
          · exact Or.inl rfl
          · exact Or.inr ⟨rfl, task, rfl, rfl⟩

theorem Linked.addSendResult (linked : Linked state)
    (provider sessionId : String) :
    Linked (state.addSendResult parsed provider sessionId).2 := by
  rcases addSendResult_cases state parsed provider sessionId with
    same | ⟨-, task, found, stored⟩
  · rw [same]
    exact linked
  · have own := linked.ownId _ task found
    rw [stored]
    exact linked.completes (own ▸ found)
      (completes_storeSendResult state own.symm)

/-! ### Records -/

/-- The queue of requests is untouched. -/
structure SameQueue (left right : RuntimeState) : Prop where
  completed : left.completedRequestIds = right.completedRequestIds
  canonical : left.canonicalRequestsById = right.canonicalRequestsById
  pending : left.requestsById = right.requestsById
  heap : left.pendingHeap = right.pendingHeap
  blocked : left.blockedByChannel = right.blockedByChannel

theorem Linked.of_sameQueue (linked : Linked state)
    (same : SameQueue next state) : Linked next := by
  refine ⟨?_, ?_, ?_, ?_, ?_, ?_, ?_⟩
  · rw [same.pending, same.completed, same.canonical]
    exact linked.pending
  · intro requestId task found
    rw [same.pending] at found
    cases linked.placed requestId task found with
    | queued entries free =>
        exact .queued (same.heap ▸ entries) (same.blocked ▸ free)
    | blocks entries blocked =>
        exact .blocks (same.heap ▸ entries) (same.blocked ▸ blocked)
  · rw [same.blocked, same.pending]
    exact linked.blocked
  · rw [same.canonical]
    exact linked.ownId
  · rw [same.completed, same.canonical]
    exact linked.answered
  · rw [same.heap, same.canonical]
    exact linked.known
  · rw [same.heap]
    exact linked.sorted

theorem sameQueue_markSyncRecord (state : RuntimeState) (key : InboundKey)
    (channelId : Nat) (eventMs : Int) :
    SameQueue (state.markSyncRecord key channelId eventMs) state := by
  unfold markSyncRecord recordEventMs
  split
  · split_ifs
    · exact ⟨rfl, rfl, rfl, rfl, rfl⟩
    · exact ⟨rfl, rfl, rfl, rfl, rfl⟩
  · exact ⟨rfl, rfl, rfl, rfl, rfl⟩

theorem Linked.markSyncRecord (linked : Linked state) (key : InboundKey)
    (channelId : Nat) (eventMs : Int) :
    Linked (state.markSyncRecord key channelId eventMs) :=
  linked.of_sameQueue (sameQueue_markSyncRecord state key channelId eventMs)

/-- A record that is not stored changes nothing. -/
theorem addSyncRecord_cases (state : RuntimeState) (parsed : ParsedMessage)
    (provider sessionId : String) :
    (state.addSyncRecord parsed provider sessionId).2 = state ∨
      (state.addSyncRecord parsed provider sessionId).1 = .ok () ∧
        (state.addSyncRecord parsed provider sessionId).2 =
          state.markSyncRecord (syncRecordKey parsed provider sessionId)
            parsed.channelId parsed.eventMs := by
  simp only [RuntimeState.addSyncRecord]
  split
  · split_ifs
    · exact Or.inl rfl
    · exact Or.inr ⟨rfl, rfl⟩
  · split_ifs
    · exact Or.inl rfl
    · exact Or.inr ⟨rfl, rfl⟩

theorem Linked.addSyncRecord (linked : Linked state)
    (provider sessionId : String) :
    Linked (state.addSyncRecord parsed provider sessionId).2 := by
  rcases addSyncRecord_cases state parsed provider sessionId with
    same | ⟨-, stored⟩
  · rw [same]
    exact linked
  · rw [stored]
    exact linked.markSyncRecord _ _ _

end Operations

/-! ## Runs of operations -/

/-- The operations of `RuntimeState` that change it. -/
inductive Operation where
  | addSendRequest (parsed : ParsedMessage)
  | nextPendingTask
  | markSendResultSuccess (task : OutboundTask)
      (provider sessionId providerMessageId : String) (seq : Nat)
  | addSendResult (parsed : ParsedMessage) (provider sessionId : String)
  | addSyncRecord (parsed : ParsedMessage) (provider sessionId : String)
  | markSyncRecord (key : InboundKey) (channelId : Nat) (eventMs : Int)

namespace Operation

/-- What the operation raises, if anything, and the state after it. -/
def perform (state : RuntimeState) : Operation → Outcome
  | addSendRequest parsed => state.addSendRequest parsed
  | nextPendingTask => (.ok (), state.nextPendingTask.2)
  | markSendResultSuccess task provider sessionId providerMessageId seq =>
      (.ok (), state.markSendResultSuccess task provider sessionId
        providerMessageId seq)
  | addSendResult parsed provider sessionId =>
      state.addSendResult parsed provider sessionId
  | addSyncRecord parsed provider sessionId =>
      state.addSyncRecord parsed provider sessionId
  | markSyncRecord key channelId eventMs =>
      (.ok (), state.markSyncRecord key channelId eventMs)

/-- The task that the operation returns. -/
def returns (state : RuntimeState) : Operation → List OutboundTask
  | nextPendingTask => state.nextPendingTask.1.toList
  | _ => []

/-- A result is marked only for a task that was returned before. -/
def Allowed (returned : List OutboundTask) : Operation → Prop
  | markSendResultSuccess task _ _ _ _ => task ∈ returned
  | _ => True

end Operation

/-- The states after any sequence of operations, with the returned tasks. -/
inductive Reaches : RuntimeState → List OutboundTask → Prop where
  | initial : Reaches .initial []
  | step {state : RuntimeState} {returned : List OutboundTask}
      {operation : Operation} (reached : Reaches state returned)
      (allowed : operation.Allowed returned) :
      Reaches (operation.perform state).2
        (returned ++ operation.returns state)

section Runs

variable {state : RuntimeState} {returned : List OutboundTask}

/-- A canonical request stays the same. -/
theorem canonical_perform (operation : Operation) {requestId : String}
    {task : OutboundTask}
    (found : state.canonicalRequestsById.get? requestId = some task) :
    (operation.perform state).2.canonicalRequestsById.get? requestId =
      some task := by
  cases operation with
  | addSendRequest parsed =>
      simp only [Operation.perform, RuntimeState.addSendRequest]
      cases known : state.canonicalRequestsById.get?
          (OutboundTask.ofParsed parsed).requestId with
      | some existing =>
          simp only
          split_ifs
          · exact found
          · exact found
      | none =>
          have different :
              (OutboundTask.ofParsed parsed).requestId ≠ requestId := by
            rintro rfl
            rw [known] at found
            cases found
          simp only
          split_ifs
          · exact (Dict.get?_set_of_ne _ _ different).trans found
          · exact (Dict.get?_set_of_ne _ _ different).trans found
  | nextPendingTask =>
      show state.nextPendingTask.2.canonicalRequestsById.get? requestId = _
      rw [state.nextPendingTask_spec.1.canonicalRequestsById]
      exact found
  | markSendResultSuccess task provider sessionId providerMessageId seq =>
      have completes := completes_markSendResultSuccess state task provider
        sessionId providerMessageId seq
      rw [Operation.perform, completes.canonical]
      exact found
  | addSendResult parsed provider sessionId =>
      rcases addSendResult_cases state parsed provider sessionId with
        same | ⟨-, task, -, stored⟩
      · rw [Operation.perform, same]
        exact found
      · rw [Operation.perform, stored,
          canonicalRequestsById_storeSendResult]
        exact found
  | addSyncRecord parsed provider sessionId =>
      rcases addSyncRecord_cases state parsed provider sessionId with
        same | ⟨-, stored⟩
      · rw [Operation.perform, same]
        exact found
      · have same := sameQueue_markSyncRecord state
          (syncRecordKey parsed provider sessionId) parsed.channelId
          parsed.eventMs
        rw [Operation.perform, stored, same.canonical]
        exact found
  | markSyncRecord key channelId eventMs =>
      have same := sameQueue_markSyncRecord state key channelId eventMs
      rw [Operation.perform, same.canonical]
      exact found

/-- An operation that raises changes nothing. -/
theorem unchanged_of_error (operation : Operation) {error : PyError}
    (raises : (operation.perform state).1 = .error error) :
    (operation.perform state).2 = state := by
  cases operation with
  | addSendRequest parsed =>
      simp only [Operation.perform, RuntimeState.addSendRequest] at raises ⊢
      cases known : state.canonicalRequestsById.get?
          (OutboundTask.ofParsed parsed).requestId with
      | some existing =>
          simp only
          split_ifs
          · rfl
          · rfl
      | none =>
          rw [known] at raises
          simp only at raises
          split_ifs at raises
  | nextPendingTask => cases raises
  | markSendResultSuccess => cases raises
  | addSendResult parsed provider sessionId =>
      rcases addSendResult_cases state parsed provider sessionId with
        same | ⟨succeeds, -⟩
      · exact same
      · rw [Operation.perform, succeeds] at raises
        cases raises
  | addSyncRecord parsed provider sessionId =>
      rcases addSyncRecord_cases state parsed provider sessionId with
        same | ⟨succeeds, -⟩
      · exact same
      · rw [Operation.perform, succeeds] at raises
        cases raises
  | markSyncRecord => cases raises

/-- One operation keeps the places of the pending requests consistent. -/
theorem Linked.perform (linked : Linked state) {operation : Operation}
    (allowed : operation.Allowed returned)
    (canonical : ∀ task ∈ returned,
      state.canonicalRequestsById.get? task.requestId = some task) :
    Linked (operation.perform state).2 := by
  cases operation with
  | addSendRequest parsed => exact linked.addSendRequest
  | nextPendingTask => exact linked.nextPendingTask
  | markSendResultSuccess task provider sessionId providerMessageId seq =>
      exact linked.completes (canonical task allowed)
        (completes_markSendResultSuccess state task provider sessionId
          providerMessageId seq)
  | addSendResult parsed provider sessionId =>
      exact linked.addSendResult provider sessionId
  | addSyncRecord parsed provider sessionId =>
      exact linked.addSyncRecord provider sessionId
  | markSyncRecord key channelId eventMs =>
      exact linked.markSyncRecord key channelId eventMs

/-- The task is pending, and no request blocks its channel. -/
structure Eligible (state : RuntimeState) (task : OutboundTask) : Prop where
  pending : state.requestsById.get? task.requestId = some task
  unblocked : state.blockedByChannel.get? task.channelId = none

/-- The task that is returned is eligible. -/
theorem Linked.eligible (linked : Linked state) {task : OutboundTask}
    (found : state.nextPendingTask.1 = some task) : Eligible state task := by
  have finds := finds_nextPendingTask state
  generalize state.nextPendingTask = result at found finds
  cases finds with
  | nothing => cases found
  | found split passes known current incomplete free =>
      cases found
      have own := linked.ownId _ task (linked.pending_some known).2
      subst own current
      have inHeap : (task.seq, task.requestId) ∈ state.pendingHeap := by
        rw [split]
        exact List.mem_append_right _ List.mem_cons_self
      exact ⟨known, linked.unblocked inHeap known free⟩

theorem Reaches.linked (reached : Reaches state returned) :
    Linked state ∧ ∀ task ∈ returned,
      state.canonicalRequestsById.get? task.requestId = some task := by
  induction reached with
  | initial => exact ⟨linked_initial, nofun⟩
  | @step state returned operation _ allowed ih =>
      refine ⟨ih.1.perform allowed ih.2, fun task member => ?_⟩
      apply canonical_perform operation
      rcases List.mem_append.mp member with before | now
      · exact ih.2 task before
      · cases operation with
        | nextPendingTask =>
            have eligible := ih.1.eligible (Option.mem_toList.mp now)
            exact (ih.1.pending_some eligible.pending).2
        | _ => cases now

/-- How the tables of a runtime state belong together. -/
structure Representation (state : RuntimeState) : Prop where
  pending : ∀ requestId, state.requestsById.get? requestId =
    if requestId ∈ state.completedRequestIds then none
    else state.canonicalRequestsById.get? requestId
  placed : ∀ requestId task,
    state.requestsById.get? requestId = some task →
      Placed state requestId task
  blocked : ∀ channelId requestId,
    state.blockedByChannel.get? channelId = some requestId →
      ∃ task, state.requestsById.get? requestId = some task ∧
        task.channelId = channelId

/--
After any sequence of operations the pending requests are the canonical ones
without a result, each in the heap once or blocking its channel, and every
blocking request is pending in its channel.  A call that raises leaves every
field unchanged.
-/
theorem reaches_representation (reached : Reaches state returned) :
    Representation state ∧ ∀ (operation : Operation) (error : PyError),
      operation.Allowed returned →
        (operation.perform state).1 = .error error →
          (operation.perform state).2 = state := by
  have linked := reached.linked.1
  exact ⟨⟨linked.pending, linked.placed, linked.blocked⟩,
    fun operation _ _ raises => unchanged_of_error operation raises⟩

def sampleRequest (seq channelId : Nat) (requestId : String) :
    ParsedMessage where
  seq := seq
  channelId := channelId
  principal := 8
  recipients := [9]
  kind := .sendRequest
  payload := []
  data := [("msg_type", .str "text"), ("content", .obj [])]
  eventMs := 100
  ingestedMs := none
  requestId := some requestId
  prevSeq := none

/-- The result of the second request. -/
def sampleResult : ParsedMessage where
  seq := 8
  channelId := 4
  principal := 9
  recipients := [8]
  kind := .sendResult
  payload := []
  data := [("status", .str "SUCCESS"), ("provider_message_id", .str "om2")]
  eventMs := 200
  ingestedMs := none
  requestId := some "r2"
  prevSeq := some 5

/-- Two channels with a request each and a third one with two. -/
def fourRequests : List ParsedMessage := [sampleRequest 4 3 "r1",
  sampleRequest 5 4 "r2", sampleRequest 6 3 "r3", sampleRequest 7 5 "r4"]

def requestedState : RuntimeState :=
  fourRequests.foldl (fun state parsed => (state.addSendRequest parsed).2)
    .initial

/-- The first request blocks its channel and the second one has been answered,
which leaves its entry in the heap. -/
def mixedState : RuntimeState :=
  (requestedState.nextPendingTask.2.addSendResult sampleResult "lark" "oc1").2

theorem reaches_requests (parsed : List ParsedMessage)
    (reached : Reaches state returned) :
    Reaches (parsed.foldl (fun state parsed => (state.addSendRequest parsed).2)
      state) returned := by
  induction parsed generalizing state with
  | nil => exact reached
  | cons first rest ih =>
      have added := @Reaches.step _ _ (.addSendRequest first) reached True.intro
      have nothing : returned ++ (Operation.addSendRequest first).returns state =
          returned := List.append_nil _
      rw [nothing] at added
      exact ih added

theorem reaches_mixedState :
    ∃ returned, Reaches mixedState returned := by
  have requested := reaches_requests fourRequests .initial
  have taken := @Reaches.step _ _ .nextPendingTask requested True.intro
  exact ⟨_, @Reaches.step _ _ (.addSendResult sampleResult "lark" "oc1") taken
    True.intro⟩

theorem blocked_mixedState : mixedState.blockedByChannel.get? 3 = some "r1" :=
  rfl

theorem pendingHeap_mixedState :
    mixedState.pendingHeap = [(5, "r2"), (6, "r3"), (7, "r4")] := rfl

theorem stale_mixedState : Stale mixedState (5, "r2") := by
  intro task found
  cases found

theorem reaches_representation_sample :
    mixedState.blockedByChannel.get? 3 = some "r1" ∧
      mixedState.pendingHeap = [(5, "r2"), (6, "r3"), (7, "r4")] ∧
        Stale mixedState (5, "r2") ∧ Representation mixedState := by
  rcases reaches_mixedState with ⟨returned, reached⟩
  exact ⟨blocked_mixedState, pendingHeap_mixedState, stale_mixedState,
    (reaches_representation reached).1⟩

/-! ## The selected task -/

/-- The heap entry of a task. -/
def entryOf (task : OutboundTask) : Nat × String :=
  (task.seq, task.requestId)

/-- What `next_pending_task` selects, and what it leaves. -/
structure Selects (state : RuntimeState)
    (result : Option OutboundTask × RuntimeState) : Prop where
  /-- The first eligible task, which now blocks its channel. -/
  first : ∀ task, result.1 = some task → Eligible state task ∧
    (∀ other, Eligible state other → HeapLE (entryOf task) (entryOf other)) ∧
      result.2.blockedByChannel.get? task.channelId = some task.requestId
  /-- Nothing is selected when every pending request blocks its channel or
  waits for another one. -/
  exhausted : result.1 = none ↔ ∀ requestId task,
    state.requestsById.get? requestId = some task →
      state.blockedByChannel.get? task.channelId = some requestId ∨
        ∃ other, other ≠ requestId ∧
          state.blockedByChannel.get? task.channelId = some other
  /-- The heap loses the selected entry and entries of completed requests. -/
  heap : ∃ dropped, state.pendingHeap.Perm
      (dropped ++ ((result.1.map entryOf).toList ++ result.2.pendingHeap)) ∧
    ∀ entry ∈ dropped, entry.2 ∈ state.completedRequestIds
  pending : result.2.requestsById = state.requestsById
  completed : result.2.completedRequestIds = state.completedRequestIds
  otherChannels : ∀ channelId,
    (∀ task, result.1 = some task → task.channelId ≠ channelId) →
      result.2.blockedByChannel.get? channelId =
        state.blockedByChannel.get? channelId

/-- An eligible task has its entry in the heap, and is not passed. -/
theorem Linked.not_passed (linked : Linked state) {task : OutboundTask}
    {dropped kept passed rest : List (Nat × String)}
    (split : state.pendingHeap = passed ++ rest)
    (passes : Passes state dropped kept passed)
    (eligible : Eligible state task) : entryOf task ∈ rest := by
  have inHeap : entryOf task ∈ state.pendingHeap := by
    cases linked.placed _ task eligible.pending with
    | queued entries =>
        have inside : entryOf task ∈
            entriesOf state.pendingHeap task.requestId := by
          rw [entries]
          exact List.mem_singleton_self _
        exact (List.mem_filter.mp inside).1
    | blocks _ blocked =>
        rw [eligible.unblocked] at blocked
        cases blocked
  rw [split] at inHeap
  rcases List.mem_append.mp inHeap with inPassed | inRest
  · exfalso
    rcases List.mem_append.mp (passes.split.mem_iff.mp inPassed) with
      inDropped | inKept
    · have inside : entryOf task ∈
          entriesOf dropped task.requestId :=
        List.mem_filter.mpr ⟨inDropped, decide_eq_true rfl⟩
      rw [linked.entriesOf_dropped split passes eligible.pending] at inside
      cases inside
    · rcases passes.held _ inKept with ⟨other, blocked, known, blocks, -⟩
      have same := eligible.pending.symm.trans known
      cases same
      rw [eligible.unblocked] at blocks
      cases blocks
  · exact inRest

section Finds

variable {result : Option OutboundTask × RuntimeState}
  {task other : OutboundTask} {requestId : String}

/-- The task that is found comes before all others that are eligible. -/
theorem Linked.precedes (linked : Linked state)
    (finds : Finds state [] state.pendingHeap result)
    (found : result.1 = some task) (eligible : Eligible state other) :
    HeapLE (entryOf task) (entryOf other) := by
  cases finds with
  | nothing => cases found
  | @found _ _ passed rest seq requestId _ split passes known current =>
      cases found
      have own := linked.ownId _ task (linked.pending_some known).2
      subst own current
      have sorted := linked.sorted
      rw [split] at sorted
      have later := (List.pairwise_append.mp sorted).2.1
      rcases List.mem_cons.mp (linked.not_passed split passes eligible) with
        equal | inRest
      · rw [equal]
        exact Or.inr ⟨rfl, String.le_refl _⟩
      · exact (List.pairwise_cons.mp later).1 _ inRest

theorem Linked.blocks_found (linked : Linked state)
    (finds : Finds state [] state.pendingHeap result)
    (found : result.1 = some task) :
    result.2.blockedByChannel.get? task.channelId = some task.requestId := by
  cases finds with
  | nothing => cases found
  | found split passes known =>
      cases found
      have own := linked.ownId _ task (linked.pending_some known).2
      subst own
      exact Dict.get?_set_self _ _ _

/-- When nothing is found, each pending request blocks its channel or waits for
another one. -/
theorem Linked.waits (linked : Linked state)
    (finds : Finds state [] state.pendingHeap result)
    (none : result.1 = none)
    (pending : state.requestsById.get? requestId = some task) :
    state.blockedByChannel.get? task.channelId = some requestId ∨
      ∃ other, other ≠ requestId ∧
        state.blockedByChannel.get? task.channelId = some other := by
  cases finds with
  | found => cases none
  | nothing passes =>
      have own := linked.ownId _ task (linked.pending_some pending).2
      subst own
      have whole : state.pendingHeap = state.pendingHeap ++ [] :=
        (List.append_nil _).symm
      cases blocked : state.blockedByChannel.get? task.channelId with
      | none => cases linked.not_passed whole passes ⟨pending, blocked⟩
      | some other =>
          by_cases equal : other = task.requestId
          · exact Or.inl (congrArg some equal)
          · exact Or.inr ⟨other, equal, rfl⟩

/-- The heap loses the entry that is found and entries of completed
requests. -/
theorem Linked.leaves (linked : Linked state)
    (finds : Finds state [] state.pendingHeap result) :
    ∃ dropped, state.pendingHeap.Perm
        (dropped ++ ((result.1.map entryOf).toList ++ result.2.pendingHeap)) ∧
      ∀ entry ∈ dropped, entry.2 ∈ state.completedRequestIds := by
  cases finds with
  | @nothing dropped kept passes =>
      refine ⟨dropped, ?_, ?_⟩
      · exact passes.split.trans
          ((perm_heappushAll [] kept).symm.append_left dropped)
      · intro entry member
        apply (linked.completed_of_stale _ (passes.stale entry member)).1
        exact passes.split.mem_iff.mpr (List.mem_append_left _ member)
  | @found dropped kept passed rest seq requestId task split passes known
      current incomplete free =>
      have own := linked.ownId _ task (linked.pending_some known).2
      subst own current
      refine ⟨dropped, ?_, ?_⟩
      · have queue : (heappushAll rest ([] ++ kept)).Perm (kept ++ rest) :=
          (perm_heappushAll rest kept).trans List.perm_append_comm
        rw [split]
        apply (passes.split.append_right _).trans
        rw [List.append_assoc]
        apply List.Perm.append_left
        apply List.perm_middle.trans
        exact (queue.symm.cons _)
      · intro entry member
        apply (linked.completed_of_stale _ (passes.stale entry member)).1
        rw [split]
        apply List.mem_append_left
        exact passes.split.mem_iff.mpr (List.mem_append_left _ member)

end Finds

theorem Linked.selects (linked : Linked state) :
    Selects state state.nextPendingTask := by
  have eligible := fun task => @Linked.eligible state linked task
  have same := state.nextPendingTask_spec.1
  have finds := finds_nextPendingTask state
  generalize state.nextPendingTask = result at eligible same finds
  refine ⟨?_, ?_, linked.leaves finds, same.requestsById,
    same.completedRequestIds, ?_⟩
  · intro task found
    exact ⟨eligible task found,
      fun other => linked.precedes finds found, linked.blocks_found finds found⟩
  · constructor
    · intro none requestId task pending
      exact linked.waits finds none pending
    · intro waiting
      cases chosen : result.1 with
      | none => rfl
      | some task =>
          have free := eligible task chosen
          rcases waiting task.requestId task free.pending with
            blocked | ⟨other, -, blocked⟩
          · rw [free.unblocked] at blocked
            cases blocked
          · rw [free.unblocked] at blocked
            cases blocked
  · intro channelId others
    cases finds with
    | nothing => rfl
    | found => exact Dict.get?_set_of_ne _ _ (others _ rfl)

/--
In every state that the operations reach, `next_pending_task` returns the first
pending request, by number and id, whose channel is not blocked; it returns
none exactly when there is no such request, and the heap loses nothing but the
returned entry and entries of completed requests.
-/
theorem nextPendingTask_selects (reached : Reaches state returned) :
    Selects state state.nextPendingTask :=
  reached.linked.1.selects

/-- The stale entry is dropped, the one of the blocked channel passed over. -/
theorem nextPendingTask_selects_sample :
    mixedState.nextPendingTask.1.map OutboundTask.requestId = some "r4" ∧
      mixedState.nextPendingTask.2.pendingHeap = [(6, "r3")] ∧
        Selects mixedState mixedState.nextPendingTask := by
  rcases reaches_mixedState with ⟨returned, reached⟩
  exact ⟨rfl, rfl, nextPendingTask_selects reached⟩

end Runs

end OpenEventIm.Syncer.PendingQueue
