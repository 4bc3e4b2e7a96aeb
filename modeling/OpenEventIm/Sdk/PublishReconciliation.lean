import OpenEventIm.Sdk.Client

/-!
# What a publish can have committed

The specification of one `_publish` of a record, as a rule for `Safe`.  The
user of the rule supplies two assertions: one for the worlds in which this
publish has committed nothing yet, one for those in which it has committed a
given message.  The rule says which of them holds when the publish returns or
fails.

The argument is the reconciliation's: whatever this publish committed is above
the number read before it and at most the number read after it, so it lies in
one of the pages, and a scan that finds no match proves there is none.
-/

namespace OpenEventIm.Sdk.PublishReconciliation

open OpenEventIm.Foundation
open OpenEventIm.Foundation.Interaction
open OpenEventIm.Sdk.Errors
open OpenEventIm.Sdk.Normalizer
open OpenEventIm.Sdk.Client
open OpenEventIm.Service.Calls
open OpenEventIm.Service.World

/-! ## Assertions about a publish -/

variable {setting : Setting} {record : Record} {token : String}

/-- Assertions before and after the commit of a record. -/
structure PublishAssertions (setting : Setting) where
  pending : WorldState setting → Prop
  committed : Message → WorldState setting → Prop
  pending_kept : KeptByReads pending
  committed_kept : ∀ message, KeptByReads (committed message)

namespace PublishAssertions

variable (assertions : PublishAssertions setting)

/-- A publish of the record leads from one assertion to the other. -/
structure FollowPublish (record : Record) : Prop where
  rejected : ∀ before token answer after,
    Answers before (.publishAutoSeq record.principal token record.channelId
      record.payload record.recipients) answer after →
      after.log = before.log → assertions.pending before →
        assertions.pending after
  commits : ∀ before token answer after message,
    Answers before (.publishAutoSeq record.principal token record.channelId
      record.payload record.recipients) answer after →
      recordOf message = record → setting.committable message →
        before.log.Appends ⟨message, true⟩ after.log →
          assertions.pending before → assertions.committed message after

/-- Before or after the commit. -/
def Undecided (state : WorldState setting) : Prop :=
  assertions.pending state ∨ ∃ message, assertions.committed message state

theorem undecided_kept : KeptByReads assertions.Undecided where
  stable := by
    intro before after step undecided
    rcases undecided with pending | ⟨message, committed⟩
    · exact Or.inl (assertions.pending_kept.stable _ _ step pending)
    · exact Or.inr ⟨message,
        (assertions.committed_kept message).stable _ _ step committed⟩
  reads := by
    intro before request answer after reads answers undecided
    rcases undecided with pending | ⟨message, committed⟩
    · exact Or.inl
        (assertions.pending_kept.reads _ _ _ _ reads answers pending)
    · exact Or.inr ⟨message, (assertions.committed_kept message).reads
        _ _ _ _ reads answers committed⟩

/-- The same assertions, where a commit also tells that a condition holds. -/
def whenCommitted (condition : Prop) : PublishAssertions setting where
  pending := assertions.pending
  committed message state := condition ∧ assertions.committed message state
  pending_kept := assertions.pending_kept
  committed_kept message :=
    { stable := fun _ _ step => And.imp_right
        ((assertions.committed_kept message).stable _ _ step)
      reads := fun _ _ _ _ reads answers => And.imp_right
        ((assertions.committed_kept message).reads _ _ _ _ reads answers) }

/--
The publish returned a number: of the message it committed, or of a foreign
message with the same record.
-/
def Returned (record : Record) (seq : Nat)
    (state : WorldState setting) : Prop :=
  (∃ message, message.seq = seq ∧ assertions.committed message state) ∨
    assertions.Undecided state ∧
      ∃ entry ∈ state.log.entries, entry.own = false ∧ entry.seq = seq ∧
        recordOf entry.message = record

/-- The publish failed, and what its error says about the commit is true. -/
structure Failed (error : PyError) (state : WorldState setting) : Prop where
  undecided : assertions.Undecided state
  retrySafe : error.retrySafe = true → assertions.pending state
  exclusive : ¬(error.retrySafe = true ∧ error.outcomeUnknown = true)
  notCommitted : ∀ code, causeStatusCode error = some code →
    code ∈ guaranteedNotCommitted → assertions.pending state

/--
The assertions together with the worker's own messages: `own` before the
commit, which ends above `floor`.
-/
def tracked (record : Record) (own : List LogEntry) (floor : Nat) :
    PublishAssertions setting where
  pending state :=
    assertions.pending state ∧ ownEntries state.log = own ∧
      floor ≤ state.log.last
  committed message state :=
    assertions.committed message state ∧
      ownEntries state.log = own ++ [⟨message, true⟩] ∧
        recordOf message = record ∧ floor < message.seq
  pending_kept :=
    { stable := by
        rintro before after step ⟨pending, ownEq, low⟩
        exact ⟨assertions.pending_kept.stable _ _ step pending,
          (step.ownEntries_eq).trans ownEq, low.trans step.extends.last_le⟩
      reads := by
        rintro before request answer after reads answers ⟨pending, ownEq, low⟩
        have entries := answers.entries_eq reads.1
        refine ⟨assertions.pending_kept.reads _ _ _ _ reads answers pending,
          ?_, low.trans answers.extends.last_le⟩
        rw [ownEntries, entries]
        exact ownEq }
  committed_kept message :=
    { stable := by
        rintro before after step ⟨committed, ownEq, rest⟩
        exact ⟨(assertions.committed_kept message).stable _ _ step committed,
          (step.ownEntries_eq).trans ownEq, rest⟩
      reads := by
        rintro before request answer after reads answers
          ⟨committed, ownEq, rest⟩
        have entries := answers.entries_eq reads.1
        refine ⟨(assertions.committed_kept message).reads _ _ _ _ reads answers
          committed, ?_, rest⟩
        rw [ownEntries, entries]
        exact ownEq }

theorem FollowPublish.tracked {assertions : PublishAssertions setting}
    {record : Record} (follow : assertions.FollowPublish record)
    (own : List LogEntry) (floor : Nat) :
    (assertions.tracked record own floor).FollowPublish record where
  rejected := by
    rintro before token answer after answers same ⟨pending, ownEq, low⟩
    refine ⟨follow.rejected _ _ _ _ answers same pending, ?_⟩
    rw [same]
    exact ⟨ownEq, low⟩
  commits := by
    rintro before token answer after message answers recorded accepted appends
      ⟨pending, ownEq, low⟩
    refine ⟨follow.commits _ _ _ _ _ answers recorded accepted appends
      pending, ?_, recorded,
      low.trans_lt (SequencedLog.last_lt_of_appends appends)⟩
    rw [ownEntries_append_own appends, ownEq]

end PublishAssertions

/-! ## Pages -/

theorem matchesPublish_iff {message : Message} :
    matchesPublish message record = true ↔ recordOf message = record := by
  cases record
  simp [matchesPublish, recordOf]

theorem findPublished_eq_some {reconcileMaxSeq : Nat}
    {messages : List Message} {message : Message}
    (found : findPublished record reconcileMaxSeq messages = some message) :
    message ∈ messages ∧ recordOf message = record := by
  induction messages with
  | nil => cases found
  | cons head rest ih =>
      unfold findPublished at found
      split_ifs at found with above matching
      · exact (ih found).imp_left (List.mem_cons_of_mem head)
      · cases found
        exact ⟨List.mem_cons_self, matchesPublish_iff.mp matching⟩
      · exact (ih found).imp_left (List.mem_cons_of_mem head)

theorem findPublished_eq_none {reconcileMaxSeq : Nat}
    {messages : List Message}
    (absent : findPublished record reconcileMaxSeq messages = none)
    {message : Message} (member : message ∈ messages)
    (inRange : message.seq ≤ reconcileMaxSeq) :
    recordOf message ≠ record := by
  induction messages with
  | nil => cases member
  | cons head rest ih =>
      unfold findPublished at absent
      split_ifs at absent with above matching
      · rcases List.mem_cons.mp member with rfl | member
        · exact absurd inRange (Nat.not_le.mpr above)
        · exact ih absent member
      · rcases List.mem_cons.mp member with rfl | member
        · exact fun equal => matching (matchesPublish_iff.mpr equal)
        · exact ih absent member

/-- A message of an honest page is in the log, in the page's range. -/
theorem mem_honestPage {log : Log} {fromSeq : Nat} {channels : List Nat}
    {response : FetchResponse} (honest : HonestPage log fromSeq channels response)
    {message : Message} :
    message ∈ response.messages ↔
      ∃ entry ∈ log.entries, entry.message = message ∧
        fromSeq ≤ message.seq ∧ message.seq < response.nextSeq ∧
          message.channelId ∈ channels := by
  rw [honest.messages, List.mem_filter, List.mem_map]
  constructor
  · rintro ⟨⟨entry, member, rfl⟩, selected⟩
    obtain ⟨inLog, low, high⟩ := SequencedLog.mem_range.mp member
    exact ⟨entry, inLog, rfl, low, high, of_decide_eq_true selected⟩
  · rintro ⟨entry, inLog, rfl, low, high, selected⟩
    exact ⟨⟨entry, SequencedLog.mem_range.mpr ⟨inLog, low, high⟩, rfl⟩,
      decide_eq_true selected⟩

/-! ## The three steps of a publish -/

section Steps

variable {assertions : PublishAssertions setting}
  {invariant : WorldState setting → Prop} {state : WorldState setting}

/-- Both assertions are within the invariant. -/
structure Sound (assertions : PublishAssertions setting)
    (invariant : WorldState setting → Prop) : Prop where
  pending : ∀ state, assertions.pending state → invariant state
  committed : ∀ message state,
    assertions.committed message state → invariant state

theorem Sound.undecided (sound : Sound assertions invariant)
    (state : WorldState setting) (undecided : assertions.Undecided state) :
    invariant state := by
  rcases undecided with pending | ⟨message, committed⟩
  · exact sound.pending state pending
  · exact sound.committed message state committed

theorem Sound.tracked (sound : Sound assertions invariant)
    (record : Record) (own : List LogEntry) (floor : Nat) :
    Sound (assertions.tracked record own floor) invariant where
  pending state pending := sound.pending state pending.1
  committed message state committed := sound.committed message state committed.1

theorem le_uint64Limit_iff {value : Nat} :
    (value : Int) ≤ uint64Max ↔ value ≤ uint64Limit := by
  have equal : uint64Max = (uint64Limit : Int) := by decide
  rw [equal, Int.ofNat_le]

/-- The check of a response field returns the field or a malformed error. -/
theorem safe_requireResponseUint64 {value : Nat} {fieldName : String}
    {positive : Bool} {returns : Nat → WorldState setting → Prop}
    {fails : PyError → WorldState setting → Prop}
    (sound : invariant state)
    (onReturn : value ≤ uint64Limit → (positive = true → 0 < value) →
      returns value state)
    (onFail : ∀ message, fails (.raised .malformedPayloadError message) state) :
    Safe (world setting) invariant returns fails
      (requireResponseUint64 value fieldName positive) state := by
  unfold requireResponseUint64
  cases checked :
      requireUint64 (some (.int value)) fieldName positive with
  | ok result =>
      obtain ⟨equal, small, isPositive⟩ := requireUint64_eq_ok_iff.mp checked
      have same : value = result := by simpa using equal
      subst same
      exact ⟨sound, onReturn (le_uint64Limit_iff.mp small) isPositive⟩
  | error error =>
      obtain ⟨message, rfl⟩ := raisesMalformed_requireUint64 _ _ _ _ checked
      exact ⟨sound, onFail message⟩

/-- The number read before the publish bounds the worker's messages so far. -/
theorem safe_getPrePublishMaxSeq (sound : Sound assertions invariant)
    (holds : assertions.pending state) :
    Safe (world setting) invariant
      (fun floor state => ∃ own, (assertions.tracked record own floor).pending state ∧
        ∀ entry ∈ own, entry.seq ≤ floor)
      assertions.Failed
      (getPrePublishMaxSeq record.principal token) state := by
  unfold getPrePublishMaxSeq getStatus
  have caught : Safe (world setting) invariant
      (fun floor state => ∃ own, (assertions.tracked record own floor).pending state ∧
        ∀ entry ∈ own, entry.seq ≤ floor)
      (fun _ state => assertions.pending state)
      (do
        let response ← Program.call (.getStatus record.principal token)
          Action.ofExcept
        requireResponseUint64 response.maxSeq "max_seq" false) state := by
    apply Safe.callBind assertions.pending_kept.stable sound.pending holds
    intro ready answer answered readyHolds answers
    have pending := assertions.pending_kept.reads _ (.getStatus _ _) _ _
      ⟨trivial, rfl⟩ answers readyHolds
    cases answer with
    | error error => exact ⟨sound.pending _ pending, pending⟩
    | ok response =>
        obtain ⟨maxSeq, sameLog⟩ := answers.server
        apply safe_requireResponseUint64 (sound.pending _ pending)
        · intro _ _
          refine ⟨ownEntries answered.log, ⟨pending, rfl, ?_⟩, ?_⟩
          · rw [maxSeq, sameLog]
          · intro entry member
            rw [maxSeq, ← sameLog]
            exact SequencedLog.number_le_last (List.mem_of_mem_filter member)
        · intro _
          exact pending
  apply Safe.handle caught
  intro error state _ pending
  exact ⟨sound.pending _ pending, Or.inl pending, fun _ => pending,
    by rintro ⟨-, ⟨⟩⟩, fun _ _ _ => pending⟩

/-- The committed message, if there is one, is still ahead of the scan. -/
def Scanning (assertions : PublishAssertions setting)
    (fromSeq reconcileMaxSeq : Nat) (state : WorldState setting) : Prop :=
  assertions.pending state ∨
    ∃ message, assertions.committed message state ∧
      fromSeq ≤ message.seq ∧ message.seq ≤ reconcileMaxSeq

theorem scanning_kept (assertions : PublishAssertions setting)
    (fromSeq reconcileMaxSeq : Nat) :
    KeptByReads (Scanning assertions fromSeq reconcileMaxSeq) where
  stable := by
    intro before after step scanning
    rcases scanning with pending | ⟨message, committed, ahead⟩
    · exact Or.inl (assertions.pending_kept.stable _ _ step pending)
    · exact Or.inr ⟨message,
        (assertions.committed_kept message).stable _ _ step committed, ahead⟩
  reads := by
    intro before request answer after reads answers scanning
    rcases scanning with pending | ⟨message, committed, ahead⟩
    · exact Or.inl
        (assertions.pending_kept.reads _ _ _ _ reads answers pending)
    · exact Or.inr ⟨message, (assertions.committed_kept message).reads
        _ _ _ _ reads answers committed, ahead⟩

theorem Scanning.undecided {fromSeq reconcileMaxSeq : Nat}
    (scanning : Scanning assertions fromSeq reconcileMaxSeq state) :
    assertions.Undecided state :=
  scanning.imp_right fun ⟨message, committed, _⟩ => ⟨message, committed⟩

theorem untracked_undecided {own : List LogEntry} {floor : Nat}
    (undecided : (assertions.tracked record own floor).Undecided state) :
    assertions.Undecided state :=
  undecided.imp And.left fun ⟨message, committed⟩ => ⟨message, committed.1⟩

/-- A match found by the scan is the committed message or a foreign one. -/
theorem returned_of_match {own : List LogEntry} {floor fromSeq : Nat}
    {reconcileMaxSeq : Nat} {log : Log} {entry : LogEntry}
    (ownBelow : ∀ entry ∈ own, entry.seq ≤ floor)
    (scanning : Scanning (assertions.tracked record own floor) fromSeq
      reconcileMaxSeq state)
    (sameEntries : state.log.entries = log.entries)
    (member : entry ∈ log.entries) (above : floor < entry.seq)
    (matching : recordOf entry.message = record) :
    assertions.Returned record entry.seq state := by
  rw [← sameEntries] at member
  cases isOwn : entry.own with
  | false =>
      exact Or.inr ⟨untracked_undecided scanning.undecided, entry, member,
        isOwn, rfl, matching⟩
  | true =>
      have inOwn : entry ∈ ownEntries state.log :=
        List.mem_filter.mpr ⟨member, isOwn⟩
      rcases scanning with pending | ⟨message, committed, -⟩
      · rw [pending.2.1] at inOwn
        exact absurd above (Nat.not_lt.mpr (ownBelow entry inOwn))
      · rw [committed.2.1, List.mem_append, List.mem_singleton] at inOwn
        rcases inOwn with earlier | equal
        · exact absurd above (Nat.not_lt.mpr (ownBelow entry earlier))
        · exact Or.inl ⟨message, by rw [equal], committed.1⟩

/-- A page without a match leaves the committed message ahead of its end. -/
theorem scanning_of_noMatch {own : List LogEntry} {floor fromSeq : Nat}
    {reconcileMaxSeq : Nat} {log : Log} {response : FetchResponse}
    (scanning : Scanning (assertions.tracked record own floor) fromSeq
      reconcileMaxSeq state)
    (sameEntries : state.log.entries = log.entries)
    (honest : HonestPage log fromSeq [record.channelId] response)
    (absent : findPublished record reconcileMaxSeq response.messages = none) :
    Scanning (assertions.tracked record own floor) response.nextSeq
      reconcileMaxSeq state := by
  rcases scanning with pending | ⟨message, committed, low, high⟩
  · exact Or.inl pending
  · refine Or.inr ⟨message, committed, ?_, high⟩
    by_contra passed
    have recorded := committed.2.2.1
    have inOwn : (⟨message, true⟩ : LogEntry) ∈ ownEntries state.log := by
      rw [committed.2.1]
      exact List.mem_append_right _ (List.mem_singleton_self _)
    have member : (⟨message, true⟩ : LogEntry) ∈ log.entries := by
      rw [← sameEntries]
      exact List.mem_of_mem_filter inOwn
    have selected : message.channelId ∈ [record.channelId] := by
      rw [← recorded]
      exact List.mem_singleton_self _
    have onPage : message ∈ response.messages :=
      (mem_honestPage honest).mpr
        ⟨_, member, rfl, low, Nat.lt_of_not_le passed, selected⟩
    exact findPublished_eq_none absent onPage high recorded

/-- What the page loop establishes. -/
theorem safe_reconcilePages {own : List LogEntry} {floor : Nat}
    (sound : Sound assertions invariant)
    (ownBelow : ∀ entry ∈ own, entry.seq ≤ floor)
    {fromSeq reconcileMaxSeq : Nat} (above : floor < fromSeq)
    (holds : Scanning (assertions.tracked record own floor) fromSeq
      reconcileMaxSeq state) :
    Safe (world setting) invariant
      (fun found state => match found with
        | some seq => assertions.Returned record seq state
        | none => assertions.pending state)
      (fun _ state => assertions.Undecided state)
      (reconcilePages token record reconcileMaxSeq fromSeq) state := by
  have inInvariant : ∀ {low} state, Scanning (assertions.tracked record own floor) low
      reconcileMaxSeq state → invariant state := fun state scanning =>
    (sound.tracked record own floor).undecided state scanning.undecided
  induction remaining : reconcileMaxSeq + 1 - fromSeq using
    Nat.strong_induction_on generalizing fromSeq state with
  | _ remaining ih =>
      rw [reconcilePages]
      split_ifs with inRange
      · unfold fetch
        apply Safe.callBind (scanning_kept _ _ _).stable inInvariant holds
        intro ready answer answered readyHolds answers
        have scanning := (scanning_kept _ _ _).reads _ (.fetch ..) _ _
          ⟨trivial, rfl⟩ answers readyHolds
        have within := inInvariant answered scanning
        have undecided := untracked_undecided scanning.undecided
        cases answer with
        | error error => exact ⟨within, undecided⟩
        | ok response =>
            obtain ⟨honest, reserves⟩ := answers.server.ok
            rw [Action.ofExcept_ok, Program.ret_bind]
            cases found :
                findPublished record reconcileMaxSeq response.messages with
            | some message =>
                obtain ⟨onPage, matching⟩ := findPublished_eq_some found
                obtain ⟨entry, member, rfl, low, -, -⟩ :=
                  (mem_honestPage honest).mp onPage
                have returned := returned_of_match ownBelow scanning
                  reserves.2.1 member (above.trans_le low) matching
                have checked : Safe (world setting) invariant
                    (assertions.Returned record) (fun _ => assertions.Undecided)
                    (requireResponseUint64 entry.message.seq "message.seq"
                      true) answered :=
                  safe_requireResponseUint64 within (fun _ _ => returned)
                    fun _ => undecided
                apply Safe.bind checked
                intro seq state within returned
                exact ⟨within, returned⟩
            | none =>
                have ahead :=
                  scanning_of_noMatch scanning reserves.2.1 honest found
                have checked : Safe (world setting) invariant
                    (fun nextSeq => Scanning (assertions.tracked record own floor)
                      nextSeq reconcileMaxSeq)
                    (fun _ => assertions.Undecided)
                    (requireResponseUint64 response.nextSeq "next_seq" true)
                    answered :=
                  safe_requireResponseUint64 within (fun _ _ => ahead)
                    fun _ => undecided
                apply Safe.bind checked
                intro nextSeq state within ahead
                split_ifs with stuck
                · exact ⟨within, untracked_undecided ahead.undecided⟩
                · exact ih _ (by omega) (by omega) ahead rfl
      · refine ⟨inInvariant state holds, ?_⟩
        rcases holds with pending | ⟨message, -, low, high⟩
        · exact pending.1
        · exact absurd (low.trans high) inRange

/-- A committed message of the worker is in the log. -/
theorem seq_le_last_of_committed {own : List LogEntry} {floor : Nat}
    {message : Message}
    (committed :
      (assertions.tracked record own floor).committed message state) :
    message.seq ≤ state.log.last := by
  have inOwn : (⟨message, true⟩ : LogEntry) ∈ ownEntries state.log := by
    rw [committed.2.1]
    exact List.mem_append_right _ (List.mem_singleton_self _)
  exact SequencedLog.number_le_last (List.mem_of_mem_filter inOwn)

/-- What the search for the message establishes. -/
theorem safe_searchPublished {own : List LogEntry} {floor : Nat}
    (sound : Sound assertions invariant)
    (ownBelow : ∀ entry ∈ own, entry.seq ≤ floor)
    (holds : (assertions.tracked record own floor).Undecided state) :
    Safe (world setting) invariant
      (fun found state => match found with
        | some seq => assertions.Returned record seq state
        | none => assertions.pending state)
      (fun _ => assertions.Undecided)
      (searchPublished token record floor) state := by
  have trackedSound := sound.tracked record own floor
  have kept := (assertions.tracked record own floor).undecided_kept
  unfold searchPublished getStatus
  apply Safe.callBind kept.stable trackedSound.undecided holds
  intro ready answer answered readyHolds answers
  have undecided := kept.reads _ (.getStatus ..) _ _ ⟨trivial, rfl⟩ answers
    readyHolds
  have within := trackedSound.undecided _ undecided
  cases answer with
  | error error => exact ⟨within, untracked_undecided undecided⟩
  | ok response =>
      obtain ⟨maxSeq, sameLog⟩ := answers.server
      have scanning : Scanning (assertions.tracked record own floor)
          (floor + 1) response.maxSeq answered := by
        rcases undecided with pending | ⟨message, committed⟩
        · exact Or.inl pending
        · refine Or.inr ⟨message, committed, committed.2.2.2, ?_⟩
          rw [maxSeq, ← sameLog]
          exact seq_le_last_of_committed committed
      have checked : Safe (world setting) invariant
          (fun reconcileMaxSeq => Scanning
            (assertions.tracked record own floor) (floor + 1) reconcileMaxSeq)
          (fun _ => assertions.Undecided)
          (requireResponseUint64 response.maxSeq "max_seq" false) answered :=
        safe_requireResponseUint64 within (fun _ _ => scanning)
          fun _ => untracked_undecided undecided
      apply Safe.bind checked
      intro reconcileMaxSeq state within scanning
      split_ifs with backwards
      · exact ⟨within, untracked_undecided scanning.undecided⟩
      · exact safe_reconcilePages sound ownBelow (Nat.lt_succ_self floor)
          scanning

/-- The status of the error leaves the commit open. -/
def Uncertain (error : PyError) : Prop :=
  ∀ code, causeStatusCode error = some code → code ∉ guaranteedNotCommitted

/-- What the reconciliation of an uncertain publish establishes. -/
theorem safe_reconcileUncertainPublish {own : List LogEntry} {floor : Nat}
    {publishError : PyError}
    (sound : Sound assertions invariant)
    (ownBelow : ∀ entry ∈ own, entry.seq ≤ floor)
    (holds : ((assertions.whenCommitted (Uncertain publishError)).tracked
      record own floor).Undecided state) :
    Safe (world setting) invariant (assertions.Returned record)
      assertions.Failed
      (reconcileUncertainPublish token record floor publishError) state := by
  have restricted : Sound (assertions.whenCommitted (Uncertain publishError))
      invariant :=
    { pending := sound.pending
      committed := fun message state committed =>
        sound.committed message state committed.2 }
  have undecided : ∀ state,
      (assertions.whenCommitted (Uncertain publishError)).Undecided state →
        assertions.Undecided state := fun state undecided =>
    undecided.imp_right fun ⟨message, committed⟩ => ⟨message, committed.2⟩
  have returned : ∀ seq state,
      (assertions.whenCommitted (Uncertain publishError)).Returned record seq
        state → assertions.Returned record seq state := by
    rintro seq state (⟨message, equal, committed⟩ | ⟨open', foreign⟩)
    · exact Or.inl ⟨message, equal, committed.2⟩
    · exact Or.inr ⟨undecided state open', foreign⟩
  -- with a status that proves the opposite, nothing was committed
  have notCommitted : ∀ {retrySafe outcomeUnknown message} state,
      (assertions.whenCommitted (Uncertain publishError)).Undecided state →
      ∀ code, causeStatusCode (.raisedFrom
          (.publishFailedError retrySafe outcomeUnknown) message
          publishError) = some code →
        code ∈ guaranteedNotCommitted → assertions.pending state := by
    rintro _ _ _ state (pending | ⟨_, uncertain, _⟩) code status proved
    · exact pending
    · exact absurd proved (uncertain code status)
  unfold reconcileUncertainPublish
  have handled : Safe (world setting) invariant
      (fun found state => match found with
        | some seq => assertions.Returned record seq state
        | none => assertions.pending state)
      assertions.Failed
      ((searchPublished token record floor).handle fun exc =>
        publishFailed (outcomeUnknown exc) false true publishError) state := by
    apply Safe.handle
    · apply (safe_searchPublished restricted ownBelow holds).mono
      · intro found state _ searched
        cases found with
        | none => exact searched
        | some seq => exact returned seq state searched
      · intro _ _ _ searched
        exact searched
    · intro exc state within searched
      exact ⟨within, undecided state searched, by rintro ⟨⟩, by rintro ⟨⟨⟩, -⟩,
        notCommitted state searched⟩
  apply Safe.bind handled
  intro found state within searched
  cases found with
  | some seq => exact ⟨within, searched⟩
  | none =>
      exact ⟨within, Or.inl searched, fun _ => searched,
        by rintro ⟨-, ⟨⟩⟩, fun _ _ _ => searched⟩

/-- A publish call that fails leaves the commit to be found out. -/
theorem safe_publishOnce {own : List LogEntry} {floor : Nat}
    (sound : Sound assertions invariant)
    (follow : assertions.FollowPublish record)
    (holds : (assertions.tracked record own floor).pending state) :
    Safe (world setting) invariant (assertions.Returned record)
      (fun error => ((assertions.whenCommitted (Uncertain error)).tracked
        record own floor).Undecided)
      (publishOnce token record) state := by
  have trackedSound := sound.tracked record own floor
  have trackedFollow := follow.tracked own floor
  unfold publishOnce publishAutoSeq
  apply Safe.callBind (assertions.tracked record own floor).pending_kept.stable
    trackedSound.pending holds
  intro ready answer answered readyHolds answers
  cases answer with
  | error error =>
      rcases PublishAnswers.error answers.server with
        same | ⟨message, recorded, accepted, appends, uncertain⟩
      · have pending :=
          trackedFollow.rejected _ _ _ _ answers same readyHolds
        exact ⟨trackedSound.pending _ pending, Or.inl pending⟩
      · have committed := trackedFollow.commits _ _ _ _ _ answers recorded
          accepted appends readyHolds
        exact ⟨trackedSound.committed _ _ committed,
          Or.inr ⟨message, ⟨uncertain, committed.1⟩, committed.2⟩⟩
  | ok response =>
      -- an exception raised here carries no status
      have local' : ∀ error, causeStatusCode error = none →
          (assertions.tracked record own floor).Undecided answered →
            ((assertions.whenCommitted (Uncertain error)).tracked record own
              floor).Undecided answered := by
        rintro error noStatus (pending | ⟨message, committed⟩)
        · exact Or.inl pending
        · have uncertain : Uncertain error := by
            intro code status
            rw [noStatus] at status
            cases status
          exact Or.inr ⟨message, ⟨uncertain, committed.1⟩, committed.2⟩
      have outcome : (assertions.tracked record own floor).Undecided answered ∧
          ∀ seq, response.seq = some seq → seq ≤ uint64Limit → 0 < seq →
            assertions.Returned record seq answered := by
        rcases PublishAnswers.ok answers.server with ⟨same, unusable⟩ |
          ⟨message, recorded, accepted, appends, replied⟩
        · refine ⟨Or.inl
            (trackedFollow.rejected _ _ _ _ answers same readyHolds), ?_⟩
          intro seq found small isPositive
          have := unusable seq found
          omega
        · have committed := trackedFollow.commits _ _ _ _ _ answers recorded
            accepted appends readyHolds
          refine ⟨Or.inr ⟨message, committed⟩, ?_⟩
          intro seq found small isPositive
          rcases replied with given | unusable
          · rw [given, Option.some.injEq] at found
            exact Or.inl ⟨message, found, committed.1⟩
          · have := unusable seq found
            omega
      obtain ⟨undecided, returned⟩ := outcome
      have within := trackedSound.undecided _ undecided
      rw [Action.ofExcept_ok, Program.ret_bind]
      cases found : response.seq with
      | none => exact ⟨within, local' _ rfl undecided⟩
      | some seq =>
          exact safe_requireResponseUint64 within
            (fun small isPositive => returned seq found small (isPositive rfl))
            fun _ => local' _ rfl undecided

/-- The specification of a publish. -/
theorem safe_publishRecord (sound : Sound assertions invariant)
    (follow : assertions.FollowPublish record)
    (holds : assertions.pending state) :
    Safe (world setting) invariant (assertions.Returned record)
      assertions.Failed (publishRecord token record) state := by
  unfold publishRecord
  apply Safe.bind (safe_getPrePublishMaxSeq sound holds)
  rintro floor state _ ⟨own, pending, ownBelow⟩
  apply Safe.handle (safe_publishOnce sound follow pending)
  intro exc state within undecided
  split_ifs with proved
  · obtain ⟨code, excluded, status⟩ := proved
    have causeStatus := causeStatusCode_of_rpcStatusCode status
    rcases undecided with pending | ⟨message, committed⟩
    · exact ⟨within, Or.inl pending.1, by rintro ⟨⟩, by rintro ⟨⟨⟩, -⟩,
        fun _ _ _ => pending.1⟩
    · exact absurd excluded (committed.1.1 code causeStatus)
  · exact safe_reconcileUncertainPublish sound ownBelow undecided

end Steps

end OpenEventIm.Sdk.PublishReconciliation
