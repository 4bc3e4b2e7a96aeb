import OpenEventIm.Sdk.PublishReconciliation
import OpenEventIm.Service.Scenes
import OpenEventIm.Syncer.Models

/-!
# Publishing with retries

`_publish_with_retry` repeats a publish after failures that are safe to retry
and transient.  The rule of a single publish carries over: at every point of
the retry loop the worker's record has been committed at most once, because a
further attempt starts only from a world in which nothing was committed.
-/

namespace OpenEventIm.Syncer.PublishRetry

open OpenEventIm.Foundation
open OpenEventIm.Foundation.Interaction
open OpenEventIm.Sdk.Errors
open OpenEventIm.Sdk.Normalizer
open OpenEventIm.Sdk.Client
open OpenEventIm.Sdk.Codec
open OpenEventIm.Sdk.PublishReconciliation
open OpenEventIm.Service.Calls
open OpenEventIm.Service.World
open OpenEventIm.Service.Scenes
open OpenEventIm.Syncer.Models

/-! ## The retry loop -/

/-- `_is_resource_exhausted`. -/
def isResourceExhausted (error : PyError) : Bool :=
  causeStatusCode error == some .resourceExhausted

/-- `_is_transient_publish_error`. -/
def isTransientPublishError (error : PyError) : Bool :=
  causeStatusCode error == some .unavailable ||
    causeStatusCode error == some .deadlineExceeded

/-- The failure may be followed by another attempt. -/
def isRetryable (error : PyError) : Bool :=
  error.isPublishFailedError && error.retrySafe &&
    isTransientPublishError error

def publishUnknown (error : PyError) : PyError :=
  .raisedFrom .fatalSyncerError
    "OpenEvent publish outcome is unknown or not retryable" error

def publishExhausted (error : PyError) : PyError :=
  .raisedFrom .fatalSyncerError "OpenEvent publish failed after retries" error

def stoppedDuringRetry (error : PyError) : PyError :=
  .raisedFrom .syncerStopped "syncer stopped during publish retry" error

/-- The attempts that are left in `_publish_with_retry`. -/
def publishAttempts (retry : RetryConfig) (publish : Action Nat) :
    Nat → Action Nat
  | 0 => throw
      (.raised .fatalSyncerError "OpenEvent publish failed after retries")
  | remaining + 1 =>
      publish.handle fun exc =>
        if isResourceExhausted exc then
          throw exc
        else if !isRetryable exc then
          throw (publishUnknown exc)
        else if remaining = 0 then
          throw (publishExhausted exc)
        else do
          let stopped ← stopWait retry.publishRetryDelayMs
          if stopped then
            throw (stoppedDuringRetry exc)
          else
            publishAttempts retry publish remaining

/-- `_publish_with_retry`. -/
def publishWithRetry (retry : RetryConfig) (publish : Action Nat) :
    Action Nat :=
  publishAttempts retry publish retry.publishMaxAttempts

/-! ## The rule of the retry loop -/

section Rule

variable {setting : Setting} {record : Record} {token : String}
  {retry : RetryConfig} {assertions : PublishAssertions setting}
  {invariant : WorldState setting → Prop} {state : WorldState setting}

/-- The retry loop failed; its error still tells when nothing was committed. -/
structure RetryFailed (assertions : PublishAssertions setting)
    (error : PyError) (state : WorldState setting) : Prop where
  undecided : assertions.Undecided state
  notCommitted : ∀ code, causeStatusCode error = some code →
    code ∈ guaranteedNotCommitted → assertions.pending state

/-- A publish that obeys the specification of a single publish. -/
def Publishes (assertions : PublishAssertions setting)
    (invariant : WorldState setting → Prop)
    (returned : Nat → WorldState setting → Prop)
    (publish : Action Nat) : Prop :=
  ∀ state, assertions.pending state →
    Safe (world setting) invariant returned assertions.Failed publish state

theorem safe_publishAttempts {publish : Action Nat}
    {returned : Nat → WorldState setting → Prop}
    (sound : Sound assertions invariant)
    (publishes : Publishes assertions invariant returned publish)
    (remaining : Nat) (holds : assertions.pending state) :
    Safe (world setting) invariant returned (RetryFailed assertions)
      (publishAttempts retry publish remaining) state := by
  induction remaining generalizing state with
  | zero =>
      exact ⟨sound.pending state holds, Or.inl holds, fun _ _ _ => holds⟩
  | succ remaining ih =>
      rw [publishAttempts]
      apply Safe.handle (publishes state holds)
      intro exc state within failed
      split_ifs with exhausted notRetryable last
      · exact ⟨within, failed.undecided, failed.notCommitted⟩
      · exact ⟨within, failed.undecided, failed.notCommitted⟩
      · exact ⟨within, failed.undecided, failed.notCommitted⟩
      · -- a further attempt starts only when nothing was committed
        have pending : assertions.pending state := by
          apply failed.retrySafe
          simp only [isRetryable, Bool.not_eq_true', Bool.and_eq_false_iff,
            not_or, Bool.not_eq_false] at notRetryable
          exact notRetryable.1.2
        unfold stopWait
        apply Safe.callBind assertions.pending_kept.stable sound.pending
          pending
        intro ready answer answered readyHolds answers
        have stillPending := assertions.pending_kept.reads _ (.stopWait _) _ _
          ⟨trivial, rfl⟩ answers readyHolds
        rw [Program.ret_bind]
        split_ifs with stopped
        · exact ⟨sound.pending _ stillPending, Or.inl stillPending,
            fun _ _ _ => stillPending⟩
        · exact ih stillPending

/-- A method of the client publishes its record. -/
theorem publishes_method {text : JsonText} {method : PublishMethod}
    (sound : Sound assertions invariant)
    (checked : method.record text = .ok record)
    (follow : assertions.FollowPublish record) :
    Publishes assertions invariant (assertions.Returned record)
      (method.publish text) := by
  intro state holds
  rw [PublishMethod.publish_eq, checked]
  exact safe_publishRecord sound follow holds

/-- A method whose arguments are refused publishes nothing. -/
theorem publishes_refused {text : JsonText} {method : PublishMethod}
    {error : PyError} {returned : Nat → WorldState setting → Prop}
    (sound : Sound assertions invariant)
    (refused : method.record text = .error error) :
    Publishes assertions invariant returned (method.publish text) := by
  intro state pending
  rw [PublishMethod.publish_eq, refused]
  obtain ⟨message, rfl⟩ := method.raisesMalformed_record text _ refused
  exact ⟨sound.pending _ pending, Or.inl pending, fun _ => pending,
    by rintro ⟨⟨⟩, -⟩, fun _ _ _ => pending⟩

end Rule

/-! ## Attempts -/

/-- One attempt: where it started and how far it has got, with its outcome if it
has ended. -/
structure Attempt (setting : Setting) where
  before : WorldState setting
  after : WorldState setting
  outcome : Option (Except PyError Nat)

/-- The attempt failed in a way after which another one may be made. -/
def Attempt.Retryable {setting : Setting} (attempt : Attempt setting) : Prop :=
  ∃ error, attempt.outcome = some (.error error) ∧
    error.isPublishFailedError = true ∧ error.retrySafe = true ∧
      (causeStatusCode error = some .unavailable ∨
        causeStatusCode error = some .deadlineExceeded)

/--
The attempts that the retry loop has made when it has ended or is cut off: each
one is an execution of the publish, only the last one may still be going on, and
between two attempts the worker only waits.
-/
inductive AttemptsMade (setting : Setting) (retry : RetryConfig)
    (publish : Action Nat) : WorldState setting → List (Attempt setting) →
      WorldState setting → Prop where
  | none {before : WorldState setting} :
      AttemptsMade setting retry publish before [] before
  | going {before cut : WorldState setting}
      (visits : Visits (world setting) before publish cut) :
      AttemptsMade setting retry publish before [⟨before, cut, .none⟩] cut
  | ended {before after : WorldState setting} {outcome : Except PyError Nat}
      (run : Runs (world setting) before publish after outcome) :
      AttemptsMade setting retry publish before [⟨before, after, some outcome⟩]
        after
  | waiting {before failed cut : WorldState setting} {error : PyError}
      (run : Runs (world setting) before publish failed (.error error))
      (wait : Visits (world setting) failed
        (stopWait retry.publishRetryDelayMs) cut) :
      AttemptsMade setting retry publish before
        [⟨before, failed, some (.error error)⟩] cut
  | again {before failed resumed after : WorldState setting} {error : PyError}
      {attempts : List (Attempt setting)}
      (run : Runs (world setting) before publish failed (.error error))
      (wait : Runs (world setting) failed (stopWait retry.publishRetryDelayMs)
        resumed (.ok false))
      (rest : AttemptsMade setting retry publish resumed attempts after) :
      AttemptsMade setting retry publish before
        (⟨before, failed, some (.error error)⟩ :: attempts) after

section Attempts

variable {setting : Setting} {retry : RetryConfig} {publish : Action Nat}
  {before after : WorldState setting} {attempts : List (Attempt setting)}

theorem AttemptsMade.runs
    (made : AttemptsMade setting retry publish before attempts after) :
    ∀ attempt ∈ attempts, ∀ outcome, attempt.outcome = some outcome →
      Runs (world setting) attempt.before publish attempt.after outcome := by
  induction made with
  | none => simp
  | going visits => simp
  | ended run =>
      intro attempt member outcome same
      rw [List.mem_singleton.mp member] at same ⊢
      cases same
      exact run
  | waiting run _ =>
      intro attempt member outcome same
      rw [List.mem_singleton.mp member] at same ⊢
      cases same
      exact run
  | again run _ _ ih =>
      intro attempt member outcome same
      rcases List.mem_cons.mp member with rfl | member
      · cases same
        exact run
      · exact ih attempt member outcome same

theorem isRetryable_iff {error : PyError} :
    isRetryable error = true ↔
      error.isPublishFailedError = true ∧ error.retrySafe = true ∧
        (causeStatusCode error = some .unavailable ∨
          causeStatusCode error = some .deadlineExceeded) := by
  simp [isRetryable, isTransientPublishError, and_assoc]

/-- The attempts that may have been made while so many are allowed: there is one
if one is allowed, and all but the last are retryable. -/
structure AttemptsUpto (setting : Setting) (retry : RetryConfig)
    (publish : Action Nat) (allowed : Nat) (before : WorldState setting)
    (attempts : List (Attempt setting)) (after : WorldState setting) :
    Prop where
  made : AttemptsMade setting retry publish before attempts after
  atMost : attempts.length ≤ allowed
  atLeast : 0 < allowed → attempts ≠ []
  retryable : ∀ attempt ∈ attempts.dropLast, attempt.Retryable

theorem AttemptsUpto.single {allowed : Nat} {attempt : Attempt setting}
    (made : AttemptsMade setting retry publish before [attempt] after) :
    AttemptsUpto setting retry publish (allowed + 1) before [attempt] after where
  made := made
  atMost := Nat.succ_le_succ (Nat.zero_le allowed)
  atLeast _ := List.cons_ne_nil _ _
  retryable := by simp

/-- A retryable failure, the wait, and the attempts that are left. -/
theorem AttemptsUpto.again {allowed : Nat} {failed resumed : WorldState setting}
    {error : PyError} (retryable : isRetryable error = true)
    (run : Runs (world setting) before publish failed (.error error))
    (wait : Runs (world setting) failed (stopWait retry.publishRetryDelayMs)
      resumed (.ok false)) (isPositive : 0 < allowed)
    (rest : AttemptsUpto setting retry publish allowed resumed attempts
      after) :
    AttemptsUpto setting retry publish (allowed + 1) before
      (⟨before, failed, some (.error error)⟩ :: attempts) after where
  made := .again run wait rest.made
  atMost := Nat.succ_le_succ rest.atMost
  atLeast _ := List.cons_ne_nil _ _
  retryable := by
    rw [List.dropLast_cons_of_ne_nil (rest.atLeast isPositive)]
    exact List.forall_mem_cons.mpr
      ⟨⟨error, rfl, isRetryable_iff.mp retryable⟩, rest.retryable⟩

/-- Wherever the retry loop is cut off, it has made attempts as allowed. -/
theorem visits_publishAttempts {remaining : Nat}
    (visits : Visits (world setting) before
      (publishAttempts retry publish remaining) after) :
    ∃ attempts,
      AttemptsUpto setting retry publish remaining before attempts after := by
  induction remaining generalizing before with
  | zero =>
      cases visits_fail visits
      exact ⟨[], .none, le_rfl, fun isPositive => absurd isPositive
        (Nat.lt_irrefl 0), by simp⟩
  | succ remaining ih =>
      rw [publishAttempts] at visits
      rcases visits_handle visits with going | ⟨failed, error, run, recovery⟩
      · exact ⟨_, .single (.going going)⟩
      · have raised {exc : PyError} (failing : Visits (world setting) failed
            (.fail exc : Action Nat) after) : ∃ attempts, AttemptsUpto setting
              retry publish (remaining + 1) before attempts after := by
          cases visits_fail failing
          exact ⟨_, .single (.ended run)⟩
        split_ifs at recovery with exhausted notRetryable last
        · exact raised recovery
        · exact raised recovery
        · exact raised recovery
        · have retryable : isRetryable error = true := by
            simpa using notRetryable
          rcases visits_bind recovery with waits |
            ⟨resumed, stopped, wait, rest⟩
          · exact ⟨_, .single (.waiting run waits)⟩
          · cases stopped with
            | true =>
                cases visits_fail rest
                exact ⟨_, .single (.waiting run wait.visits)⟩
            | false =>
                rcases ih rest with ⟨attempts, upto⟩
                exact ⟨_, .again retryable run wait (Nat.pos_of_ne_zero last)
                  upto⟩

/-- The loop ends as its last attempt did: it returns the number of that attempt,
or raises an error of the same status. -/
def EndsAs (attempts : List (Attempt setting)) (after : WorldState setting) :
    Except PyError Nat → Prop
  | .ok seq => ∃ last, attempts.getLast? = some last ∧
      last.outcome = some (.ok seq) ∧ last.after = after
  | .error raised => ∀ last, attempts.getLast? = some last →
      ∃ error, last.outcome = some (.error error) ∧
        causeStatusCode raised = causeStatusCode error

/-- A run of the retry loop has made attempts as allowed, to its end. -/
theorem runs_publishAttempts {remaining : Nat} {outcome : Except PyError Nat}
    (run : Runs (world setting) before
      (publishAttempts retry publish remaining) after outcome) :
    ∃ attempts,
      AttemptsUpto setting retry publish remaining before attempts after ∧
        EndsAs attempts after outcome := by
  induction remaining generalizing before with
  | zero =>
      rcases runs_fail.mp run with ⟨rfl, rfl⟩
      refine ⟨[], ⟨.none, le_rfl, fun isPositive => absurd isPositive
        (Nat.lt_irrefl 0), by simp⟩, ?_⟩
      intro last isLast
      cases isLast
  | succ remaining ih =>
      rw [publishAttempts] at run
      rcases runs_handle run with ⟨seq, published, rfl⟩ |
        ⟨failed, error, published, recovery⟩
      · exact ⟨_, .single (.ended published), _, rfl, rfl, rfl⟩
      · -- the loop ends here unless the failure is retryable
        have raised {exc : PyError} (failing : Runs (world setting) failed
            (.fail exc) after outcome)
            (same : causeStatusCode exc = causeStatusCode error) :
            ∃ attempts, AttemptsUpto setting retry publish (remaining + 1)
              before attempts after ∧ EndsAs attempts after outcome := by
          rcases runs_fail.mp failing with ⟨rfl, rfl⟩
          refine ⟨_, .single (.ended published), ?_⟩
          rintro last ⟨⟩
          exact ⟨error, rfl, same⟩
        split_ifs at recovery with exhausted notRetryable last
        · exact raised recovery rfl
        · exact raised recovery rfl
        · exact raised recovery rfl
        · have retryable : isRetryable error = true := by
            simpa using notRetryable
          rcases runs_bind recovery with ⟨resumed, stopped, wait, rest⟩ |
            ⟨_, impossible, -⟩
          · cases stopped with
            | true =>
                rcases runs_fail.mp rest with ⟨rfl, rfl⟩
                refine ⟨_, .single (.waiting published wait.visits), ?_⟩
                rintro last ⟨⟩
                exact ⟨error, rfl, rfl⟩
            | false =>
                rcases ih rest with ⟨attempts, upto, endsAs⟩
                have isPositive := Nat.pos_of_ne_zero last
                refine ⟨_, .again retryable published wait isPositive upto, ?_⟩
                have sameLast : (⟨before, failed, some (.error error)⟩ ::
                    attempts).getLast? = attempts.getLast? := by
                  cases attempts with
                  | nil => exact absurd rfl (upto.atLeast isPositive)
                  | cons => rfl
                cases outcome with
                | ok seq =>
                    rw [EndsAs, sameLast]
                    exact endsAs
                | error exc =>
                    rw [EndsAs, sameLast]
                    exact endsAs
          · cases impossible with
            | call _ _ tail => cases tail

end Attempts

/-! ## At most one commit -/

section Commits

variable {setting : Setting} (text : JsonText) (method : PublishMethod)

/-- Nothing of the method's record, or exactly one copy, was committed. -/
def CommittedAtMostOnce (before after : WorldState setting) : Prop :=
  ownEntries after.log = ownEntries before.log ∨
    ∃ message, method.record text = .ok (recordOf message) ∧
      ownEntries after.log = ownEntries before.log ++ [⟨message, true⟩]

/-- The log holds the method's record under a number. -/
def Holds (seq : Nat) (state : WorldState setting) : Prop :=
  ∃ entry ∈ state.log.entries, entry.seq = seq ∧
    method.record text = .ok (recordOf entry.message)

/-- The worker's own messages before and after the commit. -/
def ownAssertions (before : WorldState setting) :
    PublishAssertions setting where
  pending state := ownEntries state.log = ownEntries before.log
  committed message state :=
    method.record text = .ok (recordOf message) ∧
      ownEntries state.log = ownEntries before.log ++ [⟨message, true⟩]
  pending_kept :=
    { stable := fun _ _ step same => step.ownEntries_eq.trans same
      reads := by
        intro before request answer after reads answers same
        rw [ownEntries, answers.entries_eq reads.1]
        exact same }
  committed_kept message :=
    { stable := fun _ _ step committed =>
        ⟨committed.1, step.ownEntries_eq.trans committed.2⟩
      reads := by
        intro before request answer after reads answers committed
        rw [ownEntries, answers.entries_eq reads.1]
        exact committed }

variable {text method} {before : WorldState setting}

theorem ownAssertions_sound :
    Sound (ownAssertions text method before)
      (CommittedAtMostOnce text method before) where
  pending _ same := Or.inl same
  committed message _ committed := Or.inr ⟨message, committed⟩

theorem ownAssertions_follow {record : Record}
    (checked : method.record text = .ok record) :
    (ownAssertions text method before).FollowPublish record where
  rejected := by
    intro state token answer after answers same pending
    show ownEntries after.log = _
    rw [same]
    exact pending
  commits := by
    intro state token answer after message answers recorded accepted appends
      pending
    refine ⟨by rw [recorded]; exact checked, ?_⟩
    rw [ownEntries_append_own appends, show ownEntries state.log = _ from
      pending]

/-- A method of the client commits its record at most once. -/
theorem publishes_own (text : JsonText) (method : PublishMethod)
    (before : WorldState setting) :
    Publishes (ownAssertions text method before)
      (CommittedAtMostOnce text method before) (Holds text method)
      (method.publish text) := by
  cases checked : method.record text with
  | error error => exact publishes_refused ownAssertions_sound checked
  | ok record =>
      intro state pending
      apply (publishes_method ownAssertions_sound checked
        (ownAssertions_follow checked) state pending).mono
      · rintro seq state - (⟨message, rfl, committed⟩ |
          ⟨-, entry, member, -, rfl, matching⟩)
        · have inOwn : (⟨message, true⟩ : LogEntry) ∈ ownEntries state.log := by
            rw [committed.2]
            exact List.mem_append_right _ (List.mem_singleton_self _)
          exact ⟨_, List.mem_of_mem_filter inOwn, rfl, committed.1⟩
        · exact ⟨entry, member, rfl, by rw [matching]; exact checked⟩
      · exact fun _ _ _ failed => failed

/-- What a failed attempt tells is true: after a failure that is safe to retry,
nothing has been committed, and its outcome is not called unknown. -/
def Attempt.Truthful (attempt : Attempt setting) : Prop :=
  ∀ error, attempt.outcome = some (.error error) →
    (error.retrySafe = true →
      ownEntries attempt.after.log = ownEntries attempt.before.log) ∧
    ¬(error.retrySafe = true ∧ error.outcomeUnknown = true)

theorem AttemptsMade.truthful {retry : RetryConfig}
    {after : WorldState setting} {attempts : List (Attempt setting)}
    (made : AttemptsMade setting retry (method.publish text) before attempts
      after) : ∀ attempt ∈ attempts, attempt.Truthful := by
  intro attempt member error failed
  have attemptRun := made.runs attempt member _ failed
  have attemptSafe := publishes_own text method attempt.before attempt.before
    rfl
  have outcomeOf := (attemptSafe.runs_error attemptRun).2
  exact ⟨outcomeOf.retrySafe, outcomeOf.exclusive⟩

end Commits

/--
One call of the retry loop around a publish method, in every world and against
every sequence of answers: whether it ends or is cut off anywhere, it has
committed at most one copy of the record, by attempts that are separated by
retryable failures, none of which has committed anything; and a number that it
returns is the number of such a record in the log.
-/
theorem publishWithRetry_commitsAtMostOnce (setting : Setting)
    (text : JsonText) (retry : RetryConfig) (method : PublishMethod)
    (before : WorldState setting) :
    (∀ cut, Visits (world setting) before
        (publishWithRetry retry (method.publish text)) cut →
      CommittedAtMostOnce text method before cut ∧
        ∃ attempts, AttemptsUpto setting retry (method.publish text)
            retry.publishMaxAttempts before attempts cut ∧
          ∀ attempt ∈ attempts, attempt.Truthful) ∧
    ∀ after outcome, Runs (world setting) before
        (publishWithRetry retry (method.publish text)) after outcome →
      CommittedAtMostOnce text method before after ∧
      (∀ seq, outcome = .ok seq → Holds text method seq after) ∧
        ∃ attempts, AttemptsUpto setting retry (method.publish text)
            retry.publishMaxAttempts before attempts after ∧
          EndsAs attempts after outcome ∧
            ∀ attempt ∈ attempts, attempt.Truthful := by
  have whole : Safe (world setting) (CommittedAtMostOnce text method before)
      (Holds text method) (RetryFailed (ownAssertions text method before))
      (publishWithRetry retry (method.publish text)) before :=
    safe_publishAttempts ownAssertions_sound (publishes_own text method before)
      retry.publishMaxAttempts rfl
  constructor
  · intro cut visits
    rcases visits_publishAttempts visits with ⟨attempts, upto⟩
    exact ⟨whole.visits visits, attempts, upto, upto.made.truthful⟩
  · intro after outcome run
    rcases runs_publishAttempts run with ⟨attempts, upto, endsAs⟩
    refine ⟨whole.visits run.visits, ?_, attempts, upto, endsAs,
      upto.made.truthful⟩
    rintro seq rfl
    exact (whole.runs_ok run).2

/-! ## A publish that succeeds at once -/

section Succeeds

variable {setting : Setting} {before : Scene setting} {log : Log}
  {text : JsonText} {method : PublishMethod} {message : Message}

/-- The calls of a publish that succeeds at once. -/
def publishCalls (token : String) (message : Message) (last : Nat) :
    List Exchange := [
  ⟨.getStatus message.principal token, .ok ⟨last⟩⟩,
  ⟨.publishAutoSeq message.principal token message.channelId message.payload
    message.recipients, .ok ⟨some message.seq⟩⟩]

theorem leads_requireResponseUint64 {value : Nat} {fieldName : String}
    {positive : Bool} (small : value ≤ uint64Limit)
    (isPositive : positive = true → 0 < value) :
    Leads (requireResponseUint64 value fieldName positive) before [] before
      (.ok value) := by
  have inRange : ((value : Nat) : Int) ≤ uint64Max := Int.ofNat_le.mpr small
  rw [requireResponseUint64,
    requireUint64_eq_ok_iff.mpr ⟨rfl, inRange, isPositive⟩]
  exact leads_ret

theorem leads_getPrePublishMaxSeq {principal : Nat} {token : String} :
    Leads (getPrePublishMaxSeq principal token) before
      [⟨.getStatus principal token, .ok ⟨before.log.last⟩⟩] before
      (.ok before.log.last) :=
  .handle (leads_call replies_status (.bind leads_ret
    (leads_requireResponseUint64 before.log.last_le_limit (by simp))))

/-- The record becomes the next message of the log. -/
theorem leads_publish {retry : RetryConfig}
    (isPositive : 0 < retry.publishMaxAttempts)
    (checked : method.record text = .ok (recordOf message))
    (accepted : setting.committable message)
    (appends : before.log.Appends ⟨message, true⟩ log) :
    Leads (publishWithRetry retry (method.publish text)) before
      (publishCalls method.token message before.log.last)
      ⟨log, before.provider⟩ (.ok message.seq) := by
  have inLog : (⟨message, true⟩ : LogEntry) ∈ log.entries := by
    rw [appends.2.1]
    exact List.mem_append_right _ (List.mem_singleton_self _)
  have committed : Replies before (.publishAutoSeq message.principal
      method.token message.channelId message.payload message.recipients)
      (.ok ⟨some message.seq⟩) ⟨log, before.provider⟩ :=
    ⟨.committed rfl accepted appends (Or.inl rfl), rfl⟩
  rcases Nat.exists_eq_succ_of_ne_zero isPositive.ne' with ⟨rest, allowed⟩
  rw [publishWithRetry, allowed, publishAttempts, PublishMethod.publish_eq,
    checked]
  exact .handle (.bind leads_ret (.bind leads_getPrePublishMaxSeq
    (.handle (leads_call committed (.bind leads_ret
      (leads_requireResponseUint64 (log.bounded _ inLog)
        fun _ => log.positive _ inLog))))))

/-- The publish comes to its call. -/
theorem poses_publish {retry : RetryConfig}
    (isPositive : 0 < retry.publishMaxAttempts)
    (checked : method.record text = .ok (recordOf message)) :
    Poses (publishWithRetry retry (method.publish text)) before
      [⟨.getStatus message.principal method.token, .ok ⟨before.log.last⟩⟩]
      before (.publishAutoSeq message.principal method.token message.channelId
        message.payload message.recipients) := by
  rcases Nat.exists_eq_succ_of_ne_zero isPositive.ne' with ⟨rest, allowed⟩
  rw [publishWithRetry, allowed, publishAttempts, PublishMethod.publish_eq,
    checked]
  exact .handle (leads_ret.poses (leads_getPrePublishMaxSeq.poses
    (.handle poses_now)))

end Succeeds

/-! ### A publish that is repeated -/

/-- A small request. -/
def sampleRequest : SendRequestInput where
  requestId := "r1"
  msgType := "text"
  content := .obj []
  eventMs := 0
  prevSeq := none

/-- Its payload. -/
def samplePayload : JsonObject :=
  [("kind", .str "send.request"), ("request_id", .str "r1"),
    ("data", .obj [("msg_type", .str "text"), ("content", .obj [])]),
    ("timestamps", .obj [("event_ms", .int 0)])]

def sampleMethod : PublishMethod := .sendRequest 7 "token" 3 sampleRequest none

/-- The message that the publish commits into the empty log. -/
def sampleMessage : Message where
  seq := 1
  channelId := 3
  principal := 7
  recipients := []
  payload := encodePayload JsonText.compact samplePayload

theorem record_sampleMethod : sampleMethod.record JsonText.compact =
    .ok (recordOf sampleMessage) := by
  have encoded : encodeSendRequest JsonText.compact sampleRequest =
      .ok (encodePayload JsonText.compact samplePayload) := rfl
  exact checkRecord_eq_ok_iff.mpr
    ⟨encoded, rfl, ⟨rfl, by decide, by decide⟩, rfl, by decide, by decide⟩

def unavailable : PyError := .raised (.rpcError (some .unavailable)) "down"

/-- The server cannot be reached, and later accepts the message. -/
def sampleCalls : List Exchange := [
  ⟨.getStatus 7 "token", .error unavailable⟩,
  ⟨.stopWait 0, false⟩,
  ⟨.getStatus 7 "token", .ok ⟨0⟩⟩,
  ⟨.publishAutoSeq 7 "token" 3 sampleMessage.payload [], .ok ⟨some 1⟩⟩]

/-- The log is empty until the last call. -/
def sampleBefore (calls : Nat) : WorldState soleSetting :=
  { initialWorld with trace := sampleCalls.take calls }

def sampleAfter : WorldState soleSetting where
  log := SequencedLog.empty.push ⟨sampleMessage, true⟩ (by decide)
    (by decide) (by decide)
  provider := ()
  trace := sampleCalls

/-- The failure of the first attempt. -/
def sampleFailure : PyError :=
  .raisedFrom (.publishFailedError true false)
    ("failed to read pre-publish max_seq: " ++ unavailable.message) unavailable

theorem refused_sample : Runs (world soleSetting) initialWorld
    (sampleMethod.publish JsonText.compact) (sampleBefore 1)
    (.error sampleFailure) := by
  rw [PublishMethod.publish_eq, record_sampleMethod]
  have status : Answers initialWorld (.getStatus 7 "token")
      (.error unavailable) (sampleBefore 1) := ⟨rfl, rfl, rfl⟩
  exact .call .refl status .fail

theorem waits_sample : Runs (world soleSetting) (sampleBefore 1) (stopWait 0)
    (sampleBefore 2) (.ok false) := by
  have waits : Answers (sampleBefore 1) (.stopWait 0) false (sampleBefore 2) :=
    ⟨rfl, rfl, rfl⟩
  exact .call .refl waits .ret

theorem published_sample : Runs (world soleSetting) (sampleBefore 2)
    (sampleMethod.publish JsonText.compact) sampleAfter (.ok 1) := by
  rw [PublishMethod.publish_eq, record_sampleMethod]
  have status : Answers (sampleBefore 2) (.getStatus 7 "token") (.ok ⟨0⟩)
      (sampleBefore 3) := ⟨⟨rfl, rfl⟩, rfl, rfl⟩
  have committed : Answers (sampleBefore 3)
      (.publishAutoSeq 7 "token" 3 sampleMessage.payload [])
      (.ok ⟨some 1⟩) sampleAfter :=
    ⟨.committed rfl trivial
      (SequencedLog.appends_push (by decide) (by decide) (by decide))
      (Or.inl rfl), rfl, rfl⟩
  exact .call .refl status (.call .refl committed .ret)

/-- A request is published into the empty log in the second attempt. -/
theorem publishWithRetry_commitsAtMostOnce_sample :
    AttemptsMade soleSetting ⟨2, 0, 0⟩ (sampleMethod.publish JsonText.compact)
        initialWorld
        [⟨initialWorld, sampleBefore 1, some (.error sampleFailure)⟩,
          ⟨sampleBefore 2, sampleAfter, some (.ok 1)⟩] sampleAfter ∧
      CommittedAtMostOnce JsonText.compact sampleMethod initialWorld
        sampleAfter ∧
      Holds JsonText.compact sampleMethod 1 sampleAfter ∧
      ∃ attempts, AttemptsUpto soleSetting ⟨2, 0, 0⟩
          (sampleMethod.publish JsonText.compact) 2 initialWorld attempts
          sampleAfter ∧
        EndsAs attempts sampleAfter (.ok 1) ∧
          ∀ attempt ∈ attempts, attempt.Truthful := by
  have run : Runs (world soleSetting) initialWorld
      (publishWithRetry ⟨2, 0, 0⟩ (sampleMethod.publish JsonText.compact))
      sampleAfter (.ok 1) :=
    .recover refused_sample (.bind waits_sample (.handle published_sample))
  rcases (publishWithRetry_commitsAtMostOnce soleSetting JsonText.compact
    ⟨2, 0, 0⟩ sampleMethod initialWorld).2 sampleAfter (.ok 1) run with
    ⟨committed, holds, attempts⟩
  exact ⟨.again refused_sample waits_sample (.ended published_sample),
    committed, holds 1 rfl, attempts⟩

end OpenEventIm.Syncer.PublishRetry
