import OpenEventIm.Service.Outcomes
import OpenEventIm.Syncer.PublishRetry

/-!
# Which calls a publish makes

`_publish` and `_publish_with_retry` against arbitrary outcomes, through their
transcripts: what one attempt can do is said once, in `AttemptShape`, and the
retry loop is a sequence of attempts.  A publish whose client raises its errors
directly ends with a size rejection exactly when a `GetStatus` before a publish
or the publish itself failed with `RESOURCE_EXHAUSTED`.
-/

namespace OpenEventIm.Syncer.PublishOutcomes

open OpenEventIm.Foundation
open OpenEventIm.Foundation.Interaction
open OpenEventIm.Foundation.Transcripts
open OpenEventIm.Sdk.Errors
open OpenEventIm.Sdk.Normalizer
open OpenEventIm.Sdk.Client
open OpenEventIm.Sdk.PublishReconciliation
open OpenEventIm.Service.Calls
open OpenEventIm.Service.World
open OpenEventIm.Service.Outcomes
open OpenEventIm.Syncer.Models
open OpenEventIm.Syncer.PublishRetry

/-- The call that publishes a record. -/
abbrev publishCall (token : String) (record : Record) : Call :=
  .publishAutoSeq record.principal token record.channelId record.payload
    record.recipients

/-- The error is the answer, or the answer's check raised it. -/
def RaisedBy {Response : Type} (answer : Except PyError Response)
    (error : PyError) : Prop :=
  answer = .error error ∨
    (∃ response, answer = .ok response) ∧ causeStatusCode error = none

/-- The exchange is a `Fetch`. -/
def IsFetch (call : Call) : Prop :=
  match call with
  | .fetch .. => True
  | _ => False

/-! ## The steps of one attempt -/

section Steps

variable {before after : List Message}
  {exchanges : List (Exchanged service)} {token : String} {record : Record}

theorem transcript_requireResponseUint64 {value : Nat} {fieldName : String}
    {positive : Bool} {outcome : Except PyError Nat}
    (transcript : Transcript outcomes before
      (requireResponseUint64 value fieldName positive) exchanges after
      outcome) :
    exchanges = [] ∧ after = before ∧
      ((outcome = .ok value ∧ value ≤ uint64Limit ∧
          (positive = true → 0 < value)) ∨
        ∃ error, outcome = .error error ∧ causeStatusCode error = none) := by
  unfold requireResponseUint64 at transcript
  cases checked : requireUint64 (some (.int value)) fieldName positive with
  | ok result =>
      obtain ⟨equal, small, isPositive⟩ := requireUint64_eq_ok_iff.mp checked
      have same : value = result := by simpa using equal
      subst same
      rw [checked] at transcript
      rcases transcript_ret transcript with ⟨empty, stays, returned⟩
      exact ⟨empty, stays, Or.inl ⟨returned, le_uint64Limit_iff.mp small,
        isPositive⟩⟩
  | error error =>
      obtain ⟨message, rfl⟩ := raisesMalformed_requireUint64 _ _ _ _ checked
      rw [checked] at transcript
      rcases transcript_fail transcript with ⟨empty, stays, failed⟩
      exact ⟨empty, stays, Or.inr ⟨_, failed, rfl⟩⟩

theorem transcript_getPrePublishMaxSeq {principal : Nat}
    {outcome : Except PyError Nat}
    (transcript : Transcript outcomes before
      (getPrePublishMaxSeq principal token) exchanges after outcome) :
    ∃ answer : Except PyError StatusResponse,
      exchanges = [⟨.getStatus principal token, answer⟩] ∧
        ((∃ floor status, answer = .ok status ∧ outcome = .ok floor) ∨
          ∃ error message, RaisedBy answer error ∧
            outcome = .error
              (.raisedFrom (.publishFailedError true false) message
                error)) := by
  have step : ∀ {first middle result}, Transcript outcomes before (do
      let response ← getStatus principal token
      requireResponseUint64 response.maxSeq "max_seq" false) first middle
        result →
      ∃ answer : Except PyError StatusResponse,
        first = [⟨.getStatus principal token, answer⟩] ∧
          ((∃ floor status, answer = .ok status ∧ result = .ok floor) ∨
            ∃ error, RaisedBy answer error ∧ result = .error error) := by
    intro first middle result run
    rcases transcript_callBind run with
      ⟨_, answer, _, rest, rfl, -, -, tail⟩
    refine ⟨answer, ?_⟩
    cases answer with
    | error error =>
        rcases transcript_fail tail with ⟨rfl, -, failed⟩
        exact ⟨rfl, Or.inr ⟨error, Or.inl rfl, failed⟩⟩
    | ok status =>
        rcases transcript_requireResponseUint64 tail with
          ⟨rfl, -, ⟨returned, -⟩ | ⟨error, failed, noStatus⟩⟩
        · exact ⟨rfl, Or.inl ⟨_, status, rfl, returned⟩⟩
        · exact ⟨rfl, Or.inr ⟨error, Or.inr ⟨⟨status, rfl⟩, noStatus⟩,
            failed⟩⟩
  rcases transcript_handle transcript with ⟨result, rfl, run⟩ |
    ⟨middle, error, first, rest, rfl, run, tail⟩
  · rcases step run with ⟨answer, rfl, ⟨floor, status, rfl, returned⟩ |
      ⟨error, -, ⟨⟩⟩⟩
    exact ⟨_, rfl, Or.inl ⟨floor, status, rfl, returned⟩⟩
  · rcases step run with ⟨answer, rfl, ⟨floor, status, -, ⟨⟩⟩ |
      ⟨raised, raisedBy, same⟩⟩
    cases same
    rcases transcript_fail tail with ⟨rfl, -, failed⟩
    exact ⟨answer, rfl, Or.inr ⟨error, _, raisedBy, failed⟩⟩

theorem transcript_publishOnce {outcome : Except PyError Nat}
    (transcript : Transcript outcomes before (publishOnce token record)
      exchanges after outcome) :
    ∃ answer : Except PyError PublishResponse,
      exchanges = [⟨publishCall token record, answer⟩] ∧
        ((∃ seq response, answer = .ok response ∧ outcome = .ok seq ∧
            Committed after record seq) ∨
          ∃ error, RaisedBy answer error ∧ outcome = .error error) := by
  rcases transcript_callBind transcript with
    ⟨_, answer, answered, rest, rfl, -, ⟨-, truthful⟩, tail⟩
  refine ⟨answer, ?_⟩
  cases answer with
  | error error =>
      rcases transcript_fail tail with ⟨rfl, -, failed⟩
      exact ⟨rfl, Or.inr ⟨error, Or.inl rfl, failed⟩⟩
  | ok response =>
      rw [Action.ofExcept_ok, Program.ret_bind] at tail
      cases replied : response.seq with
      | none =>
          rw [replied] at tail
          rcases transcript_fail tail with ⟨rfl, -, failed⟩
          exact ⟨rfl, Or.inr ⟨_, Or.inr ⟨⟨response, rfl⟩, rfl⟩, failed⟩⟩
      | some seq =>
          rw [replied] at tail
          rcases transcript_requireResponseUint64 tail with
            ⟨rfl, rfl, ⟨returned, small, isPositive⟩ |
              ⟨error, failed, noStatus⟩⟩
          · exact ⟨rfl, Or.inl ⟨seq, response, rfl, returned,
              truthful seq replied (isPositive rfl) small⟩⟩
          · exact ⟨rfl, Or.inr ⟨error, Or.inr ⟨⟨response, rfl⟩, noStatus⟩,
              failed⟩⟩

/-- The page loop only fetches, and what it finds is in the log. -/
theorem transcript_reconcilePages {reconcileMaxSeq fromSeq : Nat}
    {outcome : Except PyError (Option Nat)}
    (transcript : Transcript outcomes before
      (reconcilePages token record reconcileMaxSeq fromSeq) exchanges after
      outcome) :
    (∀ exchange ∈ exchanges, IsFetch exchange.1) ∧
      ∀ seq, outcome = .ok (some seq) → Committed after record seq := by
  induction remaining : reconcileMaxSeq + 1 - fromSeq using
    Nat.strong_induction_on generalizing fromSeq before exchanges with
  | _ remaining ih =>
      rw [reconcilePages] at transcript
      split_ifs at transcript with inRange
      · rcases transcript_callBind transcript with
          ⟨_, answer, answered, rest, rfl, -, ⟨-, truthful⟩, tail⟩
        suffices (∀ exchange ∈ rest, IsFetch exchange.1) ∧
            ∀ seq, outcome = .ok (some seq) → Committed after record seq from
          ⟨List.forall_mem_cons.mpr ⟨trivial, this.1⟩, this.2⟩
        cases answer with
        | error error =>
            rcases transcript_fail tail with ⟨rfl, -, rfl⟩
            exact ⟨fun _ member => absurd member List.not_mem_nil, by rintro _ ⟨⟩⟩
        | ok response =>
            rw [Action.ofExcept_ok, Program.ret_bind] at tail
            cases found :
                findPublished record reconcileMaxSeq response.messages with
            | some message =>
                rw [found] at tail
                obtain ⟨onPage, matching⟩ := findPublished_eq_some found
                rcases transcript_bind tail with
                  ⟨middle, result, first, last, rfl, checked, returned⟩ |
                    ⟨error, rfl, checked⟩
                · rcases transcript_ret returned with ⟨rfl, rfl, rfl⟩
                  rcases transcript_requireResponseUint64 checked with
                    ⟨rfl, rfl, ⟨same, -⟩ | ⟨_, ⟨⟩, -⟩⟩
                  cases same
                  refine ⟨fun _ member => absurd member List.not_mem_nil, ?_⟩
                  rintro seq ⟨⟩
                  exact ⟨message, truthful message onPage, rfl, matching⟩
                · rcases transcript_requireResponseUint64 checked with
                    ⟨rfl, -⟩
                  exact ⟨fun _ member => absurd member List.not_mem_nil,
                    by rintro _ ⟨⟩⟩
            | none =>
                rw [found] at tail
                rcases transcript_bind tail with
                  ⟨middle, nextSeq, first, last, rfl, checked, rest⟩ |
                    ⟨error, rfl, checked⟩
                · rcases transcript_requireResponseUint64 checked with
                    ⟨rfl, -, -⟩
                  split_ifs at rest with stuck
                  · rcases transcript_fail rest with ⟨rfl, -, rfl⟩
                    exact ⟨fun _ member => absurd member List.not_mem_nil,
                      by rintro _ ⟨⟩⟩
                  · exact ih _ (by omega) rest rfl
                · rcases transcript_requireResponseUint64 checked with
                    ⟨rfl, -⟩
                  exact ⟨fun _ member => absurd member List.not_mem_nil,
                    by rintro _ ⟨⟩⟩
      · rcases transcript_ret transcript with ⟨rfl, -, rfl⟩
        exact ⟨fun _ member => absurd member List.not_mem_nil, by rintro _ ⟨⟩⟩

/-- A search reads the status once and then fetches. -/
def IsSearch (principal : Nat) (token : String)
    (exchanges : List (Exchanged service)) : Prop :=
  ∃ (answer : Except PyError StatusResponse)
      (fetches : List (Exchanged service)),
    exchanges = ⟨.getStatus principal token, answer⟩ :: fetches ∧
      ∀ exchange ∈ fetches, IsFetch exchange.1

theorem transcript_searchPublished {prePublishMaxSeq : Nat}
    {outcome : Except PyError (Option Nat)}
    (transcript : Transcript outcomes before
      (searchPublished token record prePublishMaxSeq) exchanges after
      outcome) :
    IsSearch record.principal token exchanges ∧
      ∀ seq, outcome = .ok (some seq) → Committed after record seq := by
  have noFetches : ∀ exchange ∈ ([] : List (Exchanged service)),
      IsFetch exchange.1 := fun _ member => absurd member List.not_mem_nil
  rcases transcript_callBind transcript with
    ⟨_, answer, answered, rest, rfl, -, -, tail⟩
  cases answer with
  | error error =>
      rcases transcript_fail tail with ⟨rfl, -, rfl⟩
      exact ⟨⟨_, [], rfl, noFetches⟩, nofun⟩
  | ok status =>
      rw [Action.ofExcept_ok, Program.ret_bind] at tail
      rcases transcript_bind tail with
        ⟨middle, reconcileMaxSeq, first, last, rfl, checked, pages⟩ |
          ⟨error, rfl, checked⟩
      · rcases transcript_requireResponseUint64 checked with ⟨rfl, -, -⟩
        split_ifs at pages with backwards
        · rcases transcript_fail pages with ⟨rfl, -, rfl⟩
          exact ⟨⟨_, [], rfl, noFetches⟩, nofun⟩
        · obtain ⟨fetches, found⟩ := transcript_reconcilePages pages
          exact ⟨⟨_, last, rfl, fetches⟩, found⟩
      · rcases transcript_requireResponseUint64 checked with ⟨rfl, -⟩
        exact ⟨⟨_, [], rfl, noFetches⟩, nofun⟩

theorem transcript_reconcileUncertainPublish {prePublishMaxSeq : Nat}
    {publishError : PyError} {outcome : Except PyError Nat}
    (transcript : Transcript outcomes before
      (reconcileUncertainPublish token record prePublishMaxSeq publishError)
      exchanges after outcome) :
    IsSearch record.principal token exchanges ∧
      ((∃ seq, outcome = .ok seq ∧ Committed after record seq) ∨
        ∃ retrySafe outcomeUnknown message, outcome = .error
          (.raisedFrom (.publishFailedError retrySafe outcomeUnknown) message
            publishError)) := by
  rcases transcript_bind transcript with
    ⟨middle, found, first, last, rfl, handled, rest⟩ | ⟨error, rfl, handled⟩
  · rcases transcript_handle handled with ⟨result, same, search⟩ |
      ⟨_, _, _, _, _, _, failing⟩
    · cases same
      obtain ⟨isSearch, committed⟩ := transcript_searchPublished search
      cases found with
      | some seq =>
          rcases transcript_ret rest with ⟨rfl, rfl, rfl⟩
          rw [List.append_nil]
          exact ⟨isSearch, Or.inl ⟨seq, rfl, committed seq rfl⟩⟩
      | none =>
          rcases transcript_fail rest with ⟨rfl, -, rfl⟩
          rw [List.append_nil]
          exact ⟨isSearch, Or.inr ⟨_, _, _, rfl⟩⟩
    · rcases transcript_fail failing with ⟨-, -, ⟨⟩⟩
  · rcases transcript_handle handled with ⟨result, ⟨⟩, -⟩ |
      ⟨_, raised, first, last, rfl, search, failing⟩
    rcases transcript_fail failing with ⟨rfl, -, same⟩
    cases same
    rw [List.append_nil]
    exact ⟨(transcript_searchPublished search).1, Or.inr ⟨_, _, _, rfl⟩⟩

end Steps

/-! ## One attempt -/

/-- What one publish of a record can do: its calls, and how it ends. -/
inductive AttemptShape (token : String) (record : Record)
    (after : List Message) :
    List (Exchanged service) → Except PyError Nat → Prop where
  /-- The number before the publish could not be read. -/
  | statusFailed {answer : Except PyError StatusResponse} {error : PyError}
      {message : String} (raisedBy : RaisedBy answer error) :
      AttemptShape token record after
        [⟨.getStatus record.principal token, answer⟩]
        (.error (.raisedFrom (.publishFailedError true false) message error))
  | published {status : StatusResponse} {response : PublishResponse}
      {seq : Nat} (committed : Committed after record seq) :
      AttemptShape token record after
        [⟨.getStatus record.principal token, .ok status⟩,
          ⟨publishCall token record, .ok response⟩] (.ok seq)
  | excluded {status : StatusResponse}
      {answer : Except PyError PublishResponse} {error : PyError}
      (raisedBy : RaisedBy answer error) (proves : ProvesNotCommitted error) :
      AttemptShape token record after
        [⟨.getStatus record.principal token, .ok status⟩,
          ⟨publishCall token record, answer⟩]
        (.error (.raisedFrom (.publishFailedError false false) error.message
          error))
  /-- The outcome was uncertain, and the reconciliation has decided it. -/
  | reconciled {status : StatusResponse}
      {answer : Except PyError PublishResponse} {error : PyError}
      {search : List (Exchanged service)} {outcome : Except PyError Nat}
      (raisedBy : RaisedBy answer error)
      (uncertain : ¬ ProvesNotCommitted error)
      (isSearch : IsSearch record.principal token search)
      (decided : (∃ seq, outcome = .ok seq ∧ Committed after record seq) ∨
        ∃ retrySafe outcomeUnknown message, outcome = .error
          (.raisedFrom (.publishFailedError retrySafe outcomeUnknown) message
            error)) :
      AttemptShape token record after
        (⟨.getStatus record.principal token, .ok status⟩ ::
          ⟨publishCall token record, answer⟩ :: search) outcome

theorem transcript_publishRecord {before after : List Message}
    {exchanges : List (Exchanged service)} {token : String} {record : Record}
    {outcome : Except PyError Nat}
    (transcript : Transcript outcomes before (publishRecord token record)
      exchanges after outcome) :
    AttemptShape token record after exchanges outcome := by
  rcases transcript_bind transcript with
    ⟨middle, floor, first, last, rfl, status, rest⟩ | ⟨error, rfl, status⟩
  · rcases transcript_getPrePublishMaxSeq status with
      ⟨answer, rfl, ⟨_, response, rfl, -⟩ | ⟨_, _, -, ⟨⟩⟩⟩
    rcases transcript_handle rest with ⟨seq, rfl, publish⟩ |
      ⟨_, error, publishes, search, rfl, publish, handler⟩
    · rcases transcript_publishOnce publish with
        ⟨answer, rfl, ⟨_, reply, rfl, same, committed⟩ | ⟨_, -, ⟨⟩⟩⟩
      cases same
      exact .published committed
    · rcases transcript_publishOnce publish with
        ⟨answer, rfl, ⟨_, _, -, ⟨⟩, -⟩ | ⟨_, raisedBy, same⟩⟩
      cases same
      split_ifs at handler with proves
      · rcases transcript_fail handler with ⟨rfl, -, rfl⟩
        exact .excluded raisedBy proves
      · obtain ⟨isSearch, decided⟩ :=
          transcript_reconcileUncertainPublish handler
        exact .reconciled raisedBy proves isSearch decided
  · rcases transcript_getPrePublishMaxSeq status with
      ⟨answer, rfl, ⟨_, _, -, ⟨⟩⟩ | ⟨_, message, raisedBy, same⟩⟩
    rw [same]
    exact .statusFailed raisedBy

/-! ## Size rejections -/

/-- `PublishAutoSeq` itself rejected the record with `RESOURCE_EXHAUSTED`. -/
def Rejected (token : String) (record : Record)
    (exchanges : List (Exchanged service)) : Prop :=
  ∃ error : PyError, (⟨publishCall token record, .error error⟩ :
      Exchanged service) ∈ exchanges ∧
    rpcStatusCode error = some .resourceExhausted

/-- The processor takes the outcome for a size rejection. -/
def TakenForSizeRejection (outcome : Except PyError Nat) : Prop :=
  ∃ exc, outcome = .error exc ∧ exc.isPublishFailedError = true ∧
    isResourceExhausted exc = true

/--
The calls of a publish of the record, over one attempt or several ones: which
calls there are, and when the outcome is taken for a size rejection.
-/
structure Publishing (token : String) (record : Record) (after : List Message)
    (exchanges : List (Exchanged service)) (outcome : Except PyError Nat) :
    Prop where
  noClock : ∀ exchange ∈ exchanges, isClockReading exchange = false
  own : ∀ exchange ∈ exchanges, isPublish exchange = true →
    exchange.1 = publishCall token record
  committed : ∀ seq, outcome = .ok seq → Committed after record seq
  exhausted : RaisesDirectly exchanges →
    (TakenForSizeRejection outcome ↔
      statusExhausted false exchanges = true ∨
        Rejected token record exchanges)
  single : RaisesDirectly exchanges →
    ¬(statusExhausted false exchanges = true ∧
      Rejected token record exchanges)

theorem isResourceExhausted_iff {error : PyError} :
    isResourceExhausted error = true ↔
      causeStatusCode error = some .resourceExhausted := by
  simp [isResourceExhausted]

theorem not_taken_of_class {outcome : Except PyError Nat}
    (other : ∀ exc, outcome = .error exc → exc.isPublishFailedError = false) :
    ¬ TakenForSizeRejection outcome := by
  rintro ⟨exc, equal, failed, -⟩
  rw [other exc equal] at failed
  cases failed

theorem taken_publishFailed_iff {retrySafe outcomeUnknown : Bool}
    {message : String} {cause : PyError} :
    TakenForSizeRejection (.error (.raisedFrom
        (.publishFailedError retrySafe outcomeUnknown) message cause)) ↔
      causeStatusCode cause = some .resourceExhausted := by
  constructor
  · rintro ⟨exc, equal, -, exhausted⟩
    cases equal
    exact isResourceExhausted_iff.mp exhausted
  · intro exhausted
    exact ⟨_, rfl, rfl, isResourceExhausted_iff.mpr exhausted⟩

/-- The answer is an error of the RPC library with this status. -/
def IsExhausted {Response : Type} (answer : Except PyError Response) : Prop :=
  ∃ error, answer = .error error ∧
    rpcStatusCode error = some .resourceExhausted

theorem RaisedBy.exhausted_iff {Response : Type}
    {answer : Except PyError Response} {error : PyError}
    (raisedBy : RaisedBy answer error)
    (direct : ∀ error, answer = .error error → RaisedDirectly error) :
    causeStatusCode error = some .resourceExhausted ↔ IsExhausted answer := by
  rcases raisedBy with rfl | ⟨⟨response, rfl⟩, noStatus⟩
  · have same : causeStatusCode error = rpcStatusCode error := direct _ rfl
    rw [same]
    constructor
    · exact fun exhausted => ⟨error, rfl, exhausted⟩
    · rintro ⟨_, ⟨⟩, exhausted⟩
      exact exhausted
  · rw [noStatus]
    constructor
    · exact nofun
    · rintro ⟨_, ⟨⟩, -⟩

section Shapes

variable {token : String} {record : Record} {principal : Nat}
  {search : List (Exchanged service)}

theorem isExhaustedStatus_getStatus
    {answer : Except PyError StatusResponse} :
    isExhaustedStatus ⟨.getStatus principal token, answer⟩ = true ↔
      IsExhausted answer := by
  cases answer with
  | ok status => exact ⟨nofun, nofun⟩
  | error error =>
      constructor
      · exact fun exhausted => ⟨error, rfl, eq_of_beq exhausted⟩
      · rintro ⟨_, ⟨⟩, exhausted⟩
        exact beq_iff_eq.mpr exhausted

theorem not_isExhaustedStatus_of_isFetch {exchange : Exchanged service}
    (fetches : IsFetch exchange.1) : isExhaustedStatus exchange = false := by
  rcases exchange with ⟨request, answer⟩
  cases request with
  | fetch => rfl
  | _ => exact absurd fetches id

theorem not_isPublish_of_isFetch {exchange : Exchanged service}
    (fetches : IsFetch exchange.1) : isPublish exchange = false := by
  rcases exchange with ⟨request, answer⟩
  cases request with
  | fetch => rfl
  | _ => exact absurd fetches id

theorem not_isClockReading_of_isFetch {exchange : Exchanged service}
    (fetches : IsFetch exchange.1) : isClockReading exchange = false := by
  rcases exchange with ⟨request, answer⟩
  cases request with
  | fetch => rfl
  | _ => exact absurd fetches id

/-- What follows the publish of an attempt: nothing, or one search. -/
def AfterPublish (principal : Nat) (token : String)
    (search : List (Exchanged service)) : Prop :=
  search = [] ∨ IsSearch principal token search

theorem AfterPublish.not_isPublish (after : AfterPublish principal token search) :
    ∀ exchange ∈ search, isPublish exchange = false := by
  rcases after with rfl | ⟨answer, fetches, rfl, allFetch⟩
  · exact fun _ member => absurd member List.not_mem_nil
  · exact List.forall_mem_cons.mpr ⟨rfl, fun exchange member =>
      not_isPublish_of_isFetch (allFetch exchange member)⟩

theorem AfterPublish.not_isClockReading
    (after : AfterPublish principal token search) :
    ∀ exchange ∈ search, isClockReading exchange = false := by
  rcases after with rfl | ⟨answer, fetches, rfl, allFetch⟩
  · exact fun _ member => absurd member List.not_mem_nil
  · exact List.forall_mem_cons.mpr ⟨rfl, fun exchange member =>
      not_isClockReading_of_isFetch (allFetch exchange member)⟩

/-- A `GetStatus` that follows the publish does not count. -/
theorem AfterPublish.statusExhausted
    (after : AfterPublish principal token search) {status : StatusResponse}
    {answer : Except PyError PublishResponse} :
    statusExhausted false (⟨.getStatus record.principal token, .ok status⟩ ::
      ⟨publishCall token record, answer⟩ :: search) = false := by
  rcases after with rfl | ⟨_, fetches, rfl, allFetch⟩
  · rfl
  · exact statusExhausted_eq_false (fun exchange member =>
      not_isExhaustedStatus_of_isFetch (allFetch exchange member)) false

theorem AfterPublish.rejected_iff
    (after : AfterPublish principal token search) {status : StatusResponse}
    {answer : Except PyError PublishResponse} :
    Rejected token record (⟨.getStatus record.principal token, .ok status⟩ ::
        ⟨publishCall token record, answer⟩ :: search) ↔
      IsExhausted answer := by
  constructor
  · rintro ⟨error, member, exhausted⟩
    rcases List.mem_cons.mp member with equal | member
    · cases equal
    · rcases List.mem_cons.mp member with equal | member
      · cases equal
        exact ⟨error, rfl, exhausted⟩
      · exact absurd (after.not_isPublish _ member) nofun
  · rintro ⟨error, rfl, exhausted⟩
    exact ⟨error, List.mem_cons_of_mem _ List.mem_cons_self, exhausted⟩

end Shapes

/-- An attempt whose publish was called. -/
theorem publishing_of_called {token : String} {record : Record}
    {after : List Message} {status : StatusResponse}
    {answer : Except PyError PublishResponse}
    {search : List (Exchanged service)} {outcome : Except PyError Nat}
    (afterPublish : AfterPublish record.principal token search)
    (committed : ∀ seq, outcome = .ok seq → Committed after record seq)
    (taken : (∀ error, answer = .error error → RaisedDirectly error) →
      (TakenForSizeRejection outcome ↔ IsExhausted answer)) :
    Publishing token record after
      (⟨.getStatus record.principal token, .ok status⟩ ::
        ⟨publishCall token record, answer⟩ :: search) outcome where
  noClock := List.forall_mem_cons.mpr
    ⟨rfl, List.forall_mem_cons.mpr ⟨rfl, afterPublish.not_isClockReading⟩⟩
  own := by
    refine List.forall_mem_cons.mpr ⟨nofun, List.forall_mem_cons.mpr
      ⟨fun _ => rfl, ?_⟩⟩
    intro exchange member publishes
    rw [afterPublish.not_isPublish exchange member] at publishes
    cases publishes
  committed := committed
  exhausted direct := by
    rw [afterPublish.statusExhausted, afterPublish.rejected_iff]
    have answered : ∀ error, answer = .error error → RaisedDirectly error := by
      rintro error rfl
      exact direct ⟨publishCall token record, .error error⟩
        (List.mem_cons_of_mem _ List.mem_cons_self) error rfl
    rw [taken answered]
    exact ⟨Or.inr, fun either => either.resolve_left nofun⟩
  single _ := by
    rw [afterPublish.statusExhausted]
    exact fun both => absurd both.1 nofun

/-- One attempt fails with `PublishFailedError` and is as described. -/
theorem AttemptShape.publishing {token : String} {record : Record}
    {after : List Message} {exchanges : List (Exchanged service)}
    {outcome : Except PyError Nat}
    (shape : AttemptShape token record after exchanges outcome) :
    Publishing token record after exchanges outcome := by
  cases shape with
  | @statusFailed answer error message raisedBy =>
      have noPublish : ¬ Rejected token record
          [⟨.getStatus record.principal token, answer⟩] := by
        rintro ⟨_, member, -⟩
        cases List.mem_singleton.mp member
      have exhaustedIff : statusExhausted false
          [⟨.getStatus record.principal token, answer⟩] = true ↔
            IsExhausted answer := by
        rw [← @isExhaustedStatus_getStatus token record.principal answer]
        simp [statusExhausted]
      refine ⟨?_, ?_, by rintro _ ⟨⟩, ?_, fun _ both => noPublish both.2⟩
      · exact List.forall_mem_singleton.mpr rfl
      · exact List.forall_mem_singleton.mpr (by rintro ⟨⟩)
      · intro direct
        rw [taken_publishFailed_iff, exhaustedIff,
          raisedBy.exhausted_iff fun error equal => ?_]
        · exact ⟨Or.inl, fun either => either.resolve_right noPublish⟩
        · subst equal
          exact direct _ (List.mem_singleton_self _) error rfl
  | published committed =>
      refine publishing_of_called (Or.inl rfl) ?_ ?_
      · rintro _ ⟨⟩
        exact committed
      · intro _
        constructor
        · rintro ⟨_, ⟨⟩, -⟩
        · rintro ⟨_, ⟨⟩, -⟩
  | excluded raisedBy proves =>
      refine publishing_of_called (Or.inl rfl) (by rintro _ ⟨⟩) ?_
      intro direct
      rw [taken_publishFailed_iff]
      exact raisedBy.exhausted_iff direct
  | @reconciled status answer error search outcome raisedBy uncertain isSearch
      decided =>
      -- the status of an uncertain outcome is not this one
      have notExhausted : (∀ error, answer = .error error →
          RaisedDirectly error) → ¬ IsExhausted answer := by
        rintro - ⟨raised, rfl, exhausted⟩
        rcases raisedBy with same | ⟨⟨_, ⟨⟩⟩, -⟩
        cases same
        exact uncertain ⟨_, by decide, exhausted⟩
      rcases decided with ⟨seq, rfl, committed⟩ | ⟨_, _, _, rfl⟩
      · refine publishing_of_called (Or.inr isSearch) ?_ ?_
        · rintro _ ⟨⟩
          exact committed
        · intro direct
          exact iff_of_false (by rintro ⟨_, ⟨⟩, -⟩) (notExhausted direct)
      · refine publishing_of_called (Or.inr isSearch) (by rintro _ ⟨⟩) ?_
        intro direct
        rw [taken_publishFailed_iff]
        exact raisedBy.exhausted_iff direct

/-! ## The retry loop -/

section Retry

variable {token : String} {record : Record} {after : List Message}

/-- A loop that makes no call and fails. -/
theorem publishing_nil {raised : PyError}
    (other : raised.isPublishFailedError = false) :
    Publishing token record after [] (.error raised) where
  noClock _ member := absurd member List.not_mem_nil
  own _ member := absurd member List.not_mem_nil
  committed := nofun
  exhausted _ := by
    constructor
    · intro taken
      refine absurd taken (not_taken_of_class ?_)
      rintro _ ⟨⟩
      exact other
    · rintro (impossible | ⟨_, member, -⟩)
      · cases impossible
      · exact absurd member List.not_mem_nil
  single _ both := absurd both.1 nofun

theorem rejected_append {first rest : List (Exchanged service)} :
    Rejected token record (first ++ rest) ↔
      Rejected token record first ∨ Rejected token record rest := by
  simp only [Rejected, List.mem_append, or_and_right, exists_or]

variable {first rest : List (Exchanged service)} {exc : PyError}
  {outcome : Except PyError Nat}

/-- Nothing was exhausted in an attempt that is not taken for it. -/
theorem Publishing.quiet
    (publishing : Publishing token record after first (.error exc))
    (notExhausted : isResourceExhausted exc = false)
    (direct : RaisesDirectly first) :
    statusExhausted false first = false ∧
      ¬ Rejected token record first := by
  have notTaken : ¬ TakenForSizeRejection (.error exc) := by
    rintro ⟨_, ⟨⟩, -, exhausted⟩
    rw [notExhausted] at exhausted
    cases exhausted
  rw [publishing.exhausted direct, not_or] at notTaken
  exact notTaken.imp_left Bool.eq_false_of_not_eq_true

/-- The loop gives up after an attempt, with another exception. -/
theorem Publishing.replace {raised : PyError}
    (publishing : Publishing token record after first (.error exc))
    (notExhausted : isResourceExhausted exc = false)
    (other : raised.isPublishFailedError = false) :
    Publishing token record after first (.error raised) where
  noClock := publishing.noClock
  own := publishing.own
  committed := nofun
  exhausted direct := by
    obtain ⟨noStatus, notRejected⟩ := publishing.quiet notExhausted direct
    constructor
    · intro taken
      refine absurd taken (not_taken_of_class ?_)
      rintro _ ⟨⟩
      exact other
    · rintro (exhausted | rejected)
      · rw [noStatus] at exhausted
        cases exhausted
      · exact absurd rejected notRejected
  single := publishing.single

/-- The loop goes on after an attempt and a wait. -/
theorem Publishing.again {earlier : List Message} {timeoutMs : Nat}
    {stopped : Bool}
    (publishing : Publishing token record earlier first (.error exc))
    (notExhausted : isResourceExhausted exc = false)
    (next : Publishing token record after rest outcome) :
    Publishing token record after
      (first ++ ⟨.stopWait timeoutMs, stopped⟩ :: rest) outcome := by
  have rejectedIff : ∀ direct : RaisesDirectly first,
      Rejected token record (first ++ ⟨.stopWait timeoutMs, stopped⟩ :: rest) ↔
        Rejected token record rest := by
    intro direct
    have notRejected := (publishing.quiet notExhausted direct).2
    have waitRejects : ¬ Rejected token record
        [⟨.stopWait timeoutMs, stopped⟩] := by
      rintro ⟨_, member, -⟩
      cases List.mem_singleton.mp member
    rw [rejected_append, ← List.singleton_append, rejected_append]
    constructor
    · rintro (rejected | rejected | rejected)
      · exact absurd rejected notRejected
      · exact absurd rejected waitRejects
      · exact rejected
    · exact fun rejected => Or.inr (Or.inr rejected)
  have statusEq : ∀ direct : RaisesDirectly first,
      statusExhausted false
        (first ++ ⟨.stopWait timeoutMs, stopped⟩ :: rest) =
        statusExhausted false rest := by
    intro direct
    rw [statusExhausted_append_cons rfl,
      (publishing.quiet notExhausted direct).1, Bool.false_or]
    rfl
  have split : RaisesDirectly
      (first ++ ⟨.stopWait timeoutMs, stopped⟩ :: rest) →
        RaisesDirectly first ∧ RaisesDirectly rest := fun direct =>
    ⟨fun exchange member => direct exchange (List.mem_append_left _ member),
      fun exchange member => direct exchange
        (List.mem_append_right _ (List.mem_cons_of_mem _ member))⟩
  refine ⟨?_, ?_, next.committed, ?_, ?_⟩
  · exact List.forall_mem_append.mpr ⟨publishing.noClock,
      List.forall_mem_cons.mpr ⟨rfl, next.noClock⟩⟩
  · exact List.forall_mem_append.mpr ⟨publishing.own,
      List.forall_mem_cons.mpr ⟨nofun, next.own⟩⟩
  · intro direct
    obtain ⟨firstDirect, restDirect⟩ := split direct
    rw [rejectedIff firstDirect, statusEq firstDirect]
    exact next.exhausted restDirect
  · intro direct
    obtain ⟨firstDirect, restDirect⟩ := split direct
    rw [rejectedIff firstDirect, statusEq firstDirect]
    exact next.single restDirect

/-- The calls of the retry loop around a publish of a record. -/
theorem transcript_publishAttempts {retry : RetryConfig} {remaining : Nat}
    {before : List Message} {exchanges : List (Exchanged service)}
    (transcript : Transcript outcomes before
      (publishAttempts retry (publishRecord token record) remaining) exchanges
      after outcome) :
    Publishing token record after exchanges outcome := by
  induction remaining generalizing before exchanges with
  | zero =>
      rcases transcript_fail transcript with ⟨rfl, -, rfl⟩
      exact publishing_nil rfl
  | succ remaining ih =>
      rw [publishAttempts] at transcript
      rcases transcript_handle transcript with ⟨seq, rfl, publish⟩ |
        ⟨middle, exc, first, rest, rfl, publish, handler⟩
      · exact (transcript_publishRecord publish).publishing
      · have attempt := (transcript_publishRecord publish).publishing
        split_ifs at handler with exhausted notRetryable last
        · rcases transcript_fail handler with ⟨rfl, rfl, rfl⟩
          rw [List.append_nil]
          exact attempt
        · rcases transcript_fail handler with ⟨rfl, rfl, rfl⟩
          rw [List.append_nil]
          exact attempt.replace (Bool.eq_false_of_not_eq_true exhausted) rfl
        · rcases transcript_fail handler with ⟨rfl, rfl, rfl⟩
          rw [List.append_nil]
          exact attempt.replace (Bool.eq_false_of_not_eq_true exhausted) rfl
        · rcases transcript_callBind handler with
            ⟨_, stopped, _, tail, rfl, -, -, next⟩
          rw [Program.ret_bind] at next
          refine attempt.again (Bool.eq_false_of_not_eq_true exhausted) ?_
          split_ifs at next with stop
          · rcases transcript_fail next with ⟨rfl, -, rfl⟩
            exact publishing_nil rfl
          · exact ih next

end Retry

end OpenEventIm.Syncer.PublishOutcomes
