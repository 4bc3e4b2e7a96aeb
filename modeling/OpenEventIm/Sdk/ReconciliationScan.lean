import OpenEventIm.Foundation.Transcripts
import OpenEventIm.Sdk.PublishReconciliation
import Mathlib.Order.Bounds.Basic

/-!
# The scan of a reconciliation

`_reconcile_uncertain_publish` reads the last number of the log and then pages
of the interval above `pre_publish_max_seq`, up to a match.  An execution of the
page loop is a sequence of pages without a match, each beyond the one before,
and an ending.  Whatever the server answers, the pages are no more than the
numbers of the interval.

When the pages are complete, the scan finds the first match of the interval.
-/

namespace OpenEventIm.Sdk.ReconciliationScan

open OpenEventIm.Foundation
open OpenEventIm.Foundation.Interaction
open OpenEventIm.Foundation.Transcripts
open OpenEventIm.Sdk.Errors
open OpenEventIm.Sdk.Normalizer
open OpenEventIm.Sdk.Client
open OpenEventIm.Sdk.PublishReconciliation
open OpenEventIm.Service.Calls
open OpenEventIm.Service.World

variable {environment : Environment service}
  {before after : environment.State} {exchanges : List (Exchanged service)}
  {token : String} {record : Record} {fromSeq prePublishMaxSeq : Nat}

/-! ## Executions of the page loop -/

/-- The call for the page that starts at a number. -/
abbrev pageCall (token : String) (record : Record) (fromSeq : Nat) : Call :=
  .fetch record.principal token fromSeq 1000 false [record.channelId]

/-- A page without a match. -/
def NoMatch (record : Record) (reconcileMaxSeq : Nat)
    (response : FetchResponse) : Prop :=
  ∀ message ∈ response.messages, message.seq ≤ reconcileMaxSeq →
    recordOf message ≠ record

/-- The executions of the page loop from a number on. -/
inductive Scan (environment : Environment service) (token : String)
    (record : Record) (reconcileMaxSeq : Nat) :
    Nat → environment.State → List (Exchanged service) →
      environment.State → Except PyError (Option Nat) → Prop where
  | finished {fromSeq state} (beyond : reconcileMaxSeq < fromSeq) :
      Scan environment token record reconcileMaxSeq fromSeq state [] state
        (.ok none)
  | raised {fromSeq before ready after error}
      (inRange : fromSeq ≤ reconcileMaxSeq)
      (evolves : environment.Evolves before ready)
      (answers : environment.Answers ready (pageCall token record fromSeq)
        (.error error) after) :
      Scan environment token record reconcileMaxSeq fromSeq before
        [⟨pageCall token record fromSeq, .error error⟩] after (.error error)
  | matched {fromSeq before ready after} {response : FetchResponse} {message}
      {outcome : Except PyError (Option Nat)}
      (inRange : fromSeq ≤ reconcileMaxSeq)
      (evolves : environment.Evolves before ready)
      (answers : environment.Answers ready (pageCall token record fromSeq)
        (.ok response) after)
      (found : findPublished record reconcileMaxSeq response.messages =
        some message)
      (readable : 0 < message.seq → message.seq ≤ uint64Limit →
        outcome = .ok (some message.seq)) :
      Scan environment token record reconcileMaxSeq fromSeq before
        [⟨pageCall token record fromSeq, .ok response⟩] after outcome
  | stuck {fromSeq before ready after} {response : FetchResponse} {error}
      (inRange : fromSeq ≤ reconcileMaxSeq)
      (evolves : environment.Evolves before ready)
      (answers : environment.Answers ready (pageCall token record fromSeq)
        (.ok response) after)
      (noMatch : NoMatch record reconcileMaxSeq response)
      (stuck : response.nextSeq ≤ fromSeq ∨ uint64Limit < response.nextSeq) :
      Scan environment token record reconcileMaxSeq fromSeq before
        [⟨pageCall token record fromSeq, .ok response⟩] after (.error error)
  | page {fromSeq before ready middle after exchanges outcome}
      {response : FetchResponse}
      (inRange : fromSeq ≤ reconcileMaxSeq)
      (evolves : environment.Evolves before ready)
      (answers : environment.Answers ready (pageCall token record fromSeq)
        (.ok response) middle)
      (noMatch : NoMatch record reconcileMaxSeq response)
      (advances : fromSeq < response.nextSeq)
      (rest : Scan environment token record reconcileMaxSeq response.nextSeq
        middle exchanges after outcome) :
      Scan environment token record reconcileMaxSeq fromSeq before
        (⟨pageCall token record fromSeq, .ok response⟩ :: exchanges) after
        outcome

/-- The check of a field of a response returns the field, unless it is no
`uint64`. -/
theorem requireUint64_natCast_cases (value : Nat) (fieldName : String)
    (positive : Bool) :
    (requireUint64 (some (.int value)) fieldName positive = .ok value ∧
        value ≤ uint64Limit ∧ (positive = true → 0 < value)) ∨
      (∃ error, requireUint64 (some (.int value)) fieldName positive =
        .error error) ∧
        ((positive = true ∧ value = 0) ∨ uint64Limit < value) := by
  by_cases small : value ≤ uint64Limit
  · by_cases isPositive : positive = true → 0 < value
    · exact Or.inl ⟨requireUint64_eq_ok_iff.mpr
        ⟨rfl, le_uint64Limit_iff.mpr small, isPositive⟩, small, isPositive⟩
    · refine Or.inr ⟨?_, Or.inl (by simpa using isPositive)⟩
      cases checked : requireUint64 (some (.int value)) fieldName positive with
      | error error => exact ⟨error, rfl⟩
      | ok result =>
          rcases requireUint64_eq_ok_iff.mp checked with ⟨same, -, positive⟩
          cases same
          exact absurd positive isPositive
  · refine Or.inr ⟨?_, Or.inr (Nat.lt_of_not_le small)⟩
    cases checked : requireUint64 (some (.int value)) fieldName positive with
    | error error => exact ⟨error, rfl⟩
    | ok result =>
        rcases requireUint64_eq_ok_iff.mp checked with ⟨same, bounded, -⟩
        cases same
        exact absurd (le_uint64Limit_iff.mp bounded) small

theorem scan_of_transcript {reconcileMaxSeq : Nat}
    {outcome : Except PyError (Option Nat)}
    (transcript : Transcript environment before
      (reconcilePages token record reconcileMaxSeq fromSeq) exchanges after
      outcome) :
    Scan environment token record reconcileMaxSeq fromSeq before exchanges
      after outcome := by
  -- by the numbers that remain, as in the loop's own termination
  induction remaining : reconcileMaxSeq + 1 - fromSeq using
    Nat.strong_induction_on generalizing fromSeq before exchanges with
  | _ remaining ih =>
      rw [reconcilePages] at transcript
      split_ifs at transcript with inRange
      · rcases transcript_callBind transcript with
          ⟨ready, answer, middle, rest, rfl, evolves, answers, tail⟩
        cases answer with
        | error error =>
            rcases transcript_fail tail with ⟨rfl, rfl, rfl⟩
            exact .raised inRange evolves answers
        | ok response =>
            rw [Action.ofExcept_ok, Program.ret_bind] at tail
            cases found :
                findPublished record reconcileMaxSeq response.messages with
            | some message =>
                simp only [found, requireResponseUint64] at tail
                rcases requireUint64_natCast_cases message.seq "message.seq"
                  true with ⟨checked, -, -⟩ | ⟨⟨error, checked⟩, unreadable⟩
                · rw [checked] at tail
                  rcases transcript_ret tail with ⟨rfl, rfl, rfl⟩
                  exact .matched inRange evolves answers found fun _ _ => rfl
                · rw [checked] at tail
                  rcases transcript_fail tail with ⟨rfl, rfl, rfl⟩
                  refine .matched inRange evolves answers found ?_
                  intro isPositive small
                  rcases unreadable with ⟨-, isZero⟩ | large
                  · exact absurd isZero (Nat.pos_iff_ne_zero.mp isPositive)
                  · exact absurd small (Nat.not_le.mpr large)
            | none =>
                have noMatch : NoMatch record reconcileMaxSeq response :=
                  fun _ member => findPublished_eq_none found member
                simp only [found, requireResponseUint64] at tail
                rcases requireUint64_natCast_cases response.nextSeq "next_seq"
                  true with ⟨checked, -, -⟩ | ⟨⟨error, checked⟩, unreadable⟩
                · rw [checked, Action.ofExcept_ok, Program.ret_bind] at tail
                  split_ifs at tail with stuck
                  · rcases transcript_fail tail with ⟨rfl, rfl, rfl⟩
                    exact .stuck inRange evolves answers noMatch
                      (Or.inl stuck)
                  · exact .page inRange evolves answers noMatch
                      (Nat.lt_of_not_le stuck) (ih _ (by omega) tail rfl)
                · rw [checked] at tail
                  rcases transcript_fail tail with ⟨rfl, rfl, rfl⟩
                  refine .stuck inRange evolves answers noMatch ?_
                  exact unreadable.imp_left fun isZero =>
                    isZero.2.trans_le (Nat.zero_le fromSeq)
      · rcases transcript_ret transcript with ⟨rfl, rfl, rfl⟩
        exact .finished (Nat.lt_of_not_le inRange)

/-- Every page lies in what is left of the interval. -/
theorem Scan.length_le {reconcileMaxSeq : Nat}
    {outcome : Except PyError (Option Nat)}
    (scan : Scan environment token record reconcileMaxSeq fromSeq before
      exchanges after outcome) :
    exchanges.length ≤ reconcileMaxSeq + 1 - fromSeq := by
  induction scan with
  | finished beyond => exact Nat.zero_le _
  | raised inRange => simp; omega
  | matched inRange => simp; omega
  | stuck inRange => simp; omega
  | page inRange _ _ _ advances _ ih =>
      rw [List.length_cons]
      omega

/-! ## Executions of a reconciliation -/

/-- The error says that the outcome of the publish is unknown. -/
structure SaysUnknown (error : PyError) : Prop where
  isPublishFailedError : error.isPublishFailedError = true
  outcomeUnknown : error.outcomeUnknown = true
  retrySafe : error.retrySafe = false

/-- The error says that a retry is safe. -/
structure SaysNotCommitted (error : PyError) : Prop where
  isPublishFailedError : error.isPublishFailedError = true
  retrySafe : error.retrySafe = true
  outcomeUnknown : error.outcomeUnknown = false

/-- What a reconciliation makes of the result of its search. -/
inductive Concludes : Except PyError (Option Nat) → Except PyError Nat →
    Prop where
  | unknown {exc error} (unknown : SaysUnknown error) :
      Concludes (.error exc) (.error error)
  | found {seq} : Concludes (.ok (some seq)) (.ok seq)
  | absent {error} (notCommitted : SaysNotCommitted error) :
      Concludes (.ok none) (.error error)

/-- The call for the last number of the log. -/
abbrev statusCall (token : String) (record : Record) : Call :=
  .getStatus record.principal token

/-- The executions of a reconciliation: it fails at the status, or scans the
interval up to the number that it reads. -/
inductive Reconciles (environment : Environment service) (token : String)
    (record : Record) (prePublishMaxSeq : Nat) (before : environment.State) :
    List (Exchanged service) → environment.State → Except PyError Nat →
      Prop where
  | statusFailed {ready after exc error}
      (evolves : environment.Evolves before ready)
      (answers : environment.Answers ready (statusCall token record)
        (.error exc) after)
      (unknown : SaysUnknown error) :
      Reconciles environment token record prePublishMaxSeq before
        [⟨statusCall token record, .error exc⟩] after (.error error)
  | backwards {ready after} {status : StatusResponse} {error}
      (evolves : environment.Evolves before ready)
      (answers : environment.Answers ready (statusCall token record)
        (.ok status) after)
      (backwards : status.maxSeq < prePublishMaxSeq ∨
        uint64Limit < status.maxSeq)
      (unknown : SaysUnknown error) :
      Reconciles environment token record prePublishMaxSeq before
        [⟨statusCall token record, .ok status⟩] after (.error error)
  | scans {ready middle after exchanges found outcome}
      {status : StatusResponse}
      (evolves : environment.Evolves before ready)
      (answers : environment.Answers ready (statusCall token record)
        (.ok status) middle)
      (ahead : prePublishMaxSeq ≤ status.maxSeq)
      (scan : Scan environment token record status.maxSeq
        (prePublishMaxSeq + 1) middle exchanges after found)
      (concludes : Concludes found outcome) :
      Reconciles environment token record prePublishMaxSeq before
        (⟨statusCall token record, .ok status⟩ :: exchanges) after outcome

theorem reconciles_of_search {found : Except PyError (Option Nat)}
    {outcome : Except PyError Nat}
    (transcript : Transcript environment before
      (searchPublished token record prePublishMaxSeq) exchanges after found)
    (concludes : Concludes found outcome) :
    Reconciles environment token record prePublishMaxSeq before exchanges
      after outcome := by
  rcases transcript_callBind transcript with
    ⟨ready, answer, middle, rest, rfl, evolves, answers, tail⟩
  cases answer with
  | error exc =>
      rcases transcript_fail tail with ⟨rfl, rfl, rfl⟩
      cases concludes with
      | unknown unknown => exact .statusFailed evolves answers unknown
  | ok status =>
      simp only [Action.ofExcept_ok, Program.ret_bind,
        requireResponseUint64] at tail
      rcases requireUint64_natCast_cases status.maxSeq "max_seq" false with
        ⟨checked, -, -⟩ | ⟨⟨error, checked⟩, unreadable⟩
      · rw [checked, Action.ofExcept_ok, Program.ret_bind] at tail
        split_ifs at tail with backwards
        · rcases transcript_fail tail with ⟨rfl, rfl, rfl⟩
          cases concludes with
          | unknown unknown =>
              exact .backwards evolves answers (Or.inl backwards) unknown
        · exact .scans evolves answers (Nat.le_of_not_lt backwards)
            (scan_of_transcript tail) concludes
      · rw [checked] at tail
        rcases transcript_fail tail with ⟨rfl, rfl, rfl⟩
        have large : uint64Limit < status.maxSeq :=
          unreadable.resolve_left fun isZero => by cases isZero.1
        cases concludes with
        | unknown unknown =>
            exact .backwards evolves answers (Or.inr large) unknown

theorem reconciles_of_transcript {publishError : PyError}
    {outcome : Except PyError Nat}
    (transcript : Transcript environment before
      (reconcileUncertainPublish token record prePublishMaxSeq publishError)
      exchanges after outcome) :
    Reconciles environment token record prePublishMaxSeq before exchanges
      after outcome := by
  rcases transcript_bind transcript with
    ⟨middle, found, first, rest, rfl, handled, concludes⟩ |
      ⟨error, rfl, handled⟩
  · rcases transcript_handle handled with
      ⟨result, same, search⟩ | ⟨_, exc, _, _, _, _, failing⟩
    · cases same
      cases found with
      | some seq =>
          rcases transcript_ret concludes with ⟨rfl, rfl, rfl⟩
          rw [List.append_nil]
          exact reconciles_of_search search .found
      | none =>
          rcases transcript_fail concludes with ⟨rfl, rfl, rfl⟩
          rw [List.append_nil]
          exact reconciles_of_search search (.absent ⟨rfl, rfl, rfl⟩)
    · cases (transcript_fail failing).2.2
  · rcases transcript_handle handled with
      ⟨result, same, -⟩ | ⟨middle, exc, first, rest, rfl, search, failing⟩
    · cases same
    · rcases transcript_fail failing with ⟨rfl, rfl, same⟩
      cases same
      rw [List.append_nil]
      exact reconciles_of_search search (.unknown ⟨rfl, rfl, rfl⟩)

/-! ## Disturbed executions -/

/-- The call raised. -/
def Raises : Exchanged service → Prop
  | ⟨.getStatus .., .error _⟩ => True
  | ⟨.fetch .., .error _⟩ => True
  | _ => False

/-- A call raised, the last number is below the one read before the publish, or
a page without a match does not advance. -/
inductive Disturbed (token : String) (record : Record)
    (prePublishMaxSeq : Nat) (exchanges : List (Exchanged service)) : Prop where
  | raised {exchange} (member : exchange ∈ exchanges) (raises : Raises exchange)
  | backwards {status : StatusResponse}
      (member : ⟨statusCall token record, .ok status⟩ ∈ exchanges)
      (backwards : status.maxSeq < prePublishMaxSeq)
  | stuck {status : StatusResponse} {fromSeq} {response : FetchResponse}
      (read : ⟨statusCall token record, .ok status⟩ ∈ exchanges)
      (member : ⟨pageCall token record fromSeq, .ok response⟩ ∈ exchanges)
      (noMatch : NoMatch record status.maxSeq response)
      (stuck : response.nextSeq ≤ fromSeq)

/-- The first match of a page. -/
theorem findPublished_first {reconcileMaxSeq : Nat} {messages : List Message}
    {message : Message}
    (found : findPublished record reconcileMaxSeq messages = some message) :
    ∃ first rest, messages = first ++ message :: rest ∧
      message.seq ≤ reconcileMaxSeq ∧ recordOf message = record ∧
        ∀ other ∈ first, other.seq ≤ reconcileMaxSeq →
          recordOf other ≠ record := by
  induction messages with
  | nil => cases found
  | cons head tail ih =>
      rw [findPublished] at found
      -- a message that is passed over is no match within the interval
      have passed (notMatch : head.seq ≤ reconcileMaxSeq →
          recordOf head ≠ record)
          (later : findPublished record reconcileMaxSeq tail = some message) :
          ∃ first rest, head :: tail = first ++ message :: rest ∧
            message.seq ≤ reconcileMaxSeq ∧ recordOf message = record ∧
              ∀ other ∈ first, other.seq ≤ reconcileMaxSeq →
                recordOf other ≠ record := by
        rcases ih later with ⟨first, rest, rfl, small, same, before⟩
        exact ⟨head :: first, rest, rfl, small, same,
          List.forall_mem_cons.mpr ⟨notMatch, before⟩⟩
      split_ifs at found with above matching
      · exact passed (fun small => absurd small (Nat.not_le.mpr above)) found
      · cases found
        exact ⟨[], tail, rfl, Nat.le_of_not_lt above,
          matchesPublish_iff.mp matching, by simp⟩
      · exact passed (fun _ same => matching (matchesPublish_iff.mpr same))
          found

/-- All calls of the page loop are for pages. -/
theorem Scan.calls {reconcileMaxSeq : Nat}
    {outcome : Except PyError (Option Nat)}
    (scan : Scan environment token record reconcileMaxSeq fromSeq before
      exchanges after outcome) :
    ∀ exchange ∈ exchanges, ∃ fromSeq answer,
      exchange = ⟨pageCall token record fromSeq, answer⟩ := by
  induction scan with
  | finished => simp
  | raised => simp
  | matched => simp
  | stuck => simp
  | page _ _ _ _ _ _ ih =>
      exact List.forall_mem_cons.mpr ⟨⟨_, _, rfl⟩, ih⟩

/-- A page loop that is disturbed fails. -/
theorem Scan.fails {reconcileMaxSeq : Nat}
    {outcome : Except PyError (Option Nat)}
    (scan : Scan environment token record reconcileMaxSeq fromSeq before
      exchanges after outcome)
    (disturbed : (∃ exchange ∈ exchanges, Raises exchange) ∨
      ∃ fromSeq, ∃ response : FetchResponse,
        ⟨pageCall token record fromSeq, .ok response⟩ ∈ exchanges ∧
          NoMatch record reconcileMaxSeq response ∧
            response.nextSeq ≤ fromSeq) :
    ∃ error, outcome = .error error := by
  induction scan with
  | finished => simp at disturbed
  | raised => exact ⟨_, rfl⟩
  | stuck => exact ⟨_, rfl⟩
  | matched inRange evolves answers found readable =>
      rcases disturbed with ⟨exchange, member, raises⟩ |
        ⟨_, response, member, noMatch, -⟩
      · cases List.mem_singleton.mp member
        exact raises.elim
      · cases List.mem_singleton.mp member
        rcases findPublished_first found with
          ⟨first, rest, split, small, same, -⟩
        exact absurd same (noMatch _ (by rw [split]; simp) small)
  | page inRange evolves answers noMatch advances rest ih =>
      apply ih
      rcases disturbed with ⟨exchange, member, raises⟩ |
        ⟨start, response, member, noMatch, stuck⟩
      · rcases List.mem_cons.mp member with rfl | later
        · exact raises.elim
        · exact Or.inl ⟨exchange, later, raises⟩
      · rcases List.mem_cons.mp member with same | later
        · cases same
          exact absurd stuck (Nat.not_le.mpr advances)
        · exact Or.inr ⟨start, response, later, noMatch, stuck⟩

/-- A reconciliation that is disturbed says that the outcome is unknown. -/
theorem Reconciles.saysUnknown {outcome : Except PyError Nat}
    (reconciles : Reconciles environment token record prePublishMaxSeq before
      exchanges after outcome)
    (disturbed : Disturbed token record prePublishMaxSeq exchanges) :
    ∃ error, outcome = .error error ∧ SaysUnknown error := by
  cases reconciles with
  | statusFailed _ _ unknown => exact ⟨_, rfl, unknown⟩
  | backwards _ _ _ unknown => exact ⟨_, rfl, unknown⟩
  | @scans _ _ _ pages found _ status _ _ ahead scan concludes =>
      -- the status was read once, before the pages
      have sameStatus : ∀ other : StatusResponse,
          ⟨statusCall token record, .ok other⟩ ∈
              (⟨statusCall token record, .ok status⟩ :: pages :
                List (Exchanged service)) → other = status := by
        intro other member
        rcases List.mem_cons.mp member with same | later
        · cases same
          rfl
        · rcases scan.calls _ later with ⟨_, _, same⟩
          cases same
      have failed : ∃ error, found = .error error := by
        apply scan.fails
        cases disturbed with
        | raised member raises =>
            rcases List.mem_cons.mp member with rfl | later
            · exact raises.elim
            · exact Or.inl ⟨_, later, raises⟩
        | backwards member less =>
            cases sameStatus _ member
            exact absurd less (Nat.not_lt.mpr ahead)
        | stuck read member noMatch stuck =>
            cases sameStatus _ read
            rcases List.mem_cons.mp member with same | later
            · cases same
            · exact Or.inr ⟨_, _, later, noMatch, stuck⟩
      rcases failed with ⟨exc, rfl⟩
      cases concludes with
      | unknown unknown => exact ⟨_, rfl, unknown⟩

/-- The number of pages fetched. -/
def fetchCount (exchanges : List (Exchanged service)) : Nat :=
  exchanges.countP fun exchange =>
    match exchange.1 with
    | .fetch .. => true
    | _ => false

/-- The pages are no more than the numbers of the interval. -/
theorem Reconciles.fetchCount_le {outcome : Except PyError Nat}
    (reconciles : Reconciles environment token record prePublishMaxSeq before
      exchanges after outcome) {status : StatusResponse}
    (read : ⟨statusCall token record, .ok status⟩ ∈ exchanges) :
    fetchCount exchanges ≤ status.maxSeq - prePublishMaxSeq := by
  cases reconciles with
  | statusFailed =>
      cases List.mem_singleton.mp read
  | backwards =>
      exact Nat.zero_le _
  | @scans _ _ _ pages _ _ known _ _ _ scan =>
      have same : status = known := by
        rcases List.mem_cons.mp read with same | later
        · cases same
          rfl
        · rcases scan.calls _ later with ⟨_, _, same⟩
          cases same
      have counted : fetchCount pages ≤ pages.length := List.countP_le_length
      have bounded := scan.length_le
      rw [same]
      calc fetchCount (⟨statusCall token record, .ok known⟩ :: pages)
          = fetchCount pages := List.countP_cons_of_neg (by simp)
        _ ≤ known.maxSeq - prePublishMaxSeq := by omega

/-! ## Complete pages -/

/-- All messages of the channels in a range of numbers, in their order. -/
structure CompletePage (log : Log) (fromSeq : Nat) (channels : List Nat)
    (response : FetchResponse) : Prop where
  messages : response.messages =
    ((log.range fromSeq response.nextSeq).map LogEntry.message).filter
      fun message => message.channelId ∈ channels
  advances : fromSeq < response.nextSeq
  representable : response.nextSeq ≤ uint64Limit

/-- A server whose calls succeed and whose pages are complete. -/
def CompleteAnswers (log : Log) :
    (request : Call) → Answer request → Log → Prop
  | .getStatus _ _, answer, after => answer = .ok ⟨log.last⟩ ∧ after = log
  | .fetch _ _ fromSeq _ _ channels, answer, after =>
      (∃ response, answer = .ok response ∧
        CompletePage log fromSeq channels response) ∧ after = log
  | _, _, after => after = log

/-- An append-only log, read in complete pages while others commit to it. -/
@[reducible]
def completeReads : Environment service where
  State := Log
  Interferes before after := ∃ entry, before.Appends entry after
  Answers := CompleteAnswers

theorem extends_of_evolves {before after : Log}
    (evolves : completeReads.Evolves before after) : before.Extends after := by
  induction evolves with
  | refl => exact SequencedLog.Extends.refl before
  | tail _ step ih =>
      rcases step with ⟨entry, appends⟩
      exact ih.trans appends.extends

/-- The numbers of an interval under which the record is in the log. -/
def publishedSeqs (log : Log) (record : Record) (fromSeq maxSeq : Nat) :
    Set Nat :=
  {seq | ∃ entry ∈ log.entries, entry.seq = seq ∧
    (fromSeq ≤ seq ∧ seq ≤ maxSeq) ∧ recordOf entry.message = record}

section Complete

variable {log after : Log} {channels : List Nat} {response : FetchResponse}
  {reconcileMaxSeq seq : Nat}

/-- The log has no new numbers up to its last one. -/
theorem mem_of_le_last {entry : LogEntry} (grown : log.Extends after)
    (member : entry ∈ after.entries) (small : entry.seq ≤ log.last) :
    entry ∈ log.entries :=
  grown.mem_of_lt member (small.trans_lt SequencedLog.last_lt_frontier)

theorem CompletePage.mem_iff {message : Message}
    (complete : CompletePage log fromSeq channels response) :
    message ∈ response.messages ↔
      ∃ entry ∈ log.entries, entry.message = message ∧
        (fromSeq ≤ message.seq ∧ message.seq < response.nextSeq) ∧
          message.channelId ∈ channels := by
  rw [complete.messages, List.mem_filter, List.mem_map]
  constructor
  · rintro ⟨⟨entry, inRange, rfl⟩, selected⟩
    rcases SequencedLog.mem_range.mp inRange with ⟨member, bounds⟩
    exact ⟨entry, member, rfl, bounds, of_decide_eq_true selected⟩
  · rintro ⟨entry, member, rfl, bounds, selected⟩
    exact ⟨⟨entry, SequencedLog.mem_range.mpr ⟨member, bounds⟩, rfl⟩,
      decide_eq_true selected⟩

/-- The messages of a complete page are in increasing number. -/
theorem CompletePage.increasing
    (complete : CompletePage log fromSeq channels response) :
    response.messages.Pairwise fun left right => left.seq < right.seq := by
  rw [complete.messages]
  apply List.Pairwise.filter
  rw [List.pairwise_map]
  exact log.increasing.filter _

/-- A match that the page covers is on the page. -/
theorem CompletePage.covers
    (complete : CompletePage log fromSeq [record.channelId] response)
    (grown : log.Extends after) (known : reconcileMaxSeq ≤ log.last)
    (published : seq ∈ publishedSeqs after record fromSeq reconcileMaxSeq)
    (covered : seq < response.nextSeq) :
    ∃ message ∈ response.messages, message.seq = seq ∧
      recordOf message = record := by
  rcases published with ⟨entry, member, rfl, ⟨above, below⟩, same⟩
  have ofChannel : entry.message.channelId = record.channelId := by
    rw [← same]
    rfl
  refine ⟨entry.message, complete.mem_iff.mpr ⟨entry, ?_, rfl,
    ⟨above, covered⟩, ?_⟩, rfl, same⟩
  · exact mem_of_le_last grown member (below.trans known)
  · rw [ofChannel]
    exact List.mem_singleton_self _

/-- The first match of a complete page is the least of the interval. -/
theorem CompletePage.isLeast {message : Message}
    (complete : CompletePage log fromSeq [record.channelId] response)
    (grown : log.Extends after) (known : reconcileMaxSeq ≤ log.last)
    (found : findPublished record reconcileMaxSeq response.messages =
      some message) :
    IsLeast (publishedSeqs after record fromSeq reconcileMaxSeq)
      message.seq := by
  rcases findPublished_first found with
    ⟨first, rest, split, small, same, before⟩
  have onPage : message ∈ response.messages := by
    rw [split]
    exact List.mem_append_right _ List.mem_cons_self
  rcases complete.mem_iff.mp onPage with ⟨entry, member, rfl, bounds, -⟩
  constructor
  · exact ⟨entry, grown.mem member, rfl, ⟨bounds.1, small⟩, same⟩
  · intro other published
    rcases Nat.lt_or_ge other entry.message.seq with less | least
    · -- an earlier match would stand before it on the page
      rcases complete.covers grown known published
        (less.trans bounds.2) with ⟨earlier, earlierOnPage, rfl, matching⟩
      have increasing := complete.increasing
      rw [split] at earlierOnPage increasing
      rcases List.pairwise_append.mp increasing with ⟨-, tail, -⟩
      rcases List.mem_append.mp earlierOnPage with inFirst | inRest
      · exact absurd matching (before earlier inFirst (less.le.trans small))
      · rcases List.mem_cons.mp inRest with rfl | later
        · exact absurd less (Nat.lt_irrefl _)
        · exact absurd less
            (Nat.lt_asymm ((List.pairwise_cons.mp tail).1 earlier later))
    · exact least

/-- Nothing is published below the end of a page without a match. -/
theorem CompletePage.publishedSeqs_eq
    (complete : CompletePage log fromSeq [record.channelId] response)
    (grown : log.Extends after) (known : reconcileMaxSeq ≤ log.last)
    (noMatch : NoMatch record reconcileMaxSeq response) :
    publishedSeqs after record fromSeq reconcileMaxSeq =
      publishedSeqs after record response.nextSeq reconcileMaxSeq := by
  ext seq
  constructor
  · intro published
    rcases Nat.lt_or_ge seq response.nextSeq with covered | beyond
    · rcases complete.covers grown known published covered with
        ⟨message, onPage, rfl, same⟩
      rcases published with ⟨_, _, _, ⟨-, below⟩, _⟩
      exact absurd same (noMatch message onPage below)
    · rcases published with ⟨entry, member, rfl, ⟨-, below⟩, same⟩
      exact ⟨entry, member, rfl, ⟨beyond, below⟩, same⟩
  · rintro ⟨entry, member, rfl, ⟨above, below⟩, same⟩
    exact ⟨entry, member, rfl, ⟨complete.advances.le.trans above, below⟩, same⟩

/-- In complete pages the loop finds the least number of the record. -/
theorem Scan.finds {log after : completeReads.State}
    {outcome : Except PyError (Option Nat)}
    (scan : Scan completeReads token record reconcileMaxSeq fromSeq log
      exchanges after outcome) (known : reconcileMaxSeq ≤ log.last) :
    SequencedLog.Extends log after ∧ ∃ found, outcome = .ok found ∧ ∀ seq,
      found = some seq ↔
        IsLeast (publishedSeqs after record fromSeq reconcileMaxSeq) seq := by
  induction scan with
  | finished beyond =>
      refine ⟨SequencedLog.Extends.refl _, none, rfl, fun seq => ?_⟩
      constructor
      · rintro ⟨⟩
      · rintro ⟨⟨_, _, _, ⟨above, below⟩, _⟩, -⟩
        exact absurd (above.trans below) (Nat.not_le.mpr beyond)
  | raised inRange evolves answers =>
      rcases answers with ⟨⟨response, answered, -⟩, -⟩
      cases answered
  | stuck inRange evolves answers noMatch stuck =>
      rcases answers with ⟨⟨response, answered, complete⟩, -⟩
      cases answered
      rcases stuck with back | large
      · exact absurd complete.advances (Nat.not_lt.mpr back)
      · exact absurd complete.representable (Nat.not_le.mpr large)
  | @matched fromSeq before ready after response message outcome inRange
      evolves answers found readable =>
      rcases answers with ⟨⟨response, answered, complete⟩, rfl⟩
      cases answered
      have grown := extends_of_evolves evolves
      have least := complete.isLeast (SequencedLog.Extends.refl after)
        (known.trans grown.last_le) found
      rcases least.1 with ⟨entry, member, same, -⟩
      have returned := readable (same ▸ after.positive entry member)
        (same ▸ after.bounded entry member)
      refine ⟨grown, some message.seq, returned, fun seq => ?_⟩
      rw [Option.some.injEq]
      exact ⟨fun equal => equal ▸ least, least.unique⟩
  | page inRange evolves answers noMatch advances rest ih =>
      rcases answers with ⟨⟨response, answered, complete⟩, rfl⟩
      cases answered
      have grown := extends_of_evolves evolves
      have knownThen := known.trans grown.last_le
      rcases ih knownThen with ⟨later, found, returned, least⟩
      refine ⟨grown.trans later, found, returned, fun seq => ?_⟩
      rw [complete.publishedSeqs_eq later knownThen noMatch]
      exact least seq

/-- In complete pages a reconciliation returns the least number under which
the record is in the interval, or says that a retry is safe. -/
theorem Reconciles.decides {log after : completeReads.State}
    {outcome : Except PyError Nat}
    (reconciles : Reconciles completeReads token record prePublishMaxSeq log
      exchanges after outcome) (read : prePublishMaxSeq ≤ log.last) :
    ∃ status : StatusResponse,
      ⟨statusCall token record, .ok status⟩ ∈ exchanges ∧
        (∀ seq, outcome = .ok seq ↔
          IsLeast (publishedSeqs after record (prePublishMaxSeq + 1)
            status.maxSeq) seq) ∧
          ∀ error, outcome = .error error → SaysNotCommitted error := by
  cases reconciles with
  | statusFailed evolves answers =>
      cases answers.1
  | backwards evolves answers backwards =>
      rcases answers with ⟨answered, rfl⟩
      cases answered
      rcases backwards with less | large
      · have grown := (extends_of_evolves evolves).last_le
        exact absurd (read.trans grown) (Nat.not_le.mpr less)
      · exact absurd SequencedLog.last_le_limit (Nat.not_le.mpr large)
  | scans evolves answers ahead scan concludes =>
      rcases answers with ⟨answered, rfl⟩
      cases answered
      rcases scan.finds le_rfl with ⟨-, found, rfl, least⟩
      refine ⟨_, List.mem_cons_self, ?_, ?_⟩
      · intro seq
        rw [← least seq]
        cases concludes with
        | found => simp
        | absent => simp
      · rintro error rfl
        cases concludes with
        | absent notCommitted => exact notCommitted

end Complete

/-! ## The reconciliation as a whole -/

/--
When no call fails and all pages are complete, the reconciliation returns the
least number above the one read before the publish, and up to the one read in
the reconciliation, under which the record is in the log; if there is none, its
error says that a retry is safe.  Whatever the server answers, a disturbed
reconciliation fails with an unknown outcome, and there are no more fetches than
numbers in the interval.
-/
theorem reconcileUncertainPublish_scans (token : String) (record : Record)
    (prePublishMaxSeq : Nat) (publishError : PyError) :
    (∀ log after : Log, ∀ exchanges outcome,
      Transcript completeReads log (reconcileUncertainPublish token record
        prePublishMaxSeq publishError) exchanges after outcome →
      prePublishMaxSeq ≤ log.last →
        ∃ status : StatusResponse,
          ⟨statusCall token record, .ok status⟩ ∈ exchanges ∧
            (∀ seq, outcome = .ok seq ↔
              IsLeast {seq | ∃ entry ∈ after.entries, entry.seq = seq ∧
                (prePublishMaxSeq < seq ∧ seq ≤ status.maxSeq) ∧
                  recordOf entry.message = record} seq) ∧
              ∀ error, outcome = .error error → SaysNotCommitted error) ∧
    (∀ (environment : Environment service) (before after : environment.State),
      ∀ exchanges outcome,
        Transcript environment before (reconcileUncertainPublish token record
          prePublishMaxSeq publishError) exchanges after outcome →
        (Disturbed token record prePublishMaxSeq exchanges →
          ∃ error, outcome = .error error ∧ SaysUnknown error) ∧
        ∀ status : StatusResponse,
          ⟨statusCall token record, .ok status⟩ ∈ exchanges →
            fetchCount exchanges ≤ status.maxSeq - prePublishMaxSeq) := by
  constructor
  · intro log after exchanges outcome transcript read
    exact (reconciles_of_transcript transcript).decides read
  · intro environment before after exchanges outcome transcript
    have reconciles := reconciles_of_transcript transcript
    exact ⟨reconciles.saysUnknown, fun status => reconciles.fetchCount_le⟩

/-! ### A record that was published before -/

/-- The message under a number. -/
def sampleMessage (seq : Nat) : Message where
  seq := seq
  channelId := 3
  principal := 8
  recipients := [7]
  payload := ByteArray.empty

def sampleRecord : Record := recordOf (sampleMessage 2)

/-- The record is in the log twice. -/
def sampleLog : Log :=
  (SequencedLog.empty.push ⟨sampleMessage 1, true⟩ (by decide) (by decide)
    (by decide)).push ⟨sampleMessage 2, true⟩ (by decide) (by decide)
      (by decide)

/-- The calls after a publish whose number is to be found. -/
def sampleCalls : List (Exchanged service) := [
  ⟨statusCall "bot" sampleRecord, .ok ⟨2⟩⟩,
  ⟨pageCall "bot" sampleRecord 2, .ok ⟨[sampleMessage 2], 3, 2⟩⟩]

theorem transcript_sample {publishError : PyError} :
    Transcript completeReads sampleLog
      (reconcileUncertainPublish "bot" sampleRecord 1 publishError) sampleCalls
      sampleLog (.ok 2) := by
  have complete : CompletePage sampleLog 2 [3] ⟨[sampleMessage 2], 3, 2⟩ :=
    ⟨rfl, by decide, by decide⟩
  refine .call .refl ⟨rfl, rfl⟩ ?_
  show Transcript completeReads sampleLog
    ((reconcilePages "bot" sampleRecord 2 2).handle _ >>= _) _ _ _
  rw [reconcilePages, if_pos le_rfl]
  exact .call .refl ⟨⟨_, rfl, complete⟩, rfl⟩ .ret

/-- The earlier message is not taken for the one that was published. -/
theorem reconcileUncertainPublish_scans_sample :
    IsLeast {seq | ∃ entry ∈ sampleLog.entries, entry.seq = seq ∧
      (1 < seq ∧ seq ≤ 2) ∧ recordOf entry.message = sampleRecord} 2 ∧
      fetchCount sampleCalls ≤ 2 - 1 := by
  have scans := reconcileUncertainPublish_scans "bot" sampleRecord 1
    (.raised .runtimeError "")
  rcases scans.1 sampleLog sampleLog sampleCalls (.ok 2) transcript_sample
    (by decide) with ⟨status, read, found, -⟩
  have counted := (scans.2 completeReads sampleLog sampleLog sampleCalls _
    transcript_sample).2 ⟨2⟩ List.mem_cons_self
  have isStatus : status = ⟨2⟩ := by
    rcases List.mem_pair.mp read with same | same
    · cases same
      rfl
    · cases same
  subst isStatus
  exact ⟨(found 2).mp rfl, counted⟩

end OpenEventIm.Sdk.ReconciliationScan
