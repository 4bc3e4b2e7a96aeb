import OpenEventIm.Foundation.Transcripts
import OpenEventIm.Service.World

/-!
# Arbitrary outcomes

An environment in which every call may get any answer at all.  Two things are
kept of the server's honesty: a publish that replies with a number has
committed its record under it, and a fetched message is in the log.  The world
is a special case.
-/

namespace OpenEventIm.Service.Outcomes

open OpenEventIm.Foundation
open OpenEventIm.Foundation.Interaction
open OpenEventIm.Foundation.Transcripts
open OpenEventIm.Sdk.Errors
open OpenEventIm.Service.Calls
open OpenEventIm.Service.World

/-- The log holds the record, under the number if one is given. -/
def Committed (log : List Message) (record : Record) (seq : Nat) : Prop :=
  ∃ message ∈ log, message.seq = seq ∧ recordOf message = record

/-- What the answer of a call says about the log is true. -/
def Truthful (after : List Message) :
    (request : Call) → Answer request → Prop
  | .publishAutoSeq principal _ channelId payload recipients, .ok response =>
      ∀ seq, response.seq = some seq → 0 < seq → seq ≤ uint64Limit →
        Committed after { principal, channelId, recipients, payload } seq
  | .fetch .., .ok response => ∀ message ∈ response.messages, message ∈ after
  | _, _ => True

/-- Every answer that is not a lie; the log may grow at any time. -/
@[reducible]
def outcomes : Environment service where
  State := List Message
  Interferes before after := before <+: after
  Answers before request answer after :=
    before <+: after ∧ Truthful after request answer

theorem prefix_of_evolves {before after : List Message}
    (evolves : outcomes.Evolves before after) : before <+: after := by
  induction evolves with
  | refl => exact List.prefix_rfl
  | tail _ step ih => exact ih.trans step

theorem Committed.mono {before after : List Message} {record : Record}
    {seq : Nat} (committed : Committed before record seq)
    (grown : before <+: after) : Committed after record seq := by
  rcases committed with ⟨message, member, found⟩
  exact ⟨message, grown.subset member, found⟩

/-! ## Exchanges -/

/-- The exchange reads the clock. -/
def isClockReading (exchange : Exchanged service) : Bool :=
  match exchange.1 with
  | .currentTimeMs => true
  | _ => false

/-- The exchange is a `PublishAutoSeq`. -/
def isPublish (exchange : Exchanged service) : Bool :=
  match exchange.1 with
  | .publishAutoSeq .. => true
  | _ => false

/-- The exchange is a `GetStatus` that failed with `RESOURCE_EXHAUSTED`. -/
def isExhaustedStatus : Exchanged service → Bool
  | ⟨.getStatus _ _, .error error⟩ =>
      rpcStatusCode error == some .resourceExhausted
  | _ => false

/-- The error that the client raised, if it raised one. -/
def clientError : Exchanged service → Option PyError
  | ⟨.getStatus _ _, .error error⟩ => some error
  | ⟨.publishAutoSeq .., .error error⟩ => some error
  | ⟨.fetch .., .error error⟩ => some error
  | _ => none

/-- The injected client raises `RpcError` directly. -/
def RaisesDirectly (exchanges : List (Exchanged service)) : Prop :=
  ∀ exchange ∈ exchanges, ∀ error, clientError exchange = some error →
    RaisedDirectly error

/--
A `GetStatus` that does not follow a publish, so one that precedes it, failed
with `RESOURCE_EXHAUSTED`.  The flag tells whether the list follows a publish.
-/
def statusExhausted : Bool → List (Exchanged service) → Bool
  | _, [] => false
  | followsPublish, exchange :: rest =>
      (!followsPublish && isExhaustedStatus exchange) ||
        statusExhausted (isPublish exchange) rest

theorem statusExhausted_append_cons {followsPublish : Bool}
    {first rest : List (Exchanged service)} {exchange : Exchanged service}
    (notStatus : isExhaustedStatus exchange = false) :
    statusExhausted followsPublish (first ++ exchange :: rest) =
      (statusExhausted followsPublish first ||
        statusExhausted (isPublish exchange) rest) := by
  induction first generalizing followsPublish with
  | nil => simp [statusExhausted, notStatus]
  | cons head first ih =>
      rw [List.cons_append, statusExhausted, statusExhausted, ih,
        Bool.or_assoc]

/-- Calls other than `GetStatus` and `PublishAutoSeq` exhaust nothing. -/
theorem statusExhausted_eq_false {exchanges : List (Exchanged service)}
    (quiet : ∀ exchange ∈ exchanges, isExhaustedStatus exchange = false)
    (followsPublish : Bool) :
    statusExhausted followsPublish exchanges = false := by
  induction exchanges generalizing followsPublish with
  | nil => rfl
  | cons head rest ih =>
      rw [List.forall_mem_cons] at quiet
      rw [statusExhausted, quiet.1, Bool.and_false, Bool.false_or]
      exact ih quiet.2 _

/-! ## The world -/

theorem truthful_of_serverAnswers {committable : Message → Prop}
    {log after : Log} {request : Call} {answer : Answer request}
    (answers : ServerAnswers committable log request answer after) :
    Truthful (after.entries.map LogEntry.message) request answer := by
  cases request with
  | publishAutoSeq principal token channelId payload recipients =>
      cases answer with
      | error error => trivial
      | ok response =>
          intro seq replied isPositive small
          have usable : ¬ UnusableReply response := by
            intro unusable
            rcases unusable seq replied with zero | large
            · exact absurd zero (Nat.pos_iff_ne_zero.mp isPositive)
            · exact absurd small (Nat.not_le.mpr large)
          rcases PublishAnswers.ok answers with ⟨-, unusable⟩ |
            ⟨message, recorded, -, appends, same | unusable⟩
          · exact absurd unusable usable
          · refine ⟨message, ?_, ?_, recorded⟩
            · rw [appends.2.1, List.map_append]
              exact List.mem_append_right _ (List.mem_singleton_self _)
            · rw [same] at replied
              exact Option.some.inj replied
          · exact absurd unusable usable
  | fetch principal token fromSeq limit onlyMine channels =>
      cases answer with
      | error error => trivial
      | ok response =>
          intro message member
          obtain ⟨honest, reserves⟩ := FetchAnswers.ok answers
          rw [honest.messages] at member
          have inRange := List.mem_of_mem_filter member
          rcases List.mem_map.mp inRange with ⟨entry, inLog, rfl⟩
          rw [reserves.2.1]
          exact List.mem_map_of_mem (SequencedLog.mem_range.mp inLog).1
  | getStatus => cases answer <;> trivial
  | _ => trivial

/-- The world, seen as its messages, gives answers of this environment. -/
def worldSimulation (setting : Setting) :
    Simulation (world setting) outcomes where
  view state := state.log.entries.map LogEntry.message
  interferes _ _ step := .single (step.extends.isPrefix.map _)
  answers _ _ _ _ answers :=
    ⟨answers.extends.isPrefix.map _, truthful_of_serverAnswers answers.server⟩

end OpenEventIm.Service.Outcomes
