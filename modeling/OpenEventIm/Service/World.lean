import OpenEventIm.Foundation.SequencedLog
import OpenEventIm.Service.Calls

/-!
# The world around the worker

The OpenEvent log, the providers and the record of the worker's calls.  The
server answers honestly about its log: `GetStatus` and `Fetch` tell its last
number, a page holds every selected message of its range, and a publish commits
at most one message, before it answers.  Each call may also fail.

A `Setting` fixes the rest: what other publishers may commit, which payloads of
the worker the server takes, and how the providers behave.
-/

namespace OpenEventIm.Service.World

open OpenEventIm.Foundation
open OpenEventIm.Foundation.Interaction
open OpenEventIm.Sdk.Errors
open OpenEventIm.Service.Calls

/-- `UINT64_MAX`, as a natural number. -/
def uint64Limit : Nat := 2 ^ 64 - 1

/-- A message of the log; `own` tells whether this worker published it. -/
structure LogEntry where
  message : Message
  own : Bool
deriving DecidableEq

/-- The sequence number of an entry. -/
abbrev LogEntry.seq (entry : LogEntry) : Nat := entry.message.seq

/-- The OpenEvent log. -/
abbrev Log := SequencedLog LogEntry LogEntry.seq uint64Limit

/-- The worker's own messages. -/
def ownEntries (log : Log) : List LogEntry :=
  log.entries.filter LogEntry.own

/-- What a publish commits: everything but the assigned number. -/
structure Record where
  principal : Nat
  channelId : Nat
  recipients : List Nat
  payload : ByteArray
deriving DecidableEq

def recordOf (message : Message) : Record where
  principal := message.principal
  channelId := message.channelId
  recipients := message.recipients
  payload := message.payload

/-- An honest page of the selected channels, starting at `fromSeq`. -/
structure HonestPage (log : Log) (fromSeq : Nat) (channels : List Nat)
    (response : FetchResponse) : Prop where
  lastSeq : response.lastSeq = log.last
  messages : response.messages =
    ((log.range fromSeq response.nextSeq).map LogEntry.message).filter
      fun message => message.channelId ∈ channels
  advances : fromSeq ≤ log.last → fromSeq < response.nextSeq
  atTail : log.last < fromSeq → response.nextSeq = fromSeq

/-- A reply from which no sequence number can be read. -/
def UnusableReply (response : PublishResponse) : Prop :=
  ∀ seq, response.seq = some seq → seq = 0 ∨ uint64Limit < seq

/-- The providers, seen through the adapters. -/
structure ProviderBehaviour where
  State : Type
  /-- What happens at the providers by itself. -/
  Steps : State → State → Prop
  Answers : State → (request : Call) → Answer request → State → Prop

/-- A provider about which nothing is known. -/
def arbitraryProvider : ProviderBehaviour where
  State := Unit
  Steps _ _ := True
  Answers _ _ _ _ := True

/-- The assumptions under which a run of the worker is considered. -/
structure Setting where
  provider : ProviderBehaviour
  /-- Messages that others may publish, given the log so far. -/
  foreign : Log → Message → Prop
  /-- Messages that the server accepts from this worker. -/
  committable : Message → Prop

structure WorldState (setting : Setting) where
  log : Log
  provider : setting.provider.State
  /-- The calls of the worker so far, the latest one last. -/
  trace : List Exchange

/-- How the server answers a publish of a record. -/
inductive PublishAnswers (committable : Message → Prop) (log : Log)
    (record : Record) : Except PyError PublishResponse → Log → Prop where
  | rejected {error : PyError} :
      PublishAnswers committable log record (.error error) log
  | lost {response : PublishResponse} (unusable : UnusableReply response) :
      PublishAnswers committable log record (.ok response) log
  | committed {message : Message} {response : PublishResponse} {after : Log}
      (recorded : recordOf message = record)
      (accepted : committable message)
      (appends : log.Appends ⟨message, true⟩ after)
      (replied : response.seq = some message.seq ∨ UnusableReply response) :
      PublishAnswers committable log record (.ok response) after
  | committedThenFailed {message : Message} {error : PyError} {after : Log}
      (recorded : recordOf message = record)
      (accepted : committable message)
      (appends : log.Appends ⟨message, true⟩ after)
      (uncertain : ∀ code, causeStatusCode error = some code →
        code ∉ guaranteedNotCommitted) :
      PublishAnswers committable log record (.error error) after

/-- How the server answers a fetch. -/
inductive FetchAnswers (log : Log) (fromSeq : Nat) (channels : List Nat) :
    Except PyError FetchResponse → Log → Prop where
  | failed {error : PyError} : FetchAnswers log fromSeq channels (.error error) log
  | page {response : FetchResponse} {after : Log}
      (honest : HonestPage log fromSeq channels response)
      (reserves : log.Reserves response.nextSeq after) :
      FetchAnswers log fromSeq channels (.ok response) after

/-- How the server answers; other calls leave the log alone. -/
def ServerAnswers (committable : Message → Prop) (log : Log) :
    (request : Call) → Answer request → Log → Prop
  | .getStatus _ _, .ok response, after =>
      response.maxSeq = log.last ∧ after = log
  | .publishAutoSeq principal _ channelId payload recipients, answer, after =>
      PublishAnswers committable log
        { principal, channelId, recipients, payload } answer after
  | .fetch _ _ fromSeq _ _ channels, answer, after =>
      FetchAnswers log fromSeq channels answer after
  | _, _, after => after = log

variable {setting : Setting}

/-- Others publish a message, or something happens at a provider. -/
inductive Interferes (before : WorldState setting) :
    WorldState setting → Prop where
  | published {message : Message} {log : Log}
      (allowed : setting.foreign before.log message)
      (appends : before.log.Appends ⟨message, false⟩ log) :
      Interferes before { before with log := log }
  | provider {provider : setting.provider.State}
      (steps : setting.provider.Steps before.provider provider) :
      Interferes before { before with provider := provider }

/-- The answer of a call, recorded in the trace. -/
structure Answers (before : WorldState setting) (request : Call)
    (answer : Answer request) (after : WorldState setting) : Prop where
  server : ServerAnswers setting.committable before.log request answer after.log
  provider : if request.isProvider then
      setting.provider.Answers before.provider request answer after.provider
    else after.provider = before.provider
  trace : after.trace = before.trace ++ [⟨request, answer⟩]

/-- The environment of the worker under a setting. -/
@[reducible]
def world (setting : Setting) : Environment service where
  State := WorldState setting
  Interferes := Interferes
  Answers := Answers

/-- Nobody else publishes, and the server takes every message. -/
def soleSetting : Setting where
  provider := arbitraryProvider
  foreign _ _ := False
  committable _ := True

/-- The world before anything happened. -/
def initialWorld : WorldState soleSetting where
  log := .empty
  provider := ()
  trace := []

/-! ## What calls and interference leave unchanged -/

/-- The call publishes nothing. -/
def Call.IsQuiet : Call → Prop
  | .publishAutoSeq .. => False
  | _ => True

theorem ownEntries_append_own {old new : Log} {message : Message}
    (appends : old.Appends ⟨message, true⟩ new) :
    ownEntries new = ownEntries old ++ [⟨message, true⟩] := by
  rw [ownEntries, appends.2.1, List.filter_append]
  rfl

theorem ownEntries_append_foreign {old new : Log} {message : Message}
    (appends : old.Appends ⟨message, false⟩ new) :
    ownEntries new = ownEntries old := by
  rw [ownEntries, appends.2.1, List.filter_append]
  exact List.append_nil _

theorem ServerAnswers.quiet {committable : Message → Prop} {log after : Log}
    {request : Call} {answer : Answer request} (quiet : Call.IsQuiet request)
    (answers : ServerAnswers committable log request answer after) :
    log.Extends after ∧ after.entries = log.entries := by
  cases request with
  | publishAutoSeq => exact absurd quiet id
  | getStatus =>
      cases answer with
      | ok response =>
          rw [answers.2]
          exact ⟨SequencedLog.Extends.refl log, rfl⟩
      | error error =>
          rw [show after = log from answers]
          exact ⟨SequencedLog.Extends.refl log, rfl⟩
  | fetch =>
      cases answers with
      | failed => exact ⟨SequencedLog.Extends.refl log, rfl⟩
      | page _ reserves => exact ⟨reserves.extends, reserves.2.1⟩
  | _ =>
      rw [show after = log from answers]
      exact ⟨SequencedLog.Extends.refl log, rfl⟩

theorem Answers.entries_eq {before after : WorldState setting}
    {request : Call} {answer : Answer request}
    (answers : Answers before request answer after)
    (quiet : Call.IsQuiet request) :
    after.log.entries = before.log.entries :=
  (answers.server.quiet quiet).2

theorem FetchAnswers.ok {log after : Log} {fromSeq : Nat}
    {channels : List Nat} {response : FetchResponse}
    (answers : FetchAnswers log fromSeq channels (.ok response) after) :
    HonestPage log fromSeq channels response ∧
      log.Reserves response.nextSeq after := by
  cases answers with
  | page honest reserves => exact ⟨honest, reserves⟩

/-- A publish that raises has committed only if its status leaves it open. -/
theorem PublishAnswers.error {committable : Message → Prop} {log after : Log}
    {record : Record} {error : PyError}
    (answers : PublishAnswers committable log record (.error error) after) :
    after = log ∨ ∃ message, recordOf message = record ∧
      committable message ∧ log.Appends ⟨message, true⟩ after ∧
        ∀ code, causeStatusCode error = some code →
          code ∉ guaranteedNotCommitted := by
  cases answers with
  | rejected => exact Or.inl rfl
  | committedThenFailed recorded accepted appends uncertain =>
      exact Or.inr ⟨_, recorded, accepted, appends, uncertain⟩

/-- A publish that replies has committed if the reply has a number. -/
theorem PublishAnswers.ok {committable : Message → Prop} {log after : Log}
    {record : Record} {response : PublishResponse}
    (answers : PublishAnswers committable log record (.ok response) after) :
    (after = log ∧ UnusableReply response) ∨
      ∃ message, recordOf message = record ∧ committable message ∧
        log.Appends ⟨message, true⟩ after ∧
          (response.seq = some message.seq ∨ UnusableReply response) := by
  cases answers with
  | lost unusable => exact Or.inl ⟨rfl, unusable⟩
  | committed recorded accepted appends replied =>
      exact Or.inr ⟨_, recorded, accepted, appends, replied⟩

theorem PublishAnswers.extends {committable : Message → Prop}
    {log after : Log} {record : Record}
    {answer : Except PyError PublishResponse}
    (answers : PublishAnswers committable log record answer after) :
    log.Extends after := by
  cases answers with
  | rejected => exact SequencedLog.Extends.refl log
  | lost => exact SequencedLog.Extends.refl log
  | committed _ _ appends _ => exact appends.extends
  | committedThenFailed _ _ appends _ => exact appends.extends

theorem Answers.extends {before after : WorldState setting}
    {request : Call} {answer : Answer request}
    (answers : Answers before request answer after) :
    before.log.Extends after.log := by
  by_cases quiet : Call.IsQuiet request
  · exact (answers.server.quiet quiet).1
  · cases request with
    | publishAutoSeq => exact PublishAnswers.extends answers.server
    | _ => exact absurd True.intro quiet

theorem Interferes.extends {before after : WorldState setting}
    (step : Interferes before after) : before.log.Extends after.log := by
  cases step with
  | published _ appends => exact appends.extends
  | provider => exact SequencedLog.Extends.refl _

theorem Interferes.ownEntries_eq {before after : WorldState setting}
    (step : Interferes before after) :
    ownEntries after.log = ownEntries before.log := by
  cases step with
  | published _ appends => exact ownEntries_append_foreign appends
  | provider => rfl

theorem Interferes.trace_eq {before after : WorldState setting}
    (step : Interferes before after) : after.trace = before.trace := by
  cases step with
  | published => rfl
  | provider => rfl

/-- The log and the trace only grow. -/
structure Grows (before after : WorldState setting) : Prop where
  log : before.log.Extends after.log
  trace : before.trace <+: after.trace

theorem Grows.refl (state : WorldState setting) : Grows state state :=
  ⟨SequencedLog.Extends.refl _, List.prefix_rfl⟩

theorem Grows.trans {first second third : WorldState setting}
    (left : Grows first second) (right : Grows second third) :
    Grows first third :=
  ⟨left.log.trans right.log, left.trace.trans right.trace⟩

theorem Interferes.grows {before after : WorldState setting}
    (step : Interferes before after) : Grows before after :=
  ⟨step.extends, by rw [step.trace_eq]⟩

theorem Answers.grows {before after : WorldState setting}
    {request : Call} {answer : Answer request}
    (answers : Answers before request answer after) : Grows before after :=
  ⟨answers.extends, by
    rw [answers.trace]
    exact List.prefix_append _ _⟩

/-- Everything that is true of all larger worlds stays true. -/
theorem stable_grows (first : WorldState setting) :
    (world setting).Stable (Grows first) :=
  fun _ _ step grown => grown.trans step.grows

theorem evolves_grows {before after : WorldState setting}
    (evolves : (world setting).Evolves before after) : Grows before after :=
  (stable_grows before).evolves evolves (Grows.refl before)

theorem visits_grows {Result : Type} {program : Action Result}
    {before after : WorldState setting}
    (visit : Visits (world setting) before program after) :
    Grows before after :=
  visit.relates Grows.refl (fun _ _ _ => Grows.trans)
    (fun _ _ => Interferes.grows) (fun _ _ _ _ => Answers.grows)

theorem runs_grows {Result : Type} {program : Action Result}
    {before after : WorldState setting} {outcome : Except PyError Result}
    (run : Runs (world setting) before program after outcome) :
    Grows before after :=
  visits_grows run.visits

/-- What is new in the log is the worker's own, or others may publish it. -/
def Explained (before after : WorldState setting) : Prop :=
  ∀ entry ∈ after.log.entries, entry ∈ before.log.entries ∨
    entry.own = true ∨ ∃ log, setting.foreign log entry.message

theorem Explained.refl (state : WorldState setting) : Explained state state :=
  fun _ => Or.inl

theorem Explained.trans {first second third : WorldState setting}
    (left : Explained first second) (right : Explained second third) :
    Explained first third := by
  intro entry member
  rcases right entry member with earlier | isNew
  · exact left entry earlier
  · exact Or.inr isNew

theorem Interferes.explained {before after : WorldState setting}
    (step : Interferes before after) : Explained before after := by
  cases step with
  | @published message log allowed appends =>
      intro entry member
      have split : log.entries = before.log.entries ++ [⟨message, false⟩] :=
        appends.2.1
      rcases List.mem_append.mp (split ▸ member) with earlier | isNew
      · exact Or.inl earlier
      · cases List.mem_singleton.mp isNew
        exact Or.inr (Or.inr ⟨_, allowed⟩)
  | provider => exact Explained.refl _

theorem PublishAnswers.explained {committable : Message → Prop}
    {log after : Log} {record : Record}
    {answer : Except PyError PublishResponse}
    (answers : PublishAnswers committable log record answer after) :
    ∀ entry ∈ after.entries, entry ∈ log.entries ∨ entry.own = true := by
  have appended : ∀ message, log.Appends ⟨message, true⟩ after →
      ∀ entry ∈ after.entries, entry ∈ log.entries ∨ entry.own = true := by
    intro message appends entry member
    rw [appends.2.1] at member
    rcases List.mem_append.mp member with earlier | isNew
    · exact Or.inl earlier
    · cases List.mem_singleton.mp isNew
      exact Or.inr rfl
  cases answers with
  | rejected => exact fun _ => Or.inl
  | lost => exact fun _ => Or.inl
  | committed _ _ appends _ => exact appended _ appends
  | committedThenFailed _ _ appends _ => exact appended _ appends

theorem Answers.explained {before after : WorldState setting}
    {request : Call} {answer : Answer request}
    (answers : Answers before request answer after) :
    Explained before after := by
  intro entry member
  by_cases quiet : Call.IsQuiet request
  · rw [answers.entries_eq quiet] at member
    exact Or.inl member
  · cases request with
    | publishAutoSeq =>
        exact (PublishAnswers.explained answers.server entry member).imp_right
          Or.inl
    | _ => exact absurd True.intro quiet

theorem runs_explained {Result : Type} {program : Action Result}
    {before after : WorldState setting} {outcome : Except PyError Result}
    (run : Runs (world setting) before program after outcome) :
    Explained before after :=
  run.visits.relates Explained.refl (fun _ _ _ => Explained.trans)
    (fun _ _ => Interferes.explained) (fun _ _ _ _ => Answers.explained)

theorem evolves_explained {before after : WorldState setting}
    (evolves : (world setting).Evolves before after) :
    Explained before after := by
  induction evolves with
  | refl => exact Explained.refl _
  | tail _ step ih => exact ih.trans step.explained

theorem loopReaches_grows {Vars Result : Type}
    {body : Vars → Action (Vars ⊕ Result)} {first vars : Vars}
    {before after : WorldState setting}
    (reached : LoopReaches (world setting) body first before vars after) :
    Grows before after := by
  refine @LoopReaches.invariant _ _ _ _ _ body (fun _ => Grows before) _ _ _ _
    reached (fun _ => stable_grows before) ?_ (Grows.refl before)
  intro vars next middle after grown run
  exact grown.trans (runs_grows run)

/-- A specification holds together with the growth since an earlier world. -/
theorem safe_grown {Result : Type} {program : Action Result}
    {invariant : WorldState setting → Prop}
    {returns : Result → WorldState setting → Prop}
    {fails : PyError → WorldState setting → Prop}
    {first state : WorldState setting} (since : Grows first state)
    (safe : Safe (world setting) invariant returns fails program state) :
    Safe (world setting) invariant
      (fun result after => returns result after ∧ Grows first after)
      (fun failure after => fails failure after ∧ Grows first after)
      program state := by
  induction program generalizing state with
  | ret result => exact ⟨safe.1, safe.2, since⟩
  | fail failure => exact ⟨safe.1, safe.2, since⟩
  | call request next ih =>
      refine ⟨safe.1, fun ready evolves => ?_⟩
      obtain ⟨within, step⟩ := safe.2 ready evolves
      refine ⟨within, fun answer answered answers => ?_⟩
      exact ih answer
        ((since.trans (evolves_grows evolves)).trans answers.grows)
        (step answer answered answers)

/-! ## Assertions that reads keep -/

/-- A call that only reads: neither a publish nor a provider call. -/
def Call.OnlyReads (request : Call) : Prop :=
  Call.IsQuiet request ∧ request.isProvider = false

theorem onlyReads_getStatus {principal : Nat} {token : String} :
    Call.OnlyReads (.getStatus principal token) := ⟨trivial, rfl⟩

theorem onlyReads_fetch {principal : Nat} {token : String}
    {fromSeq limit : Nat} {onlyMine : Bool} {channels : List Nat} :
    Call.OnlyReads (.fetch principal token fromSeq limit onlyMine channels) :=
  ⟨trivial, rfl⟩

theorem onlyReads_currentTimeMs : Call.OnlyReads .currentTimeMs :=
  ⟨trivial, rfl⟩

theorem onlyReads_stopIsSet : Call.OnlyReads .stopIsSet := ⟨trivial, rfl⟩

theorem onlyReads_stopWait {timeoutMs : Nat} :
    Call.OnlyReads (.stopWait timeoutMs) := ⟨trivial, rfl⟩

/-- Neither the others nor the worker's reads destroy the assertion. -/
structure KeptByReads (assertion : WorldState setting → Prop) : Prop where
  stable : (world setting).Stable assertion
  reads : ∀ before request answer after, Call.OnlyReads request →
    Answers before request answer after → assertion before → assertion after

/-- An assertion about the log that its growth does not destroy. -/
theorem keptByReads_of_extends {assertion : Log → Prop}
    (kept : ∀ old new, old.Extends new → assertion old → assertion new) :
    KeptByReads fun state : WorldState setting => assertion state.log where
  stable _ _ step := kept _ _ step.extends
  reads _ _ _ _ _ answers := kept _ _ answers.extends

theorem KeptByReads.and {left right : WorldState setting → Prop}
    (leftKept : KeptByReads left) (rightKept : KeptByReads right) :
    KeptByReads fun state => left state ∧ right state where
  stable _ _ step := And.imp (leftKept.stable _ _ step)
    (rightKept.stable _ _ step)
  reads _ _ _ _ reads answers := And.imp
    (leftKept.reads _ _ _ _ reads answers)
    (rightKept.reads _ _ _ _ reads answers)

/-- The rule for a call that only reads. -/
theorem KeptByReads.safe_call {invariant assertion : WorldState setting → Prop}
    {Result : Type} {returns : Result → WorldState setting → Prop}
    {fails : PyError → WorldState setting → Prop} {request : Call}
    {next : Answer request → Action Result} {state : WorldState setting}
    (kept : KeptByReads assertion) (onlyReads : Call.OnlyReads request)
    (sound : ∀ state, assertion state → invariant state)
    (holds : assertion state)
    (step : ∀ before answer after, assertion before → assertion after →
      Answers before request answer after →
        Safe (world setting) invariant returns fails (next answer) after) :
    Safe (world setting) invariant returns fails (.call request next) state :=
  Safe.call kept.stable sound holds fun before answer after holds answers =>
    step before answer after holds
      (kept.reads _ _ _ _ onlyReads answers holds) answers

/-- The rule for a reading call whose answer is processed before the rest. -/
theorem KeptByReads.safe_callBind
    {invariant assertion : WorldState setting → Prop} {Result Next : Type}
    {returns : Next → WorldState setting → Prop}
    {fails : PyError → WorldState setting → Prop} {request : Call}
    {next : Answer request → Action Result}
    {continuation : Result → Action Next} {state : WorldState setting}
    (kept : KeptByReads assertion) (onlyReads : Call.OnlyReads request)
    (sound : ∀ state, assertion state → invariant state)
    (holds : assertion state)
    (step : ∀ before answer after, assertion before → assertion after →
      Answers before request answer after →
        Safe (world setting) invariant returns fails
          (next answer >>= continuation) after) :
    Safe (world setting) invariant returns fails
      (.call request next >>= continuation) state :=
  kept.safe_call onlyReads sound holds step

end OpenEventIm.Service.World
