import OpenEventIm.Syncer.EventProvenance
import OpenEventIm.Syncer.WorkerTicks

/-!
# When a tick sends and publishes

At the moment of a send the request is due in the log.  A result is published
after a send of its request has reported the provider message.  A record is
published of an event that was delivered, when all requests of its channel that
were handed over have results in the log.
-/

namespace OpenEventIm.Syncer.WorkerGuards

open OpenEventIm.Foundation
open OpenEventIm.Foundation.Interaction
open OpenEventIm.Foundation.PendingCalls
open OpenEventIm.Sdk.Codec
open OpenEventIm.Sdk.Client
open OpenEventIm.Sdk.MessageReading
open OpenEventIm.Service.Calls
open OpenEventIm.Service.World
open OpenEventIm.Syncer.Models
open OpenEventIm.Syncer.State
open OpenEventIm.Syncer.State.RuntimeState
open OpenEventIm.Syncer.LogMeaning
open OpenEventIm.Syncer.HistoryReplay
open OpenEventIm.Syncer.Processor
open OpenEventIm.Syncer.Processor.SingleThreadProcessor
open OpenEventIm.Syncer.WrittenLog
open OpenEventIm.Syncer.WorkerLedger
open OpenEventIm.Syncer.WorkerMemory
open OpenEventIm.Syncer.WorkerMessages
open OpenEventIm.Syncer.WorkerCalls
open OpenEventIm.Syncer.WorkerTicks
open OpenEventIm.Syncer.EventProvenance

variable {setting : Setting} {deployed : P2PSyncer → Prop}
  {syncer : P2PSyncer} {handed : List Message} {state : RuntimeState}
  {task : OutboundTask} {channelId : Nat}
  {before after current : WorldState setting}
  {processor : SingleThreadProcessor}

/-- The requests of the channel that were handed over have results. -/
def Settled (syncer : P2PSyncer) (handed : List Message) (channelId : Nat)
    (entries : List LogEntry) : Prop :=
  ∀ task ∈ requestsIn syncer handed, task.channelId = channelId →
    firstResult (logFacts syncer entries) task.requestId ≠ none

/-- The record that a call publishes. -/
def publishOf? : Call → Option Record
  | .publishAutoSeq principal _ channelId payload recipients =>
      some { principal, channelId, recipients, payload }
  | _ => none

/-- The entries change only when a publish commits its record. -/
theorem entries_of_answers {request : Call} {answer : Answer request}
    (answers : Answers before request answer after) :
    after.log.entries = before.log.entries ∨ ∃ message,
      publishOf? request = some (recordOf message) ∧
        after.log.entries = before.log.entries ++ [⟨message, true⟩] := by
  have server := answers.server
  cases request with
  | publishAutoSeq =>
      cases answer with
      | ok response =>
          rcases PublishAnswers.ok server with ⟨same, -⟩ |
            ⟨message, recorded, -, appends, -⟩
          · exact Or.inl (by rw [same])
          · exact Or.inr ⟨message, congrArg some recorded.symm, appends.2.1⟩
      | error exc =>
          rcases PublishAnswers.error server with same |
            ⟨message, recorded, -, appends, -⟩
          · exact Or.inl (by rw [same])
          · exact Or.inr ⟨message, congrArg some recorded.symm, appends.2.1⟩
  | _ => exact Or.inl (answers.entries_eq trivial)

/-- A send of the request in the session has reported the provider message. -/
def Reported (trace : List Exchange) (session : Session)
    (requestId providerMessageId : String) : Prop :=
  ∃ user msgType content result,
    (⟨.sendMessage session.1 session.2 user msgType content requestId,
      .ok result⟩ : Exchange) ∈ trace ∧
        sentMessageId result = some providerMessageId

theorem Reported.mono {trace more : List Exchange} {session : Session}
    {requestId providerMessageId : String}
    (reported : Reported trace session requestId providerMessageId)
    (grown : trace <+: more) :
    Reported more session requestId providerMessageId := by
  rcases reported with ⟨user, msgType, content, result, member, same⟩
  exact ⟨user, msgType, content, result, grown.subset member, same⟩

/-- The task has a result on its channel. -/
def ResultOn (syncer : P2PSyncer) (entries : List LogEntry)
    (task : OutboundTask) : Prop :=
  ∃ result key, .result result key ∈ logFacts syncer entries ∧
    result.requestId = task.requestId ∧ result.channelId = task.channelId

/-- The sends are of requests of the log, and those of the channel have results
there. -/
def AnsweredSends (deployed : P2PSyncer → Prop) (syncer : P2PSyncer)
    (channelId : Nat) (sends : List Send) (entries : List LogEntry) : Prop :=
  ∀ send ∈ sends, ∃ author task, deployed author ∧
    task ∈ logRequests author entries ∧ SendOf author task send ∧
      (task.channelId = channelId → ResultOn syncer entries task)

theorem AnsweredSends.append {sends : List Send} {entries more : List LogEntry}
    (answered : AnsweredSends deployed syncer channelId sends entries) :
    AnsweredSends deployed syncer channelId sends (entries ++ more) := by
  intro send member
  rcases answered send member with
    ⟨author, task, deploys, inside, made, hasResult⟩
  refine ⟨author, task, deploys, ?_, made, fun channel => ?_⟩
  · rw [logRequests_append]
    exact List.mem_append_left _ inside
  · rcases hasResult channel with ⟨result, key, isResult, same, onChannel⟩
    refine ⟨result, key, ?_, same, onChannel⟩
    rw [logFacts_append]
    exact List.mem_append_left _ isResult

/-- What holds when a record of the event is published on the channel. -/
structure Recording (deployed : P2PSyncer → Prop) (syncer : P2PSyncer)
    (handed : List Message) (channelId : Nat) (event : ProviderEvent)
    (current : WorldState setting) : Prop where
  settled : Settled syncer handed channelId current.log.entries
  answered : (∀ author, deployed author → author.text = syncer.text) →
    AnsweredSends deployed syncer channelId (sendsOf current.trace)
      current.log.entries
  delivered : Delivered current.trace event

/-- What holds when a call is made. -/
structure Permitted (deployed : P2PSyncer → Prop) (syncer : P2PSyncer)
    (handed : List Message) (current : WorldState setting) (request : Call) :
    Prop where
  sends : ∀ send, sendOf? request = some send →
    ∃ task, Due syncer current.log.entries task ∧ SendOf syncer task send
  results : ∀ message parsed, publishOf? request = some (recordOf message) →
    readMessage syncer.text message = some parsed →
      parsed.kind = .sendResult → ∃ task session providerMessageId,
        CarriesResult syncer task session providerMessageId message parsed ∧
          Reported current.trace session task.requestId providerMessageId
  records : ∀ message parsed, publishOf? request = some (recordOf message) →
    readMessage syncer.text message = some parsed →
      parsed.kind = .syncRecord → ∃ event prevSeq,
        CarriesEvent syncer message.channelId event prevSeq message parsed ∧
          Recording deployed syncer handed message.channelId event current

/-- Inert calls are permitted. -/
theorem permitted_inert {request : Call} (inert : Inert request) :
    Permitted deployed syncer handed current request := by
  have silent : publishOf? request = none := by
    cases request with
    | publishAutoSeq => exact absurd inert.1 id
    | _ => rfl
  constructor
  · intro send isSend
    rw [inert.2] at isSend
    cases isSend
  · intro message parsed published
    rw [silent] at published
    cases published
  · intro message parsed published
    rw [silent] at published
    cases published

/-! ## Requests -/

/-- A publish of a result, after its request has been sent. -/
theorem permitted_result {request : Call} {session : Session}
    {providerMessageId : String} {eventMs : Int}
    (usable : providerMessageId ≠ "")
    (mapped : syncer.mapping.providerSession task.channelId = .ok session)
    (reported : Reported current.trace session task.requestId
      providerMessageId)
    (only : PublishesOnly (fun record =>
      (resultMethod syncer task providerMessageId eventMs).record syncer.text =
        .ok record) request) :
    Permitted deployed syncer handed current request := by
  have carried {message : Message}
      (published : publishOf? request = some (recordOf message)) :
      ∃ parsed,
        CarriesResult syncer task session providerMessageId message parsed := by
    cases request with
    | publishAutoSeq =>
        cases published
        exact carriesResult_of_record usable mapped only
    | _ => cases published
  constructor
  · intro send isSend
    rw [noSend_of_publishesOnly only] at isSend
    cases isSend
  · intro message parsed published read _
    rcases carried published with ⟨result, carries⟩
    cases carries.read.symm.trans read
    exact ⟨task, session, providerMessageId, carries, reported⟩
  · intro message parsed published read isRecord
    rcases carried published with ⟨result, carries⟩
    cases carries.read.symm.trans read
    cases carries.kind.symm.trans isRecord

/-- A send that returns has reported what it returns. -/
theorem safe_sendTask_reported {session : Session} {user : String} :
    Safe (world setting) (fun _ => True)
      (fun providerMessageId after => Reported after.trace session
        task.requestId providerMessageId)
      (fun _ _ => True) (sendTask task session user) current := by
  have sent : Safe (world setting) (fun _ => True)
      (fun result after =>
        (⟨.sendMessage session.1 session.2 user task.msgType task.content
          task.requestId, .ok result⟩ : Exchange) ∈ after.trace)
      (fun _ _ => True)
      (sendMessage session.1 session.2 user task.msgType task.content
        task.requestId) current := by
    refine ⟨trivial, fun ready _ => ⟨trivial, ?_⟩⟩
    intro answer answered answers
    cases answer with
    | error exc => exact ⟨trivial, trivial⟩
    | ok result =>
        refine ⟨trivial, ?_⟩
        have trace := Answers.trace answers
        dsimp only
        rw [trace]
        exact List.mem_append_right _ (List.mem_singleton_self _)
  rw [sendTask]
  apply (safe_rethrow sent _).bind
  intro result after _ member
  dsimp only
  cases found : sentMessageId result with
  | none => exact ⟨trivial, trivial⟩
  | some providerMessageId =>
      exact ⟨trivial, user, task.msgType, task.content, result, member, found⟩

theorem guarded_sendTask {session : Session} {user : String}
    (sole : SoleWriter setting syncer.text .sendResult)
    (routed : sendRoute syncer task = .ok (session, user))
    (working : Working setting deployed syncer handed state task current) :
    Guarded (world setting) (Permitted deployed syncer handed)
      (sendTask task session user) current := by
  have silent {Result : Type} (program : Action Result)
      (calls : program.Calls fun _ => False) (state : WorldState setting) :
      Guarded (world setting) (Permitted deployed syncer handed) program state :=
    guarded_calls calls fun _ _ none => absurd none id
  have made : SendOf syncer task
      ⟨session, user, task.msgType, task.content, task.requestId⟩ :=
    ⟨routed, rfl, rfl, rfl⟩
  have sent : Guarded (world setting) (Permitted deployed syncer handed)
      (sendMessage session.1 session.2 user task.msgType task.content
        task.requestId) current := by
    rw [sendMessage]
    refine guarded_call (working_kept sole).stable working ?_ ?_
    · intro ready isWorking
      constructor
      · intro send isSend
        cases isSend
        exact ⟨task, isWorking.due, made⟩
      · intro message parsed published
        cases published
      · intro message parsed published
        cases published
    · intro ready answer answered _ _
      exact silent _ (calls_ofExcept answer) _
  rw [sendTask]
  refine Guarded.bind (sent.handle (safe_true _ _) ?_) (safe_true _ _) ?_
  · intro exc after _ _
    exact guarded_fail
  · intro result after _ _
    apply silent
    dsimp only
    cases sentMessageId result <;> exact True.intro

theorem guarded_processOutboundTask
    (sole : SoleWriter setting syncer.text .sendResult)
    (deploys : deployed syncer)
    (selected : state.nextPendingTask.1 = some task)
    (knows : Knows setting deployed syncer handed state current) :
    Guarded (world setting) (Permitted deployed syncer handed)
      (processOutboundTask syncer state.nextPendingTask.2 task) current := by
  rw [processOutboundTask]
  cases routed : sendRoute syncer task with
  | error exc => exact guarded_fail
  | ok route =>
      rcases route with ⟨session, user⟩
      have working : Working setting deployed syncer handed state task current :=
        ⟨knows, knows.due selected⟩
      rw [Action.ofExcept_ok, Program.ret_bind]
      have sent := safe_sendTask sole deploys selected routed working
      have both := (sent.weaken fun _ _ => trivial).and
        (@safe_sendTask_reported setting task current session user)
      refine (guarded_sendTask sole routed working).bind both ?_
      rintro providerMessageId sent - ⟨⟨usable, -⟩, reported⟩
      refine Guarded.bind ?_ (safe_grown (Grows.refl sent)
        (safe_true currentTimeMs sent)) ?_
      · exact guarded_calls calls_currentTimeMs
          fun _ _ inert => permitted_inert inert
      · rintro eventMs timed - ⟨-, grows⟩
        refine Guarded.bind ?_ (safe_true _ _) fun _ _ _ _ => guarded_ret
        refine guarded_kept (stable_grows timed) ?_ ?_ (calls_publish _ _ _)
          (Grows.refl timed)
        · intro before request answer after _ answers grown
          exact grown.trans answers.grows
        · intro ready request only grown
          exact permitted_result usable (providerSession_of_sendRoute routed)
            (reported.mono (grows.trace.trans grown.trace)) only

/-! ## Events -/

theorem Settled.mono {entries more : List LogEntry}
    (settled : Settled syncer handed channelId entries)
    (grown : entries <+: more) : Settled syncer handed channelId more := by
  rcases grown with ⟨added, rfl⟩
  intro task member channel
  exact answered_append (settled task member channel)

/-- Without a pending request the channel is settled. -/
theorem Knows.settled
    (knows : Knows setting deployed syncer handed state current)
    (none : state.channelHasPending channelId = false) :
    Settled syncer handed channelId current.log.entries := by
  intro task member channel
  rcases knows.memory with ⟨facts, remembers⟩
  rw [← remembers.results]
  intro unanswered
  cases known : firstRequest (requestsIn syncer handed) task.requestId with
  | none => exact absurd (List.find?_eq_none.mp known task member) (by simp)
  | some first =>
      have pending := remembers.reflects.pending task.requestId
      rw [unanswered] at pending
      have found : state.requestsById.get? task.requestId = some first :=
        pending.trans known
      have other := (channelHasPending_eq_false_iff state).mp none _ _ found
      exact other ((knows.sameChannel task member first known).trans channel)

/-- In a settled channel all sends have been answered. -/
theorem Knows.answeredSends {session : Session}
    (knows : Knows setting deployed syncer handed state current)
    (settled : Settled syncer handed channelId current.log.entries)
    (mapped : syncer.mapping.providerSession channelId = .ok session)
    (sameText : ∀ author, deployed author → author.text = syncer.text) :
    AnsweredSends deployed syncer channelId (sendsOf current.trace)
      current.log.entries := by
  intro send member
  rcases knows.sent sameText send member with
    ⟨author, task, deploys, inside, made, isHanded⟩
  refine ⟨author, task, deploys, inside, made, ?_⟩
  rintro rfl
  have handedOver := isHanded
    (Mapping.P2PMappingIndex.ownsChannel_of_providerSession syncer.built mapped)
  rcases firstResult_ne_none_iff.mp (settled task handedOver rfl) with
    ⟨result, key, isResult, same⟩
  rcases knows.answers result key isResult with ⟨first, found, channel⟩
  rw [same] at found
  exact ⟨result, key, isResult, same,
    channel.trans (knows.sameChannel task handedOver first found)⟩

section Recording

variable {event : ProviderEvent} {prevSeq : Option Nat} {request : Call}

/-- A publish of a record of the event. -/
theorem permitted_record
    (mapped : syncer.mapping.providerSession channelId =
      .ok (event.provider, event.sessionId))
    (recording : Recording deployed syncer handed channelId event current)
    (only : PublishesOnly (EventRecord syncer channelId event prevSeq)
      request) : Permitted deployed syncer handed current request := by
  have carried {message : Message}
      (published : publishOf? request = some (recordOf message)) :
      ∃ parsed, CarriesEvent syncer channelId event prevSeq message parsed := by
    cases request with
    | publishAutoSeq =>
        cases published
        exact EventRecord.carries only mapped
    | _ => cases published
  constructor
  · intro send isSend
    rw [noSend_of_publishesOnly only] at isSend
    cases isSend
  · intro message parsed published read isResult
    rcases carried published with ⟨record, carries⟩
    cases carries.read.symm.trans read
    cases carries.kind.symm.trans isResult
  · intro message parsed published read _
    rcases carried published with ⟨record, carries⟩
    cases carries.read.symm.trans read
    have channel : message.channelId = channelId := by
      rw [← (readMessage_envelope read).2.1]
      exact congrArg InboundKey.channelId carries.key
    rw [← channel] at recording carries
    exact ⟨event, prevSeq, carries, recording⟩

theorem Recording.interferes
    (recording : Recording deployed syncer handed channelId event before)
    (step : Interferes before after) :
    Recording deployed syncer handed channelId event after where
  settled := recording.settled.mono step.extends.isPrefix
  answered sameText := by
    rcases step.extends.isPrefix with ⟨more, whole⟩
    rw [step.trace_eq, ← whole]
    exact (recording.answered sameText).append
  delivered := recording.delivered.mono step.grows.trace

/-- A call that is no send. -/
theorem Recording.answers {answer : Answer request}
    (recording : Recording deployed syncer handed channelId event before)
    (noSend : sendOf? request = none)
    (answers : Answers before request answer after) :
    Recording deployed syncer handed channelId event after where
  settled := recording.settled.mono answers.extends.isPrefix
  answered sameText := by
    rcases answers.extends.isPrefix with ⟨more, whole⟩
    rw [sendsOf_answers answers, noSend, Option.toList_none, List.append_nil,
      ← whole]
    exact (recording.answered sameText).append
  delivered := recording.delivered.mono answers.grows.trace

theorem guarded_publishProviderEvent
    (mapped : syncer.mapping.providerSession channelId =
      .ok (event.provider, event.sessionId))
    (recording : Recording deployed syncer handed channelId event current) :
    Guarded (world setting) (Permitted deployed syncer handed)
      (publishProviderEvent syncer state channelId event) current := by
  refine guarded_kept ?_ ?_ ?_ (calls_publishProviderEvent _ _ _ _) recording
  · intro before after step holds
    exact Recording.interferes holds step
  · intro before request answer after only answers holds
    exact holds.answers (noSend_of_publishesOnly only) answers
  · intro world request only holds
    exact permitted_record mapped holds only

end Recording

theorem guarded_processEvents (skipped events : List ProviderEvent)
    (isDelivered : ∀ event ∈ events, Delivered current.trace event)
    (knows : Knows setting deployed syncer handed processor.state current) :
    Guarded (world setting) (Permitted deployed syncer handed)
      (processEvents syncer processor skipped events) current := by
  induction events generalizing skipped with
  | nil => exact guarded_ret
  | cons event rest ih =>
      rcases List.forall_mem_cons.mp isDelivered with ⟨delivered, others⟩
      rw [processEvents]
      cases mapped : syncer.mapping.channelForProviderSession event.provider
          event.sessionId with
      | error exc => exact guarded_fail
      | ok channelId =>
          dsimp only
          by_cases waits : processor.state.channelHasPending channelId = true
          · rw [if_pos waits]
            exact ih _ others
          · rw [if_neg waits]
            have session : syncer.mapping.providerSession channelId =
                .ok (event.provider, event.sessionId) :=
              (Mapping.P2PMappingIndex.channelForProviderSession_iff
                syncer.built).mp mapped
            have settled := Knows.settled knows (Bool.not_eq_true _ ▸ waits)
            have recording : Recording deployed syncer handed channelId event
                current :=
              { settled
                answered := Knows.answeredSends knows settled session
                delivered }
            refine (guarded_publishProviderEvent session recording).bind
              (safe_true _ _) ?_
            intro state after _ _
            refine Guarded.bind ?_ (safe_true _ _) fun _ _ _ _ => guarded_ret
            exact guarded_calls (calls_ofExcept _)
              fun _ _ inert => permitted_inert inert

/-! ## A tick -/

theorem guarded_doWork (sole : SoleWriter setting syncer.text .sendResult)
    (deploys : deployed syncer) (index : Nat)
    (holds : HoldsDelivered processor current)
    (knows : Knows setting deployed syncer handed processor.state current) :
    Guarded (world setting) (Permitted deployed syncer handed)
      (doWork syncer processor index) current := by
  rw [doWork]
  split_ifs
  · rw [processNextOutboundTask]
    rcases taken : processor.state.nextPendingTask with ⟨selected, state⟩
    cases selected with
    | none => exact guarded_ret
    | some task =>
        have selected : processor.state.nextPendingTask.1 = some task := by
          rw [taken]
        have guarded := guarded_processOutboundTask sole deploys selected knows
        rw [show processor.state.nextPendingTask.2 = state by rw [taken]]
          at guarded
        exact guarded.bind (safe_true _ _) fun _ _ _ _ => guarded_ret
  · exact guarded_processEvents _ _ holds.pending knows

theorem guarded_workFrom (sole : SoleWriter setting syncer.text .sendResult)
    (deploys : deployed syncer) (workTurn offset remaining : Nat)
    (holds : HoldsDelivered processor current)
    (knows : Knows setting deployed syncer handed processor.state current) :
    Guarded (world setting) (Permitted deployed syncer handed)
      (workFrom syncer workTurn processor offset remaining) current := by
  induction remaining generalizing processor offset current with
  | zero => exact guarded_ret
  | succ remaining ih =>
      rw [workFrom]
      have delivered := @safe_delivered processor setting _ current _ Prod.snd
        holds fun _ => given_doWork syncer ((workTurn + offset) % 2)
      have known := safe_doWork sole deploys ((workTurn + offset) % 2) knows
      refine (guarded_doWork sole deploys _ holds knows).bind
        (delivered.and (known.weaken fun _ _ => trivial)) ?_
      rintro ⟨worked, next⟩ after - ⟨nextHolds, nextKnows⟩
      cases worked with
      | true => exact guarded_ret
      | false => exact ih _ nextHolds nextKnows

/-- The calls of a tick are made as permitted. -/
theorem guarded_tick (sole : SoleWriter setting syncer.text .sendResult)
    (deploys : deployed syncer) (holds : HoldsDelivered processor current)
    (knows : Knows setting deployed syncer handed processor.state current) :
    Guarded (world setting) (Permitted deployed syncer handed)
      (tick syncer processor) current := by
  have inertly {Result : Type} (program : Action Result)
      (calls : program.Calls Inert) (middle : WorldState setting) :
      Guarded (world setting) (Permitted deployed syncer handed) program
        middle :=
    guarded_calls calls fun _ _ inert => permitted_inert inert
  have asked : stopIsSet.Calls Inert := ⟨⟨trivial, rfl⟩, fun _ => True.intro⟩
  rw [tick]
  refine (inertly _ asked _).bind
    (safe_grown (Grows.refl current) (safe_inert sole asked knows)) ?_
  rintro stopped after - ⟨known, grows⟩
  have afterHolds : HoldsDelivered processor after :=
    holds.mono fun event delivered => delivered.mono grows.trace
  split_ifs
  · exact guarded_ret
  · have delivered := @safe_delivered processor setting _ after _ id
      afterHolds fun _ => given_collectProviderMessages
    refine (inertly _ (calls_collectProviderMessages _) _).bind
      (delivered.and ((safe_collectProviderMessages sole known).weaken
        fun _ _ => trivial)) ?_
    rintro collected middle - ⟨collectedHolds, next⟩
    exact guarded_workFrom sole deploys _ _ _ collectedHolds next

end OpenEventIm.Syncer.WorkerGuards
