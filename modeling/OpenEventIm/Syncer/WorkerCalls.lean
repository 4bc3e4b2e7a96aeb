import OpenEventIm.Foundation.PendingCalls
import OpenEventIm.Syncer.TickRuns
import OpenEventIm.Syncer.Worker
import OpenEventIm.Syncer.WorkerLedger
import OpenEventIm.Syncer.WorkerMessages

/-!
# The calls of the worker's parts

Reading the log and asking the pullers neither publishes nor sends, and a
publish does not send.
-/

namespace OpenEventIm.Syncer.WorkerCalls

open OpenEventIm.Foundation
open OpenEventIm.Foundation.Interaction
open OpenEventIm.Foundation.PendingCalls
open OpenEventIm.Sdk.Errors
open OpenEventIm.Sdk.Client
open OpenEventIm.Service.Calls
open OpenEventIm.Service.World
open OpenEventIm.Syncer.Models
open OpenEventIm.Syncer.State
open OpenEventIm.Syncer.HistoryReplay
open OpenEventIm.Syncer.ProviderMessages
open OpenEventIm.Syncer.ProviderMessages.ProviderMessagePuller
open OpenEventIm.Syncer.PublishRetry
open OpenEventIm.Syncer.Processor
open OpenEventIm.Syncer.Processor.SingleThreadProcessor
open OpenEventIm.Syncer.PollEvents
open OpenEventIm.Syncer.TickRuns
open OpenEventIm.Syncer.Worker
open OpenEventIm.Syncer.WorkerLedger
open OpenEventIm.Syncer.WorkerMessages

variable {Result : Type} {allowed : Call → Prop}

theorem calls_ofExcept (computed : Except PyError Result) :
    (Action.ofExcept computed).Calls allowed := by
  cases computed <;> exact True.intro

theorem calls_callBind {Next : Type} {request : Call}
    {next : Answer request → Action Result}
    {continuation : Result → Action Next} (isAllowed : allowed request)
    (rest : ∀ answer, (next answer >>= continuation).Calls allowed) :
    ((.call request next : Action Result) >>= continuation).Calls allowed :=
  ⟨isAllowed, rest⟩

/-- A single call whose answer is returned or raised. -/
theorem calls_perform {request : Call} (isAllowed : allowed request)
    {answered : Answer request → Except PyError Result} :
    (Program.call request fun answer =>
      Action.ofExcept (answered answer) : Action Result).Calls allowed :=
  ⟨isAllowed, fun _ => calls_ofExcept _⟩

theorem calls_currentTimeMs : currentTimeMs.Calls Inert :=
  ⟨⟨trivial, rfl⟩, fun _ => True.intro⟩

theorem yields_trivial (program : Action Result) :
    program.Yields fun _ => True := by
  induction program with
  | ret => exact True.intro
  | fail => exact True.intro
  | call request next ih => exact ih

/-! ## Pullers -/

section Pullers

variable (puller : ProviderMessagePuller)

theorem calls_raiseStreamError : puller.raiseStreamError.Calls Inert := by
  rw [raiseStreamError, eventStreamError]
  apply Program.Calls.bind (calls_perform ⟨trivial, rfl⟩)
  intro error
  cases error <;> exact True.intro

theorem calls_scheduleReconnectHandoff :
    puller.scheduleReconnectHandoff.Calls Inert := by
  rw [scheduleReconnectHandoff, eventStreamGeneration]
  apply Program.Calls.bind (calls_perform ⟨trivial, rfl⟩)
  intro generation
  split_ifs
  · exact True.intro
  · exact True.intro
  · exact ⟨⟨trivial, rfl⟩, fun _ => True.intro⟩

theorem calls_collectLiveEvent : puller.collectLiveEvent.Calls Inert := by
  rw [collectLiveEvent]
  split_ifs
  · exact True.intro
  · rw [takeEvent]
    apply Program.Calls.bind (calls_perform ⟨trivial, rfl⟩)
    intro event
    cases event with
    | none => exact True.intro
    | some event =>
        dsimp only
        split_ifs <;> exact True.intro

theorem calls_fetchHistoryPageOf (sessionId : String)
    (state : SessionPullState) (nowMs : Int) :
    (puller.fetchHistoryPageOf sessionId state nowMs).Calls Inert := by
  rw [fetchHistoryPageOf]
  cases state.historyScan with
  | none => exact True.intro
  | some scan =>
      refine ⟨⟨trivial, rfl⟩, fun answer => ?_⟩
      cases answer with
      | error exc =>
          dsimp only
          split_ifs <;> exact True.intro
      | ok page =>
          dsimp only
          split_ifs <;> exact True.intro

theorem calls_serveLive (index : Nat) (sessionId : String)
    (state : SessionPullState) :
    (match puller.deliverLive index sessionId state with
      | some (event, next) => pure (some event, next)
      | none => pure (none, puller) :
        Action (Option ProviderEvent × ProviderMessagePuller)).Calls
      Inert := by
  cases puller.deliverLive index sessionId state <;> exact True.intro

theorem calls_serveSession (nowMs : Int) (index : Nat) (sessionId : String)
    (state : SessionPullState) :
    (puller.serveSession nowMs index sessionId state).Calls Inert := by
  rw [serveSession]
  by_cases busy : state.inFlight.isSome = true
  · rw [if_pos busy]
    exact True.intro
  · rw [if_neg busy]
    cases state.historyEvents with
    | cons event rest => exact True.intro
    | nil =>
        dsimp only
        split_ifs
        · apply Program.Calls.bind (calls_fetchHistoryPageOf puller _ _ _)
          intro next
          cases next.historyEvents with
          | cons event rest => exact True.intro
          | nil => exact calls_serveLive _ _ _ _
        · exact calls_serveLive _ _ _ _

theorem calls_serveSessions (nowMs : Int) (offset remaining : Nat) :
    (puller.serveSessions nowMs offset remaining).Calls Inert := by
  induction remaining generalizing puller offset with
  | zero => exact True.intro
  | succ remaining ih =>
      rw [serveSessions]
      cases puller.sessionOrder[(puller.sessionCursor + offset) %
          puller.sessionOrder.length]? with
      | none => exact True.intro
      | some sessionId =>
          dsimp only
          cases puller.sessions.get? sessionId with
          | none => exact True.intro
          | some state =>
              apply Program.Calls.bind (calls_serveSession puller _ _ _ _)
              rintro ⟨event, next⟩
              cases event with
              | none => exact ih next _
              | some event => exact True.intro

theorem calls_takeMessage : puller.takeMessage.Calls Inert := by
  rw [takeMessage]
  split_ifs
  · exact True.intro
  · apply Program.Calls.bind (calls_raiseStreamError puller)
    intro _
    apply Program.Calls.bind (calls_scheduleReconnectHandoff puller)
    intro scheduled
    apply Program.Calls.bind (calls_collectLiveEvent scheduled)
    intro collected
    apply Program.Calls.bind (calls_raiseStreamError collected)
    intro _
    apply Program.Calls.bind (calls_scheduleReconnectHandoff collected)
    intro rescheduled
    apply Program.Calls.bind calls_currentTimeMs
    intro nowMs
    exact calls_serveSessions rescheduled _ _ _

theorem calls_start (highwater : Dict String (Option Int)) :
    (puller.start highwater).Calls Inert := by
  rw [start]
  split_ifs
  · exact True.intro
  · exact True.intro
  · rw [startEventStream, eventStreamGeneration]
    apply Program.Calls.bind (calls_perform ⟨trivial, rfl⟩)
    intro _
    apply Program.Calls.bind calls_currentTimeMs
    intro nowMs
    apply Program.Calls.bind (calls_perform ⟨trivial, rfl⟩)
    intro generation
    exact True.intro

end Pullers

/-- A handler that calls as little as the program does. -/
theorem calls_handle {program : Action Result}
    {handler : PyError → Action Result} (calls : program.Calls allowed)
    (recover : ∀ exc, (handler exc).Calls allowed) :
    (program.handle handler).Calls allowed := by
  induction program with
  | ret result => exact True.intro
  | fail exc => exact recover exc
  | call request next ih =>
      exact ⟨calls.1, fun answer => ih answer (calls.2 answer)⟩

section Lists

variable (syncer : P2PSyncer)

theorem calls_collectFrom (limit : Nat) (pending : List ProviderEvent)
    (pullers : List (String × ProviderMessagePuller)) :
    (collectFrom limit pending pullers).Calls Inert := by
  induction pullers generalizing pending with
  | nil => exact True.intro
  | cons first rest ih =>
      rw [collectFrom]
      split_ifs
      · exact True.intro
      · apply Program.Calls.bind
        · exact calls_handle (calls_takeMessage _) fun _ => True.intro
        · rintro ⟨event, puller⟩
          apply Program.Calls.bind (ih _)
          intro collected
          exact True.intro

theorem calls_collectProviderMessages (processor : SingleThreadProcessor) :
    (collectProviderMessages processor).Calls Inert := by
  rw [collectProviderMessages]
  exact Program.Calls.bind (calls_collectFrom _ _ _) fun _ => True.intro

/-- The collection does not touch the runtime state. -/
theorem yields_state_collectProviderMessages
    (processor : SingleThreadProcessor) :
    (collectProviderMessages processor).Yields fun collected =>
      collected.state = processor.state := by
  rw [collectProviderMessages]
  exact (yields_trivial _).bind fun _ _ => rfl

theorem calls_startMessagePullers (state : RuntimeState)
    (pullers : List (String × ProviderMessagePuller)) :
    (startMessagePullers syncer state pullers).Calls Inert := by
  induction pullers with
  | nil => exact True.intro
  | cons first rest ih =>
      rw [startMessagePullers]
      apply Program.Calls.bind (calls_ofExcept _)
      intro highwater
      apply Program.Calls.bind (calls_start _ _)
      intro started
      exact Program.Calls.bind ih fun _ => True.intro

theorem calls_stopMessagePullers
    (pullers : List (String × ProviderMessagePuller)) :
    (stopMessagePullers pullers).Calls Inert := by
  induction pullers with
  | nil => exact True.intro
  | cons first rest ih =>
      rw [stopMessagePullers, stop, stopEventStream]
      apply Program.Calls.bind
      · exact Program.Calls.bind (calls_perform ⟨trivial, rfl⟩) fun _ =>
          True.intro
      · intro _
        exact ih

end Lists

/-! ## Publishes -/

section Publishes

/-- The call is no send, and a publish only of a record with the property. -/
def PublishesOnly (property : Record → Prop) : Call → Prop
  | .publishAutoSeq principal _ channelId payload recipients =>
      property { principal, channelId, recipients, payload }
  | .sendMessage .. => False
  | _ => True

theorem noSend_of_publishesOnly {property : Record → Prop} {request : Call}
    (only : PublishesOnly property request) : sendOf? request = none := by
  cases request with
  | sendMessage => exact absurd only id
  | _ => rfl

theorem calls_mono {program : Action Result} {weaker : Call → Prop}
    (calls : program.Calls allowed)
    (implies : ∀ request, allowed request → weaker request) :
    program.Calls weaker := by
  induction program with
  | ret result => exact True.intro
  | fail exc => exact True.intro
  | call request next ih =>
      exact ⟨implies _ calls.1, fun answer => ih answer (calls.2 answer)⟩

variable {token : String} {record : Record}

theorem calls_reconcilePages (reconcileMaxSeq fromSeq : Nat) :
    (reconcilePages token record reconcileMaxSeq fromSeq).Calls
      (PublishesOnly (· = record)) := by
  induction remaining : reconcileMaxSeq + 1 - fromSeq using
    Nat.strong_induction_on generalizing fromSeq with
  | _ remaining ih =>
      rw [reconcilePages]
      split_ifs with inRange
      · rw [fetch]
        apply Program.Calls.bind (calls_perform trivial)
        intro response
        cases findPublished record reconcileMaxSeq response.messages with
        | some message =>
            exact Program.Calls.bind (calls_ofExcept _) fun _ => True.intro
        | none =>
            apply Program.Calls.bind (calls_ofExcept _)
            intro nextSeq
            split_ifs with stuck
            · exact True.intro
            · exact ih _ (by omega) _ rfl
      · exact True.intro

theorem calls_publishRecord :
    (publishRecord token record).Calls (PublishesOnly (· = record)) := by
  have status : (getStatus record.principal token).Calls
      (PublishesOnly (· = record)) :=
    calls_perform trivial
  have published : (publishOnce token record).Calls
      (PublishesOnly (· = record)) := by
    rw [publishOnce, publishAutoSeq]
    apply Program.Calls.bind
    · exact calls_perform (by exact rfl)
    intro response
    cases response.seq with
    | none => exact True.intro
    | some seq => exact calls_ofExcept _
  have searched (floor : Nat) : (searchPublished token record floor).Calls
      (PublishesOnly (· = record)) := by
    rw [searchPublished]
    apply Program.Calls.bind status
    intro response
    apply Program.Calls.bind (calls_ofExcept _)
    intro reconcileMaxSeq
    split_ifs
    · exact True.intro
    · exact calls_reconcilePages _ _
  rw [publishRecord, getPrePublishMaxSeq]
  apply Program.Calls.bind
  · refine calls_handle ?_ fun _ => True.intro
    exact Program.Calls.bind status fun _ => calls_ofExcept _
  · intro floor
    apply calls_handle published
    intro exc
    split_ifs
    · exact True.intro
    · rw [reconcileUncertainPublish]
      apply Program.Calls.bind
      · exact calls_handle (searched floor) fun _ => True.intro
      · intro found
        cases found <;> exact True.intro

/-- A method of the client publishes nothing but its own record. -/
theorem calls_publish (text : JsonText) (method : PublishMethod)
    (retry : RetryConfig) :
    (publishWithRetry retry (method.publish text)).Calls
      (PublishesOnly fun record => method.record text = .ok record) := by
  have once : (method.publish text).Calls
      (PublishesOnly fun record => method.record text = .ok record) := by
    rw [PublishMethod.publish_eq]
    cases built : method.record text with
    | error exc => exact True.intro
    | ok record =>
        rw [Action.ofExcept_ok, Program.ret_bind]
        apply calls_mono calls_publishRecord
        intro request only
        cases request with
        | publishAutoSeq => exact congrArg Except.ok (Eq.symm only)
        | _ => exact only
  rw [publishWithRetry]
  induction retry.publishMaxAttempts with
  | zero => exact True.intro
  | succ remaining ih =>
      rw [publishAttempts]
      apply calls_handle once
      intro exc
      split_ifs
      · exact True.intro
      · exact True.intro
      · exact True.intro
      · rw [stopWait]
        apply calls_callBind trivial
        intro stopped
        rw [Program.ret_bind]
        split_ifs
        · exact True.intro
        · exact ih

/-- An event is published on its channel only. -/
theorem calls_publishProviderEvent (syncer : P2PSyncer)
    (state : RuntimeState) (channelId : Nat) (event : ProviderEvent) :
    (publishProviderEvent syncer state channelId event).Calls
      (PublishesOnly (EventRecord syncer channelId event
        (state.sendResultByProviderMessage.get?
          (inboundKey channelId event)))) := by
  have published {route : RecordRoute} (req : Sdk.Codec.SyncRecordInput)
      (routed : recordRoute syncer channelId event = .ok route)
      (input : RecordInput event (state.sendResultByProviderMessage.get?
        (inboundKey channelId event)) req) :
      ((do
        let _ ← SingleThreadProcessor.publishSyncRecord syncer route req
        return ()) : Action Unit).Calls
          (PublishesOnly (EventRecord syncer channelId event
            (state.sendResultByProviderMessage.get?
              (inboundKey channelId event)))) := by
    apply Program.Calls.bind
    · rw [SingleThreadProcessor.publishSyncRecord]
      apply calls_mono (calls_publish _ _ _)
      intro request only
      cases request with
      | publishAutoSeq => exact ⟨route, req, routed, input, only⟩
      | _ => exact only
    · intro _
      exact True.intro
  rw [publishProviderEvent]
  split_ifs
  · exact True.intro
  · cases routed : recordRoute syncer channelId event with
    | error exc => exact True.intro
    | ok route =>
        rw [Action.ofExcept_ok, Program.ret_bind]
        refine Program.Calls.bind ?_ fun _ => True.intro
        rw [publishRecords, currentTimeMs]
        apply calls_callBind trivial
        intro ingestedMs
        rw [Program.ret_bind]
        apply calls_handle (published _ routed ⟨ingestedMs, Or.inl rfl⟩)
        intro exc
        split_ifs
        · exact True.intro
        · apply calls_callBind trivial
          intro ingestedMs
          rw [Program.ret_bind]
          apply calls_handle (published _ routed ⟨ingestedMs, Or.inr rfl⟩)
          intro fallbackExc
          split_ifs <;> exact True.intro

end Publishes

/-! ## Reading the log -/

section Reading

variable {Held : Type} (syncer : P2PSyncer) (handlers : Handlers Held)

theorem calls_scanFrom (scanEndSeq : Nat) (held : Held) (fromSeq : Nat) :
    (scanFrom syncer handlers scanEndSeq held fromSeq).Calls Inert := by
  induction remaining : scanEndSeq + 1 - fromSeq using
    Nat.strong_induction_on generalizing fromSeq held with
  | _ remaining ih =>
      rw [scanFrom]
      split_ifs with inRange
      · rw [stopIsSet]
        apply calls_callBind ⟨trivial, rfl⟩
        intro stopped
        rw [Program.ret_bind]
        split_ifs
        · exact True.intro
        · rw [fetch]
          apply Program.Calls.bind (calls_perform ⟨trivial, rfl⟩)
          intro response
          apply Program.Calls.bind (calls_ofExcept _)
          intro held
          split_ifs with stuck
          · exact True.intro
          · exact ih _ (by omega) _ _ rfl
      · exact True.intro

theorem calls_scanHistory (held : Held) :
    (scanHistory syncer handlers held).Calls Inert := by
  rw [scanHistory, getStatus]
  apply Program.Calls.bind (calls_perform ⟨trivial, rfl⟩)
  intro status
  split_ifs
  · exact True.intro
  · exact Program.Calls.bind (calls_scanFrom _ _ _ _ _) fun _ => True.intro

theorem calls_fetchLive (vars : PollVars Held) :
    (fetchLive syncer handlers vars).Calls Inert := by
  refine ⟨⟨trivial, rfl⟩, fun answer => ?_⟩
  cases answer with
  | error exc =>
      rw [stopIsSet]
      apply calls_callBind ⟨trivial, rfl⟩
      intro stopped
      rw [Program.ret_bind]
      split_ifs
      · exact True.intro
      · exact True.intro
      · exact ⟨⟨trivial, rfl⟩, fun _ => True.intro⟩
  | ok response =>
      exact Program.Calls.bind (calls_ofExcept _) fun _ => True.intro

theorem calls_pollOnce (vars : PollVars Held) :
    (pollOnce syncer handlers vars).Calls Inert := by
  rw [pollOnce, stopIsSet]
  apply calls_callBind ⟨trivial, rfl⟩
  intro stopped
  rw [Program.ret_bind]
  split_ifs
  · exact True.intro
  · split
    · exact Program.Calls.bind (calls_ofExcept _) fun _ => True.intro
    · exact calls_fetchLive _ _ _

end Reading

/-- The start of a process up to the poll loop. -/
theorem calls_boot (syncer : P2PSyncer) (processor : SingleThreadProcessor) :
    (boot syncer (handlers syncer) processor).Calls Inert := by
  rw [boot]
  apply Program.Calls.bind (calls_scanHistory _ _ _)
  rintro ⟨scanEndSeq, held⟩
  apply Program.Calls.bind
  · exact Program.Calls.bind (calls_startMessagePullers _ _ _) fun _ =>
      True.intro
  · intro _
    exact True.intro

end OpenEventIm.Syncer.WorkerCalls
