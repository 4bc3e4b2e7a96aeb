import OpenEventIm.Syncer.Processor
import OpenEventIm.Syncer.WrittenLog

/-!
# What outlives the processes

The log and the calls made so far outlive a process of the worker.  The log is a
chronicle, and each send was made of a task that was due when it was made.  Both
are kept by everything that others do, by every call that neither publishes nor
sends, and by the publishes and sends of a process that respects them.
-/

namespace OpenEventIm.Syncer.WorkerLedger

open OpenEventIm.Foundation
open OpenEventIm.Foundation.Interaction
open OpenEventIm.Sdk.Codec
open OpenEventIm.Sdk.MessageReading
open OpenEventIm.Service.Calls
open OpenEventIm.Service.World
open OpenEventIm.Syncer.Models
open OpenEventIm.Syncer.State
open OpenEventIm.Syncer.LogMeaning
open OpenEventIm.Syncer.HistoryReplay
open OpenEventIm.Syncer.Processor.SingleThreadProcessor
open OpenEventIm.Syncer.WrittenLog

/-! ## Sends -/

/-- The arguments of a `send_message` call. -/
structure Send where
  session : Session
  senderExternalUserId : String
  msgType : String
  content : JsonObject
  requestId : String

def sendOf? : Call → Option Send
  | .sendMessage provider sessionId senderExternalUserId msgType content
      requestId =>
      some {
        session := (provider, sessionId)
        senderExternalUserId, msgType, content, requestId }
  | _ => none

/-- The sends among the calls. -/
def sendsOf (trace : List Exchange) : List Send :=
  trace.filterMap fun exchange => sendOf? exchange.request

theorem sendsOf_append {trace more : List Exchange} :
    sendsOf (trace ++ more) = sendsOf trace ++ sendsOf more :=
  List.filterMap_append

/-- The send that is made of a task. -/
structure SendOf (syncer : P2PSyncer) (task : OutboundTask) (send : Send) :
    Prop where
  route : sendRoute syncer task =
    .ok (send.session, send.senderExternalUserId)
  msgType : send.msgType = task.msgType
  content : send.content = task.content
  requestId : send.requestId = task.requestId

/-- Sends that were made one after the other, each one while the log was a
prefix of the entries and of a task that was due there. -/
inductive SendHistory (deployed : P2PSyncer → Prop) :
    List LogEntry → List Send → Prop where
  | none {entries} : SendHistory deployed entries []
  | send {done entries sends} {send : Send} {task : OutboundTask}
      {syncer : P2PSyncer}
      (earlier : SendHistory deployed done sends)
      (grown : done <+: entries)
      (deploys : deployed syncer)
      (due : Due syncer done task)
      (made : SendOf syncer task send) :
      SendHistory deployed entries (sends ++ [send])

variable {setting : Setting} {deployed : P2PSyncer → Prop}
  {syncer : P2PSyncer} {task : OutboundTask}

theorem SendHistory.mono {done entries : List LogEntry} {sends : List Send}
    (history : SendHistory deployed done sends) (grown : done <+: entries) :
    SendHistory deployed entries sends := by
  cases history with
  | none => exact .none
  | send earlier first deploys due made =>
      exact .send earlier (first.trans grown) deploys due made

/-- The last send of a history. -/
theorem SendHistory.last {entries : List LogEntry} {earlier : List Send}
    {send : Send}
    (history : SendHistory deployed entries (earlier ++ [send])) :
    ∃ done syncer task, done <+: entries ∧ SendHistory deployed done earlier ∧
      deployed syncer ∧ Due syncer done task ∧ SendOf syncer task send := by
  generalize whole : earlier ++ [send] = sends at history
  cases history with
  | none => exact absurd whole (by simp)
  | send sooner grown deploys due made =>
      rcases List.append_inj' whole rfl with ⟨rfl, same⟩
      cases same
      exact ⟨_, _, _, grown, sooner, deploys, due, made⟩

/-- A send in the midst of a history. -/
theorem SendHistory.split {entries : List LogEntry}
    {earlier later : List Send} {send : Send}
    (history : SendHistory deployed entries (earlier ++ send :: later)) :
    ∃ done syncer task, done <+: entries ∧ SendHistory deployed done earlier ∧
      deployed syncer ∧ Due syncer done task ∧ SendOf syncer task send := by
  induction later using List.reverseRecOn generalizing entries with
  | nil => exact history.last
  | append_singleton later next ih =>
      rw [← List.cons_append, ← List.append_assoc] at history
      rcases history.last with ⟨done, _, _, grown, sooner, -⟩
      rcases ih sooner with ⟨first, syncer, task, shorter, made⟩
      exact ⟨first, syncer, task, shorter.trans grown, made⟩

/-- A send is made of a request of the log. -/
theorem SendHistory.source {entries : List LogEntry} {sends : List Send}
    (history : SendHistory deployed entries sends) {send : Send}
    (member : send ∈ sends) : ∃ author task, deployed author ∧
      task ∈ logRequests author entries ∧ SendOf author task send := by
  rcases List.append_of_mem member with ⟨earlier, later, rfl⟩
  rcases history.split with
    ⟨done, author, task, ⟨more, rfl⟩, -, deploys, due, made⟩
  have canonical := @canonical_append author done more _ _ due.canonical
  exact ⟨author, task, deploys, mem_of_firstRequest canonical, made⟩

/-- Under one mapping, a send is made of the canonical request of its id. -/
theorem SendHistory.made {entries : List LogEntry} {sends : List Send}
    (history : SendHistory deployed entries sends)
    (shared : SharedMapping deployed syncer) {send : Send}
    (member : send ∈ sends) : ∃ author task, deployed author ∧
      firstRequest (logRequests syncer entries) send.requestId = some task ∧
        SendOf author task send := by
  rcases List.append_of_mem member with ⟨earlier, later, rfl⟩
  rcases history.split with
    ⟨done, author, task, ⟨more, rfl⟩, -, deploys, due, made⟩
  refine ⟨author, task, deploys, ?_, made⟩
  rw [made.requestId, ← (shared author deploys).logRequests]
  exact canonical_append due.canonical

/-! ## The ledger -/

/-- The log and the sends are as the worker leaves them. -/
structure Ledger (setting : Setting) (deployed : P2PSyncer → Prop)
    (state : WorldState setting) : Prop where
  chronicle : Chronicle setting deployed state.log.entries
  sends : SendHistory deployed state.log.entries (sendsOf state.trace)

/-- Before the worker's first process nothing has been published or called. -/
structure Begins (first : WorldState setting) : Prop where
  log : first.log.entries = []
  trace : first.trace = []

theorem ledger_begins {first : WorldState setting} (begins : Begins first) :
    Ledger setting deployed first where
  chronicle := by
    rw [begins.log]
    exact {
      foreign := fun _ member => absurd member List.not_mem_nil
      own := by
        intro done entry isPrefix
        exact absurd (List.prefix_nil.mp isPrefix) (by simp) }
  sends := by
    rw [begins.trace]
    exact .none

section Steps

variable {before after : WorldState setting}

theorem Ledger.interferes (ledger : Ledger setting deployed before)
    (step : Interferes before after) : Ledger setting deployed after := by
  cases step with
  | published allowed appends =>
      have entries := appends.2.1
      exact {
        chronicle := by
          rw [entries]
          exact ledger.chronicle.append_foreign ⟨_, allowed⟩
        sends := ledger.sends.mono (by
          rw [entries]
          exact List.prefix_append _ _) }
  | provider => exact ⟨ledger.chronicle, ledger.sends⟩

/-- The calls that neither publish nor send. -/
def Inert (request : Call) : Prop :=
  Call.IsQuiet request ∧ sendOf? request = none

theorem sendsOf_answers {request : Call} {answer : Answer request}
    (answers : Answers before request answer after) :
    sendsOf after.trace = sendsOf before.trace ++ (sendOf? request).toList := by
  rw [answers.trace, sendsOf_append]
  congr 1

/-- A call that changes no entry and is no send. -/
theorem Ledger.unchanged (ledger : Ledger setting deployed before)
    {request : Call} {answer : Answer request}
    (answers : Answers before request answer after)
    (entries : after.log.entries = before.log.entries)
    (noSend : sendOf? request = none) : Ledger setting deployed after where
  chronicle := by
    rw [entries]
    exact ledger.chronicle
  sends := by
    rw [entries, sendsOf_answers answers, noSend, Option.toList_none,
      List.append_nil]
    exact ledger.sends

theorem Ledger.inert (ledger : Ledger setting deployed before)
    {request : Call} {answer : Answer request} (inert : Inert request)
    (answers : Answers before request answer after) :
    Ledger setting deployed after :=
  ledger.unchanged answers (answers.entries_eq inert.1) inert.2

/-- A send of a task that is due. -/
theorem Ledger.sendsDue (ledger : Ledger setting deployed before)
    {request : Call} {answer : Answer request} {send : Send}
    (answers : Answers before request answer after)
    (isSend : sendOf? request = some send) (quiet : Call.IsQuiet request)
    (deploys : deployed syncer)
    (due : Due syncer before.log.entries task)
    (made : SendOf syncer task send) : Ledger setting deployed after := by
  have entries := answers.entries_eq quiet
  constructor
  · rw [entries]
    exact ledger.chronicle
  · rw [entries, sendsOf_answers answers, isSend]
    exact .send ledger.sends List.prefix_rfl deploys due made

/-- A commit of a legal message. -/
theorem Ledger.commits (ledger : Ledger setting deployed before)
    {request : Call} {answer : Answer request} {message : Message}
    (answers : Answers before request answer after)
    (noSend : sendOf? request = none)
    (appends : before.log.Appends ⟨message, true⟩ after.log)
    (deploys : deployed syncer) (accepted : setting.committable message)
    (legal : Legal syncer (SoleWriter setting syncer.text .syncRecord)
      before.log.entries message) : Ledger setting deployed after where
  chronicle := by
    rw [appends.2.1]
    exact ledger.chronicle.append_own deploys accepted legal
  sends := by
    rw [sendsOf_answers answers, noSend, Option.toList_none, List.append_nil,
      appends.2.1]
    exact ledger.sends.mono (List.prefix_append _ _)

/-- Reading calls are inert. -/
theorem inert_of_onlyReads {request : Call} (reads : Call.OnlyReads request) :
    Inert request := by
  refine ⟨reads.1, ?_⟩
  cases request with
  | sendMessage => exact absurd reads.2 (by simp [Call.isProvider])
  | _ => rfl

theorem ledger_kept : KeptByReads (Ledger setting deployed) where
  stable _ _ step ledger := ledger.interferes step
  reads _ _ _ _ reads answers ledger :=
    ledger.inert (inert_of_onlyReads reads) answers

end Steps

/-! ## Growth of the log -/

section Growth

variable {old new : Log}

/-- A request of the log has a number below the frontier. -/
theorem seq_lt_frontier
    (member : task ∈ logRequests syncer old.entries) :
    task.seq < old.frontier := by
  rcases mem_logRequests.mp member with ⟨entry, inside, read⟩
  rw [(seq_of_request read).1]
  exact old.below entry inside

/-- What is appended to the log does not answer the task. -/
theorem Due.extends (due : Due syncer old.entries task)
    {more : List LogEntry} (grown : old.Extends new)
    (entries : new.entries = old.entries ++ more)
    (noResult : firstResult (logFacts syncer more) task.requestId = none) :
    Due syncer new.entries task := by
  rcases grown with ⟨-, added, split, above⟩
  have same : added = more := List.append_cancel_left (split.symm.trans entries)
  subst same
  rw [split]
  apply due.append _ noResult
  intro entry member
  exact (seq_lt_frontier (mem_of_firstRequest due.canonical)).le.trans
    (above entry member)

/-- The entries are messages of others. -/
def Foreign (setting : Setting) (entries : List LogEntry) : Prop :=
  ∀ entry ∈ entries, ∃ log, setting.foreign log entry.message

/-- Others write no results. -/
theorem noResult_foreign {more : List LogEntry}
    (sole : SoleWriter setting syncer.text .sendResult)
    (others : Foreign setting more) {result : TerminalResult}
    {key : Option InboundKey} : .result result key ∉ logFacts syncer more := by
  intro member
  rcases mem_logFacts.mp member with ⟨entry, inside, read⟩
  rcases others entry inside with ⟨log, allowed⟩
  rcases parsed_of_result read with ⟨parsed, -, said, -, kind, -⟩
  exact sole log _ parsed allowed said kind

theorem firstResult_foreign {more : List LogEntry}
    (sole : SoleWriter setting syncer.text .sendResult)
    (others : Foreign setting more) (requestId : String) :
    firstResult (logFacts syncer more) requestId = none := by
  rw [firstResult_eq_none_iff]
  intro fact member
  cases fact with
  | result result key => exact absurd member (noResult_foreign sole others)
  | record => rfl

/-- Others write neither results nor records. -/
theorem logFacts_foreign {more : List LogEntry}
    (soleResults : SoleWriter setting syncer.text .sendResult)
    (soleRecords : SoleWriter setting syncer.text .syncRecord)
    (others : Foreign setting more) : logFacts syncer more = [] := by
  apply List.eq_nil_iff_forall_not_mem.mpr
  intro fact member
  rcases mem_logFacts.mp member with ⟨entry, inside, read⟩
  rcases others entry inside with ⟨log, allowed⟩
  cases fact with
  | result result key =>
      exact noResult_foreign soleResults others member
  | record key prevSeq eventMs =>
      rcases parsed_of_record read with ⟨parsed, -, said, -, kind, -⟩
      exact absurd kind (soleRecords log _ parsed allowed said)

theorem foreign_singleton {message : Message} (allowed :
    setting.foreign old message) : Foreign setting [⟨message, false⟩] := by
  intro entry member
  rw [List.mem_singleton.mp member]
  exact ⟨old, allowed⟩

end Growth

end OpenEventIm.Syncer.WorkerLedger
