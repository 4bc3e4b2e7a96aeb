import OpenEventIm.Syncer.ChannelOrder

/-!
# At most once across crashes

Under one mapping, the log of the worker has at most one `sync.record` for a
provider message and at most one `send.result` for a request, and all sends of a
request are the same, whichever process makes them.
-/

namespace OpenEventIm.Syncer.AtMostOnce

open OpenEventIm.Foundation
open OpenEventIm.Foundation.Interaction
open OpenEventIm.Sdk.Codec
open OpenEventIm.Sdk.Client
open OpenEventIm.Sdk.MessageReading
open OpenEventIm.Service.Calls
open OpenEventIm.Service.World
open OpenEventIm.Syncer.Models
open OpenEventIm.Syncer.Mapping
open OpenEventIm.Syncer.State
open OpenEventIm.Syncer.LogMeaning
open OpenEventIm.Syncer.HistoryReplay
open OpenEventIm.Syncer.HistoryReplay.P2PSyncer
open OpenEventIm.Syncer.StartupCut
open OpenEventIm.Syncer.Processor.SingleThreadProcessor
open OpenEventIm.Syncer.Worker
open OpenEventIm.Syncer.WrittenLog
open OpenEventIm.Syncer.WorkerLedger
open OpenEventIm.Syncer.WorkerTicks
open OpenEventIm.Syncer.WorkerRuns
open OpenEventIm.Syncer.ChannelOrder

/-! ## Records of a log -/

/-- The provider message that a message records, on its channel. -/
def recordKey? (syncer : P2PSyncer) (message : Message) :
    Option InboundKey := do
  let parsed ← readMessage syncer.text message
  let session ← (syncer.mapping.providerSession parsed.channelId).toOption
  if parsed.kind = .syncRecord then
    some (RuntimeState.syncRecordKey parsed session.1 session.2)
  else
    none

/-- The provider messages with a `sync.record`, one for each record. -/
def recordedKeys (syncer : P2PSyncer) (entries : List LogEntry) :
    List InboundKey :=
  entries.filterMap fun entry => recordKey? syncer entry.message

variable {syncer : P2PSyncer} {entries done : List LogEntry}
  {message : Message} {key : InboundKey} {requestId : String}

theorem recordKey?_eq_some_iff : recordKey? syncer message = some key ↔
    ∃ parsed session, readMessage syncer.text message = some parsed ∧
      syncer.mapping.providerSession parsed.channelId = .ok session ∧
        parsed.kind = .syncRecord ∧
          RuntimeState.syncRecordKey parsed session.1 session.2 = key := by
  simp only [recordKey?, Option.bind_eq_bind, Option.bind_eq_some_iff,
    toOption_eq_some_iff, Option.ite_none_right_eq_some, Option.some.injEq]
  constructor
  · rintro ⟨parsed, read, session, mapped, kind, same⟩
    exact ⟨parsed, session, read, mapped, kind, same⟩
  · rintro ⟨parsed, session, read, mapped, kind, same⟩
    exact ⟨parsed, read, session, mapped, kind, same⟩

theorem mem_recordedKeys :
    key ∈ recordedKeys syncer entries ↔
      Recorded (logFacts syncer entries) key := by
  constructor
  · intro member
    rcases List.mem_filterMap.mp member with ⟨entry, inside, isRecord⟩
    rcases recordKey?_eq_some_iff.mp isRecord with
      ⟨parsed, session, read, mapped, kind, rfl⟩
    have said := readItem?_record read mapped kind
    exact ⟨_, mem_logFacts.mpr ⟨entry, inside, said⟩, rfl⟩
  · rintro ⟨fact, member, isRecord⟩
    rcases mem_logFacts.mp member with ⟨entry, inside, said⟩
    cases fact with
    | result => exact absurd isRecord id
    | record recorded prevSeq eventMs =>
        cases isRecord
        rcases parsed_of_record said with
          ⟨parsed, session, read, mapped, kind, same, -⟩
        exact List.mem_filterMap.mpr ⟨entry, inside,
          recordKey?_eq_some_iff.mpr
            ⟨parsed, session, read, mapped, kind, same.symm⟩⟩

/-! ## Logs of the worker -/

/-- What each message says is new where it stands. -/
theorem nodup_of_fresh {Element Value : Type}
    {saying : Element → Option Value} {elements : List Element}
    (fresh : ∀ done element, done ++ [element] <+: elements →
      ∀ value, saying element = some value → value ∉ done.filterMap saying) :
    (elements.filterMap saying).Nodup := by
  induction elements using List.reverseRecOn with
  | nil => exact List.nodup_nil
  | append_singleton earlier element ih =>
      have distinct := ih fun done other isPrefix =>
        fresh done other (isPrefix.trans (List.prefix_append _ _))
      rw [List.filterMap_append]
      apply List.Nodup.append distinct
      · cases said : saying element <;> simp [said]
      · intro value isEarlier isLast
        cases said : saying element with
        | none => simp [said] at isLast
        | some other =>
            simp only [List.filterMap_cons, said, List.filterMap_nil,
              List.mem_singleton] at isLast
            cases isLast
            exact fresh earlier element List.prefix_rfl _ said isEarlier

section Chronicles

variable {setting : Setting}

/-- The worker has one configuration. -/
abbrev Fixed (syncer : P2PSyncer) : P2PSyncer → Prop := (· = syncer)

/-- A result in a log of the worker is one that the configuration sees. -/
theorem firstResult_of_answered
    (sole : SoleWriter setting syncer.text .sendResult)
    (chronicle : Chronicle setting (Fixed syncer) entries)
    (isAnswered : requestId ∈ answered syncer.text entries) :
    firstResult (logFacts syncer entries) requestId ≠ none := by
  rcases List.mem_filterMap.mp isAnswered with ⟨entry, member, answers⟩
  rcases answeredBy?_eq_some_iff.mp answers with ⟨parsed, read, kind, rfl⟩
  rcases List.append_of_mem member with ⟨done, rest, rfl⟩
  have isPrefix : done ++ [entry] <+: done ++ entry :: rest := ⟨rest, by simp⟩
  rcases chronicle.legal_of_kind sole isPrefix read kind with
    ⟨author, rfl, legal⟩
  rcases legal.mapped read with ⟨session, mapped⟩
  have said := readItem?_result read mapped kind
  exact firstResult_ne_none_iff.mpr
    ⟨_, _, mem_logFacts.mpr ⟨entry, member, said⟩, rfl⟩

theorem nodup_recordedKeys
    (sole : SoleWriter setting syncer.text .syncRecord)
    (chronicle : Chronicle setting (Fixed syncer) entries) :
    (recordedKeys syncer entries).Nodup := by
  apply nodup_of_fresh
  intro done entry isPrefix key isRecord
  rcases recordKey?_eq_some_iff.mp isRecord with
    ⟨parsed, session, read, mapped, kind, rfl⟩
  rcases chronicle.legal_of_kind sole isPrefix read kind with
    ⟨author, rfl, legal⟩
  intro earlier
  exact (legal.records sole read kind mapped).isNew
    (mem_recordedKeys.mp earlier)

theorem nodup_answered
    (sole : SoleWriter setting syncer.text .sendResult)
    (chronicle : Chronicle setting (Fixed syncer) entries) :
    (answered syncer.text entries).Nodup := by
  apply nodup_of_fresh
  intro done entry isPrefix requestId isResult
  rcases answeredBy?_eq_some_iff.mp isResult with ⟨parsed, read, kind, rfl⟩
  rcases chronicle.legal_of_kind sole isPrefix read kind with
    ⟨author, rfl, legal⟩
  intro earlier
  have before := ChannelOrder.Chronicle.of_isPrefix chronicle
    ((List.prefix_append _ _).trans isPrefix)
  rcases legal.answers read kind with ⟨task, due, resultOf⟩
  have known := firstResult_of_answered sole before earlier
  rw [resultOf.requestId] at known
  exact known due.isOpen

/-- A mapping routes a request in one way. -/
theorem SameMapping.route_eq {left right : P2PSyncer} {task : OutboundTask}
    {first second : Session × String} (same : SameMapping left right)
    (isFirst : sendRoute left task = .ok first)
    (isSecond : sendRoute right task = .ok second) : first = second := by
  rcases lookups_of_sendRoute isFirst with ⟨mapped, sender⟩
  rcases lookups_of_sendRoute isSecond with ⟨mappedAgain, senderAgain⟩
  rw [same.tables.providerSession, mappedAgain] at mapped
  rw [same.tables.senderExternalUserId, senderAgain] at sender
  exact Prod.ext (Except.ok.inj mapped).symm (Except.ok.inj sender).symm

/-- All sends of a request are made of the same task. -/
theorem sends_eq {deployed : P2PSyncer → Prop} {sends : List Send}
    {left right : Send} (shared : SharedMapping deployed syncer)
    (history : SendHistory deployed entries sends)
    (isLeft : left ∈ sends) (isRight : right ∈ sends)
    (same : left.requestId = right.requestId) : left = right := by
  rcases history.made shared isLeft with ⟨first, task, deploys, found, ofLeft⟩
  rcases history.made shared isRight with
    ⟨second, other, deploysAgain, known, ofRight⟩
  rw [same, known] at found
  cases found
  have agree : SameMapping first second :=
    (shared first deploys).trans (shared second deploysAgain).symm
  have routes := SameMapping.route_eq agree ofLeft.route ofRight.route
  rcases Prod.mk.inj routes with ⟨session, user⟩
  cases left
  cases right
  cases session
  cases user
  cases ofLeft.msgType.trans ofRight.msgType.symm
  cases ofLeft.content.trans ofRight.content.symm
  cases same
  rfl

end Chronicles

/-! ## Runs -/

section Runs

variable {setting : Setting} {first moment : WorldState setting}

/-- In every run, and over any number of processes with one mapping, a provider
message has at most one record, a request at most one result, and its sends are
the same. -/
theorem log_atMostOnce {deployed : P2PSyncer → Prop}
    (shared : SharedMapping deployed syncer)
    (soleResults : SoleWriter setting syncer.text .sendResult)
    (soleRecords : SoleWriter setting syncer.text .syncRecord)
    (begins : Begins first)
    (isMoment : Moment setting deployed first moment) :
    (recordedKeys syncer moment.log.entries).Nodup ∧
      (answered syncer.text moment.log.entries).Nodup ∧
        ∀ left ∈ sendsOf moment.trace, ∀ right ∈ sendsOf moment.trace,
          left.requestId = right.requestId → left = right := by
  have ledger := Moment.ledger (soleResults_shared shared soleResults) begins
    isMoment
  have chronicle := ledger.chronicle.single shared
  refine ⟨nodup_recordedKeys soleRecords chronicle,
    nodup_answered soleResults chronicle, ?_⟩
  intro left isLeft right isRight same
  exact sends_eq shared ledger.sends isLeft isRight same

end Runs

/-! ### A run with a crash -/

theorem recorded_echoMessage :
    recordKey? sampleSyncer echoMessage = some (inboundKey 3 echoEvent) := by
  rcases carries_echoMessage with ⟨parsed, carries⟩
  exact recordKey?_eq_some_iff.mpr
    ⟨parsed, _, carries.read, carries.mapped, carries.kind, carries.key⟩

theorem answered_resultMessage :
    answeredBy? sampleSyncer.text resultMessage = some "r1" :=
  answeredBy?_eq_some_iff.mpr ⟨_, read_resultMessage, rfl, rfl⟩

/-- The log of the run has a record and a result, and there was a send. -/
theorem log_atMostOnce_sample :
    (inboundKey 3 echoEvent ∈ recordedKeys sampleSyncer recordedLog.entries ∧
        "r1" ∈ answered sampleSyncer.text recordedLog.entries ∧
        (⟨("lark", "oc1"), "ou8", "text", [], "r1"⟩ : Send) ∈
          sendsOf (recordedWorld () : WorldState requestSetting).trace) ∧
      (recordedKeys sampleSyncer recordedLog.entries).Nodup ∧
        (answered sampleSyncer.text recordedLog.entries).Nodup ∧
          ∀ left ∈ sendsOf (recordedWorld () : WorldState requestSetting).trace,
            ∀ right ∈
              sendsOf (recordedWorld () : WorldState requestSetting).trace,
              left.requestId = right.requestId → left = right := by
  refine ⟨⟨?_, ?_, List.mem_singleton_self _⟩, ?_⟩
  · exact List.mem_filterMap.mpr
      ⟨⟨echoMessage, true⟩, List.mem_of_getLast? rfl, recorded_echoMessage⟩
  · exact List.mem_filterMap.mpr ⟨⟨resultMessage, true⟩,
      List.mem_of_getElem? (show recordedLog.entries[1]? = _ from rfl),
      answered_resultMessage⟩
  · exact @log_atMostOnce sampleSyncer _ _ (recordedWorld ())
      (SameMapping · sampleSyncer) (fun _ => id)
      (hosts_requestSetting.soleWriter (by decide))
      (hosts_requestSetting.soleWriter (by decide)) begins_beginning
      (hosts_requestSetting.moment ⟨rfl, rfl, rfl⟩)

end OpenEventIm.Syncer.AtMostOnce
