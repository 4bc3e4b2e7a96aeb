import OpenEventIm.Sdk.MessageReading
import OpenEventIm.Service.World
import OpenEventIm.Syncer.HistoryReplay

/-!
# What the worker writes into the log

A message of the worker is legal where it stands in the log: a result answers a
request that has none, after all earlier requests of its channel have been
answered; a record is the first one of its provider message and refers to the
result that reported it.  Everything about logs of the worker follows from the
legality of its messages.
-/

namespace OpenEventIm.Syncer.WrittenLog

open OpenEventIm.Foundation
open OpenEventIm.Sdk.Codec
open OpenEventIm.Sdk.Client
open OpenEventIm.Sdk.MessageReading
open OpenEventIm.Service.Calls
open OpenEventIm.Service.World
open OpenEventIm.Syncer.Models
open OpenEventIm.Syncer.Mapping
open OpenEventIm.Syncer.State
open OpenEventIm.Syncer.LogMeaning
open OpenEventIm.Syncer.HistoryReplay
open OpenEventIm.Syncer.HistoryReplay.P2PSyncer

/-! ## Reading a log -/

section Reading

variable (syncer : P2PSyncer)

/-- What a message of a mapped channel says, whether or not the parser accepts
it. -/
def readItem? (message : Message) : Option LogItem := do
  let parsed ← readMessage syncer.text message
  let session ← (syncer.mapping.providerSession parsed.channelId).toOption
  return itemOf parsed session

def logItems (entries : List LogEntry) : List LogItem :=
  entries.filterMap fun entry => readItem? syncer entry.message

def logRequests (entries : List LogEntry) : List OutboundTask :=
  requestsOf (logItems syncer entries)

def logFacts (entries : List LogEntry) : List WorkerFact :=
  factsOf (logItems syncer entries)

variable {syncer} {entries more : List LogEntry} {entry : LogEntry}
  {message : Message} {task other : OutboundTask} {requestId : String}

theorem logRequests_append : logRequests syncer (entries ++ more) =
    logRequests syncer entries ++ logRequests syncer more := by
  rw [logRequests, logItems, List.filterMap_append, requestsOf_append]
  rfl

theorem logFacts_append : logFacts syncer (entries ++ more) =
    logFacts syncer entries ++ logFacts syncer more := by
  rw [logFacts, logItems, List.filterMap_append, factsOf_append]
  rfl

theorem logFacts_singleton : logFacts syncer [entry] =
    ((readItem? syncer entry.message).bind LogItem.fact?).toList := by
  rw [logFacts, logItems, factsOf, List.filterMap_filterMap]
  cases read : readItem? syncer entry.message with
  | none => simp [read]
  | some item =>
      cases fact : item.fact? with
      | none => simp [read, fact]
      | some fact' => simp [read, fact]

theorem logRequests_singleton : logRequests syncer [entry] =
    ((readItem? syncer entry.message).bind LogItem.request?).toList := by
  rw [logRequests, logItems, requestsOf, List.filterMap_filterMap]
  cases read : readItem? syncer entry.message with
  | none => simp [read]
  | some item =>
      cases request : item.request? with
      | none => simp [read, request]
      | some task => simp [read, request]

theorem toOption_eq_some_iff {Value : Type} {computed : Except PyError Value}
    {value : Value} : computed.toOption = some value ↔ computed = .ok value := by
  cases computed <;> simp [Except.toOption]

/-- What a read message says, with the session of its channel. -/
theorem readItem?_eq_some_iff {item : LogItem} :
    readItem? syncer message = some item ↔ ∃ parsed session,
      readMessage syncer.text message = some parsed ∧
        syncer.mapping.providerSession parsed.channelId = .ok session ∧
          item = itemOf parsed session := by
  simp only [readItem?, Option.bind_eq_bind, Option.bind_eq_some_iff,
    toOption_eq_some_iff]
  constructor
  · rintro ⟨parsed, read, session, mapped, same⟩
    cases same
    exact ⟨parsed, session, read, mapped, rfl⟩
  · rintro ⟨parsed, session, read, mapped, rfl⟩
    exact ⟨parsed, read, session, mapped, rfl⟩

/-- A message that the parser accepts is read alike by both readers. -/
theorem itemOf?_eq_readItem? {parsed : ParsedMessage}
    (accepted : parseMessage syncer.text message = .ok parsed) :
    syncer.itemOf? message = readItem? syncer message := by
  have read := (parseMessage_eq_ok_iff.mp accepted).1
  rw [itemOf?, accepted, readItem?, read]
  dsimp only [Option.bind_eq_bind, Option.bind_some]
  cases syncer.mapping.providerSession parsed.channelId <;> rfl

theorem mem_logRequests : task ∈ logRequests syncer entries ↔
    ∃ entry ∈ entries, readItem? syncer entry.message =
      some (.request task) := by
  simp only [logRequests, requestsOf, logItems, List.mem_filterMap]
  constructor
  · rintro ⟨item, ⟨entry, member, read⟩, isRequest⟩
    cases item with
    | request =>
        cases isRequest
        exact ⟨entry, member, read⟩
    | fact => cases isRequest
  · rintro ⟨entry, member, read⟩
    exact ⟨.request task, ⟨entry, member, read⟩, rfl⟩

theorem mem_logFacts {fact : WorkerFact} : fact ∈ logFacts syncer entries ↔
    ∃ entry ∈ entries, readItem? syncer entry.message = some (.fact fact) := by
  simp only [logFacts, factsOf, logItems, List.mem_filterMap]
  constructor
  · rintro ⟨item, ⟨entry, member, read⟩, isFact⟩
    cases item with
    | request => cases isFact
    | fact =>
        cases isFact
        exact ⟨entry, member, read⟩
  · rintro ⟨entry, member, read⟩
    exact ⟨.fact fact, ⟨entry, member, read⟩, rfl⟩

/-- A request has the number of its message. -/
theorem seq_of_request
    (read : readItem? syncer message = some (.request task)) :
    task.seq = message.seq ∧ task.channelId = message.channelId := by
  rcases readItem?_eq_some_iff.mp read with ⟨parsed, session, said, -, same⟩
  have envelope := readMessage_envelope said
  rcases itemOf_eq_request_iff.mp same.symm with ⟨-, rfl⟩
  exact ⟨envelope.1, envelope.2.1⟩

/-- A request of the log is one for every configuration that owns its channel. -/
theorem mem_logRequests_owned {author : P2PSyncer}
    (sameText : author.text = syncer.text)
    (owned : syncer.mapping.ownsChannel task.channelId = true)
    (member : task ∈ logRequests author entries) :
    task ∈ logRequests syncer entries := by
  rcases mem_logRequests.mp member with ⟨entry, inside, read⟩
  rcases readItem?_eq_some_iff.mp read with ⟨parsed, session, said, -, same⟩
  rcases itemOf_eq_request_iff.mp same.symm with ⟨kind, rfl⟩
  rcases exists_session owned with ⟨mine, mapped⟩
  rw [sameText] at said
  exact mem_logRequests.mpr ⟨entry, inside, readItem?_eq_some_iff.mpr
    ⟨parsed, mine, said, mapped, (itemOf_eq_request_iff.mpr ⟨kind, rfl⟩).symm⟩⟩

/-- A result is what a `send.result` says. -/
theorem parsed_of_result {result : TerminalResult} {key : Option InboundKey}
    (read : readItem? syncer message = some (.fact (.result result key))) :
    ∃ parsed session, readMessage syncer.text message = some parsed ∧
      syncer.mapping.providerSession parsed.channelId = .ok session ∧
        parsed.kind = .sendResult ∧ result = .ofParsed parsed ∧
          key = resultKey parsed session := by
  rcases readItem?_eq_some_iff.mp read with
    ⟨parsed, session, said, mapped, same⟩
  exact ⟨parsed, session, said, mapped, itemOf_eq_result_iff.mp same.symm⟩

theorem readItem?_result {parsed : ParsedMessage} {session : Session}
    (read : readMessage syncer.text message = some parsed)
    (mapped : syncer.mapping.providerSession parsed.channelId = .ok session)
    (kind : parsed.kind = .sendResult) :
    readItem? syncer message =
      some (.fact (.result (.ofParsed parsed) (resultKey parsed session))) :=
  readItem?_eq_some_iff.mpr ⟨parsed, session, read, mapped,
    (itemOf_eq_result_iff.mpr ⟨kind, rfl, rfl⟩).symm⟩

/-- A record is what a `sync.record` says. -/
theorem parsed_of_record {key : InboundKey} {prevSeq : Option Nat}
    {eventMs : Int} (read : readItem? syncer message =
      some (.fact (.record key prevSeq eventMs))) :
    ∃ parsed session, readMessage syncer.text message = some parsed ∧
      syncer.mapping.providerSession parsed.channelId = .ok session ∧
        parsed.kind = .syncRecord ∧
          key = RuntimeState.syncRecordKey parsed session.1 session.2 ∧
            prevSeq = parsed.prevSeq := by
  rcases readItem?_eq_some_iff.mp read with
    ⟨parsed, session, said, mapped, same⟩
  rcases itemOf_eq_record_iff.mp same.symm with ⟨kind, sameKey, samePrev, -⟩
  exact ⟨parsed, session, said, mapped, kind, sameKey, samePrev⟩

theorem readItem?_record {parsed : ParsedMessage} {session : Session}
    (read : readMessage syncer.text message = some parsed)
    (mapped : syncer.mapping.providerSession parsed.channelId = .ok session)
    (kind : parsed.kind = .syncRecord) :
    readItem? syncer message =
      some (.fact (.record
        (RuntimeState.syncRecordKey parsed session.1 session.2)
        parsed.prevSeq parsed.eventMs)) :=
  readItem?_eq_some_iff.mpr ⟨parsed, session, read, mapped,
    (itemOf_eq_record_iff.mpr ⟨kind, rfl, rfl, rfl⟩).symm⟩

/-- A result of the log is one for every configuration that owns its
channel. -/
theorem mem_logFacts_owned {author : P2PSyncer} {result : TerminalResult}
    {key : Option InboundKey} (sameText : author.text = syncer.text)
    (owned : syncer.mapping.ownsChannel result.channelId = true)
    (member : .result result key ∈ logFacts author entries) :
    ∃ mine, .result result mine ∈ logFacts syncer entries := by
  rcases mem_logFacts.mp member with ⟨entry, inside, read⟩
  rcases parsed_of_result read with ⟨parsed, session, said, -, kind, rfl, -⟩
  rcases exists_session owned with ⟨mine, mapped⟩
  rw [sameText] at said
  exact ⟨_, mem_logFacts.mpr ⟨entry, inside,
    readItem?_result said mapped kind⟩⟩

/-! ## Canonical requests -/

theorem firstRequest_append_list (requests later : List OutboundTask) :
    firstRequest (requests ++ later) requestId =
      (firstRequest requests requestId).or (firstRequest later requestId) :=
  List.find?_append

/-- A canonical request stays one. -/
theorem canonical_append
    (found : firstRequest (logRequests syncer entries) requestId = some task) :
    firstRequest (logRequests syncer (entries ++ more)) requestId =
      some task := by
  rw [logRequests_append, firstRequest_append_list, found]
  rfl

theorem mem_of_firstRequest {requests : List OutboundTask}
    (found : firstRequest requests requestId = some task) :
    task ∈ requests := List.mem_of_find?_eq_some found

/-- An answered request stays answered. -/
theorem answered_append
    (answered : firstResult (logFacts syncer entries) requestId ≠ none) :
    firstResult (logFacts syncer (entries ++ more)) requestId ≠ none := by
  rw [logFacts_append, firstResult_append]
  rcases Option.ne_none_iff_exists'.mp answered with ⟨result, found⟩
  rw [found]
  nofun

/-- The canonical requests of the task's channel with smaller numbers all have
a result. -/
def Serialized (syncer : P2PSyncer) (entries : List LogEntry)
    (task : OutboundTask) : Prop :=
  ∀ other, firstRequest (logRequests syncer entries) other.requestId =
      some other → other.channelId = task.channelId → other.seq < task.seq →
    firstResult (logFacts syncer entries) other.requestId ≠ none

/-- Messages with larger numbers do not matter. -/
theorem Serialized.append (serialized : Serialized syncer entries task)
    (above : ∀ entry ∈ more, task.seq ≤ entry.seq) :
    Serialized syncer (entries ++ more) task := by
  intro other found channel earlier
  apply answered_append
  rw [logRequests_append, firstRequest_append_list] at found
  cases old : firstRequest (logRequests syncer entries) other.requestId with
  | some first =>
      rw [old] at found
      cases found
      exact serialized other old channel earlier
  | none =>
      rw [old, Option.none_or] at found
      rcases mem_logRequests.mp (mem_of_firstRequest found) with
        ⟨entry, member, read⟩
      have late := above entry member
      rw [LogEntry.seq, ← (seq_of_request read).1] at late
      exact absurd earlier (Nat.not_lt.mpr late)

end Reading

/-! ## Legal messages -/

/-- The task is the next one of its channel that gets a result. -/
structure Due (syncer : P2PSyncer) (done : List LogEntry)
    (task : OutboundTask) : Prop where
  canonical : firstRequest (logRequests syncer done) task.requestId = some task
  isOpen : firstResult (logFacts syncer done) task.requestId = none
  serialized : Serialized syncer done task

/-- The result refers to the task. -/
structure ResultOf (task : OutboundTask) (result : TerminalResult) : Prop where
  requestId : result.requestId = task.requestId
  prevSeq : result.prevSeq = some task.seq
  channelId : result.channelId = task.channelId
  recipients : result.recipients = [task.principal]

/-- The history admits the result where its request is known and open. -/
theorem ResultOf.admits {task : OutboundTask} {result : TerminalResult}
    {requests : List OutboundTask} {facts : List WorkerFact}
    (resultOf : ResultOf task result)
    (canonical : firstRequest requests task.requestId = some task)
    (isOpen : firstResult facts task.requestId = none) :
    AdmitsResult requests facts result := by
  rw [AdmitsResult, resultOf.requestId, isOpen]
  exact ⟨task, canonical, resultOf.prevSeq, resultOf.channelId,
    resultOf.recipients⟩

/-- Messages with larger numbers that do not answer the task leave it due. -/
theorem Due.append {syncer : P2PSyncer} {done more : List LogEntry}
    {task : OutboundTask} (due : Due syncer done task)
    (above : ∀ entry ∈ more, task.seq ≤ entry.seq)
    (noResult : firstResult (logFacts syncer more) task.requestId = none) :
    Due syncer (done ++ more) task where
  canonical := canonical_append due.canonical
  isOpen := by
    rw [logFacts_append, firstResult_append, due.isOpen, noResult]
    rfl
  serialized := due.serialized.append above

/-- The results of a request are of one channel. -/
def OneChannel (facts : List WorkerFact) : Prop :=
  ∀ left leftKey right rightKey, .result left leftKey ∈ facts →
    .result right rightKey ∈ facts → left.requestId = right.requestId →
      left.channelId = right.channelId

/-- Where the record stands, its provider message has none, and it refers to
the result that reported the message. -/
structure LegalRecord (syncer : P2PSyncer) (done : List LogEntry)
    (key : InboundKey) (prevSeq : Option Nat) : Prop where
  isNew : ¬Recorded (logFacts syncer done) key
  linked : prevSeq = reportedSeq (logFacts syncer done) key
  oneChannel : OneChannel (logFacts syncer done)

/-- A legal message of the worker.  Nothing is said about records where others
write records, too. -/
inductive Legal (syncer : P2PSyncer) (soleRecords : Prop)
    (done : List LogEntry) (message : Message) : Prop where
  | result {parsed : ParsedMessage} {session : Session}
      (read : readMessage syncer.text message = some parsed)
      (mapped : syncer.mapping.providerSession parsed.channelId = .ok session)
      (kind : parsed.kind = .sendResult)
      (roles : syncer.validateMessageRoles parsed = .ok ())
      (bounded : Bounded message)
      (legal : ∃ task, Due syncer done task ∧
        ResultOf task (.ofParsed parsed))
  | record {parsed : ParsedMessage} {session : Session}
      (read : readMessage syncer.text message = some parsed)
      (mapped : syncer.mapping.providerSession parsed.channelId = .ok session)
      (kind : parsed.kind = .syncRecord)
      (roles : syncer.validateMessageRoles parsed = .ok ())
      (bounded : Bounded message)
      (legal : soleRecords → LegalRecord syncer done
        (RuntimeState.syncRecordKey parsed session.1 session.2) parsed.prevSeq)

section Legality

variable {syncer : P2PSyncer} {soleRecords : Prop} {done : List LogEntry}
  {message : Message} {parsed : ParsedMessage} {session : Session}

theorem Legal.bounded (legal : Legal syncer soleRecords done message) :
    Bounded message := by
  cases legal with
  | result _ _ _ _ bounded => exact bounded
  | record _ _ _ _ bounded => exact bounded

theorem Legal.mapped (legal : Legal syncer soleRecords done message)
    (read : readMessage syncer.text message = some parsed) :
    ∃ session, syncer.mapping.providerSession parsed.channelId =
      .ok session := by
  cases legal with
  | result said mapped =>
      cases read.symm.trans said
      exact ⟨_, mapped⟩
  | record said mapped =>
      cases read.symm.trans said
      exact ⟨_, mapped⟩

theorem Legal.roles (legal : Legal syncer soleRecords done message)
    (read : readMessage syncer.text message = some parsed) :
    syncer.validateMessageRoles parsed = .ok () := by
  cases legal with
  | result said _ _ roles =>
      cases read.symm.trans said
      exact roles
  | record said _ _ roles =>
      cases read.symm.trans said
      exact roles

theorem Legal.not_request (legal : Legal syncer soleRecords done message)
    (read : readMessage syncer.text message = some parsed) :
    parsed.kind ≠ .sendRequest := by
  intro isRequest
  cases legal with
  | result said _ isResult =>
      cases read.symm.trans said
      cases isRequest.symm.trans isResult
  | record said _ isRecord =>
      cases read.symm.trans said
      cases isRequest.symm.trans isRecord

/-- A legal result answers a request that is due. -/
theorem Legal.answers (legal : Legal syncer soleRecords done message)
    (read : readMessage syncer.text message = some parsed)
    (kind : parsed.kind = .sendResult) :
    ∃ task, Due syncer done task ∧ ResultOf task (.ofParsed parsed) := by
  cases legal with
  | result said _ _ _ _ isLegal =>
      cases read.symm.trans said
      exact isLegal
  | record said _ isRecord =>
      cases read.symm.trans said
      cases kind.symm.trans isRecord

theorem Legal.records (legal : Legal syncer soleRecords done message)
    (sole : soleRecords)
    (read : readMessage syncer.text message = some parsed)
    (kind : parsed.kind = .syncRecord)
    (mapped : syncer.mapping.providerSession parsed.channelId = .ok session) :
    LegalRecord syncer done
      (RuntimeState.syncRecordKey parsed session.1 session.2)
      parsed.prevSeq := by
  cases legal with
  | result said _ isResult =>
      cases read.symm.trans said
      cases kind.symm.trans isResult
  | record said isMapped _ _ _ isLegal =>
      cases read.symm.trans said
      cases mapped.symm.trans isMapped
      exact isLegal sole

end Legality

/-- Others write no messages of the kind. -/
def SoleWriter (setting : Setting) (text : JsonText) (kind : Kind) : Prop :=
  ∀ log message parsed, setting.foreign log message →
    readMessage text message = some parsed → parsed.kind ≠ kind

/-- A log in which the worker's messages are legal and all others foreign. -/
structure Chronicle (setting : Setting) (deployed : P2PSyncer → Prop)
    (entries : List LogEntry) : Prop where
  foreign : ∀ entry ∈ entries, entry.own = false →
    ∃ log, setting.foreign log entry.message
  own : ∀ done entry, done ++ [entry] <+: entries → entry.own = true →
    setting.committable entry.message ∧ ∃ syncer, deployed syncer ∧
      Legal syncer (SoleWriter setting syncer.text .syncRecord) done
        entry.message

section Chronicles

variable {setting : Setting} {deployed : P2PSyncer → Prop}
  {entries : List LogEntry} {message : Message} {syncer : P2PSyncer}

theorem Chronicle.append_foreign (chronicle : Chronicle setting deployed entries)
    (allowed : ∃ log, setting.foreign log message) :
    Chronicle setting deployed (entries ++ [⟨message, false⟩]) where
  foreign := by
    intro entry member isForeign
    rcases List.mem_append.mp member with old | new
    · exact chronicle.foreign entry old isForeign
    · rw [List.mem_singleton.mp new]
      exact allowed
  own := by
    intro done entry isPrefix isOwn
    rcases List.prefix_concat_iff.mp isPrefix with whole | earlier
    · rcases List.append_inj' whole rfl with ⟨-, last⟩
      cases List.cons.inj last |>.1
      cases isOwn
    · exact chronicle.own done entry earlier isOwn

theorem Chronicle.append_own (chronicle : Chronicle setting deployed entries)
    (deploys : deployed syncer) (accepted : setting.committable message)
    (legal : Legal syncer (SoleWriter setting syncer.text .syncRecord) entries
      message) :
    Chronicle setting deployed (entries ++ [⟨message, true⟩]) where
  foreign := by
    intro entry member isForeign
    rcases List.mem_append.mp member with old | new
    · exact chronicle.foreign entry old isForeign
    · rw [List.mem_singleton.mp new] at isForeign
      cases isForeign
  own := by
    intro done entry isPrefix isOwn
    rcases List.prefix_concat_iff.mp isPrefix with whole | earlier
    · rcases List.append_inj' whole rfl with ⟨rfl, last⟩
      cases List.cons.inj last |>.1
      exact ⟨accepted, syncer, deploys, legal⟩
    · exact chronicle.own done entry earlier isOwn

/-- What only the worker writes, it has written. -/
theorem Chronicle.own_of_kind {text : JsonText} {kind : Kind}
    (chronicle : Chronicle setting deployed entries)
    (sole : SoleWriter setting text kind) {entry : LogEntry}
    (member : entry ∈ entries) {parsed : ParsedMessage}
    (read : readMessage text entry.message = some parsed)
    (isKind : parsed.kind = kind) : entry.own = true := by
  cases isOwn : entry.own with
  | true => rfl
  | false =>
      rcases chronicle.foreign entry member isOwn with ⟨log, allowed⟩
      exact absurd isKind (sole log _ parsed allowed read)

theorem Chronicle.legal_of_kind {text : JsonText} {kind : Kind}
    (chronicle : Chronicle setting deployed entries)
    (sole : SoleWriter setting text kind) {done : List LogEntry}
    {entry : LogEntry} (isPrefix : done ++ [entry] <+: entries)
    {parsed : ParsedMessage}
    (read : readMessage text entry.message = some parsed)
    (isKind : parsed.kind = kind) :
    ∃ author, deployed author ∧
      Legal author (SoleWriter setting author.text .syncRecord) done
        entry.message := by
  have member : entry ∈ entries := isPrefix.subset (by simp)
  have own := chronicle.own_of_kind sole member read isKind
  exact (chronicle.own done entry isPrefix own).2

end Chronicles

/-! ## Configurations with one mapping -/

/-- The configurations have the same mapping entries and the same worker; they
may differ in the rest, as in tokens and times. -/
structure SameMapping (left right : P2PSyncer) : Prop where
  text : left.text = right.text
  mappings : left.config.mappings = right.config.mappings
  worker : left.config.worker.principal = right.config.worker.principal

section SameMapping

theorem SameMapping.symm {left right : P2PSyncer}
    (same : SameMapping left right) : SameMapping right left :=
  ⟨same.text.symm, same.mappings.symm, same.worker.symm⟩

theorem SameMapping.trans {first second third : P2PSyncer}
    (left : SameMapping first second) (right : SameMapping second third) :
    SameMapping first third :=
  ⟨left.text.trans right.text, left.mappings.trans right.mappings,
    left.worker.trans right.worker⟩

variable {left right : P2PSyncer} {entries done : List LogEntry}
  {message : Message} {task : OutboundTask}

theorem SameMapping.tables (same : SameMapping left right) :
    P2PMappingIndex.SameTables left.mapping right.mapping :=
  P2PMappingIndex.sameTables_build same.mappings left.built right.built

theorem SameMapping.roles (same : SameMapping left right)
    (parsed : ParsedMessage) :
    left.validateMessageRoles parsed = right.validateMessageRoles parsed := by
  rw [validateMessageRoles, validateMessageRoles]
  cases parsed.kind with
  | sendRequest => rfl
  | sendResult =>
      dsimp only
      rw [same.worker]
  | syncRecord =>
      dsimp only
      rw [P2PMappingIndex.entriesForChannel, P2PMappingIndex.entriesForChannel,
        same.tables.readChannel, same.tables.peerPrincipals]

theorem SameMapping.readItem? (same : SameMapping left right)
    (message : Message) :
    WrittenLog.readItem? left message = WrittenLog.readItem? right message := by
  rw [WrittenLog.readItem?, WrittenLog.readItem?, same.text]
  simp only [same.tables.providerSession]

theorem SameMapping.logItems (same : SameMapping left right)
    (entries : List LogEntry) :
    WrittenLog.logItems left entries = WrittenLog.logItems right entries := by
  apply List.filterMap_congr
  intro entry _
  exact same.readItem? entry.message

theorem SameMapping.logRequests (same : SameMapping left right)
    (entries : List LogEntry) :
    WrittenLog.logRequests left entries =
      WrittenLog.logRequests right entries := by
  rw [WrittenLog.logRequests, WrittenLog.logRequests, same.logItems]

theorem SameMapping.logFacts (same : SameMapping left right)
    (entries : List LogEntry) :
    WrittenLog.logFacts left entries = WrittenLog.logFacts right entries := by
  rw [WrittenLog.logFacts, WrittenLog.logFacts, same.logItems]

theorem SameMapping.due (same : SameMapping left right)
    (due : Due left done task) : Due right done task where
  canonical := by
    rw [← same.logRequests]
    exact due.canonical
  isOpen := by
    rw [← same.logFacts]
    exact due.isOpen
  serialized := by
    intro other
    rw [← same.logRequests, ← same.logFacts]
    exact due.serialized other

theorem SameMapping.legal {soleRecords : Prop} (same : SameMapping left right)
    (legal : Legal left soleRecords done message) :
    Legal right soleRecords done message := by
  cases legal with
  | result read mapped kind roles bounded legal =>
      rcases legal with ⟨task, due, resultOf⟩
      rw [same.text] at read
      rw [same.tables.providerSession] at mapped
      rw [same.roles] at roles
      exact .result read mapped kind roles bounded
        ⟨task, same.due due, resultOf⟩
  | record read mapped kind roles bounded legal =>
      rw [same.text] at read
      rw [same.tables.providerSession] at mapped
      rw [same.roles] at roles
      refine .record read mapped kind roles bounded ?_
      intro sole
      have isLegal := legal sole
      constructor
      · rw [← same.logFacts]
        exact isLegal.isNew
      · rw [← same.logFacts]
        exact isLegal.linked
      · rw [← same.logFacts]
        exact isLegal.oneChannel

end SameMapping

/-- All deployed configurations have the mapping of this one. -/
def SharedMapping (deployed : P2PSyncer → Prop) (syncer : P2PSyncer) : Prop :=
  ∀ author, deployed author → SameMapping author syncer

theorem sharedMapping_single {syncer : P2PSyncer} :
    SharedMapping (· = syncer) syncer := by
  rintro author rfl
  exact ⟨rfl, rfl, rfl⟩

/-- A log of deployments with one mapping is a log of any one of them. -/
theorem Chronicle.single {setting : Setting} {deployed : P2PSyncer → Prop}
    {syncer : P2PSyncer} {entries : List LogEntry}
    (shared : SharedMapping deployed syncer)
    (chronicle : Chronicle setting deployed entries) :
    Chronicle setting (· = syncer) entries where
  foreign := chronicle.foreign
  own := by
    intro done entry isPrefix isOwn
    rcases chronicle.own done entry isPrefix isOwn with
      ⟨accepted, author, deploys, legal⟩
    have same := shared author deploys
    rw [same.text] at legal
    exact ⟨accepted, syncer, rfl, same.legal legal⟩

end OpenEventIm.Syncer.WrittenLog
