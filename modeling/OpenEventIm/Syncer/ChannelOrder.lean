import OpenEventIm.Syncer.StartupCut
import OpenEventIm.Syncer.WorkerRuns

/-!
# The order of sends in a channel

The worker advances each channel serially, over any number of processes, whose
configurations may differ: a request is sent only when all earlier requests of
its channel have results.  What the log says is read here without regard to a
configuration.
-/

namespace OpenEventIm.Syncer.ChannelOrder

open OpenEventIm.Foundation
open OpenEventIm.Foundation.Interaction
open OpenEventIm.Foundation.PendingCalls
open OpenEventIm.Sdk.Codec
open OpenEventIm.Sdk.Client
open OpenEventIm.Sdk.MessageReading
open OpenEventIm.Service.Calls
open OpenEventIm.Service.World
open OpenEventIm.Syncer.Models
open OpenEventIm.Syncer.Mapping
open OpenEventIm.Syncer.State
open OpenEventIm.Syncer.LogMeaning
open OpenEventIm.Syncer.HistoryReplay
open OpenEventIm.Syncer.HistoryReplay.P2PSyncer
open OpenEventIm.Syncer.StartupCut
open OpenEventIm.Syncer.Worker
open OpenEventIm.Syncer.WrittenLog
open OpenEventIm.Syncer.WorkerLedger
open OpenEventIm.Syncer.WorkerMemory
open OpenEventIm.Syncer.WorkerRuns

/-! ## Requests and results of a log -/

section Reading

variable (text : JsonText)

/-- The request that a message carries. -/
def requestOf? (message : Message) : Option OutboundTask :=
  (readMessage text message).bind fun parsed =>
    if parsed.kind = .sendRequest then some (.ofParsed parsed) else none

/-- The request that a message answers. -/
def answeredBy? (message : Message) : Option String :=
  (readMessage text message).bind fun parsed =>
    if parsed.kind = .sendResult then
      some (TerminalResult.ofParsed parsed).requestId
    else
      none

/-- The `send.request` messages of the log. -/
def sendRequests (entries : List LogEntry) : List OutboundTask :=
  entries.filterMap fun entry => requestOf? text entry.message

/-- The requests with a `send.result`. -/
def answered (entries : List LogEntry) : List String :=
  entries.filterMap fun entry => answeredBy? text entry.message

/-- The request is the first one of its id. -/
def Canonical (entries : List LogEntry) (task : OutboundTask) : Prop :=
  firstRequest (sendRequests text entries) task.requestId = some task

/-- The canonical requests of a channel in the order of the log; a request is
known by its number. -/
def canonicalRequests (entries : List LogEntry) (channelId : Nat) :
    List OutboundTask :=
  (sendRequests text entries).filter fun task =>
    task.channelId = channelId ∧
      (firstRequest (sendRequests text entries) task.requestId).map
        OutboundTask.seq = some task.seq

/-- Requests with one id say the same. -/
def ConflictFree (entries : List LogEntry) : Prop :=
  ∀ left ∈ sendRequests text entries, ∀ right ∈ sendRequests text entries,
    left.requestId = right.requestId → sameSendRequest left right = true

variable {text} {syncer : P2PSyncer} {entries done more : List LogEntry}
  {message : Message} {task other : OutboundTask} {requestId : String}

theorem sendRequests_append : sendRequests text (entries ++ more) =
    sendRequests text entries ++ sendRequests text more :=
  List.filterMap_append

theorem sendRequests_cons {entry : LogEntry} :
    sendRequests text (entry :: entries) =
      (requestOf? text entry.message).toList ++ sendRequests text entries := by
  rw [sendRequests, List.filterMap_cons]
  cases requestOf? text entry.message <;> rfl

theorem answered_append_iff : requestId ∈ answered text (entries ++ more) ↔
    requestId ∈ answered text entries ∨ requestId ∈ answered text more := by
  rw [answered, List.filterMap_append, List.mem_append]
  rfl

theorem requestOf?_eq_some_iff : requestOf? text message = some task ↔
    ∃ parsed, readMessage text message = some parsed ∧
      parsed.kind = .sendRequest ∧ .ofParsed parsed = task := by
  simp only [requestOf?, Option.bind_eq_some_iff, Option.ite_none_right_eq_some,
    Option.some.injEq]

theorem answeredBy?_eq_some_iff : answeredBy? text message = some requestId ↔
    ∃ parsed, readMessage text message = some parsed ∧
      parsed.kind = .sendResult ∧
        (TerminalResult.ofParsed parsed).requestId = requestId := by
  simp only [answeredBy?, Option.bind_eq_some_iff,
    Option.ite_none_right_eq_some, Option.some.injEq]

/-- The configuration owns the channel of the request. -/
def Owned (syncer : P2PSyncer) (task : OutboundTask) : Bool :=
  syncer.mapping.ownsChannel task.channelId

theorem request_of_readItem? :
    (readItem? syncer message).bind LogItem.request? =
      (requestOf? syncer.text message).filter (Owned syncer) := by
  rw [requestOf?, readItem?]
  cases readMessage syncer.text message with
  | none => rfl
  | some parsed =>
      dsimp only [Option.bind_eq_bind, Option.bind_some]
      cases owned : syncer.mapping.ownsChannel parsed.channelId with
      | false =>
          have unmapped : (syncer.mapping.providerSession
              parsed.channelId).toOption = none := by
            cases mapped : syncer.mapping.providerSession parsed.channelId with
            | error exc => rfl
            | ok session =>
                have owns := P2PMappingIndex.ownsChannel_of_providerSession
                  syncer.built mapped
                rw [owned] at owns
                cases owns
          rw [unmapped]
          have notOwned : Owned syncer (.ofParsed parsed) = false := owned
          cases kind : parsed.kind with
          | sendRequest => simp [Option.filter, notOwned]
          | sendResult => simp
          | syncRecord => simp
      | true =>
          rcases exists_session owned with ⟨session, mapped⟩
          have isOwned : Owned syncer (.ofParsed parsed) = true := owned
          rw [mapped]
          cases kind : parsed.kind with
          | sendRequest =>
              simp [Except.toOption, itemOf, kind, LogItem.request?,
                Option.filter, isOwned]
          | sendResult =>
              simp [Except.toOption, itemOf, kind, LogItem.request?]
          | syncRecord =>
              simp [Except.toOption, itemOf, kind, LogItem.request?]

/-- A configuration sees the requests of its channels. -/
theorem logRequests_eq_filter : logRequests syncer entries =
    (sendRequests syncer.text entries).filter (Owned syncer) := by
  induction entries with
  | nil => rfl
  | cons entry rest ih =>
      have split := @logRequests_append syncer [entry] rest
      have first := @request_of_readItem? syncer entry.message
      rw [List.singleton_append] at split
      rw [split, ih, logRequests_singleton, first, sendRequests_cons,
        List.filter_append]
      congr 1
      cases requestOf? syncer.text entry.message with
      | none => rfl
      | some task =>
          cases owned : Owned syncer task <;>
            simp [Option.filter, owned]

/-- Without conflicts, a configuration sees the canonical requests of its
channels as such. -/
theorem canonical_iff (conflictFree : ConflictFree syncer.text entries) :
    firstRequest (logRequests syncer entries) task.requestId = some task ↔
      Canonical syncer.text entries task ∧ Owned syncer task = true := by
  have seen {first : OutboundTask} (found : firstRequest
      (sendRequests syncer.text entries) task.requestId = some first)
      (owned : Owned syncer first = true) :
      firstRequest (logRequests syncer entries) task.requestId =
        some first := by
    rw [logRequests_eq_filter, firstRequest, List.find?_filter]
    rcases List.find?_eq_some_iff_append.mp found with
      ⟨isRequest, before, after, split, others⟩
    apply List.find?_eq_some_iff_append.mpr
    refine ⟨by simp [owned, isRequest], before, after, split, ?_⟩
    intro earlier member
    have isOther := others earlier member
    simp only [Bool.not_eq_true', decide_eq_false_iff_not] at isOther
    simp [isOther]
  constructor
  · intro found
    have member := mem_of_firstRequest found
    rw [logRequests_eq_filter] at member
    rcases List.mem_filter.mp member with ⟨inLog, owned⟩
    refine ⟨?_, owned⟩
    cases known : firstRequest (sendRequests syncer.text entries)
        task.requestId with
    | none => exact absurd (List.find?_eq_none.mp known task inLog) (by simp)
    | some first =>
        have same := conflictFree first (mem_of_firstRequest known) task inLog
          (firstRequest_requestId known)
        have owns : Owned syncer first = true := by
          rw [Owned, channelId_of_same same]
          exact owned
        exact known.trans ((seen known owns).symm.trans found)
  · rintro ⟨canonical, owned⟩
    exact seen canonical owned

theorem Canonical.append (canonical : Canonical text entries task) :
    Canonical text (entries ++ more) task := by
  rw [Canonical] at canonical
  rw [Canonical, sendRequests_append, firstRequest_append_list, canonical]
  rfl

/-- What a configuration takes for answered is answered. -/
theorem answered_of_firstResult
    (found : firstResult (logFacts syncer entries) requestId ≠ none) :
    requestId ∈ answered syncer.text entries := by
  rcases firstResult_ne_none_iff.mp found with ⟨result, key, member, same⟩
  rcases mem_logFacts.mp member with ⟨entry, inside, read⟩
  rcases parsed_of_result read with ⟨parsed, -, said, -, kind, rfl, -⟩
  exact List.mem_filterMap.mpr ⟨entry, inside,
    answeredBy?_eq_some_iff.mpr ⟨parsed, said, kind, same⟩⟩

theorem conflictFree_of_append
    (conflictFree : ConflictFree text (entries ++ more)) :
    ConflictFree text entries := by
  intro left isLeft right isRight same
  rw [ConflictFree, sendRequests_append] at conflictFree
  exact conflictFree left (List.mem_append_left _ isLeft) right
    (List.mem_append_left _ isRight) same

/-- Requests come in increasing number. -/
theorem sendRequests_increasing
    (increasing : entries.Pairwise fun left right => left.seq < right.seq) :
    (sendRequests text entries).Pairwise
      fun left right => left.seq < right.seq := by
  apply List.Pairwise.filterMap _ _ increasing
  intro left right ordered first isFirst second isSecond
  rcases requestOf?_eq_some_iff.mp isFirst with ⟨said, read, -, rfl⟩
  rcases requestOf?_eq_some_iff.mp isSecond with ⟨later, next, -, rfl⟩
  show said.seq < later.seq
  rw [(readMessage_envelope read).1, (readMessage_envelope next).1]
  exact ordered

/-- A request is known by its number. -/
theorem eq_of_seq
    (increasing : entries.Pairwise fun left right => left.seq < right.seq)
    (member : task ∈ sendRequests text entries)
    (isOther : other ∈ sendRequests text entries)
    (same : task.seq = other.seq) : task = other := by
  have distinct : ((sendRequests text entries).map OutboundTask.seq).Nodup := by
    apply List.Pairwise.imp Nat.ne_of_lt
    exact List.pairwise_map.mpr (sendRequests_increasing increasing)
  exact List.inj_on_of_nodup_map distinct member isOther same

theorem mem_canonicalRequests {channelId : Nat}
    (increasing : entries.Pairwise fun left right => left.seq < right.seq) :
    task ∈ canonicalRequests text entries channelId ↔
      Canonical text entries task ∧ task.channelId = channelId := by
  rw [canonicalRequests, List.mem_filter, decide_eq_true_iff,
    Option.map_eq_some_iff]
  constructor
  · rintro ⟨member, channel, first, found, same⟩
    have isFirst := eq_of_seq increasing (mem_of_firstRequest found) member same
    rw [isFirst] at found
    exact ⟨found, channel⟩
  · rintro ⟨canonical, channel⟩
    exact ⟨mem_of_firstRequest canonical, channel, task, canonical, rfl⟩

end Reading

/-! ## A log of the worker -/

/-- A log that the worker has written, and requests in it without conflicts. -/
structure Written (setting : Setting) (deployed : P2PSyncer → Prop)
    (text : JsonText) (entries : List LogEntry) : Prop where
  sameText : ∀ syncer, deployed syncer → syncer.text = text
  sole : SoleWriter setting text .sendResult
  chronicle : Chronicle setting deployed entries
  conflictFree : ConflictFree text entries
  increasing : entries.Pairwise fun left right => left.seq < right.seq

section Written

variable {setting : Setting} {deployed : P2PSyncer → Prop} {text : JsonText}
  {entries done : List LogEntry} {syncer : P2PSyncer}
  {task other : OutboundTask} {requestId : String}

theorem Chronicle.of_isPrefix (chronicle : Chronicle setting deployed entries)
    (isPrefix : done <+: entries) : Chronicle setting deployed done where
  foreign entry member := chronicle.foreign entry (isPrefix.subset member)
  own earlier entry shorter := chronicle.own earlier entry
    (shorter.trans isPrefix)

theorem Written.of_isPrefix (written : Written setting deployed text entries)
    (isPrefix : done <+: entries) : Written setting deployed text done where
  sameText := written.sameText
  sole := written.sole
  chronicle := Chronicle.of_isPrefix written.chronicle isPrefix
  conflictFree := by
    rcases isPrefix with ⟨more, rfl⟩
    exact conflictFree_of_append written.conflictFree
  increasing := written.increasing.sublist isPrefix.sublist

theorem Canonical.of_isPrefix (canonical : Canonical text done task)
    (isPrefix : done <+: entries) : Canonical text entries task := by
  rcases isPrefix with ⟨more, rfl⟩
  exact canonical.append

theorem answered_of_isPrefix (isPrefix : done <+: entries)
    (isAnswered : requestId ∈ answered text done) :
    requestId ∈ answered text entries := by
  rcases isPrefix with ⟨more, rfl⟩
  exact answered_append_iff.mpr (Or.inl isAnswered)

theorem Canonical.unique (canonical : Canonical text entries task)
    (isOther : Canonical text entries other)
    (same : task.requestId = other.requestId) : task = other := by
  rw [Canonical, same] at canonical
  exact Option.some.inj (canonical.symm.trans isOther)

/-- The result that answers a request, where it stands. -/
theorem Written.answers (written : Written setting deployed text entries)
    (isAnswered : requestId ∈ answered text entries) :
    ∃ done entry parsed syncer task, done ++ [entry] <+: entries ∧
      readMessage text entry.message = some parsed ∧
      parsed.kind = .sendResult ∧ deployed syncer ∧ Due syncer done task ∧
      ResultOf task (.ofParsed parsed) ∧ task.requestId = requestId := by
  rcases List.mem_filterMap.mp isAnswered with ⟨entry, member, answers⟩
  rcases answeredBy?_eq_some_iff.mp answers with ⟨parsed, read, kind, rfl⟩
  rcases List.append_of_mem member with ⟨done, rest, rfl⟩
  have isPrefix : done ++ [entry] <+: done ++ entry :: rest := ⟨rest, by simp⟩
  rcases written.chronicle.legal_of_kind written.sole isPrefix read kind with
    ⟨syncer, deploys, legal⟩
  have again := read
  rw [← written.sameText syncer deploys] at again
  rcases legal.answers again kind with ⟨task, due, resultOf⟩
  exact ⟨done, entry, parsed, syncer, task, isPrefix, read, kind, deploys, due,
    resultOf, resultOf.requestId.symm⟩

/-- A request that is due, without regard to the configuration. -/
structure InTurn (text : JsonText) (done entries : List LogEntry)
    (task : OutboundTask) : Prop where
  canonical : Canonical text done task
  isOpen : task.requestId ∉ answered text done
  serialized : ∀ other, Canonical text entries other →
    other.channelId = task.channelId → other.seq < task.seq →
      other.requestId ∈ answered text done

theorem Written.inTurn (written : Written setting deployed text entries)
    (isPrefix : done <+: entries) (deploys : deployed syncer)
    (due : Due syncer done task) : InTurn text done entries task := by
  cases written.sameText syncer deploys
  have before := written.of_isPrefix isPrefix
  rcases (canonical_iff before.conflictFree).mp due.canonical with
    ⟨canonical, owned⟩
  refine ⟨canonical, ?_, ?_⟩
  · intro isAnswered
    rcases before.answers isAnswered with ⟨earlier, entry, parsed, author, first,
      shorter, read, kind, authors, isDue, resultOf, same⟩
    have earlierPrefix : earlier <+: done :=
      (List.prefix_append _ _).trans shorter
    have known := before.of_isPrefix earlierPrefix
    have sameText := written.sameText author authors
    rw [← sameText] at known
    have isFirst := ((canonical_iff known.conflictFree).mp
      isDue.canonical).1.of_isPrefix earlierPrefix
    rw [sameText] at isFirst
    cases isFirst.unique canonical same
    have owns : syncer.mapping.ownsChannel parsed.channelId = true := by
      have channel : parsed.channelId = task.channelId := resultOf.channelId
      rw [channel]
      exact owned
    rcases exists_session owns with ⟨session, mapped⟩
    have said := readItem?_result read mapped kind
    have result := mem_logFacts.mpr ⟨entry, shorter.subset (by simp), said⟩
    exact firstResult_ne_none_iff.mpr
      ⟨_, _, result, resultOf.requestId⟩ due.isOpen
  · intro other isOther channel earlier
    have ownsOther : Owned syncer other = true := by
      rw [Owned, channel]
      exact owned
    have seen := (canonical_iff written.conflictFree).mpr ⟨isOther, ownsOther⟩
    have increasing : (logRequests syncer entries).Pairwise
        fun left right => left.seq < right.seq := by
      rw [logRequests_eq_filter]
      exact (sendRequests_increasing written.increasing).filter _
    have sooner : logRequests syncer done <+: logRequests syncer entries := by
      rcases isPrefix with ⟨more, rfl⟩
      rw [logRequests_append]
      exact List.prefix_append _ _
    apply answered_of_firstResult
    exact due.serialized other (firstRequest_earlier sooner increasing
      (mem_of_firstRequest due.canonical) seen earlier) channel earlier

end Written

/-! ## Order of the sends -/

/-- A filter whose elements precede all others takes a prefix. -/
theorem filter_prefix_of_pairwise {Element : Type} {holds : Element → Bool}
    {elements : List Element} (ordered : elements.Pairwise fun left right =>
      holds right = true → holds left = true) :
    elements.filter holds <+: elements := by
  induction elements with
  | nil => exact List.nil_prefix
  | cons element rest ih =>
      rcases List.pairwise_cons.mp ordered with ⟨first, others⟩
      cases known : holds element with
      | true =>
          rw [List.filter_cons_of_pos known]
          exact (List.prefix_cons_inj element).mpr (ih others)
      | false =>
          have none : (element :: rest).filter holds = [] := by
            rw [List.filter_eq_nil_iff]
            intro later member isLater
            rcases List.mem_cons.mp member with rfl | inside
            · exact absurd isLater (by simp [known])
            · exact absurd (first later inside isLater) (by simp [known])
          rw [none]
          exact List.nil_prefix

/-- The canonical request that one of the sends is for. -/
def SentFor (text : JsonText) (entries : List LogEntry) (sends : List Send)
    (task : OutboundTask) : Prop :=
  Canonical text entries task ∧ ∃ send ∈ sends, send.requestId = task.requestId

/-- Within each channel, requests are first sent in the order of the log, one
after the other, and the ones with results are the first ones. -/
structure InOrder (text : JsonText) (entries : List LogEntry)
    (sends : List Send) : Prop where
  canonical : ∀ send ∈ sends, ∃ task, Canonical text entries task ∧
    send.requestId = task.requestId
  increasing : ∀ earlier send later, sends = earlier ++ send :: later →
    (∀ sooner ∈ earlier, sooner.requestId ≠ send.requestId) →
      ∀ task, SentFor text entries [send] task →
        ∀ other, SentFor text entries earlier other →
          other.channelId = task.channelId → other.seq < task.seq
  single : ∀ task, SentFor text entries sends task →
    ∀ other, SentFor text entries sends other →
      task.requestId ∉ answered text entries →
        other.requestId ∉ answered text entries →
          task.channelId = other.channelId → task = other
  sorted : ∀ channelId, (canonicalRequests text entries channelId).Pairwise
    fun left right => left.seq < right.seq
  answeredFirst : ∀ channelId,
    ((canonicalRequests text entries channelId).filter fun task =>
      task.requestId ∈ answered text entries) <+:
        canonicalRequests text entries channelId

section Order

variable {setting : Setting} {deployed : P2PSyncer → Prop} {text : JsonText}
  {entries : List LogEntry} {sends earlier later : List Send} {send : Send}
  {task other : OutboundTask}

/-- At the time of a send its request was next. -/
theorem Written.made (written : Written setting deployed text entries)
    (history : SendHistory deployed entries sends)
    (split : sends = earlier ++ send :: later)
    (canonical : Canonical text entries task)
    (same : send.requestId = task.requestId) :
    ∃ done, done <+: entries ∧ SendHistory deployed done earlier ∧
      InTurn text done entries task := by
  rw [split] at history
  rcases history.split with
    ⟨done, syncer, due, grown, sooner, deploys, isDue, made⟩
  have inTurn := written.inTurn grown deploys isDue
  cases (inTurn.canonical.of_isPrefix grown).unique canonical
    (made.requestId.symm.trans same)
  exact ⟨done, grown, sooner, inTurn⟩

/-- What was sent earlier is of a smaller number. -/
theorem Written.sentEarlier (written : Written setting deployed text entries)
    (history : SendHistory deployed entries sends)
    (split : sends = earlier ++ send :: later)
    (isFirst : ∀ sooner ∈ earlier, sooner.requestId ≠ send.requestId)
    (isTask : SentFor text entries [send] task)
    (isOther : SentFor text entries earlier other)
    (channel : other.channelId = task.channelId) : other.seq < task.seq := by
  rcases isTask with ⟨canonical, sent, isSent, same⟩
  cases List.mem_singleton.mp isSent
  rcases isOther with ⟨otherCanonical, sooner, isSooner, otherSame⟩
  rcases written.made history split canonical same with
    ⟨done, grown, before, inTurn⟩
  rcases List.append_of_mem isSooner with ⟨older, newer, splitEarlier⟩
  have writtenThen := written.of_isPrefix grown
  -- The earlier send was made of a request that the log had at the later one.
  have otherThen : Canonical text done other := by
    rw [splitEarlier] at before
    rcases before.split with
      ⟨first, syncer, due, shorter, -, deploys, isDue, made⟩
    have turn := writtenThen.inTurn shorter deploys isDue
    have known := turn.canonical.of_isPrefix shorter
    cases (known.of_isPrefix grown).unique otherCanonical
      (made.requestId.symm.trans otherSame)
    exact known
  rcases writtenThen.made before splitEarlier otherThen otherSame with
    ⟨first, shorter, -, otherTurn⟩
  rcases Nat.lt_trichotomy other.seq task.seq with less | equal | greater
  · exact less
  · cases eq_of_seq written.increasing (mem_of_firstRequest otherCanonical)
      (mem_of_firstRequest canonical) equal
    exact absurd (otherSame.trans same.symm) (isFirst sooner isSooner)
  · have isAnswered := otherTurn.serialized task inTurn.canonical channel.symm
      greater
    exact absurd (answered_of_isPrefix shorter isAnswered) inTurn.isOpen

/-- Of two requests of a channel that have been sent, the one with the smaller
number has a result. -/
theorem Written.sentAfter (written : Written setting deployed text entries)
    (history : SendHistory deployed entries sends)
    (isTask : SentFor text entries sends task)
    (isOther : Canonical text entries other)
    (channel : other.channelId = task.channelId)
    (less : other.seq < task.seq) :
    other.requestId ∈ answered text entries := by
  rcases isTask with ⟨canonical, send, isSent, same⟩
  rcases List.append_of_mem isSent with ⟨earlier, later, split⟩
  rcases written.made history split canonical same with ⟨done, grown, -, turn⟩
  exact answered_of_isPrefix grown (turn.serialized other isOther channel less)

theorem Written.unfinished (written : Written setting deployed text entries)
    (history : SendHistory deployed entries sends)
    (isTask : SentFor text entries sends task)
    (isOther : SentFor text entries sends other)
    (isOpen : task.requestId ∉ answered text entries)
    (otherOpen : other.requestId ∉ answered text entries)
    (channel : task.channelId = other.channelId) : task = other := by
  rcases Nat.lt_trichotomy task.seq other.seq with less | equal | greater
  · exact absurd (written.sentAfter history isOther isTask.1 channel less)
      isOpen
  · exact eq_of_seq written.increasing (mem_of_firstRequest isTask.1)
      (mem_of_firstRequest isOther.1) equal
  · exact absurd (written.sentAfter history isTask isOther.1 channel.symm
      greater) otherOpen

/-- A request with a result comes after requests with results. -/
theorem Written.answeredAfter (written : Written setting deployed text entries)
    (canonical : Canonical text entries task)
    (isAnswered : task.requestId ∈ answered text entries)
    (isOther : Canonical text entries other)
    (channel : other.channelId = task.channelId)
    (less : other.seq < task.seq) :
    other.requestId ∈ answered text entries := by
  rcases written.answers isAnswered with ⟨done, entry, parsed, syncer, due,
    shorter, -, -, deploys, isDue, -, same⟩
  have grown : done <+: entries := (List.prefix_append _ _).trans shorter
  have turn := written.inTurn grown deploys isDue
  cases (turn.canonical.of_isPrefix grown).unique canonical same
  exact answered_of_isPrefix grown (turn.serialized other isOther channel less)

theorem Written.sorted (written : Written setting deployed text entries)
    (channelId : Nat) : (canonicalRequests text entries channelId).Pairwise
      fun left right => left.seq < right.seq :=
  (sendRequests_increasing written.increasing).filter _

theorem Written.inOrder (written : Written setting deployed text entries)
    (history : SendHistory deployed entries sends) :
    InOrder text entries sends where
  canonical := by
    intro send member
    rcases List.append_of_mem member with ⟨earlier, later, rfl⟩
    rcases history.split with
      ⟨done, syncer, task, grown, -, deploys, due, made⟩
    exact ⟨task,
      (written.inTurn grown deploys due).canonical.of_isPrefix grown,
      made.requestId⟩
  increasing _ _ _ split isFirst _ isTask _ isOther :=
    written.sentEarlier history split isFirst isTask isOther
  single _ isTask _ isOther := written.unfinished history isTask isOther
  sorted := written.sorted
  answeredFirst := by
    intro channelId
    apply filter_prefix_of_pairwise
    apply (written.sorted channelId).imp_of_mem
    intro left right isLeft isRight less isAnswered
    rcases (mem_canonicalRequests written.increasing).mp isLeft with
      ⟨leftCanonical, leftChannel⟩
    rcases (mem_canonicalRequests written.increasing).mp isRight with
      ⟨rightCanonical, rightChannel⟩
    rw [decide_eq_true_iff] at isAnswered ⊢
    exact written.answeredAfter rightCanonical isAnswered leftCanonical
      (leftChannel.trans rightChannel.symm) less

end Order

/-! ## Runs -/

section Runs

variable {setting : Setting} {deployed : P2PSyncer → Prop} {text : JsonText}
  {first moment : WorldState setting}

theorem Moment.written
    (sameText : ∀ syncer, deployed syncer → syncer.text = text)
    (sole : SoleWriter setting text .sendResult) (begins : Begins first)
    (isMoment : Moment setting deployed first moment)
    (conflictFree : ConflictFree text moment.log.entries) :
    Written setting deployed text moment.log.entries := by
  have soleResults : SoleResults setting deployed := by
    intro syncer deploys
    rw [sameText syncer deploys]
    exact sole
  exact {
    sameText
    sole
    chronicle := (Moment.ledger soleResults begins isMoment).chronicle
    conflictFree
    increasing := moment.log.increasing }

/-- In every run, a send is made when all earlier requests of its channel have
results, and so each channel advances serially. -/
theorem sends_inOrder
    (sameText : ∀ syncer, deployed syncer → syncer.text = text)
    (sole : SoleWriter setting text .sendResult) (begins : Begins first)
    (conflictFree : ConflictFree text moment.log.entries) :
    (∀ request send, Asks setting deployed first moment request →
      sendOf? request = some send →
        ∃ task, Canonical text moment.log.entries task ∧
          send.requestId = task.requestId ∧
            ∀ other, Canonical text moment.log.entries other →
              other.channelId = task.channelId → other.seq < task.seq →
                other.requestId ∈ answered text moment.log.entries) ∧
    (Moment setting deployed first moment →
      InOrder text moment.log.entries (sendsOf moment.trace)) := by
  have soleResults : SoleResults setting deployed := by
    intro syncer deploys
    rw [sameText syncer deploys]
    exact sole
  constructor
  · intro request send asks isSend
    have written := Moment.written sameText sole begins asks.moment conflictFree
    rcases asks with ⟨syncer, stage, before, run, issued⟩
    rcases WorkerRun.issues soleResults begins run issued with inert | permitted
    · rw [inert.2] at isSend
      cases isSend
    · rcases permitted with ⟨vars, lastSeq, handed, -, -, -, -, -, permitted⟩
      rcases permitted.sends send isSend with ⟨task, due, made⟩
      have turn := written.inTurn List.prefix_rfl (WorkerRun.deploys run) due
      exact ⟨task, turn.canonical, made.requestId, turn.serialized⟩
  · intro isMoment
    exact (Moment.written sameText sole begins isMoment conflictFree).inOrder
      (Moment.ledger soleResults begins isMoment).sends

end Runs

/-! ## A run with one request -/

/-- The result and the record are no requests. -/
theorem sendRequests_recordedLog :
    sendRequests sampleSyncer.text recordedLog.entries =
      [.ofParsed requestParsed] := by
  rcases carries_echoMessage with ⟨parsed, carries⟩
  have request : requestOf? sampleSyncer.text requestMessage =
      some (.ofParsed requestParsed) :=
    requestOf?_eq_some_iff.mpr ⟨_, read_requestMessage, rfl, rfl⟩
  have result : requestOf? sampleSyncer.text resultMessage = none := by
    rw [requestOf?, read_resultMessage]
    rfl
  have record : requestOf? sampleSyncer.text echoMessage = none := by
    rw [requestOf?, carries.read, Option.bind_some, carries.kind]
    rfl
  have entries : recordedLog.entries = [⟨requestMessage, false⟩,
    ⟨resultMessage, true⟩, ⟨echoMessage, true⟩] := rfl
  rw [entries, sendRequests_cons, sendRequests_cons, sendRequests_cons,
    request, result, record]
  rfl

theorem conflictFree_recordedLog :
    ConflictFree sampleSyncer.text recordedLog.entries := by
  intro left isLeft right isRight _
  rw [sendRequests_recordedLog] at isLeft isRight
  rw [List.mem_singleton.mp isLeft, List.mem_singleton.mp isRight]
  decide

/-- The request is sent once, when nothing comes before it, and at the end of the
run the order is kept. -/
theorem sends_inOrder_sample :
    (∃ task, Canonical sampleSyncer.text requestedLog.entries task ∧
      "r1" = task.requestId ∧
        ∀ other, Canonical sampleSyncer.text requestedLog.entries other →
          other.channelId = task.channelId → other.seq < task.seq →
            other.requestId ∈
              answered sampleSyncer.text requestedLog.entries) ∧
    InOrder sampleSyncer.text recordedLog.entries
      [⟨("lark", "oc1"), "ou8", "text", [], "r1"⟩] := by
  have sole : SoleWriter requestSetting sampleSyncer.text .sendResult :=
    hosts_requestSetting.soleWriter (by decide)
  have atSend : ConflictFree sampleSyncer.text
      (sendingWorld () : WorldState requestSetting).log.entries := by
    apply @conflictFree_of_append _ _
      [⟨resultMessage, true⟩, ⟨echoMessage, true⟩]
    exact conflictFree_recordedLog
  have atEnd : ConflictFree sampleSyncer.text
      (recordedWorld () : WorldState requestSetting).log.entries :=
    conflictFree_recordedLog
  have asks : Asks requestSetting (·.text = sampleSyncer.text) (beginning ())
      (sendingWorld ()) _ := hosts_requestSetting.asks rfl
  have isMoment : Moment requestSetting (·.text = sampleSyncer.text)
      (beginning ()) (recordedWorld ()) := hosts_requestSetting.moment rfl
  have sent := (sends_inOrder (fun _ => id) sole begins_beginning atSend).1 _ _
    asks rfl
  have inOrder := (sends_inOrder (fun _ => id) sole begins_beginning atEnd).2
    isMoment
  exact ⟨sent, inOrder⟩

end OpenEventIm.Syncer.ChannelOrder
