import Mathlib.Order.Bounds.Basic
import OpenEventIm.Foundation.JsonEquality
import OpenEventIm.Syncer.StartupCut

/-!
# What the replayed state says

The state that the history replay leaves is described once more, by sets alone:
the earliest request of an id, the ids with a result, the latest event time of
a channel, the last of the first successful results that report a provider
message.  For a log in increasing order the tables of the runtime state are
exactly these.
-/

namespace OpenEventIm.Syncer.DeclarativeMeaning

open OpenEventIm.Foundation
open OpenEventIm.Sdk.Client
open OpenEventIm.Sdk.MessageReading
open OpenEventIm.Service.Calls
open OpenEventIm.Syncer.State
open OpenEventIm.Syncer.LogMeaning
open OpenEventIm.Syncer.HistoryReplay
open OpenEventIm.Syncer.HistoryReplay.P2PSyncer
open OpenEventIm.Syncer.StartupCut

/-! ## The meaning of a log -/

/-- The earliest request of its id. -/
structure IsEarliest (requests : List OutboundTask) (requestId : String)
    (task : OutboundTask) : Prop where
  member : task ∈ requests
  ofId : task.requestId = requestId
  least : ∀ other ∈ requests, other.requestId = requestId →
    task.seq ≤ other.seq

/-- The request has a result, successful or not. -/
def HasResult (facts : List WorkerFact) (requestId : String) : Prop :=
  ∃ result key, .result result key ∈ facts ∧ result.requestId = requestId

/-- The first successful result of its request, which reports a message. -/
structure IsFirstReport (facts : List WorkerFact) (key : InboundKey)
    (result : TerminalResult) : Prop where
  reports : .result result (some key) ∈ facts
  first : ∀ other reported, .result other reported ∈ facts →
    other.requestId = result.requestId → other.status = "SUCCESS" →
      result.seq ≤ other.seq

/-- Two results say the same; the message ids are equal as decoded values. -/
structure Agree (left right : TerminalResult) : Prop where
  channelId : left.channelId = right.channelId
  recipients : left.recipients = right.recipients
  status : left.status = right.status
  providerMessageId :
    sameOptional left.providerMessageId right.providerMessageId = true
  prevSeq : left.prevSeq = right.prevSeq

/-- The event times of a channel's records. -/
def recordTimes (facts : List WorkerFact) (channelId : Nat) : Set Int :=
  {eventMs | ∃ key prevSeq, .record key prevSeq eventMs ∈ facts ∧
    key.channelId = channelId}

/-- The numbers of the first reports of a provider message. -/
def reportSeqs (facts : List WorkerFact) (key : InboundKey) : Set Nat :=
  {seq | ∃ result, IsFirstReport facts key result ∧ result.seq = seq}

/-- The state says what the requests and the facts of a log say. -/
structure Means (state : RuntimeState) (requests : List OutboundTask)
    (facts : List WorkerFact) : Prop where
  canonical : ∀ requestId task,
    state.canonicalRequestsById.get? requestId = some task ↔
      IsEarliest requests requestId task
  completed : ∀ requestId,
    requestId ∈ state.completedRequestIds ↔ HasResult facts requestId
  pending : ∀ requestId task,
    state.requestsById.get? requestId = some task ↔
      IsEarliest requests requestId task ∧ ¬HasResult facts requestId
  /-- A result answers the canonical request of its id. -/
  answers : ∀ result key, .result result key ∈ facts →
    ∃ task, IsEarliest requests result.requestId task ∧
      result.prevSeq = some task.seq ∧ result.channelId = task.channelId ∧
        result.recipients = [task.principal]
  agree : ∀ left leftKey right rightKey,
    .result left leftKey ∈ facts → .result right rightKey ∈ facts →
      left.requestId = right.requestId → Agree left right
  seen : ∀ key, key ∈ state.inboundSeen ↔
    ∃ prevSeq eventMs, .record key prevSeq eventMs ∈ facts
  latest : ∀ channelId eventMs,
    state.latestEventMsByChannel.get? channelId = some eventMs ↔
      IsGreatest (recordTimes facts channelId) eventMs
  reported : ∀ key seq,
    state.sendResultByProviderMessage.get? key = some seq ↔
      IsGreatest (reportSeqs facts key) seq

/-! ## Logs in increasing order -/

/-- The number of an item; records are not looked up by theirs. -/
def number? : LogItem → Option Nat
  | .request task => some task.seq
  | .fact (.result result _) => some result.seq
  | .fact (.record ..) => none

/-- The items are in increasing order and were read from messages. -/
structure Ascending (items : List LogItem) : Prop where
  numbers : items.Pairwise fun first second =>
    ∀ low ∈ number? first, ∀ high ∈ number? second, low < high
  /-- Only successful results report a message. -/
  successful : ∀ result key, .fact (.result result (some key)) ∈ items →
    result.status = "SUCCESS"
  wellFormed : ∀ result key, .fact (.result result key) ∈ items →
    (result.providerMessageId.getD .null).WellFormed

theorem mem_factsOf {items : List LogItem} {fact : WorkerFact} :
    fact ∈ factsOf items ↔ .fact fact ∈ items := by
  rw [factsOf, List.mem_filterMap]
  constructor
  · rintro ⟨item, member, found⟩
    cases item with
    | request => cases found
    | fact other =>
        cases found
        exact member
  · intro member
    exact ⟨_, member, rfl⟩

section Reading

variable {syncer : P2PSyncer} {message : Message} {item : LogItem}

theorem itemOf?_cases (read : syncer.itemOf? message = some item) :
    ∃ parsed session, parseMessage syncer.text message = .ok parsed ∧
      itemOf parsed session = item := by
  rw [itemOf?] at read
  cases parse : parseMessage syncer.text message with
  | error error =>
      rw [parse] at read
      cases read
  | ok parsed =>
      simp only [parse] at read
      cases known : syncer.mapping.providerSession parsed.channelId with
      | error error =>
          rw [known] at read
          cases read
      | ok session =>
          rw [known] at read
          exact ⟨parsed, session, rfl, Option.some.inj read⟩

theorem number?_itemOf? (read : syncer.itemOf? message = some item) :
    ∀ seq ∈ number? item, seq = message.seq := by
  rcases itemOf?_cases read with ⟨parsed, session, parse, rfl⟩
  have seq := (parseMessage_envelope parse).1
  unfold itemOf
  cases parsed.kind with
  | sendRequest => simpa [number?, OutboundTask.ofParsed] using seq
  | sendResult => simpa [number?, TerminalResult.ofParsed] using seq
  | syncRecord => simp [number?]

/-- What the item of a result was read from. -/
theorem exists_parsed_result {result : TerminalResult}
    {key : Option InboundKey}
    (read : syncer.itemOf? message = some (.fact (.result result key))) :
    ∃ parsed session, parseMessage syncer.text message = .ok parsed ∧
      result = .ofParsed parsed ∧ key = resultKey parsed session := by
  rcases itemOf?_cases read with ⟨parsed, session, parse, same⟩
  unfold itemOf at same
  cases kind : parsed.kind with
  | sendRequest =>
      rw [kind] at same
      cases same
  | syncRecord =>
      rw [kind] at same
      cases same
  | sendResult =>
      rw [kind] at same
      cases same
      exact ⟨parsed, session, parse, rfl, rfl⟩

/-- The items of a log in increasing order are in increasing order. -/
theorem ascending_itemsOf {messages : List Message}
    (increasing : messages.Pairwise fun first second =>
      first.seq < second.seq) :
    Ascending (syncer.itemsOf messages) where
  numbers := by
    refine List.Pairwise.filterMap _ ?_ increasing
    intro first second before item read other otherRead low isLow high isHigh
    rw [number?_itemOf? read low isLow, number?_itemOf? otherRead high isHigh]
    exact before
  successful := by
    intro result key member
    rcases List.mem_filterMap.mp member with ⟨message, -, read⟩
    rcases exists_parsed_result read with ⟨parsed, session, -, rfl, reports⟩
    by_contra failed
    rw [resultKey, if_pos failed] at reports
    cases reports
  wellFormed := by
    intro result key member
    rcases List.mem_filterMap.mp member with ⟨message, -, read⟩
    rcases exists_parsed_result read with ⟨parsed, session, parse, rfl, -⟩
    have good := parseMessage_wellFormed parse
    rw [TerminalResult.ofParsed]
    cases found : Items.get? "provider_message_id" parsed.data with
    | none => exact True.intro
    | some value =>
        exact (Json.wellFormed_obj_iff.mp good).2 _ (Items.mem_of_get? found)

end Reading

section Order

variable {items : List LogItem} {item : LogItem}

theorem Ascending.init (ascending : Ascending (items ++ [item])) :
    Ascending items where
  numbers := (List.pairwise_append.mp ascending.numbers).1
  successful result key member :=
    ascending.successful result key (List.mem_append_left _ member)
  wellFormed result key member :=
    ascending.wellFormed result key (List.mem_append_left _ member)

theorem Ascending.requests (ascending : Ascending items) :
    (requestsOf items).Pairwise fun first second => first.seq < second.seq := by
  refine List.Pairwise.filterMap _ ?_ ascending.numbers
  intro first second before task found other otherFound
  cases first with
  | fact => cases found
  | request =>
      cases second with
      | fact => cases otherFound
      | request =>
          cases found
          cases otherFound
          exact before _ rfl _ rfl

/-- A new result is later than the ones before it. -/
theorem Ascending.later {result other : TerminalResult}
    {key otherKey : Option InboundKey}
    (ascending : Ascending (items ++ [.fact (.result result key)]))
    (member : .result other otherKey ∈ factsOf items) :
    other.seq < result.seq :=
  (List.pairwise_append.mp ascending.numbers).2.2 _ (mem_factsOf.mp member) _
    (List.mem_singleton_self _) _ rfl _ rfl

end Order

/-! ## Requests -/

/-- In increasing order the first request of an id is the earliest. -/
theorem firstRequest_eq_some_iff {requests : List OutboundTask}
    {requestId : String} {task : OutboundTask}
    (increasing : requests.Pairwise fun first second =>
      first.seq < second.seq) :
    firstRequest requests requestId = some task ↔
      IsEarliest requests requestId task := by
  rw [firstRequest, List.find?_eq_some_iff_append]
  constructor
  · rintro ⟨ofId, before, after, rfl, none⟩
    refine ⟨by simp, of_decide_eq_true ofId, fun other member sameId => ?_⟩
    rcases List.mem_append.mp member with early | late
    · have notFirst := none other early
      simp [sameId] at notFirst
    · rcases List.mem_cons.mp late with rfl | later
      · exact le_refl _
      · have rest := (List.pairwise_append.mp increasing).2.1
        exact (List.rel_of_pairwise_cons rest later).le
  · intro earliest
    rcases List.append_of_mem earliest.member with ⟨before, after, rfl⟩
    refine ⟨decide_eq_true earliest.ofId, before, after, rfl, ?_⟩
    intro other early
    have smaller := (List.pairwise_append.mp increasing).2.2 other early task
      List.mem_cons_self
    by_contra sameId
    have notSmaller := earliest.least other (List.mem_append_left _ early)
      (by simpa using sameId)
    exact absurd smaller (not_lt.mpr notSmaller)

/-! ## Results -/

section Results

variable {items : List LogItem}

theorem sameSendResult_iff {left right : TerminalResult} :
    sameSendResult left right = true ↔
      Agree left right ∧ left.principal = right.principal ∧
        left.requestId = right.requestId := by
  simp only [sameSendResult, Bool.and_eq_true, beq_iff_eq]
  constructor
  · rintro ⟨⟨⟨⟨⟨⟨channel, principal⟩, recipients⟩, requestId⟩, prevSeq⟩,
      status⟩, messageId⟩
    exact ⟨⟨channel, recipients, status, messageId, prevSeq⟩, principal,
      requestId⟩
  · rintro ⟨agree, principal, requestId⟩
    exact ⟨⟨⟨⟨⟨⟨agree.channelId, principal⟩, agree.recipients⟩, requestId⟩,
      agree.prevSeq⟩, agree.status⟩, agree.providerMessageId⟩

theorem Agree.symm {left right : TerminalResult}
    (leftGood : (left.providerMessageId.getD .null).WellFormed)
    (rightGood : (right.providerMessageId.getD .null).WellFormed)
    (agree : Agree left right) : Agree right left where
  channelId := agree.channelId.symm
  recipients := agree.recipients.symm
  status := agree.status.symm
  providerMessageId :=
    Json.same_symm leftGood rightGood agree.providerMessageId
  prevSeq := agree.prevSeq.symm

theorem Agree.trans {left middle right : TerminalResult}
    (first : Agree left middle) (second : Agree middle right) :
    Agree left right where
  channelId := first.channelId.trans second.channelId
  recipients := first.recipients.trans second.recipients
  status := first.status.trans second.status
  providerMessageId :=
    Json.same_trans first.providerMessageId second.providerMessageId
  prevSeq := first.prevSeq.trans second.prevSeq

theorem Agree.refl {result : TerminalResult}
    (good : (result.providerMessageId.getD .null).WellFormed) :
    Agree result result :=
  ⟨rfl, rfl, rfl, Json.same_refl good, rfl⟩

theorem mem_of_firstResult {facts : List WorkerFact} {requestId : String}
    {first : TerminalResult}
    (found : firstResult facts requestId = some first) :
    first.requestId = requestId ∧ ∃ key, .result first key ∈ facts := by
  rcases List.exists_of_findSome?_eq_some found with ⟨fact, member, isResult⟩
  cases fact with
  | record => cases isResult
  | result result key =>
      rw [WorkerFact.resultFor] at isResult
      split_ifs at isResult with same
      cases isResult
      exact ⟨same, key, member⟩

/-- A result agrees with the first one of its request. -/
theorem agree_firstResult (replayable : Replayable items)
    (ascending : Ascending items) {result : TerminalResult}
    {key : Option InboundKey} (member : .result result key ∈ factsOf items) :
    ∃ first, firstResult (factsOf items) result.requestId = some first ∧
      Agree first result := by
  induction items using List.reverseRecOn with
  | nil => cases member
  | append_singleton items item ih =>
      rcases replayable_append.mp replayable with ⟨earlier, admits⟩
      rw [factsOf_append, firstResult_append]
      rw [factsOf_append, List.mem_append] at member
      rcases member with before | isLast
      · rcases ih earlier ascending.init before with ⟨first, found, agree⟩
        exact ⟨first, by rw [found]; rfl, agree⟩
      · rw [mem_factsOf, List.mem_singleton] at isLast
        subst isLast
        have admitted : AdmitsResult (requestsOf items) (factsOf items)
          result := admits
        rw [AdmitsResult] at admitted
        cases settled : firstResult (factsOf items) result.requestId with
        | some first =>
            rw [settled] at admitted
            exact ⟨first, rfl, (sameSendResult_iff.mp admitted).1⟩
        | none =>
            refine ⟨result, ?_, Agree.refl (ascending.wellFormed result key
              (List.mem_append_right _ (List.mem_singleton_self _)))⟩
            simp [firstResult, WorkerFact.resultFor]

theorem agree_of_sameRequest (replayable : Replayable items)
    (ascending : Ascending items) {left right : TerminalResult}
    {leftKey rightKey : Option InboundKey}
    (leftMember : .result left leftKey ∈ factsOf items)
    (rightMember : .result right rightKey ∈ factsOf items)
    (sameRequest : left.requestId = right.requestId) : Agree left right := by
  rcases agree_firstResult replayable ascending leftMember
    with ⟨first, found, leftAgrees⟩
  rcases agree_firstResult replayable ascending rightMember
    with ⟨other, otherFound, rightAgrees⟩
  rw [sameRequest, otherFound] at found
  cases found
  rcases (mem_of_firstResult otherFound).2 with ⟨key, member⟩
  refine (leftAgrees.symm ?_ ?_).trans rightAgrees
  · exact ascending.wellFormed _ key (mem_factsOf.mp member)
  · exact ascending.wellFormed _ leftKey (mem_factsOf.mp leftMember)

/-- Every result answers the first request of its id. -/
theorem answers_firstRequest (replayable : Replayable items)
    (ascending : Ascending items) {result : TerminalResult}
    {key : Option InboundKey} (member : .result result key ∈ factsOf items) :
    ∃ task, firstRequest (requestsOf items) result.requestId = some task ∧
      result.prevSeq = some task.seq ∧ result.channelId = task.channelId ∧
        result.recipients = [task.principal] := by
  induction items using List.reverseRecOn generalizing result key with
  | nil => cases member
  | append_singleton items item ih =>
      rcases replayable_append.mp replayable with ⟨earlier, admits⟩
      have kept : ∀ {requestId : String} {task : OutboundTask},
          firstRequest (requestsOf items) requestId = some task →
            firstRequest (requestsOf (items ++ [item])) requestId =
              some task := by
        intro requestId task found
        rw [requestsOf_append, firstRequest, List.find?_append]
        rw [firstRequest] at found
        rw [found]
        rfl
      rw [factsOf_append, List.mem_append] at member
      rcases member with before | isLast
      · rcases ih earlier ascending.init before with ⟨task, found, answers⟩
        exact ⟨task, kept found, answers⟩
      · rw [mem_factsOf, List.mem_singleton] at isLast
        subst isLast
        have admitted : AdmitsResult (requestsOf items) (factsOf items)
          result := admits
        rw [AdmitsResult] at admitted
        cases settled : firstResult (factsOf items) result.requestId with
        | none =>
            rw [settled] at admitted
            rcases admitted with ⟨task, found, answers⟩
            exact ⟨task, kept found, answers⟩
        | some first =>
            rw [settled] at admitted
            have agree := (sameSendResult_iff.mp admitted).1
            rcases mem_of_firstResult settled with ⟨sameId, other, inside⟩
            rcases ih earlier ascending.init inside
              with ⟨task, found, prevSeq, channelId, recipients⟩
            rw [sameId] at found
            exact ⟨task, kept found, agree.prevSeq.symm.trans prevSeq,
              agree.channelId.symm.trans channelId,
              agree.recipients.symm.trans recipients⟩

end Results

/-! ## Greatest elements -/

section Greatest

variable {Value : Type} [LinearOrder Value] {values : Set Value}
  {current : Option Value}

/-- The optional value is the greatest one of a set, if there is any. -/
def IsTop (values : Set Value) : Option Value → Prop
  | none => values = ∅
  | some top => IsGreatest values top

theorem IsTop.eq_some_iff (isTop : IsTop values current) {value : Value} :
    current = some value ↔ IsGreatest values value := by
  cases current with
  | none =>
      have empty : values = ∅ := isTop
      rw [empty]
      exact iff_of_false nofun fun greatest => greatest.1
  | some top =>
      have greatest : IsGreatest values top := isTop
      rw [Option.some.injEq]
      exact ⟨fun equal => equal ▸ greatest, greatest.unique⟩

/-- A value above all others becomes the greatest one. -/
theorem isTop_insert_of_forall_lt {value : Value}
    (above : ∀ other ∈ values, other < value) :
    IsTop (insert value values) (some value) := by
  refine ⟨Set.mem_insert value values, fun other member => ?_⟩
  rcases Set.mem_insert_iff.mp member with rfl | inside
  · exact le_refl _
  · exact (above other inside).le

end Greatest

theorem isTop_insert_laterMs {times : Set Int} {current : Option Int}
    (isTop : IsTop times current) (eventMs : Int) :
    IsTop (insert eventMs times) (some (laterMs current eventMs)) := by
  cases current with
  | none =>
      have empty : times = ∅ := isTop
      rw [empty]
      exact isTop_insert_of_forall_lt nofun
  | some latest =>
      have greatest : IsGreatest times latest := isTop
      have larger : laterMs (some latest) eventMs = max eventMs latest := by
        rw [laterMs, max_def]
        split_ifs <;> omega
      rw [larger]
      exact greatest.insert eventMs

/-- The latest event time of a channel is the greatest of its records. -/
theorem isTop_latestEventMs (facts : List WorkerFact) (channelId : Nat) :
    IsTop (recordTimes facts channelId) (latestEventMs facts channelId) := by
  induction facts using List.reverseRecOn with
  | nil => simp [IsTop, latestEventMs, latestIn, recordTimes]
  | append_singleton facts fact ih =>
      cases fact with
      | result result key =>
          rw [latestEventMs_append_result]
          simpa [recordTimes] using ih
      | record key prevSeq eventMs =>
          rw [latestEventMs_append_record]
          split_ifs with same
          · have inserted := isTop_insert_laterMs ih eventMs
            convert inserted using 1
            ext other
            simp only [recordTimes, List.mem_append, List.mem_singleton,
              WorkerFact.record.injEq, Set.mem_ofPred_eq, Set.mem_insert_iff]
            grind
          · convert ih using 1
            ext other
            simp only [recordTimes, List.mem_append, List.mem_singleton,
              WorkerFact.record.injEq, Set.mem_ofPred_eq]
            grind

/-! ## First reports -/

section Reports

variable {items : List LogItem} {key : InboundKey}

/-- The reports do not depend on records. -/
theorem reportSeqs_append_record {facts : List WorkerFact}
    {recorded : InboundKey} {prevSeq : Option Nat} {eventMs : Int} :
    reportSeqs (facts ++ [.record recorded prevSeq eventMs]) key =
      reportSeqs facts key := by
  have same : ∀ result reported,
      .result result reported ∈
          facts ++ [.record recorded prevSeq eventMs] ↔
        .result result reported ∈ facts := by
    simp
  ext seq
  constructor
  · rintro ⟨result, firstReport, rfl⟩
    refine ⟨result, ⟨(same _ _).mp firstReport.reports, ?_⟩, rfl⟩
    intro other reported member
    exact firstReport.first other reported ((same _ _).mpr member)
  · rintro ⟨result, firstReport, rfl⟩
    refine ⟨result, ⟨(same _ _).mpr firstReport.reports, ?_⟩, rfl⟩
    intro other reported member
    exact firstReport.first other reported ((same _ _).mp member)

/-- A later result leaves the first reports as they are. -/
theorem IsFirstReport.append_result {facts : List WorkerFact}
    {result later : TerminalResult} {reported : Option InboundKey}
    (firstReport : IsFirstReport facts key result)
    (above : result.seq < later.seq) :
    IsFirstReport (facts ++ [.result later reported]) key result := by
  refine ⟨List.mem_append_left _ firstReport.reports, ?_⟩
  intro other otherReported member sameRequest successful
  rcases List.mem_append.mp member with inside | isLater
  · exact firstReport.first other otherReported inside sameRequest successful
  · cases List.mem_singleton.mp isLater
    exact above.le

/-- A first report of the longer log is the new result, or was one before. -/
theorem IsFirstReport.of_append_result {facts : List WorkerFact}
    {result later : TerminalResult} {reported : Option InboundKey}
    (firstReport : IsFirstReport (facts ++ [.result later reported]) key
      result) :
    IsFirstReport facts key result ∨ result = later ∧ reported = some key := by
  rcases List.mem_append.mp firstReport.reports with inside | isLater
  · refine Or.inl ⟨inside, fun other otherReported member => ?_⟩
    exact firstReport.first other otherReported
      (List.mem_append_left _ member)
  · cases List.mem_singleton.mp isLater
    exact Or.inr ⟨rfl, rfl⟩

/-- The first result of its request is a first report of what it reports. -/
theorem reportSeqs_append_first {facts : List WorkerFact}
    {later : TerminalResult}
    (above : ∀ result reported, .result result reported ∈ facts →
      result.seq < later.seq)
    (isFirst : firstResult facts later.requestId = none) :
    reportSeqs (facts ++ [.result later (some key)]) key =
      insert later.seq (reportSeqs facts key) := by
  ext seq
  constructor
  · rintro ⟨result, firstReport, rfl⟩
    rcases firstReport.of_append_result with old | ⟨rfl, -⟩
    · exact Or.inr ⟨result, old, rfl⟩
    · exact Or.inl rfl
  · rintro (rfl | ⟨result, old, rfl⟩)
    · refine ⟨later, ⟨?_, ?_⟩, rfl⟩
      · exact List.mem_append_right _ (List.mem_singleton_self _)
      · intro other reported member sameRequest _
        rcases List.mem_append.mp member with inside | isLater
        · exact absurd isFirst (firstResult_ne_none_iff.mpr
            ⟨other, reported, inside, sameRequest⟩)
        · cases List.mem_singleton.mp isLater
          exact le_refl _
    · exact ⟨result, old.append_result (above _ _ old.reports), rfl⟩

/-- A result that is no first report of a message adds no report of it. -/
theorem reportSeqs_append_other {facts : List WorkerFact}
    {later : TerminalResult} {reported : Option InboundKey}
    (above : ∀ result reported, .result result reported ∈ facts →
      result.seq < later.seq)
    (repeats : reported = some key → ∃ first firstKey,
      .result first firstKey ∈ facts ∧ first.requestId = later.requestId ∧
        first.status = "SUCCESS") :
    reportSeqs (facts ++ [.result later reported]) key =
      reportSeqs facts key := by
  ext seq
  constructor
  · rintro ⟨result, firstReport, rfl⟩
    rcases firstReport.of_append_result with old | ⟨rfl, isKey⟩
    · exact ⟨result, old, rfl⟩
    · rcases repeats isKey
        with ⟨first, firstKey, inside, sameRequest, successful⟩
      have notLater := firstReport.first first firstKey
        (List.mem_append_left _ inside) sameRequest successful
      exact absurd (above _ _ inside) (not_lt.mpr notLater)
  · rintro ⟨result, old, rfl⟩
    exact ⟨result, old.append_result (above _ _ old.reports), rfl⟩

/-- What repeats a successful result repeats a success. -/
theorem exists_first_success {later : TerminalResult}
    (replayable : Replayable (items ++ [.fact (.result later (some key))]))
    (ascending : Ascending (items ++ [.fact (.result later (some key))]))
    (settled : firstResult (factsOf items) later.requestId ≠ none) :
    ∃ first firstKey, .result first firstKey ∈ factsOf items ∧
      first.requestId = later.requestId ∧ first.status = "SUCCESS" := by
  rcases firstResult_ne_none_iff.mp settled
    with ⟨first, firstKey, inside, sameRequest⟩
  have isLast : .fact (.result later (some key)) ∈
      items ++ [.fact (.result later (some key))] :=
    List.mem_append_right _ (List.mem_singleton_self _)
  have isFirst : .result first firstKey ∈
      factsOf (items ++ [.fact (.result later (some key))]) := by
    rw [factsOf_append]
    exact List.mem_append_left _ inside
  have agree := agree_of_sameRequest replayable ascending isFirst
    (mem_factsOf.mpr isLast) sameRequest
  exact ⟨first, firstKey, inside, sameRequest,
    agree.status.trans (ascending.successful later key isLast)⟩

/-- The result under which a message is looked up is its last first report. -/
theorem isTop_reportedSeq (replayable : Replayable items)
    (ascending : Ascending items) :
    IsTop (reportSeqs (factsOf items) key)
      (reportedSeq (factsOf items) key) := by
  induction items using List.reverseRecOn with
  | nil =>
      apply Set.eq_empty_of_forall_notMem
      rintro seq ⟨result, firstReport, -⟩
      cases firstReport.reports
  | append_singleton items item ih =>
      have before :=
        ih (replayable_append.mp replayable).1 ascending.init
      rw [factsOf_append]
      cases item with
      | request task =>
          rw [factsOf_request, List.append_nil]
          exact before
      | fact fact =>
          rw [factsOf_fact]
          cases fact with
          | record recorded prevSeq eventMs =>
              rw [reportedSeq_append_record, reportSeqs_append_record]
              exact before
          | result later reported =>
              have above : ∀ result reported,
                  .result result reported ∈ factsOf items →
                    result.seq < later.seq :=
                fun result reported member => ascending.later member
              rw [reportedSeq_append_result]
              by_cases isFirst : reported = some key ∧
                  firstResult (factsOf items) later.requestId = none
              · rw [if_pos isFirst, isFirst.1,
                  reportSeqs_append_first above isFirst.2]
                apply isTop_insert_of_forall_lt
                rintro _ ⟨result, old, rfl⟩
                exact above _ _ old.reports
              · rw [if_neg isFirst, reportSeqs_append_other above]
                · exact before
                · intro isKey
                  have settled := not_and.mp isFirst isKey
                  subst isKey
                  exact exists_first_success replayable ascending settled

end Reports

/-! ## The replayed state -/

theorem hasResult_iff {facts : List WorkerFact} {requestId : String} :
    firstResult facts requestId ≠ none ↔ HasResult facts requestId :=
  firstResult_ne_none_iff

/--
The state that the history replay leaves says what the log says: each table is
exactly what its declarative reading demands.
-/
theorem replay_means (syncer : P2PSyncer) (messages : List Message)
    (state : RuntimeState)
    (increasing : messages.Pairwise fun first second =>
      first.seq < second.seq)
    (replayed : syncer.replay .initial messages = .ok state) :
    Means state (requestsOf (syncer.itemsOf messages))
      (factsOf (syncer.itemsOf messages)) := by
  have ascending : Ascending (syncer.itemsOf messages) :=
    ascending_itemsOf increasing
  have replayable := (replay_ok_iff.mp ⟨state, replayed⟩).2
  have reflects := (replays_replay replayed).reflects
  have isEarliest : ∀ requestId task,
      firstRequest (requestsOf (syncer.itemsOf messages)) requestId =
          some task ↔
        IsEarliest (requestsOf (syncer.itemsOf messages)) requestId task :=
    fun _ _ => firstRequest_eq_some_iff ascending.requests
  refine ⟨?_, ?_, ?_, ?_, ?_, ?_, ?_, ?_⟩
  · intro requestId task
    rw [reflects.canonical]
    exact isEarliest requestId task
  · intro requestId
    exact (reflects.completed requestId).trans hasResult_iff
  · intro requestId task
    rw [reflects.pending, ← isEarliest, ← hasResult_iff,
      ← Option.isSome_iff_ne_none]
    split_ifs with done
    · simp [done]
    · simp [done]
  · intro result key member
    rcases answers_firstRequest replayable ascending member
      with ⟨task, found, answers⟩
    exact ⟨task, (isEarliest _ _).mp found, answers⟩
  · intro left leftKey right rightKey leftMember rightMember sameRequest
    exact agree_of_sameRequest replayable ascending leftMember rightMember
      sameRequest
  · intro key
    exact (reflects.seen key).trans recorded_iff
  · intro channelId eventMs
    rw [reflects.latest]
    exact (isTop_latestEventMs _ channelId).eq_some_iff
  · intro key seq
    rw [reflects.reported]
    exact (isTop_reportedSeq replayable ascending).eq_some_iff

/-- A request and its result, replayed. -/
theorem replay_means_sample :
    ∃ state,
      sampleSyncer.replay .initial [requestMessage, resultMessage] =
          .ok state ∧
        Means state
          (requestsOf (sampleSyncer.itemsOf [requestMessage, resultMessage]))
          (factsOf (sampleSyncer.itemsOf [requestMessage, resultMessage])) := by
  rcases replay_answeredMessages with ⟨state, replayed⟩
  have increasing : [requestMessage, resultMessage].Pairwise
      fun first second => first.seq < second.seq := by
    simp [requestMessage, resultMessage]
  exact ⟨state, replayed, replay_means sampleSyncer _ state increasing replayed⟩

end OpenEventIm.Syncer.DeclarativeMeaning
