import OpenEventIm.Syncer.LarkServer
import OpenEventIm.Syncer.RecordAssociation

/-!
# Exactly-once delivery at Lark

The worker with the Lark adapter, in front of a server that honours the id of a
create request.  Over any number of crashes, every answered request has exactly
one message at the provider, the one its result names, and no message was
created for anything but a request of the log.

The server also creates a message before it delivers it.  This is what the
association of records with results relies on.
-/

namespace OpenEventIm.Syncer.LarkDelivery

open OpenEventIm.Foundation
open OpenEventIm.Foundation.Interaction
open OpenEventIm.Sdk.Errors
open OpenEventIm.Sdk.Codec
open OpenEventIm.Sdk.Client
open OpenEventIm.Sdk.MessageReading
open OpenEventIm.Service.Calls
open OpenEventIm.Service.World
open OpenEventIm.Syncer.Models
open OpenEventIm.Syncer.Mapping
open OpenEventIm.Syncer.State
open OpenEventIm.Syncer.LogMeaning
open OpenEventIm.Syncer.HistoryReplay
open OpenEventIm.Syncer.StartupCut
open OpenEventIm.Syncer.Processor.SingleThreadProcessor
open OpenEventIm.Syncer.Worker
open OpenEventIm.Syncer.WrittenLog
open OpenEventIm.Syncer.WorkerLedger
open OpenEventIm.Syncer.WorkerMessages
open OpenEventIm.Syncer.WorkerTicks
open OpenEventIm.Syncer.WorkerGuards
open OpenEventIm.Syncer.WorkerRuns
open OpenEventIm.Syncer.EventProvenance
open OpenEventIm.Syncer.ChannelOrder
open OpenEventIm.Syncer.AtMostOnce
open OpenEventIm.Syncer.RecordAssociation
open OpenEventIm.Syncer.LarkMessages
open OpenEventIm.Syncer.LarkSenderRules
open OpenEventIm.Syncer.LarkCalls
open OpenEventIm.Syncer.LarkServer

/-! ## What the server has done for the calls so far -/

/-- A message that the app created was sent. -/
def Sent (adapters : String → LarkOpenAPIAdapter) (trace : List Exchange)
    (message : ChatMessage) : Prop :=
  ∀ request, message.request = some request → ∃ send ∈ sendsOf trace,
    send.session = (message.provider, message.chatId) ∧
      send.msgType = "text" ∧
        request = LarkOpenAPIAdapter.createMessageRequest
          (adapters message.provider) message.chatId send.msgType send.content
          send.requestId

/-- No message and no id of a create request occurs twice. -/
structure Unrepeated (messages : List ChatMessage) : Prop where
  distinct : (messages.map ChatMessage.key).Nodup
  once : (messages.filterMap ChatMessage.uuid?).Nodup

/-- The messages at the providers, compared with the calls of the worker. -/
structure Outbox (adapters : String → LarkOpenAPIAdapter)
    (trace : List Exchange) (messages : List ChatMessage) : Prop where
  unrepeated : Unrepeated messages
  sent : ∀ message ∈ messages, Sent adapters trace message
  reported : ∀ session requestId messageId,
    Reported trace session requestId messageId → ∃ message ∈ messages,
      message.messageId = messageId ∧
        message.uuid? = some (session.1, stableLarkOpenapiUuid requestId)
  delivered : ∀ earlier exchange later, trace = earlier ++ exchange :: later →
    ∀ event ∈ eventsIn exchange.request exchange.answer,
      ∃ message ∈ messages, IsOf message event ∧ Sent adapters earlier message

section Outbox

variable {adapters : String → LarkOpenAPIAdapter} {pageSize : Nat}
  {trace more : List Exchange} {before after : List ChatMessage}
  {message other : ChatMessage} {exchange : Exchange}

/-- One more message with new ids. -/
theorem Unrepeated.append (unrepeated : Unrepeated before)
    (fresh : message.key ∉ before.map ChatMessage.key)
    (unknown : ∀ uuid, message.uuid? = some uuid →
      uuid ∉ before.filterMap ChatMessage.uuid?) :
    Unrepeated (before ++ [message]) where
  distinct := by
    rw [List.map_append]
    refine unrepeated.distinct.append (List.nodup_singleton _) ?_
    intro key isOld isNew
    rw [List.mem_singleton.mp isNew] at isOld
    exact fresh isOld
  once := by
    rw [List.filterMap_append]
    cases created : message.uuid? with
    | none => simpa [created] using unrepeated.once
    | some uuid =>
        refine unrepeated.once.append (by simp [created]) ?_
        intro other isOld isNew
        simp only [List.filterMap_cons, created, List.filterMap_nil,
          List.mem_singleton] at isNew
        rw [isNew] at isOld
        exact unknown uuid created isOld

/-- No two elements have one value. -/
theorem eq_of_nodup_filterMap {Element Value : Type}
    {reading : Element → Option Value} {elements : List Element}
    (nodup : (elements.filterMap reading).Nodup) {left right : Element}
    (isLeft : left ∈ elements) (isRight : right ∈ elements) {value : Value}
    (ofLeft : reading left = some value)
    (ofRight : reading right = some value) : left = right := by
  induction elements with
  | nil => cases isLeft
  | cons element rest ih =>
      have later {other : Element} (member : other ∈ rest)
          (isValue : reading other = some value) :
          value ∈ rest.filterMap reading :=
        List.mem_filterMap.mpr ⟨other, member, isValue⟩
      have nodupRest : (rest.filterMap reading).Nodup :=
        nodup.sublist ((List.sublist_cons_self _ _).filterMap _)
      rcases List.mem_cons.mp isLeft with rfl | leftRest
      · rcases List.mem_cons.mp isRight with rfl | rightRest
        · rfl
        · rw [List.filterMap_cons_some ofLeft, List.nodup_cons] at nodup
          exact absurd (later rightRest ofRight) nodup.1
      · rcases List.mem_cons.mp isRight with rfl | rightRest
        · rw [List.filterMap_cons_some ofRight, List.nodup_cons] at nodup
          exact absurd (later leftRest ofLeft) nodup.1
        · exact ih nodupRest leftRest rightRest

theorem Unrepeated.eq_of_key (unrepeated : Unrepeated before)
    (isMessage : message ∈ before) (isOther : other ∈ before)
    (same : message.key = other.key) : message = other :=
  List.inj_on_of_nodup_map unrepeated.distinct isMessage isOther same

theorem Sent.mono (sent : Sent adapters trace message)
    (grown : trace <+: more) : Sent adapters more message := by
  rcases grown with ⟨added, rfl⟩
  intro request created
  rcases sent request created with ⟨send, member, made⟩
  refine ⟨send, ?_, made⟩
  rw [sendsOf_append]
  exact List.mem_append_left _ member

/-- One more call, and the messages that it created. -/
theorem Outbox.called {created : List ChatMessage}
    (outbox : Outbox adapters trace before)
    (unrepeated : Unrepeated (before ++ created))
    (sent : ∀ message ∈ created, Sent adapters (trace ++ [exchange]) message)
    (reports : ∀ session requestId messageId,
      Reported [exchange] session requestId messageId →
        ∃ message ∈ before ++ created, message.messageId = messageId ∧
          message.uuid? = some (session.1, stableLarkOpenapiUuid requestId))
    (delivers : ∀ event ∈ eventsIn exchange.request exchange.answer,
      ∃ message ∈ before, IsOf message event) :
    Outbox adapters (trace ++ [exchange]) (before ++ created) where
  unrepeated := unrepeated
  sent message member := by
    rcases List.mem_append.mp member with old | new
    · exact (outbox.sent message old).mono (List.prefix_append _ _)
    · exact sent message new
  reported session requestId messageId reported := by
    rcases reported with ⟨user, msgType, content, result, member, named⟩
    rcases List.mem_append.mp member with old | new
    · rcases outbox.reported session requestId messageId
        ⟨user, msgType, content, result, old, named⟩ with ⟨message, known, same⟩
      exact ⟨message, List.mem_append_left _ known, same⟩
    · exact reports session requestId messageId
        ⟨user, msgType, content, result, new, named⟩
  delivered earlier other later split event inside := by
    rcases List.eq_nil_or_concat' later with rfl | ⟨rest, last, rfl⟩
    · rcases List.append_inj' split rfl with ⟨rfl, same⟩
      cases same
      rcases delivers event inside with ⟨message, member, isOf⟩
      exact ⟨message, List.mem_append_left _ member, isOf,
        outbox.sent message member⟩
    · rw [← List.cons_append, ← List.append_assoc] at split
      rcases List.append_inj' split rfl with ⟨same, -⟩
      rcases outbox.delivered earlier other rest same event inside with
        ⟨message, member, isOf⟩
      exact ⟨message, List.mem_append_left _ member, isOf⟩

theorem Outbox.posts (outbox : Outbox adapters trace before)
    (step : UserPosts before after) : Outbox adapters trace after := by
  cases step with
  | post fresh =>
      exact {
        unrepeated := outbox.unrepeated.append fresh
          fun uuid impossible => by cases impossible
        sent := by
          intro message member
          rcases List.mem_append.mp member with old | new
          · exact outbox.sent message old
          · rw [List.mem_singleton.mp new]
            rintro request ⟨⟩
        reported := by
          intro session requestId messageId reported
          rcases outbox.reported session requestId messageId reported with
            ⟨message, member, same⟩
          exact ⟨message, List.mem_append_left _ member, same⟩
        delivered := by
          intro earlier exchange later split event inside
          rcases outbox.delivered earlier exchange later split event inside with
            ⟨message, member, isOf⟩
          exact ⟨message, List.mem_append_left _ member, isOf⟩ }

theorem Outbox.usersPost (outbox : Outbox adapters trace before)
    (posts : UsersPost before after) : Outbox adapters trace after := by
  induction posts with
  | refl => exact outbox
  | tail _ step ih => exact ih.posts step

/-- One more call that creates nothing. -/
theorem Outbox.calledOnly (outbox : Outbox adapters trace before)
    (reports : ∀ session requestId messageId,
      Reported [exchange] session requestId messageId →
        ∃ message ∈ before, message.messageId = messageId ∧
          message.uuid? = some (session.1, stableLarkOpenapiUuid requestId))
    (delivers : ∀ event ∈ eventsIn exchange.request exchange.answer,
      ∃ message ∈ before, IsOf message event) :
    Outbox adapters (trace ++ [exchange]) before := by
  have called := @Outbox.called adapters trace before exchange [] outbox
  rw [List.append_nil] at called
  exact called outbox.unrepeated (fun _ => by simp) reports delivers

/-- A send, with the call recorded. -/
theorem Outbox.sends {provider sessionId user msgType requestId : String}
    {content : JsonObject} {answer : Except PyError SendResult}
    (outbox : Outbox adapters trace before)
    (run : Runs (larkServer provider) before
      (LarkOpenAPIAdapter.sendMessage (adapters provider) sessionId user
        msgType content requestId) after answer) :
    Outbox adapters (trace ++ [⟨.sendMessage provider sessionId user msgType
      content requestId, answer⟩]) after := by
  rcases runs_sendMessage run with ⟨result, rfl, effect⟩
  -- the call reports what its result names
  have reports {messages : List ChatMessage}
      (named : ∀ messageId, sentMessageId result = some messageId →
        ∃ message ∈ messages, message.messageId = messageId ∧
          message.uuid? = some (provider, stableLarkOpenapiUuid requestId)) :
      ∀ session other messageId, Reported [⟨.sendMessage provider sessionId
        user msgType content requestId, .ok result⟩] session other messageId →
          ∃ message ∈ messages, message.messageId = messageId ∧
            message.uuid? = some (session.1, stableLarkOpenapiUuid other) := by
    rintro session other messageId ⟨_, _, _, _, member, names⟩
    cases List.mem_singleton.mp member
    exact named messageId names
  have delivers {messages : List ChatMessage} : ∀ event ∈ eventsIn
      (.sendMessage provider sessionId user msgType content requestId)
        (.ok result), ∃ message ∈ messages, IsOf message event := nofun
  cases effect with
  | refused silent =>
      exact outbox.calledOnly (reports (by simp [silent])) delivers
  | asked text posts answers names =>
      have ready := outbox.usersPost posts
      cases answers with
      | silent silent =>
          refine ready.calledOnly (reports ?_) delivers
          intro messageId named
          exact absurd (names messageId named).2
            (silent messageId (names messageId named).1)
      | repeated known same replied =>
          refine ready.calledOnly (reports ?_) delivers
          intro messageId named
          exact ⟨_, known, replied.unique (names messageId named).2, same⟩
      | created unknown fresh replied =>
          apply ready.called
          · refine ready.unrepeated.append fresh ?_
            rintro uuid ⟨⟩
            exact unknown
          · intro message member request created
            rw [List.mem_singleton.mp member] at created ⊢
            cases created
            refine ⟨⟨(provider, sessionId), user, msgType, content, requestId⟩,
              ?_, rfl, text, rfl⟩
            rw [sendsOf_append]
            exact List.mem_append_right _ (List.mem_singleton_self _)
          · apply reports
            intro messageId named
            refine ⟨_, List.mem_append_right _ (List.mem_singleton_self _), ?_,
              rfl⟩
            rcases names messageId named with ⟨usable, reported⟩
            rcases replied with replied | silent
            · exact replied.unique reported
            · exact absurd reported (silent messageId usable)
          · exact delivers

/-- A fetch, with the call recorded. -/
theorem Outbox.fetches {provider sessionId : String} {startMs endMs : Int}
    {pageToken : Option String} {answer : Except PyError HistoryPage}
    (outbox : Outbox adapters trace before)
    (named : (adapters provider).name = provider)
    (run : Runs (larkServer provider) before
      (LarkOpenAPIAdapter.fetchHistoryPage (adapters provider) pageSize
        sessionId startMs endMs pageToken) after answer) :
    Outbox adapters (trace ++ [⟨.fetchHistoryPage provider sessionId startMs
      endMs pageToken, answer⟩]) after := by
  rcases runs_fetchHistoryPage named run with ⟨posts, events⟩
  apply (outbox.usersPost posts).calledOnly
  · rintro session requestId messageId ⟨_, _, _, _, member, -⟩
    cases List.mem_singleton.mp member
  · intro event inside
    cases answer with
    | error exc => cases inside
    | ok page => exact events page rfl event inside

/-- A call to an adapter. -/
theorem Outbox.answered {request : Call} {answer : Answer request}
    (outbox : Outbox adapters trace before)
    (named : ∀ provider, (adapters provider).name = provider)
    (answers : AdapterAnswers adapters pageSize before request answer after) :
    Outbox adapters (trace ++ [⟨request, answer⟩]) after := by
  have quiet (noSend : sendOf? request = none)
      (delivers : ∀ event ∈ eventsIn request answer,
        ∃ message ∈ before, IsOf message event) :
      Outbox adapters (trace ++ [⟨request, answer⟩]) before := by
    apply outbox.calledOnly _ delivers
    rintro session requestId messageId ⟨_, _, _, _, member, -⟩
    cases List.mem_singleton.mp member
    cases noSend
  cases request with
  | sendMessage => exact outbox.sends answers
  | fetchHistoryPage => exact outbox.fetches (named _) answers
  | takeEvent provider =>
      rcases answers with ⟨rfl, real⟩
      apply quiet rfl
      intro event inside
      cases answer with
      | error exc => cases inside
      | ok taken =>
          have same : taken = some event := Option.mem_toList.mp inside
          exact real event (by rw [same])
  | _ =>
      cases (show after = before from answers)
      exact quiet rfl nofun

end Outbox

/-! ## Exactly once -/

/-- Different requests that were sent have different ids at the provider. -/
def Distinguished (sends : List Send) : Prop :=
  ∀ left ∈ sends, ∀ right ∈ sends,
    stableLarkOpenapiUuid left.requestId =
        stableLarkOpenapiUuid right.requestId →
      left.requestId = right.requestId

/-- The message was created for the task, a request of the log. -/
structure CreatedFor (syncer : P2PSyncer)
    (adapters : String → LarkOpenAPIAdapter) (entries : List LogEntry)
    (task : OutboundTask) (message : ChatMessage) : Prop where
  canonical : firstRequest (logRequests syncer entries) task.requestId =
    some task
  mapped : syncer.mapping.providerSession task.channelId =
    .ok (message.provider, message.chatId)
  sender : ∃ user, syncer.mapping.senderExternalUserId task.channelId
    task.principal (some "bot") = .ok user
  text : task.msgType = "text"
  request : message.request = some (LarkOpenAPIAdapter.createMessageRequest
    (adapters message.provider) message.chatId task.msgType task.content
    task.requestId)

/-- A `send.result` answers the request and names the provider message. -/
def ResultNames (syncer : P2PSyncer) (message : Message) (requestId : String)
    (key : InboundKey) : Prop :=
  ∃ parsed session, readMessage syncer.text message = some parsed ∧
    syncer.mapping.providerSession parsed.channelId = .ok session ∧
      parsed.kind = .sendResult ∧
        (TerminalResult.ofParsed parsed).requestId = requestId ∧
          resultKey parsed session = some key

/-- The messages of the app and the requests and results of the log agree. -/
structure ExactlyOnce (syncer : P2PSyncer)
    (adapters : String → LarkOpenAPIAdapter) (entries : List LogEntry)
    (messages : List ChatMessage) : Prop where
  unrepeated : Unrepeated messages
  /-- Nothing was created but for a request of the log. -/
  genuine : ∀ message ∈ messages, message.request ≠ none →
    ∃ task, CreatedFor syncer adapters entries task message
  /-- A request has at most one message. -/
  atMostOnce : ∀ task, ∀ left ∈ messages, ∀ right ∈ messages,
    CreatedFor syncer adapters entries task left →
      CreatedFor syncer adapters entries task right → left = right
  /-- An answered request has a message, the one that its result names. -/
  answered : ∀ entry ∈ entries, ∀ parsed,
    readMessage syncer.text entry.message = some parsed →
      parsed.kind = .sendResult → ∃ task key, ∃ message ∈ messages,
        ResultNames syncer entry.message task.requestId key ∧
          CreatedFor syncer adapters entries task message ∧
            message.key = (key.provider, key.providerMessageId) ∧
              message.chatId = key.sessionId

section Runs

variable {adapters : String → LarkOpenAPIAdapter} {pageSize : Nat}
  {foreign : Log → Message → Prop} {committable : Message → Prop}
  {deployed : P2PSyncer → Prop} {syncer : P2PSyncer}
  {first moment : WorldState
    (larkSetting adapters pageSize foreign committable)}

/-- Before the worker's first process, and the app has created no message. -/
structure Untouched (first : WorldState
    (larkSetting adapters pageSize foreign committable)) : Prop where
  begins : Begins first
  distinct : (first.provider.map ChatMessage.key).Nodup
  ofUsers : ∀ message ∈ first.provider, message.request = none

theorem outbox_untouched (untouched : Untouched first) :
    Outbox adapters first.trace first.provider where
  unrepeated := by
    refine ⟨untouched.distinct, ?_⟩
    have none : first.provider.filterMap ChatMessage.uuid? = [] := by
      rw [List.filterMap_eq_nil_iff]
      intro message member
      rw [ChatMessage.uuid?, untouched.ofUsers message member]
      rfl
    rw [none]
    exact List.nodup_nil
  sent message member request created := by
    rw [untouched.ofUsers message member] at created
    cases created
  reported := by
    rintro session requestId messageId ⟨_, _, _, _, member, -⟩
    rw [untouched.begins.trace] at member
    cases member
  delivered earlier exchange later split := by
    rw [untouched.begins.trace] at split
    exact absurd split.symm (by simp)

/-- At every moment of every run, the messages are what the calls made them. -/
theorem Moment.outbox
    (named : ∀ provider, (adapters provider).name = provider)
    (untouched : Untouched first)
    (isMoment : Moment (larkSetting adapters pageSize foreign committable)
      deployed first moment) :
    Outbox adapters moment.trace moment.provider := by
  refine @Moment.induct _ _ _ _ (fun current =>
    Outbox adapters current.trace current.provider) isMoment ?_ ?_
    (outbox_untouched untouched)
  · intro before after step outbox
    cases step with
    | published => exact outbox
    | provider posts => exact Outbox.posts outbox posts
  · intro ready request answer answered asks answers outbox
    have provider := Answers.provider answers
    rw [Answers.trace answers]
    split_ifs at provider with isProvider
    · exact Outbox.answered outbox named provider
    · rw [provider]
      apply Outbox.calledOnly outbox
      · rintro session requestId messageId ⟨_, _, _, _, member, -⟩
        cases List.mem_singleton.mp member
        exact absurd rfl isProvider
      · intro event inside
        cases request with
        | takeEvent => exact absurd rfl isProvider
        | fetchHistoryPage => exact absurd rfl isProvider
        | _ => cases inside

section Created

variable {entries : List LogEntry} {trace : List Exchange}
  {messages : List ChatMessage} {message : ChatMessage}
  {session : Session} {requestId messageId : String}

/-- A report is the answer of a send. -/
theorem send_of_reported (reported : Reported trace session requestId messageId) :
    ∃ send ∈ sendsOf trace, send.session = session ∧
      send.requestId = requestId := by
  rcases reported with ⟨user, msgType, content, result, member, -⟩
  exact ⟨⟨session, user, msgType, content, requestId⟩,
    List.mem_filterMap.mpr ⟨_, member, rfl⟩, rfl, rfl⟩

/-- A message of the app was created for the request of its send. -/
theorem createdFor_of_sent (shared : SharedMapping deployed syncer)
    (history : SendHistory deployed entries (sendsOf trace))
    (sent : Sent adapters trace message) (created : message.request ≠ none) :
    ∃ send ∈ sendsOf trace, send.session = (message.provider, message.chatId) ∧
      message.uuid? =
          some (message.provider, stableLarkOpenapiUuid send.requestId) ∧
        ∃ task, task.requestId = send.requestId ∧
          CreatedFor syncer adapters entries task message := by
  rcases Option.ne_none_iff_exists'.mp created with ⟨request, isRequest⟩
  rcases sent request isRequest with ⟨send, member, route, text, rfl⟩
  rcases history.made shared member with
    ⟨author, task, deploys, canonical, made⟩
  rcases lookups_of_sendRoute made.route with ⟨mapped, sender⟩
  have tables := (shared author deploys).tables
  rw [tables.providerSession, route] at mapped
  rw [tables.senderExternalUserId] at sender
  refine ⟨send, member, route, by rw [ChatMessage.uuid?, isRequest]; rfl, task,
    made.requestId.symm, ?_⟩
  exact {
    canonical := by rwa [← made.requestId]
    mapped := mapped
    sender := ⟨_, sender⟩
    text := by rw [← made.msgType, text]
    request := by
      rw [isRequest, made.msgType, made.content, made.requestId] }

/-- A reported message was created for the request that was sent. -/
theorem Outbox.createdFor (outbox : Outbox adapters trace messages)
    (shared : SharedMapping deployed syncer)
    (history : SendHistory deployed entries (sendsOf trace))
    (distinguished : Distinguished (sendsOf trace))
    (reported : Reported trace session requestId messageId) :
    ∃ message ∈ messages, message.messageId = messageId ∧
      (message.provider, message.chatId) = session ∧
        ∃ task, task.requestId = requestId ∧
          CreatedFor syncer adapters entries task message := by
  rcases outbox.reported session requestId messageId reported with
    ⟨message, member, isMessage, uuid⟩
  have created : message.request ≠ none := by
    intro none
    rw [ChatMessage.uuid?, none] at uuid
    cases uuid
  rcases createdFor_of_sent shared history (outbox.sent message member)
    created with ⟨send, isSend, route, again, task, isTask, createdFor⟩
  rcases send_of_reported reported with ⟨other, isOther, rfl, rfl⟩
  have same := Option.some.inj (again.symm.trans uuid)
  have sameId := distinguished send isSend other isOther (Prod.mk.inj same).2
  cases sends_eq shared history isSend isOther sameId
  exact ⟨message, member, isMessage, route.symm, task, isTask, createdFor⟩

/-- A message with an id was created by a request. -/
theorem request_of_uuid? {uuid : String × String}
    (isUuid : message.uuid? = some uuid) : ∃ request,
      message.request = some request ∧ uuid = (message.provider, request.uuid) := by
  rcases Option.map_eq_some_iff.mp isUuid with ⟨request, created, same⟩
  exact ⟨request, created, same.symm⟩

/-- Under one mapping, a channel has one session. -/
theorem eq_of_sameChannel {left right : Session}
    (shared : SharedMapping deployed syncer)
    (same : SameChannel deployed left right) : left = right := by
  rcases same with ⟨author, other, channelId, deploys, deploysAgain, mapped,
    again⟩
  rw [(shared author deploys).tables.providerSession] at mapped
  rw [(shared other deploysAgain).tables.providerSession, mapped] at again
  exact Except.ok.inj again

/-- The server creates a message in its first send, and delivers it later. -/
theorem Outbox.createsInSends (outbox : Outbox adapters trace messages)
    (shared : SharedMapping deployed syncer)
    (distinguished : Distinguished (sendsOf trace)) :
    CreatesInSends deployed trace where
  oneRequest session right messageId requestId other same reported again := by
    cases eq_of_sameChannel shared same
    rcases outbox.reported session requestId messageId reported with
      ⟨message, member, isMessage, uuid⟩
    rcases outbox.reported session other messageId again with
      ⟨second, isThere, isSecond, otherUuid⟩
    rcases request_of_uuid? uuid with ⟨request, -, ofRequest⟩
    rcases request_of_uuid? otherUuid with ⟨repeated, -, ofRepeated⟩
    have isSame : message = second := by
      apply outbox.unrepeated.eq_of_key member isThere
      rw [ChatMessage.key, ChatMessage.key, isMessage, isSecond,
        ← (Prod.mk.inj ofRequest).1, (Prod.mk.inj ofRepeated).1]
    rw [← isSame, uuid] at otherUuid
    rcases send_of_reported reported with ⟨send, isSend, -, rfl⟩
    rcases send_of_reported again with ⟨last, isLast, -, rfl⟩
    exact distinguished send isSend last isLast
      (Prod.mk.inj (Option.some.inj otherUuid)).2
  created earlier exchange later event session requestId split inside same
      reported := by
    cases eq_of_sameChannel shared same
    rcases outbox.delivered earlier exchange later split event inside with
      ⟨message, member, ⟨ofProvider, ofSession, isMessage⟩, sent⟩
    rcases outbox.reported _ _ _ reported with
      ⟨known, isThere, isKnown, uuid⟩
    rcases request_of_uuid? uuid with ⟨request, created, ofRequest⟩
    have sameProvider : event.provider = known.provider :=
      (Prod.mk.inj ofRequest).1
    have isSame : known = message := by
      apply outbox.unrepeated.eq_of_key isThere member
      rw [ChatMessage.key, ChatMessage.key, isKnown, isMessage, ofProvider,
        sameProvider]
    rw [isSame] at created ofRequest
    rcases sent request created with ⟨send, isSend, route, -, made⟩
    refine ⟨send, isSend, by rw [route, ofProvider, ofSession], ?_⟩
    rcases send_of_reported reported with ⟨other, isOther, -, rfl⟩
    have sooner : send ∈ sendsOf trace := by
      rw [split, sendsOf_append]
      exact List.mem_append_left _ isSend
    apply distinguished send sooner other isOther
    rw [(Prod.mk.inj ofRequest).2, made]
    rfl

theorem atMostOnce_of_unrepeated (unrepeated : Unrepeated messages)
    {task : OutboundTask} {left right : ChatMessage}
    (isLeft : left ∈ messages) (isRight : right ∈ messages)
    (ofLeft : CreatedFor syncer adapters entries task left)
    (ofRight : CreatedFor syncer adapters entries task right) :
    left = right := by
  have sameSession :=
    Except.ok.inj (ofLeft.mapped.symm.trans ofRight.mapped)
  have sameProvider := (Prod.mk.inj sameSession).1
  have ofTask : left.uuid? =
      some (left.provider, stableLarkOpenapiUuid task.requestId) := by
    rw [ChatMessage.uuid?, ofLeft.request]
    rfl
  apply eq_of_nodup_filterMap unrepeated.once isLeft isRight ofTask
  rw [ChatMessage.uuid?, ofRight.request, sameProvider]
  rfl

end Created

section Worker

variable (named : ∀ provider, (adapters provider).name = provider)
  (shared : SharedMapping deployed syncer)
  (soleResults : SoleWriter (larkSetting adapters pageSize foreign committable)
    syncer.text .sendResult)
  (soleRecords : SoleWriter (larkSetting adapters pageSize foreign committable)
    syncer.text .syncRecord)
  (untouched : Untouched first)
  (isMoment : Moment (larkSetting adapters pageSize foreign committable)
    deployed first moment)
  (distinguished : Distinguished (sendsOf moment.trace))

include named shared soleResults soleRecords untouched isMoment distinguished

/-- In every run with the Lark adapters and one mapping, over any number of
crashes, a request has at most one message at the provider, an answered one has
the message that its result names, and the app has created no other messages. -/
theorem sends_exactlyOnce :
    ExactlyOnce syncer adapters moment.log.entries moment.provider := by
  have ledger := Moment.ledger (soleResults_shared shared soleResults)
    untouched.begins isMoment
  have backed := Moment.backed (fun author deploys =>
    (shared author deploys).text) soleResults soleRecords untouched.begins
    isMoment
  have outbox := Moment.outbox named untouched isMoment
  constructor
  · exact outbox.unrepeated
  · intro message member created
    rcases createdFor_of_sent shared ledger.sends (outbox.sent message member)
      created with ⟨_, -, -, -, task, -, createdFor⟩
    exact ⟨task, createdFor⟩
  · intro task left isLeft right isRight
    exact atMostOnce_of_unrepeated outbox.unrepeated isLeft isRight
  · intro entry member parsed read kind
    rcases backed.results entry member parsed read kind with
      ⟨author, sent, session, messageId, deploys, carries, reported⟩
    rcases outbox.createdFor shared ledger.sends distinguished reported with
      ⟨message, inside, isMessage, route, task, isTask, createdFor⟩
    have mapped := carries.mapped
    rw [(shared author deploys).tables.providerSession] at mapped
    refine ⟨task, reportedKey sent session messageId, message, inside,
      ⟨parsed, session, read, mapped, kind, ?_, carries.key⟩, createdFor, ?_,
      ?_⟩
    · rw [isTask]
      exact carries.resultOf.requestId
    · rw [ChatMessage.key, isMessage, reportedKey, ← route]
    · rw [reportedKey, ← route]

/-- In every run with the Lark adapters and one mapping, a record refers to the
result that names its message, which precedes it, if there is one in the log, and
to none otherwise. -/
theorem records_linkedToSends :
    ∀ record ∈ moment.log.entries, ∀ parsed identity,
      readMessage syncer.text record.message = some parsed →
      recorded? syncer.text record.message = some identity →
        RecordLinked syncer.text moment.log.entries record identity
          parsed.prevSeq := by
  have sameText : ∀ author, deployed author → author.text = syncer.text :=
    fun author deploys => (shared author deploys).text
  have associated : Associated (larkSetting adapters pageSize foreign
      committable) deployed syncer.text moment := {
    sameText, soleResults, soleRecords
    chronicle := (Moment.ledger (soleResults_shared shared soleResults)
      untouched.begins isMoment).chronicle
    backed := Moment.backed sameText soleResults soleRecords untouched.begins
      isMoment
    creates := Outbox.createsInSends (Moment.outbox named untouched isMoment)
      shared distinguished
    separate := separate_of_shared shared }
  intro record member parsed identity read records
  exact associated.recordLinked member read records

end Worker

end Runs

/-! ### A run with a crash -/

/-- The sample's adapter, under the name of each provider. -/
def sampleAdapters (provider : String) : LarkOpenAPIAdapter :=
  { sampleAdapter with name := provider }

/-- Others publish one request only. -/
abbrev chatSetting : Setting :=
  larkSetting sampleAdapters 50 (fun _ message => message = requestMessage)
    fun _ => True

/-- The message of the request. -/
def sentMessage : ChatMessage where
  provider := "lark"
  chatId := "oc1"
  messageId := "om1"
  request := some (LarkOpenAPIAdapter.createMessageRequest
    (sampleAdapters "lark") "oc1" "text" [] "r1")

/-- The request is sent by creating its message. -/
theorem hosts_chatSetting : Hosts chatSetting [] [sentMessage] where
  requested _ := rfl
  foreign _ _ := congrArg Message.payload
  committable _ := trivial
  idle messages request answer isIdle := by
    cases isIdle with
    | opened | sound | connected => rfl
    | nothing => exact ⟨rfl, fun event taken => by cases taken⟩
    | @lastPage provider sessionId startMs endMs pageToken =>
        have listed : LarkAnswers provider messages
            (.listMessages (listMessageRequest 50 sessionId startMs endMs
              pageToken))
            (.ok ⟨true, none, none, none, some ⟨[], false, none⟩⟩) messages := by
          constructor
          rintro response data ⟨⟩ ⟨⟩ item member
          cases member
        exact .call .refl listed .ret
  sends := by
    have created : LarkAnswers "lark" []
        (.createMessage (LarkOpenAPIAdapter.createMessageRequest
          (sampleAdapters "lark") "oc1" "text" [] "r1"))
        (.ok ⟨true, none, none, none, some ⟨some "om1"⟩⟩) [sentMessage] := by
      refine .create (.created (by simp) (by simp) (.inl ?_))
      exact ⟨_, rfl, rfl, rfl⟩
    exact .call .refl created .ret
  delivers := by
    refine ⟨rfl, ?_⟩
    rintro event ⟨⟩
    exact ⟨sentMessage, List.mem_singleton_self _, rfl, rfl, rfl⟩

theorem untouched_beginning :
    Untouched (beginning [] : WorldState chatSetting) where
  begins := begins_beginning
  distinct := List.nodup_nil
  ofUsers := by
    intro message member
    cases member

theorem distinguished_recordedWorld : Distinguished
    (sendsOf (recordedWorld [sentMessage] : WorldState chatSetting).trace) := by
  intro left isLeft right isRight _
  rw [sends_recordedWorld, List.mem_singleton] at isLeft isRight
  rw [isLeft, isRight]

/-- The request of the run has its message, which the result names, and the
record refers to the result. -/
theorem sends_exactlyOnce_sample :
    ExactlyOnce sampleSyncer sampleAdapters recordedLog.entries
      [sentMessage] :=
  sends_exactlyOnce (fun _ => rfl) sharedMapping_single
    (hosts_chatSetting.soleWriter (by decide))
    (hosts_chatSetting.soleWriter (by decide)) untouched_beginning
    (hosts_chatSetting.moment rfl) distinguished_recordedWorld

theorem records_linkedToSends_sample :
    recorded? sampleSyncer.text echoMessage = some (3, "om1") ∧
      reported? sampleSyncer.text resultMessage = some (3, "om1") ∧
      ∃ parsed, readMessage sampleSyncer.text echoMessage = some parsed ∧
        RecordLinked sampleSyncer.text recordedLog.entries ⟨echoMessage, true⟩
          (3, "om1") parsed.prevSeq := by
  rcases carries_echoMessage with ⟨parsed, carries⟩
  exact ⟨recorded?_echoMessage, reported?_resultMessage, parsed, carries.read,
    records_linkedToSends (fun _ => rfl) sharedMapping_single
      (hosts_chatSetting.soleWriter (by decide))
      (hosts_chatSetting.soleWriter (by decide)) untouched_beginning
      (hosts_chatSetting.moment rfl) distinguished_recordedWorld
      ⟨echoMessage, true⟩ (List.mem_of_getLast? rfl) parsed _ carries.read
      recorded?_echoMessage⟩

end OpenEventIm.Syncer.LarkDelivery
