import OpenEventIm.Syncer.LarkMessages

/-!
# Sender rules of the history and the subscription

One Lark message is presented as an item of the history and as an event of the
subscription.  The history takes an app's id from the message, the subscription
takes the configured one, so the two agree on a message of an app only when it
is the configured app.
-/

namespace OpenEventIm.Syncer.LarkSenderRules

open OpenEventIm.Foundation
open OpenEventIm.Foundation.IntegerReading
open OpenEventIm.Sdk.Errors
open OpenEventIm.Service.Calls
open OpenEventIm.Syncer.LarkMessages
open OpenEventIm.Syncer.LarkMessages.LarkOpenAPIAdapter

/-! ## One message in two presentations -/

/-- A message of a chat, sent by a user or an app. -/
structure LarkMessage where
  chatId : String
  messageId : Option String
  msgType : Option String
  createTime : Json
  content : AnyValue
  senderType : Option String
  /-- The id of the user, when a user has sent it. -/
  openId : Option String
  /-- The id of the app, when an app has sent it. -/
  appId : Option String

/-- The identity type of the sender. -/
def LarkMessage.identityType (message : LarkMessage) : Option String :=
  normalizeLarkOpenapiSenderType message.senderType

/-- The message as an event: the sender's ids do not contain the app's id. -/
def LarkMessage.asEvent (message : LarkMessage) : MessageEvent where
  message := some {
    messageId := message.messageId
    messageType := message.msgType
    createTime := message.createTime
    chatId := some message.chatId
    content := message.content }
  sender := some {
    openId := message.openId
    senderType := message.senderType }

/-- The message as an item: a user is given by its open id, an app by its id. -/
def LarkMessage.asItem (message : LarkMessage) : HistoryItem where
  messageId := message.messageId
  msgType := message.msgType
  createTime := message.createTime
  chatId := some message.chatId
  sender := some {
    id := if message.identityType = some "user" then message.openId
      else message.appId
    idType := some (if message.identityType = some "user" then "open_id"
      else "app_id")
    senderType := message.senderType }
  bodyContent := some message.content

variable {adapter : LarkOpenAPIAdapter} {message : LarkMessage}
  {event : ProviderEvent}

/-- `_handle_message_event` accepts the message and enqueues the event. -/
def SubscriptionGives (adapter : LarkOpenAPIAdapter) (message : LarkMessage)
    (event : ProviderEvent) : Prop :=
  adapter.handleMessageEvent message.asEvent =
    .ok { adapter with events := adapter.events ++ [event] }

/-- `fetch_history_page` accepts the message and returns the event. -/
def HistoryGives (adapter : LarkOpenAPIAdapter) (message : LarkMessage)
    (event : ProviderEvent) : Prop :=
  adapter.readHistoryPage message.chatId
      { items := [message.asItem], hasMore := false, pageToken := none } =
    .ok ⟨[event], none⟩

/-- Both accept the message or neither does, and they give the same event. -/
structure NormalizedAlike (adapter : LarkOpenAPIAdapter)
    (message : LarkMessage) : Prop where
  accepted : (∃ event, SubscriptionGives adapter message event) ↔
    ∃ event, HistoryGives adapter message event
  same : ∀ first second, SubscriptionGives adapter message first →
    HistoryGives adapter message second → first = second

/-- The id, the type and the time of the message are usable. -/
structure Complete (message : LarkMessage) : Prop where
  messageId : (present message.messageId).isSome = true
  msgType : (present message.msgType).isSome = true
  createTime : ∃ eventMs, intOf message.createTime = some eventMs ∧ 0 ≤ eventMs

/-! ## The builder -/

theorem wellFormed_parseContentRaw (adapter : LarkOpenAPIAdapter)
    (rawContent : AnyValue) :
    (Json.obj (adapter.parseContentRaw rawContent).1).WellFormed :=
  (adapter.parseContentRaw rawContent).2

/-- The event that the builder makes of usable fields. -/
def builtEvent (adapter : LarkOpenAPIAdapter) (sessionId : String)
    (messageId msgType senderExternalUserId : String) (eventMs : Int)
    (senderIdentityType : String) (rawContent : AnyValue) :
    ProviderEvent where
  provider := adapter.name
  sessionId := sessionId
  providerMessageId := messageId
  senderExternalUserId := senderExternalUserId
  msgType := msgType
  contentRaw := (adapter.parseContentRaw rawContent).1
  eventMs := eventMs
  text := (Items.get? "text" (adapter.parseContentRaw rawContent).1).bind
    Json.str?
  senderIdentityType := senderIdentityType
  wellFormed := wellFormed_parseContentRaw adapter rawContent

theorem buildProviderEvent_eq_some_iff {sessionId senderIdentityType : String}
    {messageId msgType senderExternalUserId : Option String}
    {createTime : Json} {rawContent : AnyValue} :
    adapter.buildProviderEvent sessionId messageId msgType createTime
        senderExternalUserId senderIdentityType rawContent = some event ↔
      ∃ id type user eventMs, present messageId = some id ∧
        present msgType = some type ∧
        present senderExternalUserId = some user ∧
        intOf createTime = some eventMs ∧ 0 ≤ eventMs ∧
        event = builtEvent adapter sessionId id type user eventMs
          senderIdentityType rawContent := by
  simp only [buildProviderEvent, Option.bind_eq_bind, Option.bind_eq_some_iff]
  constructor
  · rintro ⟨id, hasId, type, hasType, user, hasUser, eventMs, hasTime, built⟩
    split_ifs at built with negative
    cases built
    exact ⟨id, type, user, eventMs, hasId, hasType, hasUser, hasTime,
      Int.not_lt.mp negative, rfl⟩
  · rintro ⟨id, type, user, eventMs, hasId, hasType, hasUser, hasTime, positive,
      rfl⟩
    refine ⟨id, hasId, type, hasType, user, hasUser, eventMs, hasTime, ?_⟩
    rw [if_neg (Int.not_lt.mpr positive)]
    rfl

/-- The builder with the sender's id as the last field that is missing. -/
def builtFor (adapter : LarkOpenAPIAdapter) (message : LarkMessage)
    (userId botId : Option String) : Option ProviderEvent :=
  message.identityType.bind fun identityType =>
    adapter.buildProviderEvent message.chatId message.messageId message.msgType
      message.createTime
      (if identityType = "user" then userId else botId) identityType
      message.content

/-- The subscription uses the configured app id. -/
theorem subscriptionGives_iff (mapped : message.chatId ∈ adapter.allowedSessions)
    (room : adapter.events.length < adapter.eventQueueSize) :
    SubscriptionGives adapter message event ↔
      builtFor adapter message message.openId (some adapter.appId) =
        some event := by
  have chat : present (some message.chatId) = some message.chatId := by
    rw [present, Option.filter_eq_some_iff]
    refine ⟨rfl, decide_eq_true ?_⟩
    intro empty
    rw [empty] at mapped
    exact adapter.sessionsNonempty mapped
  have reads : adapter.eventMessageToEvent message.chatId
      ⟨message.messageId, message.msgType, message.createTime,
        some message.chatId, message.content⟩ message.asEvent.sender =
        builtFor adapter message message.openId (some adapter.appId) := rfl
  rw [SubscriptionGives, handleMessageEvent]
  simp only [LarkMessage.asEvent] at reads ⊢
  rw [chat]
  simp only [not_not.mpr mapped, if_false, reads]
  cases builtFor adapter message message.openId (some adapter.appId) with
  | none => exact iff_of_false nofun nofun
  | some given =>
      simp only [if_pos room, Except.ok.injEq, Option.some.injEq,
        LarkOpenAPIAdapter.mk.injEq, List.append_cancel_left_eq,
        List.cons.injEq, and_true, true_and]

/-- The builder itself refuses what the history refuses before it. -/
theorem messageToEvent_asItem :
    adapter.messageToEvent message.chatId message.asItem =
      builtFor adapter message message.openId message.appId := by
  have field : message.asItem.sender.bind HistorySender.id =
      if message.identityType = some "user" then message.openId
        else message.appId := rfl
  rw [messageToEvent, builtFor]
  show (normalizeLarkOpenapiSenderType message.senderType >>= _) = _
  cases identity : message.identityType with
  | none =>
      rw [LarkMessage.identityType] at identity
      rw [identity]
      rfl
  | some identityType =>
      have known := identity
      rw [LarkMessage.identityType] at known
      rw [known]
      simp only [Option.bind_eq_bind, Option.bind_some, field, identity,
        Option.some.injEq]
      ext event
      simp only [Option.bind_eq_some_iff]
      constructor
      · rintro ⟨id, hasId, type, hasType, user, hasUser, built⟩
        by_cases refused : isNone message.asItem.createTime = true ∨
            message.asItem.sender.bind HistorySender.idType ≠
              some (if identityType = "user" then "open_id" else "app_id")
        · rw [if_pos refused] at built
          cases built
        rw [if_neg refused] at built
        rcases buildProviderEvent_eq_some_iff.mp built with
          ⟨_, _, same, eventMs, hasId, hasType, isUser, hasTime, positive, rfl⟩
        have notEmpty := (Option.filter_eq_some_iff.mp isUser).1
        cases notEmpty
        exact buildProviderEvent_eq_some_iff.mpr ⟨_, _, _, eventMs, hasId,
          hasType, hasUser, hasTime, positive, rfl⟩
      · intro built
        rcases buildProviderEvent_eq_some_iff.mp built with
          ⟨id, type, user, eventMs, hasId, hasType, hasUser, hasTime, positive,
            rfl⟩
        refine ⟨id, hasId, type, hasType, user, hasUser, ?_⟩
        have given : isNone message.asItem.createTime = false := by
          show isNone message.createTime = false
          cases time : message.createTime with
          | null =>
              rw [time] at hasTime
              cases hasTime
          | _ => rfl
        have expected : message.asItem.sender.bind HistorySender.idType =
            some (if identityType = "user" then "open_id" else "app_id") := by
          show some (if message.identityType = some "user" then _ else _) = _
          rw [identity]
          simp only [Option.some.injEq]
        rw [if_neg]
        · refine buildProviderEvent_eq_some_iff.mpr ⟨id, type, user, eventMs,
            hasId, hasType, ?_, hasTime, positive, rfl⟩
          rw [present, Option.filter_eq_some_iff] at hasUser ⊢
          exact ⟨rfl, hasUser.2⟩
        · rintro (isNull | different)
          · rw [given] at isNull
            cases isNull
          · exact different expected

/-- The history uses the app id of the message. -/
theorem historyGives_iff :
    HistoryGives adapter message event ↔
      builtFor adapter message message.openId message.appId = some event := by
  have sender : message.asItem.sender.bind HistorySender.senderType =
      message.senderType := rfl
  have item : adapter.historyEvent message.chatId message.asItem =
      .ok event ↔
        builtFor adapter message message.openId message.appId =
          some event := by
    rw [historyEvent, sender, messageToEvent_asItem]
    by_cases unknown : message.identityType = none
    · rw [builtFor, unknown]
      rw [LarkMessage.identityType] at unknown
      rw [if_pos unknown]
      exact iff_of_false nofun nofun
    · rw [LarkMessage.identityType] at unknown
      have sameChat : message.asItem.chatId = some message.chatId := rfl
      rw [if_neg unknown, if_neg (not_not.mpr sameChat)]
      cases builtFor adapter message message.openId message.appId with
      | none => exact iff_of_false nofun nofun
      | some given => simp only [Except.ok.injEq, Option.some.injEq]
  rw [HistoryGives, readHistoryPage, ← item]
  simp only [List.mapM_cons, List.mapM_nil]
  cases adapter.historyEvent message.chatId message.asItem with
  | error => exact iff_of_false nofun nofun
  | ok given =>
      constructor
      · intro same
        cases same
        rfl
      · intro same
        cases same
        rfl

/-! ## Agreement -/

/-- A bot's message that is usable otherwise comes from the configured app. -/
def FromConfiguredApp (adapter : LarkOpenAPIAdapter) (message : LarkMessage) :
    Prop :=
  message.identityType = some "bot" → Complete message →
    message.appId = some adapter.appId

theorem identityType_cases (message : LarkMessage) :
    message.identityType = none ∨ message.identityType = some "bot" ∨
      message.identityType = some "user" := by
  rw [LarkMessage.identityType, normalizeLarkOpenapiSenderType]
  split
  · exact Or.inr (Or.inl rfl)
  · exact Or.inr (Or.inl rfl)
  · exact Or.inr (Or.inr rfl)
  · exact Or.inl rfl

/-- What the builder makes of a bot's message. -/
theorem builtFor_bot {userId botId : Option String}
    (isBot : message.identityType = some "bot") :
    builtFor adapter message userId botId = some event ↔
      ∃ id type user eventMs, present message.messageId = some id ∧
        present message.msgType = some type ∧ present botId = some user ∧
        intOf message.createTime = some eventMs ∧ 0 ≤ eventMs ∧
        event = builtEvent adapter message.chatId id type user eventMs "bot"
          message.content := by
  rw [builtFor, isBot, Option.bind_some, if_neg (by decide)]
  exact buildProviderEvent_eq_some_iff

theorem present_appId (adapter : LarkOpenAPIAdapter) :
    present (some adapter.appId) = some adapter.appId :=
  Option.filter_eq_some_iff.mpr ⟨rfl, decide_eq_true adapter.appIdNonempty⟩

/-- When the two agree on a usable message of a bot, it is the configured one. -/
theorem fromConfiguredApp_of_alike
    (mapped : message.chatId ∈ adapter.allowedSessions)
    (room : adapter.events.length < adapter.eventQueueSize)
    (alike : NormalizedAlike adapter message) :
    FromConfiguredApp adapter message := by
  intro isBot complete
  rcases Option.isSome_iff_exists.mp complete.messageId with ⟨id, hasId⟩
  rcases Option.isSome_iff_exists.mp complete.msgType with ⟨type, hasType⟩
  rcases complete.createTime with ⟨eventMs, hasTime, positive⟩
  have built : builtFor adapter message message.openId (some adapter.appId) =
      some (builtEvent adapter message.chatId id type adapter.appId eventMs
        "bot" message.content) :=
    (builtFor_bot isBot).mpr ⟨id, type, adapter.appId, eventMs, hasId, hasType,
      present_appId adapter, hasTime, positive, rfl⟩
  have given := (subscriptionGives_iff mapped room).mpr built
  rcases alike.accepted.mp ⟨_, given⟩ with ⟨event, found⟩
  have same := alike.same _ _ given found
  rcases (builtFor_bot isBot).mp (historyGives_iff.mp found) with
    ⟨_, _, user, _, -, -, hasUser, -, -, rfl⟩
  have equal : adapter.appId = user :=
    congrArg ProviderEvent.senderExternalUserId same
  rw [equal]
  exact (Option.filter_eq_some_iff.mp hasUser).1

/-- With the configured app's id the two builders are one. -/
theorem builtFor_of_configuredApp
    (configured : FromConfiguredApp adapter message) :
    builtFor adapter message message.openId (some adapter.appId) =
      builtFor adapter message message.openId message.appId := by
  rcases identityType_cases message with unknown | isBot | isUser
  · rw [builtFor, builtFor, unknown]
    rfl
  · by_cases complete : Complete message
    · rw [configured isBot complete]
    · have refused : ∀ botId,
          builtFor adapter message message.openId botId = none := by
        intro botId
        apply Option.eq_none_iff_forall_ne_some.mpr
        intro event built
        rcases (builtFor_bot isBot).mp built with
          ⟨id, type, user, eventMs, hasId, hasType, -, hasTime, positive, -⟩
        exact complete ⟨by rw [hasId]; rfl, by rw [hasType]; rfl,
          ⟨eventMs, hasTime, positive⟩⟩
      rw [refused, refused]
  · rw [builtFor, builtFor, isUser]
    rfl

/--
For every message of a mapped chat: the subscription and the history normalise
it alike if and only if it does not come from a bot, or it is unusable anyway,
or it comes from the configured app.
-/
theorem normalizedAlike_iff (mapped : message.chatId ∈ adapter.allowedSessions)
    (room : adapter.events.length < adapter.eventQueueSize) :
    NormalizedAlike adapter message ↔ FromConfiguredApp adapter message := by
  constructor
  · exact fromConfiguredApp_of_alike mapped room
  · intro configured
    have equal := builtFor_of_configuredApp configured
    constructor
    · simp only [subscriptionGives_iff mapped room, historyGives_iff, equal]
    · intro first second isFirst isSecond
      rw [subscriptionGives_iff mapped room, equal] at isFirst
      rw [historyGives_iff, isFirst] at isSecond
      exact Option.some.inj isSecond

/-- An adapter with one mapped chat. -/
def sampleAdapter : LarkOpenAPIAdapter where
  text := JsonText.compact
  name := "lark"
  appId := "cli_xxx"
  eventQueueSize := 8
  allowedSessions := ["oc1"]
  events := []
  appIdNonempty := by decide
  sessionsNonempty := by decide

/-- A text that an app has sent to the chat. -/
def appMessage (appId : String) : LarkMessage where
  chatId := "oc1"
  messageId := some "om1"
  msgType := some "text"
  createTime := .int 100
  content := ⟨.str "hello", trivial⟩
  senderType := some "app"
  openId := none
  appId := some appId

/-- A message of the configured app. -/
theorem normalizedAlike_iff_sample :
    NormalizedAlike sampleAdapter (appMessage "cli_xxx") :=
  (normalizedAlike_iff (List.mem_singleton_self _) (by decide)).mpr
    fun _ _ => rfl

/-- A message of another app gets two different senders. -/
theorem otherApp_normalizedDifferently :
    (appMessage "cli_other").chatId ∈ sampleAdapter.allowedSessions ∧
      ¬NormalizedAlike sampleAdapter (appMessage "cli_other") := by
  refine ⟨List.mem_singleton_self _, fun alike => ?_⟩
  have configured := fromConfiguredApp_of_alike (List.mem_singleton_self _)
    (by decide) alike
  have complete : Complete (appMessage "cli_other") :=
    ⟨rfl, rfl, 100, rfl, by decide⟩
  have isBot : (appMessage "cli_other").identityType = some "bot" := by decide
  have same := configured isBot complete
  revert same
  decide

end OpenEventIm.Syncer.LarkSenderRules
