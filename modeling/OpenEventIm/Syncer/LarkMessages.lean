import OpenEventIm.Foundation.IntegerReading
import OpenEventIm.Foundation.JsonText
import OpenEventIm.Service.Calls

/-!
# Lark messages

The two ways in which `LarkOpenAPIAdapter` reads a message: an item of a page of
the history, and an event of the subscription.  Both take their fields from
differently named attributes and share one builder of provider events.

An attribute that is missing reads as `None`, as does one of a missing object.
-/

namespace OpenEventIm.Syncer.LarkMessages

open OpenEventIm.Foundation
open OpenEventIm.Foundation.IntegerReading
open OpenEventIm.Sdk.Errors
open OpenEventIm.Service.Calls

/-! ## Data model -/

/-- A value of any type; its objects have distinct keys. -/
abbrev AnyValue := { value : Json // value.WellFormed }

structure HistorySender where
  id : Option String
  idType : Option String
  senderType : Option String

structure HistoryItem where
  messageId : Option String
  msgType : Option String
  createTime : Json
  chatId : Option String
  sender : Option HistorySender
  /-- `body.content`, unless there is no body. -/
  bodyContent : Option AnyValue

/-- The data of a response of the history, once it has succeeded. -/
structure ListMessageData where
  items : List HistoryItem
  hasMore : Bool
  pageToken : Option String

structure EventSender where
  /-- `sender_id.open_id`. -/
  openId : Option String
  senderType : Option String

structure EventMessage where
  messageId : Option String
  messageType : Option String
  createTime : Json
  chatId : Option String
  content : AnyValue

/-- The `event` of a received message event. -/
structure MessageEvent where
  message : Option EventMessage
  sender : Option EventSender

/-- The adapter's data; the configuration has no empty app id and no empty
session id. -/
structure LarkOpenAPIAdapter where
  text : JsonText
  name : String
  /-- `credentials["app_id"]`. -/
  appId : String
  eventQueueSize : Nat
  allowedSessions : List String
  events : List ProviderEvent
  appIdNonempty : appId ≠ ""
  sessionsNonempty : "" ∉ allowedSessions

def dataError (message : String) : PyError :=
  .raised .providerDataError message

/-- A string that is neither missing nor empty. -/
def present (value : Option String) : Option String := value.filter (· ≠ "")

/-- `value is None`. -/
def isNone : Json → Bool
  | .null => true
  | _ => false

/-- `lower` on the ASCII letters. -/
def lower (text : String) : String :=
  String.ofList (text.toList.map Char.toLower)

/-- `_normalize_lark_openapi_sender_type`.  No other character than an ASCII
letter becomes one of the letters compared with when it is put in lower case. -/
def normalizeLarkOpenapiSenderType (value : Option String) : Option String :=
  match value.map lower with
  | some "app" => some "bot"
  | some "bot" => some "bot"
  | some "user" => some "user"
  | _ => none

/-- An object with one field. -/
def contentObject (value : AnyValue) :
    { fields : JsonObject // (Json.obj fields).WellFormed } :=
  ⟨[("content", value.1)], by
    simp [Json.wellFormed_obj_iff, value.2]⟩

/-! ## History queries -/

/-- `ListMessageRequest`. -/
structure ListMessageRequest where
  containerIdType : String
  containerId : String
  startTime : Int
  endTime : Int
  sortType : String
  pageSize : Nat
  pageToken : Option String

/-- The request that `fetch_history_page` builds, in whole seconds; `pageSize` is
`sync.page_size`. -/
def listMessageRequest (pageSize : Nat) (sessionId : String)
    (startMs endMs : Int) (pageToken : Option String) :
    ListMessageRequest where
  containerIdType := "chat"
  containerId := sessionId
  startTime := startMs / 1000
  endTime := max ((endMs + 999) / 1000) (startMs / 1000 + 1)
  sortType := "ByCreateTimeAsc"
  pageSize := pageSize
  pageToken := present pageToken

namespace LarkOpenAPIAdapter

variable (adapter : LarkOpenAPIAdapter)

/-! ## The shared builder -/

/-- `_parse_content_raw`. -/
def parseContentRaw (rawContent : AnyValue) :
    { fields : JsonObject // (Json.obj fields).WellFormed } :=
  match rawContent with
  | ⟨.obj fields, wellFormed⟩ => ⟨fields, wellFormed⟩
  | ⟨.str text, wellFormed⟩ =>
      match loaded : adapter.text.loads text with
      | none => contentObject ⟨.str text, wellFormed⟩
      | some (.obj fields) =>
          ⟨fields, adapter.text.loads_wellFormed _ _ loaded⟩
      | some value =>
          contentObject ⟨value, adapter.text.loads_wellFormed _ _ loaded⟩
  | value => contentObject value

/-- `_build_provider_event`; a missing creation time is no integer. -/
def buildProviderEvent (sessionId : String)
    (messageId msgType : Option String) (createTime : Json)
    (senderExternalUserId : Option String) (senderIdentityType : String)
    (rawContent : AnyValue) : Option ProviderEvent := do
  let messageId ← present messageId
  let msgType ← present msgType
  let senderExternalUserId ← present senderExternalUserId
  let eventMs ← intOf createTime
  if eventMs < 0 then
    none
  else
    let contentRaw := adapter.parseContentRaw rawContent
    return {
      provider := adapter.name
      sessionId := sessionId
      providerMessageId := messageId
      senderExternalUserId := senderExternalUserId
      msgType := msgType
      contentRaw := contentRaw.1
      eventMs := eventMs
      text := (Items.get? "text" contentRaw.1).bind Json.str?
      senderIdentityType := senderIdentityType
      wellFormed := contentRaw.2 }

/-! ## The history -/

/-- `_message_to_event`. -/
def messageToEvent (sessionId : String) (item : HistoryItem) :
    Option ProviderEvent := do
  let senderIdentityType ← normalizeLarkOpenapiSenderType
    (item.sender.bind HistorySender.senderType)
  let _ ← present item.messageId
  let _ ← present item.msgType
  let senderExternalUserId ← present (item.sender.bind HistorySender.id)
  let expectedIdType :=
    if senderIdentityType = "user" then "open_id" else "app_id"
  if isNone item.createTime ∨
      item.sender.bind HistorySender.idType ≠ some expectedIdType then
    none
  else
    adapter.buildProviderEvent sessionId item.messageId item.msgType
      item.createTime (some senderExternalUserId) senderIdentityType
      (item.bodyContent.getD ⟨.null, trivial⟩)

/-- The loop body of `fetch_history_page` over the items. -/
def historyEvent (sessionId : String) (item : HistoryItem) :
    Except PyError ProviderEvent :=
  if normalizeLarkOpenapiSenderType
      (item.sender.bind HistorySender.senderType) = none then
    .error (dataError
      s!"{adapter.name} list messages returned a malformed sender")
  else if item.chatId ≠ some sessionId then
    .error (dataError
      s!"{adapter.name} list messages returned an item for another chat")
  else
    match adapter.messageToEvent sessionId item with
    | none => .error (dataError
        s!"{adapter.name} list messages returned a malformed item")
    | some event => .ok event

/-- `fetch_history_page`, once its response has data. -/
def readHistoryPage (sessionId : String) (data : ListMessageData) :
    Except PyError HistoryPage := do
  let events ← data.items.mapM (adapter.historyEvent sessionId)
  if data.hasMore then
    match present data.pageToken with
    | none => .error (dataError
        s!"{adapter.name} list messages returned has_more without page_token")
    | some token => return ⟨events, some token⟩
  else
    return ⟨events, none⟩

/-! ## The subscription -/

/-- `_event_message_to_event`. -/
def eventMessageToEvent (sessionId : String) (message : EventMessage)
    (sender : Option EventSender) : Option ProviderEvent := do
  let senderIdentityType ← normalizeLarkOpenapiSenderType
    (sender.bind EventSender.senderType)
  adapter.buildProviderEvent sessionId message.messageId message.messageType
    message.createTime
    (if senderIdentityType = "user" then sender.bind EventSender.openId
      else some adapter.appId)
    senderIdentityType message.content

/-- `_handle_message_event`. -/
def handleMessageEvent (data : MessageEvent) :
    Except PyError LarkOpenAPIAdapter :=
  match data.message with
  | none => .error (dataError
      s!"{adapter.name} received a message event without chat_id")
  | some message =>
      match present message.chatId with
      | none => .error (dataError
          s!"{adapter.name} received a message event without chat_id")
      | some sessionId =>
          if sessionId ∉ adapter.allowedSessions then
            .ok adapter
          else
            match adapter.eventMessageToEvent sessionId message
                data.sender with
            | none => .error (dataError
                s!"{adapter.name} received a malformed message event")
            | some event =>
                if adapter.events.length < adapter.eventQueueSize then
                  .ok { adapter with events := adapter.events ++ [event] }
                else
                  .error (.raised .runtimeError
                    s!"{adapter.name} message event queue is full")

end LarkOpenAPIAdapter

end OpenEventIm.Syncer.LarkMessages
