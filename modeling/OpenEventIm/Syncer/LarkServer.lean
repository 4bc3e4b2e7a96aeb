import OpenEventIm.Syncer.Config
import OpenEventIm.Syncer.EventProvenance
import OpenEventIm.Syncer.LarkCalls
import OpenEventIm.Syncer.LarkSenderRules
import OpenEventIm.Syncer.WorkerLedger

/-!
# The Lark server

A server that honours the id of a create request: it creates no second message
for an id it knows, and answers with the first one.  A create may be refused,
and its answer may be lost.  What the server delivers are messages that exist.

The adapters stand between the worker and the server: what a call of the worker
changes at the server is what the adapter's program does.
-/

namespace OpenEventIm.Syncer.LarkServer

open OpenEventIm.Foundation
open OpenEventIm.Foundation.Interaction
open OpenEventIm.Sdk.Errors
open OpenEventIm.Service.Calls
open OpenEventIm.Service.World
open OpenEventIm.Syncer.Processor.SingleThreadProcessor
open OpenEventIm.Syncer.LarkMessages
open OpenEventIm.Syncer.LarkSenderRules
open OpenEventIm.Syncer.LarkCalls

/-! ## The server -/

/-- A message at a provider; `request` is what it was created by, absent for the
messages of users. -/
structure ChatMessage where
  provider : String
  chatId : String
  messageId : String
  request : Option CreateMessageRequest

namespace ChatMessage

/-- What identifies a message. -/
def key (message : ChatMessage) : String × String :=
  (message.provider, message.messageId)

/-- The id of the request that created a message, at its provider. -/
def uuid? (message : ChatMessage) : Option (String × String) :=
  message.request.map fun request => (message.provider, request.uuid)

end ChatMessage

/-- The response reports the message. -/
def Reports (answer : Except ClientError (LarkResponse CreateMessageData))
    (messageId : String) : Prop :=
  ∃ response, answer = .ok response ∧ response.success = true ∧
    response.data.bind CreateMessageData.messageId = some messageId

theorem Reports.unique
    {answer : Except ClientError (LarkResponse CreateMessageData)}
    {left right : String} (isLeft : Reports answer left)
    (isRight : Reports answer right) : left = right := by
  rcases isLeft with ⟨response, rfl, -, found⟩
  rcases isRight with ⟨_, ⟨⟩, -, again⟩
  exact Option.some.inj (found.symm.trans again)

/-- The response reports no message. -/
def Silent (answer : Except ClientError (LarkResponse CreateMessageData)) :
    Prop :=
  ∀ messageId, messageId ≠ "" → ¬Reports answer messageId

/-- How the server answers a create request. -/
inductive CreateAnswers (provider : String) (before : List ChatMessage)
    (request : CreateMessageRequest) :
    Except ClientError (LarkResponse CreateMessageData) →
      List ChatMessage → Prop where
  | silent {answer} (silent : Silent answer) :
      CreateAnswers provider before request answer before
  | repeated {answer} {message : ChatMessage} (known : message ∈ before)
      (same : message.uuid? = some (provider, request.uuid))
      (reports : Reports answer message.messageId) :
      CreateAnswers provider before request answer before
  | created {answer} {messageId : String}
      (unknown : (provider, request.uuid) ∉
        before.filterMap ChatMessage.uuid?)
      (fresh : (provider, messageId) ∉ before.map ChatMessage.key)
      (replied : Reports answer messageId ∨ Silent answer) :
      CreateAnswers provider before request answer (before ++
        [{ provider, chatId := request.receiveId, messageId
           request := some request }])

/-- An item of a page is a message of its chat. -/
def Listed (provider : String) (messages : List ChatMessage)
    (item : HistoryItem) : Prop :=
  ∀ chatId messageId, item.chatId = some chatId →
    item.messageId = some messageId → ∃ message ∈ messages,
      message.provider = provider ∧ message.chatId = chatId ∧
        message.messageId = messageId

/-- A user posts a message. -/
inductive UserPosts (before : List ChatMessage) : List ChatMessage → Prop where
  | post {provider chatId messageId : String}
      (fresh : (provider, messageId) ∉ before.map ChatMessage.key) :
      UserPosts before
        (before ++ [{ provider, chatId, messageId, request := none }])

/-- How the server answers the calls of an adapter. -/
inductive LarkAnswers (provider : String) (before : List ChatMessage) :
    (request : LarkCall) → LarkAnswer request → List ChatMessage → Prop where
  | create {request answer after}
      (answers : CreateAnswers provider before request answer after) :
      LarkAnswers provider before (.createMessage request) answer after
  | list {request : ListMessageRequest}
      {answer : Except ClientError (LarkResponse ListMessageData)}
      (listed : ∀ response data, answer = .ok response →
        response.data = some data →
          ∀ item ∈ data.items, Listed provider before item) :
      LarkAnswers provider before (.listMessages request) answer before

/-- The server as an adapter of the provider sees it. -/
@[reducible]
def larkServer (provider : String) : Environment larkApi where
  State := List ChatMessage
  Interferes := UserPosts
  Answers := LarkAnswers provider

/-- An event is of a message. -/
def IsOf (message : ChatMessage) (event : ProviderEvent) : Prop :=
  message.provider = event.provider ∧ message.chatId = event.sessionId ∧
    message.messageId = event.providerMessageId

/-- The adapters in front of the server.  What an adapter takes from its
subscription is a message that exists. -/
def AdapterAnswers (adapters : String → LarkOpenAPIAdapter) (pageSize : Nat)
    (before : List ChatMessage) :
    (request : Call) → Answer request → List ChatMessage → Prop
  | .sendMessage provider sessionId user msgType content requestId, answer,
      after =>
      Runs (larkServer provider) before
        (LarkOpenAPIAdapter.sendMessage (adapters provider) sessionId user
          msgType content requestId) after answer
  | .fetchHistoryPage provider sessionId startMs endMs pageToken, answer,
      after =>
      Runs (larkServer provider) before
        (LarkOpenAPIAdapter.fetchHistoryPage (adapters provider) pageSize
          sessionId startMs endMs pageToken) after answer
  | .takeEvent _, answer, after =>
      after = before ∧ ∀ event, answer = .ok (some event) →
        ∃ message ∈ before, IsOf message event
  | _, _, after => after = before

@[reducible]
def larkProvider (adapters : String → LarkOpenAPIAdapter) (pageSize : Nat) :
    ProviderBehaviour where
  State := List ChatMessage
  Steps := UserPosts
  Answers := AdapterAnswers adapters pageSize

/-- A setting with the Lark adapters. -/
@[reducible]
def larkSetting (adapters : String → LarkOpenAPIAdapter) (pageSize : Nat)
    (foreign : Log → Message → Prop) (committable : Message → Prop) :
    Setting where
  provider := larkProvider adapters pageSize
  foreign := foreign
  committable := committable

/-! ## What a call changes at the server -/

section Calls

variable {provider : String} {before after : List ChatMessage}
  {adapter : LarkOpenAPIAdapter}

theorem present_eq_some_iff {value : Option String} {text : String} :
    present value = some text ↔ value = some text ∧ text ≠ "" := by
  rw [present, Option.filter_eq_some_iff, decide_eq_true_eq]

/-- What the adapter makes of a response names what the response reports. -/
theorem reports_of_sentMessageId
    {response : LarkResponse CreateMessageData} {messageId : String}
    (named : sentMessageId
      (LarkOpenAPIAdapter.readCreateResponse adapter response) =
        some messageId) : messageId ≠ "" ∧ Reports (.ok response) messageId := by
  rw [LarkOpenAPIAdapter.readCreateResponse] at named
  cases success : response.success with
  | false =>
      rw [success] at named
      cases named
  | true =>
      rw [success] at named
      cases found : present
          (response.data.bind CreateMessageData.messageId) with
      | none =>
          rw [found] at named
          cases named
      | some reported =>
          have reports := (present_eq_some_iff.mp found).1
          rw [found] at named
          have same : reported = messageId ∧ messageId ≠ "" := by
            simpa [sentMessageId] using named
          rcases same with ⟨rfl, usable⟩
          exact ⟨usable, response, rfl, success, reports⟩

/-- Users post any number of messages. -/
abbrev UsersPost (before after : List ChatMessage) : Prop :=
  Relation.ReflTransGen UserPosts before after

/-- What a send does: nothing, or one create request among posts of users. -/
inductive SendEffect (provider : String) (before : List ChatMessage)
    (request : CreateMessageRequest) (result : SendResult) :
    List ChatMessage → Prop where
  | refused (silent : sentMessageId result = none) :
      SendEffect provider before request result before
  | asked {ready after answer} (text : request.msgType = "text")
      (posts : UsersPost before ready)
      (answers : CreateAnswers provider ready request answer after)
      (names : ∀ messageId, sentMessageId result = some messageId →
        messageId ≠ "" ∧ Reports answer messageId) :
      SendEffect provider before request result after

/-- A send never raises. -/
theorem runs_sendMessage {sessionId user msgType requestId : String}
    {content : JsonObject} {outcome : Except PyError SendResult}
    (run : Runs (larkServer provider) before
      (LarkOpenAPIAdapter.sendMessage adapter sessionId user msgType content
        requestId) after outcome) :
    ∃ result, outcome = .ok result ∧
      SendEffect provider before
        (LarkOpenAPIAdapter.createMessageRequest adapter sessionId msgType
          content requestId) result after := by
  rw [LarkOpenAPIAdapter.sendMessage] at run
  split_ifs at run with isText
  · rcases runs_ret.mp run with ⟨rfl, rfl⟩
    exact ⟨_, rfl, .refused rfl⟩
  · rcases runs_call run with ⟨ready, answer, answered, posts, answers, rest⟩
    have text : msgType = "text" := not_not.mp isText
    cases answers with
    | create answers =>
        cases answer with
        | error exc =>
            rcases runs_ret.mp rest with ⟨rfl, rfl⟩
            exact ⟨_, rfl, .asked text posts answers nofun⟩
        | ok response =>
            rcases runs_ret.mp rest with ⟨rfl, rfl⟩
            exact ⟨_, rfl, .asked text posts answers
              fun _ => reports_of_sentMessageId⟩

/-- An event of the history is the message of its item. -/
theorem event_of_historyEvent {sessionId : String} {item : HistoryItem}
    {event : ProviderEvent}
    (read : adapter.historyEvent sessionId item = .ok event) :
    event.provider = adapter.name ∧ event.sessionId = sessionId ∧
      item.chatId = some sessionId ∧
        item.messageId = some event.providerMessageId := by
  rw [LarkMessages.LarkOpenAPIAdapter.historyEvent] at read
  split_ifs at read with malformed another
  cases built : adapter.messageToEvent sessionId item with
  | none =>
      rw [built] at read
      cases read
  | some made =>
      rw [built] at read
      cases read
      simp only [LarkMessages.LarkOpenAPIAdapter.messageToEvent,
        Option.bind_eq_bind, Option.bind_eq_some_iff] at built
      rcases built with ⟨type, -, _, -, _, -, user, -, built⟩
      generalize (if type = "user" then "open_id" else "app_id") = idType
        at built
      split_ifs at built
      rcases buildProviderEvent_eq_some_iff.mp built with
        ⟨id, _, _, _, hasId, -, -, -, -, rfl⟩
      exact ⟨rfl, rfl, not_not.mp another, (present_eq_some_iff.mp hasId).1⟩

/-- Every event of a page comes from an item. -/
theorem item_of_readHistoryPage {sessionId : String} {data : ListMessageData}
    {page : HistoryPage} {event : ProviderEvent}
    (read : adapter.readHistoryPage sessionId data = .ok page)
    (member : event ∈ page.events) :
    ∃ item ∈ data.items, adapter.historyEvent sessionId item = .ok event := by
  rcases Checked.bind_eq_ok_iff.mp read with ⟨events, mapped, rest⟩
  have same : page.events = events := by
    split_ifs at rest
    · cases token : present data.pageToken with
      | none =>
          rw [token] at rest
          cases rest
      | some found =>
          rw [token] at rest
          cases rest
          rfl
    · cases rest
      rfl
  rw [same] at member
  exact Config.exists_of_mem_mapM mapped member

/-- Fetching creates no message, and its events are of messages that exist. -/
theorem runs_fetchHistoryPage {pageSize : Nat} {sessionId : String}
    {startMs endMs : Int} {pageToken : Option String}
    {outcome : Except PyError HistoryPage} (named : adapter.name = provider)
    (run : Runs (larkServer provider) before
      (LarkOpenAPIAdapter.fetchHistoryPage adapter pageSize sessionId startMs
        endMs pageToken) after outcome) :
    UsersPost before after ∧ ∀ page, outcome = .ok page →
      ∀ event ∈ page.events, ∃ message ∈ after, IsOf message event := by
  rcases runs_call run with ⟨ready, answer, answered, posts, answers, rest⟩
  cases answers with
  | list listed =>
      cases answer with
      | error exc =>
          dsimp only at rest
          split_ifs at rest <;> rcases runs_fail.mp rest with ⟨rfl, rfl⟩ <;>
            exact ⟨posts, nofun⟩
      | ok response =>
          dsimp only at rest
          split_ifs at rest
          · rcases runs_fail.mp rest with ⟨rfl, rfl⟩
            exact ⟨posts, nofun⟩
          · rcases runs_fail.mp rest with ⟨rfl, rfl⟩
            exact ⟨posts, nofun⟩
          · cases data : response.data with
            | none =>
                rw [data] at rest
                rcases runs_fail.mp rest with ⟨rfl, rfl⟩
                exact ⟨posts, nofun⟩
            | some found =>
                rw [data] at rest
                cases read : adapter.readHistoryPage sessionId found with
                | error exc =>
                    simp only [read] at rest
                    rcases runs_fail.mp rest with ⟨rfl, rfl⟩
                    exact ⟨posts, nofun⟩
                | ok page =>
                    simp only [read] at rest
                    rcases runs_ret.mp rest with ⟨rfl, rfl⟩
                    refine ⟨posts, ?_⟩
                    rintro _ ⟨⟩ event member
                    rcases item_of_readHistoryPage read member with
                      ⟨item, inside, made⟩
                    rcases event_of_historyEvent made with
                      ⟨ofProvider, ofSession, chat, id⟩
                    rcases listed response found rfl data item inside _ _ chat
                      id with ⟨message, isThere, atProvider, inChat, isMessage⟩
                    exact ⟨message, isThere,
                      atProvider.trans (named.symm.trans ofProvider.symm),
                      inChat.trans ofSession.symm, isMessage⟩

end Calls

end OpenEventIm.Syncer.LarkServer
