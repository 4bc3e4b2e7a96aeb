import OpenEventIm.Foundation.Interaction
import OpenEventIm.Foundation.JsonValue
import OpenEventIm.Sdk.Errors

/-!
# Calls of the worker

Everything the worker and the SDK client ask of the outside world is a call:
the injected OpenEvent client, the provider adapters, the clock and the stop
event.  A call that can raise answers with an exception or a value; the fields
of OpenEvent messages and responses are unsigned integers, as in its protocol
buffers.
-/

namespace OpenEventIm.Service.Calls

open OpenEventIm.Foundation
open OpenEventIm.Foundation.Interaction
open OpenEventIm.Sdk.Errors

/-! ## OpenEvent -/

/-- Payloads are compared by the core instance, whatever else is imported. -/
instance payloadDecidableEq : DecidableEq ByteArray :=
  ByteArray.instDecidableEq

/-- A message of the OpenEvent log. -/
structure Message where
  seq : Nat
  channelId : Nat
  principal : Nat
  recipients : List Nat
  payload : ByteArray
deriving DecidableEq

structure StatusResponse where
  maxSeq : Nat

/-- The response of `publish_auto_seq`; `seq` is absent when it has no such
attribute. -/
structure PublishResponse where
  seq : Option Nat

structure FetchResponse where
  messages : List Message
  nextSeq : Nat
  lastSeq : Nat

/-! ## Providers -/

/-- `ProviderEvent`; its content is a Python dictionary, so keys are distinct. -/
structure ProviderEvent where
  provider : String
  sessionId : String
  providerMessageId : String
  senderExternalUserId : String
  msgType : String
  contentRaw : JsonObject
  eventMs : Int
  text : Option String
  senderIdentityType : String
  wellFormed : (Json.obj contentRaw).WellFormed

structure HistoryPage where
  events : List ProviderEvent
  nextPageToken : Option String

structure SendResult where
  success : Bool
  providerMessageId : Option String
  errorCode : Option String
  errorMessage : Option String

/-! ## The signature -/

inductive Call where
  | getStatus (principal : Nat) (token : String)
  | publishAutoSeq (principal : Nat) (token : String) (channelId : Nat)
      (payload : ByteArray) (recipients : List Nat)
  | fetch (principal : Nat) (token : String) (fromSeq limit : Nat)
      (onlyMyRecipient : Bool) (channels : List Nat)
  /-- `int(time.time() * 1000)`. -/
  | currentTimeMs
  /-- `stop_event.is_set()`. -/
  | stopIsSet
  /-- `stop_event.wait(...)`, in milliseconds. -/
  | stopWait (timeoutMs : Nat)
  | startEventStream (provider : String) (sessionIds : List String)
  | stopEventStream (provider : String)
  | eventStreamError (provider : String)
  | eventStreamGeneration (provider : String)
  | takeEvent (provider : String)
  | fetchHistoryPage (provider sessionId : String) (startMs endMs : Int)
      (pageToken : Option String)
  | sendMessage (provider sessionId senderExternalUserId msgType : String)
      (content : JsonObject) (requestId : String)

/-- What a call answers; `Except` where it can raise. -/
@[reducible]
def Answer : Call → Type
  | .getStatus .. => Except PyError StatusResponse
  | .publishAutoSeq .. => Except PyError PublishResponse
  | .fetch .. => Except PyError FetchResponse
  | .currentTimeMs => Int
  | .stopIsSet => Bool
  | .stopWait _ => Bool
  | .startEventStream .. => Except PyError Unit
  | .stopEventStream _ => Except PyError Unit
  | .eventStreamError _ => Except PyError (Option PyError)
  | .eventStreamGeneration _ => Except PyError Nat
  | .takeEvent _ => Except PyError (Option ProviderEvent)
  | .fetchHistoryPage .. => Except PyError HistoryPage
  | .sendMessage .. => Except PyError SendResult

/-- The call goes to a provider adapter. -/
def Call.isProvider : Call → Bool
  | .startEventStream .. => true
  | .stopEventStream _ => true
  | .eventStreamError _ => true
  | .eventStreamGeneration _ => true
  | .takeEvent _ => true
  | .fetchHistoryPage .. => true
  | .sendMessage .. => true
  | _ => false

/-- A call together with the answer it got. -/
structure Exchange where
  request : Call
  answer : Answer request

@[reducible]
def service : Signature where
  Call := Call
  Answer := Answer

/-- A program of the worker, raising Python exceptions. -/
abbrev Action (Result : Type) := Program service PyError Result

/-- Raise the exception of a failed computation. -/
def Action.ofExcept {Result : Type} :
    Except PyError Result → Action Result
  | .ok result => .ret result
  | .error error => .fail error

@[simp]
theorem Action.ofExcept_ok {Result : Type} (result : Result) :
    Action.ofExcept (.ok result) = .ret result := rfl

@[simp]
theorem Action.ofExcept_error {Result : Type} (error : PyError) :
    (Action.ofExcept (.error error) : Action Result) = .fail error := rfl

/-! ## Calls that raise -/

def getStatus (principal : Nat) (token : String) : Action StatusResponse :=
  .call (.getStatus principal token) Action.ofExcept

def publishAutoSeq (principal : Nat) (token : String) (channelId : Nat)
    (payload : ByteArray) (recipients : List Nat) : Action PublishResponse :=
  .call (.publishAutoSeq principal token channelId payload recipients)
    Action.ofExcept

/-- `fetch` with the arguments that every caller gives. -/
def fetch (principal : Nat) (token : String) (fromSeq : Nat)
    (channels : List Nat) : Action FetchResponse :=
  .call (.fetch principal token fromSeq 1000 false channels) Action.ofExcept

def currentTimeMs : Action Int := .call .currentTimeMs .ret

def stopIsSet : Action Bool := .call .stopIsSet .ret

def stopWait (timeoutMs : Nat) : Action Bool :=
  .call (.stopWait timeoutMs) .ret

def startEventStream (provider : String) (sessionIds : List String) :
    Action Unit :=
  .call (.startEventStream provider sessionIds) Action.ofExcept

def stopEventStream (provider : String) : Action Unit :=
  .call (.stopEventStream provider) Action.ofExcept

def eventStreamError (provider : String) : Action (Option PyError) :=
  .call (.eventStreamError provider) Action.ofExcept

def eventStreamGeneration (provider : String) : Action Nat :=
  .call (.eventStreamGeneration provider) Action.ofExcept

def takeEvent (provider : String) : Action (Option ProviderEvent) :=
  .call (.takeEvent provider) Action.ofExcept

def fetchHistoryPage (provider sessionId : String) (startMs endMs : Int)
    (pageToken : Option String) : Action HistoryPage :=
  .call (.fetchHistoryPage provider sessionId startMs endMs pageToken)
    Action.ofExcept

def sendMessage (provider sessionId senderExternalUserId msgType : String)
    (content : JsonObject) (requestId : String) : Action SendResult :=
  .call (.sendMessage provider sessionId senderExternalUserId msgType content
    requestId) Action.ofExcept

end OpenEventIm.Service.Calls
