import OpenEventIm.Foundation.Sha256
import OpenEventIm.Syncer.LarkMessages

/-!
# Calls of the Lark adapter

`send_message` and `fetch_history_page` of `LarkOpenAPIAdapter` as programs over
the two calls of the Lark API they make.  Sending never raises: every failure
becomes a result.  Fetching raises, and tells temporary failures from permanent
ones.
-/

namespace OpenEventIm.Syncer.LarkCalls

open OpenEventIm.Foundation
open OpenEventIm.Foundation.Interaction
open OpenEventIm.Sdk.Errors
open OpenEventIm.Service.Calls
open OpenEventIm.Syncer.LarkMessages

/-! ## The API -/

/-- `CreateMessageRequest` with its body. -/
structure CreateMessageRequest where
  receiveIdType : String
  receiveId : String
  msgType : String
  content : String
  uuid : String
deriving DecidableEq

/-- A response, as far as the adapter reads it; `success` is what its method
says, `statusCode` is absent without a raw response. -/
structure LarkResponse (Data : Type) where
  success : Bool
  code : Option Int
  msg : Option String
  statusCode : Option Int
  data : Option Data

/-- The data of a response to a create request. -/
structure CreateMessageData where
  messageId : Option String

/-- An exception of the client; `connection` tells whether it is a
`ConnectionError` or `Timeout` of the requests library. -/
structure ClientError where
  error : PyError
  connection : Bool

inductive LarkCall where
  | createMessage (request : CreateMessageRequest)
  | listMessages (request : ListMessageRequest)

@[reducible]
def LarkAnswer : LarkCall → Type
  | .createMessage _ => Except ClientError (LarkResponse CreateMessageData)
  | .listMessages _ => Except ClientError (LarkResponse ListMessageData)

@[reducible]
def larkApi : Signature where
  Call := LarkCall
  Answer := LarkAnswer

/-- A program of the adapter. -/
abbrev LarkAction (Result : Type) := Program larkApi PyError Result

/-! ## Ids -/

/-- `stable_lark_openapi_uuid`. -/
def stableLarkOpenapiUuid (requestId : String) : String :=
  "oe-" ++ String.ofList
    ((Sha256.hexdigest requestId.toUTF8.data.toList).take 47)

/-- The id fits the fifty characters that the API takes. -/
theorem length_stableLarkOpenapiUuid (requestId : String) :
    (stableLarkOpenapiUuid requestId).length = 50 := by
  have digits : (String.ofList ((Sha256.hexdigest
      requestId.toUTF8.data.toList).take 47)).length = 47 := by
    rw [String.length_ofList, List.length_take, Sha256.length_hexdigest]
    rfl
  rw [stableLarkOpenapiUuid, String.length_append, digits]
  rfl

/-! ## Sending -/

/-- `str(...)` of an attribute that may be `None`. -/
def strOf {Value : Type} [ToString Value] : Option Value → String
  | none => "None"
  | some value => toString value

def sendFailure (code message : String) : SendResult where
  success := false
  providerMessageId := none
  errorCode := some code
  errorMessage := some message

/-- `_LARK_RETRYABLE_CODES`. -/
def larkRetryableCodes : List Int := [99991402, 11020, 11021]

/-- `_is_retryable_lark_response`; a code that is no integer counts as zero. -/
def isRetryableLarkResponse {Data : Type} (response : LarkResponse Data) :
    Bool :=
  let statusCode := response.statusCode.getD 0
  response.code.getD 0 ∈ larkRetryableCodes ||
    statusCode = 429 || (500 ≤ statusCode && statusCode < 600)

namespace LarkOpenAPIAdapter

variable (adapter : LarkOpenAPIAdapter)

/-- The request that `send_message` builds. -/
def createMessageRequest (sessionId msgType : String) (content : JsonObject)
    (requestId : String) : CreateMessageRequest where
  receiveIdType := "chat_id"
  receiveId := sessionId
  msgType := msgType
  content := adapter.text.dumps (.obj content)
  uuid := stableLarkOpenapiUuid requestId

/-- What `send_message` makes of a response. -/
def readCreateResponse (response : LarkResponse CreateMessageData) :
    SendResult :=
  if !response.success then
    sendFailure (strOf response.code) (strOf response.msg)
  else
    match present (response.data.bind CreateMessageData.messageId) with
    | none => sendFailure "MISSING_MESSAGE_ID"
        s!"{adapter.name} response missing message_id"
    | some messageId =>
        { success := true
          providerMessageId := some messageId
          errorCode := none
          errorMessage := none }

/-- `send_message`. -/
def sendMessage (sessionId _senderExternalUserId msgType : String)
    (content : JsonObject) (requestId : String) : LarkAction SendResult :=
  if msgType ≠ "text" then
    return sendFailure "UNSUPPORTED_MSG_TYPE"
      s!"unsupported msg_type: {msgType}"
  else
    .call (.createMessage (createMessageRequest adapter sessionId msgType
        content requestId)) fun answer =>
      match answer with
      | .error exc => return sendFailure exc.error.cls.name exc.error.message
      | .ok response => return readCreateResponse adapter response

/-! ## Fetching -/

/-- `fetch_history_page`; `pageSize` is `sync.page_size`. -/
def fetchHistoryPage (pageSize : Nat) (sessionId : String)
    (startMs endMs : Int) (pageToken : Option String) :
    LarkAction HistoryPage :=
  .call (.listMessages (listMessageRequest pageSize sessionId startMs endMs
      pageToken)) fun answer =>
    match answer with
    | .error exc =>
        if exc.connection then
          throw (.raisedFrom .transientProviderError
            s!"{adapter.name} list messages temporarily failed" exc.error)
        else
          throw exc.error
    | .ok response =>
        if !response.success then
          let error := s!"{adapter.name} list messages failed: {strOf response.code} {strOf response.msg}"
          if isRetryableLarkResponse response then
            throw (.raised .transientProviderError error)
          else
            throw (.raised .permanentProviderError error)
        else
          match response.data with
          | none => throw (dataError
              s!"{adapter.name} list messages response missing data")
          | some data =>
              match adapter.readHistoryPage sessionId data with
              | .ok page => return page
              | .error exc => throw exc

end LarkOpenAPIAdapter

end OpenEventIm.Syncer.LarkCalls
